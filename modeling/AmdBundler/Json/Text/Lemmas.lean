import AmdBundler.Json.Text
import AmdBundler.Text.Utf8.Lemmas

namespace AmdBundler.Json

/-- A byte that stands for itself inside a string. -/
def isPlain (b : UInt8) : Bool :=
  b ≠ 0x22 && b ≠ 0x5C && 0x20 ≤ b

theorem not_special_of_isPlain {b : UInt8} (h : isPlain b = true) :
    Char.ofUInt8 b ≠ '"' ∧ Char.ofUInt8 b ≠ '\\' ∧ ¬b < 0x20 := by
  have check : ∀ n < 256, isPlain (UInt8.ofNat n) = true →
      Char.ofUInt8 (UInt8.ofNat n) ≠ '"' ∧ Char.ofUInt8 (UInt8.ofNat n) ≠ '\\' ∧
        ¬UInt8.ofNat n < 0x20 := by decide +kernel
  have := check b.toNat b.toNat_lt
  rw [UInt8.ofNat_toNat] at this
  exact this h

theorem gatherText_plain {b : UInt8} (h : isPlain b = true) (gathered : List UInt8) (offset : Nat)
    (rest : List UInt8) :
    gatherText gathered 0 offset (b :: rest) = gatherText (b :: gathered) 0 (offset + 1) rest := by
  obtain ⟨quote, backslash, control⟩ := not_special_of_isPlain h
  rw [gatherText, if_neg quote, if_neg backslash, if_neg control]

theorem gatherText_plain_append {bytes : List UInt8} (h : ∀ b ∈ bytes, isPlain b = true)
    (gathered : List UInt8) (offset : Nat) (rest : List UInt8) :
    gatherText gathered 0 offset (bytes ++ rest) =
      gatherText (bytes.reverse ++ gathered) 0 (offset + bytes.length) rest := by
  induction bytes generalizing gathered offset with
  | nil => rfl
  | cons b bytes ih =>
    rw [List.cons_append, gatherText_plain (h b List.mem_cons_self),
      ih fun b m => h b (List.mem_cons_of_mem _ m)]
    simp [Nat.add_assoc, Nat.add_comm 1]

theorem gatherText_skip (passed : List UInt8) (gathered : List UInt8) (offset : Nat)
    (rest : List UInt8) :
    gatherText gathered passed.length offset (passed ++ rest) =
      gatherText gathered 0 (offset + passed.length) rest := by
  induction passed generalizing offset with
  | nil => rfl
  | cons b passed ih =>
    rw [List.cons_append, List.length_cons, gatherText, ih]
    simp [Nat.add_assoc, Nat.add_comm 1]

theorem isPlain_toUInt8 {n : Nat} (small : n < 256) (control : 0x20 ≤ n) (quote : n ≠ 0x22)
    (backslash : n ≠ 0x5C) : isPlain n.toUInt8 = true := by
  have check : ∀ n < 256, 0x20 ≤ n → n ≠ 0x22 → n ≠ 0x5C → isPlain n.toUInt8 = true := by
    decide +kernel
  exact check n small control quote backslash

theorem isPlain_of_mem_encodeChar {c : Char} (quote : c ≠ '"') (backslash : c ≠ '\\')
    (control : ¬c.toNat < 0x20) {b : UInt8} (member : b ∈ Utf8.encodeChar c) :
    isPlain b = true := by
  have notQuote : c.toNat ≠ 0x22 := fun e => quote (Char.toNat_inj.mp e)
  have notBackslash : c.toNat ≠ 0x5C := fun e => backslash (Char.toNat_inj.mp e)
  have valid : c.toNat < 0x110000 := by
    have : c.toNat < 0xD800 ∨ 0xDFFF < c.toNat ∧ c.toNat < 0x110000 := c.valid
    omega
  simp only [Utf8.encodeChar] at member
  split at member
  · rw [List.mem_singleton.mp member]
    exact isPlain_toUInt8 (by omega) (by omega) notQuote notBackslash
  · split at member
    · simp only [List.mem_cons, List.not_mem_nil, or_false] at member
      rcases member with rfl | rfl <;>
        exact isPlain_toUInt8 (by omega) (by omega) (by omega) (by omega)
    · split at member
      · simp only [List.mem_cons, List.not_mem_nil, or_false] at member
        rcases member with rfl | rfl | rfl <;>
          exact isPlain_toUInt8 (by omega) (by omega) (by omega) (by omega)
      · simp only [List.mem_cons, List.not_mem_nil, or_false] at member
        rcases member with rfl | rfl | rfl | rfl <;>
          exact isPlain_toUInt8 (by omega) (by omega) (by omega) (by omega)

theorem readUnit_append {used unit : Nat} {text : List UInt8} (h : readUnit used text = .ok unit)
    (rest : List UInt8) :
    readUnit used (text ++ rest) = .ok unit ∧ (text ++ rest).drop 4 = text.drop 4 ++ rest := by
  match text with
  | a :: b :: c :: d :: text => exact ⟨h, rfl⟩
  | [] | [_] | [_, _] | [_, _, _] => cases h

theorem readLowSurrogate_append {high : Nat} {text : List UInt8} {read : Char × Nat}
    (h : readLowSurrogate high text = .ok read) (rest : List UInt8) :
    readLowSurrogate high (text ++ rest) = .ok read := by
  match text with
  | [] => cases h
  | b :: text =>
    simp only [List.cons_append, readLowSurrogate] at h ⊢
    split at h
    · cases h
    · rename_i backslash
      rw [if_neg backslash]
      match text with
      | [] => cases h
      | u :: text =>
        simp only [List.cons_append] at h ⊢
        split at h
        · cases h
        · rename_i letter
          rw [if_neg letter]
          cases unit : readUnit 7 text with
          | error e =>
            rw [unit] at h
            cases h
          | ok low =>
            rw [unit] at h
            rw [(readUnit_append unit rest).1]
            exact h

/-- What is an escape does not hang on what follows it. -/
theorem readEscape_append {text : List UInt8} {read : Char × Nat}
    (h : readEscape text = .ok read) (rest : List UInt8) :
    readEscape (text ++ rest) = .ok read := by
  match text with
  | [] => cases h
  | b :: text =>
    rw [List.cons_append, readEscape]
    rw [readEscape] at h
    split at h
    · exact h
    · split at h
      · cases h
      · rename_i unicode
        rw [if_neg unicode]
        cases unit : readUnit 1 text with
        | error e =>
          rw [unit] at h
          cases h
        | ok n =>
          obtain ⟨again, drop⟩ := readUnit_append unit rest
          rw [unit] at h
          rw [again, drop]
          simp only at h ⊢
          split at h
          · cases h
          · rename_i low
            rw [if_neg low]
            split at h
            · rename_i high
              rw [if_pos high]
              exact readLowSurrogate_append h rest
            · rename_i high
              rw [if_neg high]
              exact h

/-- A character that is written as an escape is read from it. -/
theorem readEscape_escapeChar {c : Char} (special : c = '"' ∨ c = '\\' ∨ c.toNat < 0x20) :
    ∃ tail, Utf8.encode (escapeChar c) = 0x5C :: tail ∧ readEscape tail = .ok (c, tail.length) := by
  have check : ∀ n < 0x80, n = 0x22 ∨ n = 0x5C ∨ n < 0x20 →
      (Utf8.encode (escapeChar (Char.ofNat n))).head? = some 0x5C ∧
        (readEscape (Utf8.encode (escapeChar (Char.ofNat n))).tail).toOption =
          some (Char.ofNat n, (Utf8.encode (escapeChar (Char.ofNat n))).tail.length) := by
    decide +kernel
  have ascii : c.toNat < 0x80 ∧ (c.toNat = 0x22 ∨ c.toNat = 0x5C ∨ c.toNat < 0x20) := by
    rcases special with rfl | rfl | control
    · decide
    · decide
    · exact ⟨by omega, .inr (.inr control)⟩
  obtain ⟨head, read⟩ := check c.toNat ascii.1 ascii.2
  rw [Char.ofNat_toNat] at head read
  generalize Utf8.encode (escapeChar c) = text at head read
  cases text with
  | nil => cases head
  | cons b tail =>
    cases head
    rw [List.tail_cons] at read
    cases found : readEscape tail with
    | error e =>
      rw [found] at read
      cases read
    | ok result =>
      rw [found] at read
      cases read
      exact ⟨tail, rfl, found⟩

theorem gatherText_escapeChar (c : Char) (gathered : List UInt8) (offset : Nat)
    (rest : List UInt8) :
    gatherText gathered 0 offset (Utf8.encode (escapeChar c) ++ rest) =
      gatherText ((Utf8.encodeChar c).reverse ++ gathered) 0
        (offset + (Utf8.encode (escapeChar c)).length) rest := by
  by_cases special : c = '"' ∨ c = '\\' ∨ c.toNat < 0x20
  · obtain ⟨tail, written, read⟩ := readEscape_escapeChar special
    rw [written, List.cons_append, gatherText, if_neg (by decide), if_pos (by decide),
      readEscape_append read rest]
    simp only
    rw [gatherText_skip, List.length_cons, Nat.add_assoc, Nat.add_comm 1]
  · simp only [not_or] at special
    obtain ⟨quote, backslash, control⟩ := special
    have plain : escapeChar c = [c] := by
      simp [escapeChar, quote, backslash, control]
    have encoded : Utf8.encode [c] = Utf8.encodeChar c := by
      simp [Utf8.encode]
    rw [plain, encoded]
    exact gatherText_plain_append
      (fun b m => isPlain_of_mem_encodeChar quote backslash control m) gathered offset rest

theorem gatherText_escaped (text : List Char) (gathered : List UInt8) (offset : Nat)
    (rest : List UInt8) :
    gatherText gathered 0 offset (Utf8.encode (text.flatMap escapeChar) ++ 0x22 :: rest) =
      .ok (gathered.reverse ++ Utf8.encode text,
        ⟨offset + (Utf8.encode (text.flatMap escapeChar)).length + 1, rest⟩) := by
  induction text generalizing gathered offset with
  | nil =>
    rw [List.flatMap_nil, Utf8.encode, List.flatMap_nil, List.nil_append, gatherText,
      if_pos (by decide), List.append_nil]
    rfl
  | cons c text ih =>
    have parts (f : Char → List Char) : Utf8.encode ((c :: text).flatMap f) =
        Utf8.encode (f c) ++ Utf8.encode (text.flatMap f) := by
      simp [Utf8.encode]
    rw [parts, List.append_assoc, gatherText_escapeChar, ih]
    simp [Utf8.encode, Nat.add_assoc]

/-- A string that was written is read back, whatever follows it. -/
theorem readText_written (text : String) (offset : Nat) (rest : List UInt8) :
    readText ⟨offset, Utf8.encode (text.toList.flatMap escapeChar ++ ['"']) ++ rest⟩ =
      .ok (text, ⟨offset + (Utf8.encode (text.toList.flatMap escapeChar)).length + 1, rest⟩) := by
  have quote : Utf8.encode (text.toList.flatMap escapeChar ++ ['"']) ++ rest =
      Utf8.encode (text.toList.flatMap escapeChar) ++ 0x22 :: rest := by
    simp only [Utf8.encode, List.flatMap_append, List.flatMap_singleton, List.append_assoc]
    rfl
  rw [readText, quote, gatherText_escaped]
  simp [Utf8.decode?_encode]

end AmdBundler.Json
