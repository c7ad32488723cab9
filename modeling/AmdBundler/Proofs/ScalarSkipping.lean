import AmdBundler.Proofs.ReaderExtension
import AmdBundler.Proofs.RecordRoundTrip

namespace AmdBundler.Json

def digits (ds : List (Fin 10)) : List Char :=
  ds.map fun d => Nat.digitChar d.val

structure Exponent where
  capital : Bool
  /-- Whether a sign is written, and whether it is a plus. -/
  plus? : Option Bool
  first : Fin 10
  others : List (Fin 10)

/-- A number as it is written. It has no fraction if there are no digits for one. -/
structure Numeral where
  negative : Bool
  whole : Nat
  fraction : List (Fin 10)
  exponent? : Option Exponent

def Exponent.sign (e : Exponent) : List Char :=
  match e.plus? with
  | none => []
  | some true => ['+']
  | some false => ['-']

def Exponent.write (e : Exponent) : List Char :=
  (if e.capital then 'E' else 'e') :: (e.sign ++ digits (e.first :: e.others))

namespace Numeral

def fractionText (n : Numeral) : List Char :=
  if n.fraction = [] then [] else '.' :: digits n.fraction

def exponentText (n : Numeral) : List Char :=
  match n.exponent? with
  | none => []
  | some e => e.write

def unsigned (n : Numeral) : List Char :=
  Nat.toDigits 10 n.whole ++ (n.fractionText ++ n.exponentText)

def write (n : Numeral) : List Char :=
  if n.negative then '-' :: n.unsigned else n.unsigned

end Numeral

def NoDigit (rest : List UInt8) : Prop :=
  ∀ b, rest.head? = some b → isDigit b = false

theorem noDigit_cons {c : Char} (ascii : c.toNat < 0x80) (other : isDigit c.toNat.toUInt8 = false)
    (text : List Char) (rest : List UInt8) : NoDigit (Utf8.encode (c :: text) ++ rest) := by
  intro b found
  rw [Utf8.encode_cons, Utf8.encodeChar_of_ascii ascii] at found
  cases found
  exact other

theorem isDigit_of_mem_digits {ds : List (Fin 10)} {c : Char} (member : c ∈ digits ds) :
    c.isDigit = true := by
  obtain ⟨d, -, rfl⟩ := List.mem_map.mp member
  clear member
  revert d
  decide

theorem skipWhile_digits {text : List Char} (all : ∀ c ∈ text, c.isDigit = true) (offset : Nat)
    {rest : List UInt8} (stop : NoDigit rest) :
    (Cursor.before text offset rest).skipWhile isDigit = ⟨offset + text.length, rest⟩ := by
  have bytes : ∀ b ∈ Utf8.encode text, isDigit b = true := by
    rw [Codec.encode_digits all]
    intro b member
    obtain ⟨c, inside, rfl⟩ := List.mem_map.mp member
    exact (Codec.isDigit_byte (all c inside)).2.1
  have taken := Codec.takeWhile_digits bytes stop
  have left := List.takeWhile_append_dropWhile (p := isDigit) (l := Utf8.encode text ++ rest)
  rw [taken, List.append_right_inj] at left
  rw [Cursor.skipWhile, Cursor.before, taken, left, Codec.encode_digits all, List.length_map]

theorem skipExponent_written (e : Exponent) (offset : Nat) {rest : List UInt8}
    (stop : NoDigit rest) :
    ∃ after, skipExponent (.before e.write offset rest) = .ok ⟨after, rest⟩ := by
  have all : ∀ c ∈ digits (e.first :: e.others), c.isDigit = true := fun c => isDigit_of_mem_digits
  have cut : digits (e.first :: e.others) = Nat.digitChar e.first.val :: digits e.others := rfl
  have letter : (if e.capital then 'E' else 'e').toNat < 0x80 := by cases e.capital <;> decide
  rw [skipExponent, Exponent.write, cut, Cursor.advance_before letter]
  rw [cut] at all
  generalize Nat.digitChar e.first.val = c, digits e.others = text at all
  have digit := all c List.mem_cons_self
  obtain ⟨ascii, byte, -⟩ := Codec.isDigit_byte digit
  have passed (start : Nat) := skipWhile_digits all start stop
  have here (start : Nat) : (Cursor.before (c :: text) start rest).rest = _ :=
    Cursor.rest_before_cons ascii
  cases signed : e.plus? with
  | none =>
    have plus : c ≠ '+' := by rintro rfl; cases digit
    have minus : c ≠ '-' := by rintro rfl; cases digit
    simp [Exponent.sign, signed, Cursor.peek?_before ascii, plus, minus, here, byte, passed]
  | some plus =>
    cases plus <;>
      simp [Exponent.sign, signed, Cursor.peek?_before, Cursor.advance_before, here, byte, passed]

theorem noDigit_exponent (n : Numeral) {rest : List UInt8} (delimited : Delimited rest) :
    NoDigit (Utf8.encode n.exponentText ++ rest) := by
  rw [Numeral.exponentText]
  split
  · exact fun b => Codec.not_digit_of_delimited delimited
  · rename_i e _
    cases capital : e.capital <;> simp only [Exponent.write, capital] <;>
      exact noDigit_cons (by decide) (by decide) _ rest

/-- At the end of a number there is an exponent to be passed over, or there is none. -/
theorem exponent_or_end (n : Numeral) (offset : Nat) {rest : List UInt8}
    (delimited : Delimited rest) {c : Cursor} (place : c = .before n.exponentText offset rest) :
    ∃ after, (c.peek? = some 'e' ∨ c.peek? = some 'E') ∧ skipExponent c = .ok ⟨after, rest⟩ ∨
      (∀ found, c.peek? = some found → found ≠ '.' ∧ found ≠ 'e' ∧ found ≠ 'E') ∧
        c = ⟨after, rest⟩ := by
  subst place
  rw [Numeral.exponentText]
  split
  · exact ⟨offset, .inr ⟨fun found => Codec.peek?_delimited delimited, rfl⟩⟩
  · rename_i e _
    obtain ⟨after, skipped⟩ :=
      skipExponent_written e offset fun b => Codec.not_digit_of_delimited delimited
    refine ⟨after, .inl ⟨?_, skipped⟩⟩
    rw [Exponent.write]
    cases e.capital with
    | false => exact .inl (Cursor.peek?_before (by decide))
    | true => exact .inr (Cursor.peek?_before (by decide))

theorem skipNumberTail_written (n : Numeral) (offset : Nat) {rest : List UInt8}
    (delimited : Delimited rest) : ∃ after,
      skipNumberTail (.before (n.fractionText ++ n.exponentText) offset rest) =
        .ok ⟨after, rest⟩ := by
  rw [Numeral.fractionText]
  split
  · rw [List.nil_append]
    generalize place : Cursor.before n.exponentText offset rest = c
    obtain ⟨after, ⟨mark | mark, skipped⟩ | ⟨ends, rfl⟩⟩ :=
      exponent_or_end n offset delimited place.symm
    · exact ⟨after, by simp only [skipNumberTail, mark, skipped]⟩
    · exact ⟨after, by simp only [skipNumberTail, mark, skipped]⟩
    · refine ⟨after, ?_⟩
      unfold skipNumberTail
      split
      · exact absurd rfl (ends _ ‹_›).1
      · exact absurd rfl (ends _ ‹_›).2.1
      · exact absurd rfl (ends _ ‹_›).2.2
      · rfl
  · rename_i fraction
    have all : ∀ c ∈ digits n.fraction, c.isDigit = true := fun c => isDigit_of_mem_digits
    have passed := skipWhile_digits all (offset + 1) (noDigit_exponent n delimited)
    have filled : (digits n.fraction).length ≠ 0 := by simpa [digits] using fraction
    have point : (Cursor.before ('.' :: digits n.fraction ++ n.exponentText) offset rest).peek? =
        some '.' := Cursor.peek?_before (by decide)
    have start :
        (Cursor.before ('.' :: digits n.fraction ++ n.exponentText) offset rest).advance 1 =
          .before (digits n.fraction) (offset + 1) (Utf8.encode n.exponentText ++ rest) := by
      rw [List.cons_append, Cursor.advance_before (by decide), Cursor.before_append]
    rw [skipNumberTail, point]
    simp only [start, passed]
    rw [if_neg (by simpa [Cursor.before] using filled)]
    generalize place : Cursor.mk _ (Utf8.encode n.exponentText ++ rest) = c
    obtain ⟨after, ⟨mark | mark, skipped⟩ | ⟨ends, rfl⟩⟩ := exponent_or_end n _ delimited place.symm
    · exact ⟨after, by simp only [mark, skipped]⟩
    · exact ⟨after, by simp only [mark, skipped]⟩
    · refine ⟨after, ?_⟩
      split
      · exact absurd rfl (ends _ ‹_›).2.1
      · exact absurd rfl (ends _ ‹_›).2.2
      · rfl

theorem noDigit_tail (n : Numeral) {rest : List UInt8} (delimited : Delimited rest) :
    NoDigit (Utf8.encode (n.fractionText ++ n.exponentText) ++ rest) := by
  rw [Numeral.fractionText]
  split
  · exact noDigit_exponent n delimited
  · exact noDigit_cons (by decide) (by decide) _ rest

theorem skipNumber_written (n : Numeral) (offset : Nat) {rest : List UInt8}
    (delimited : Delimited rest) :
    ∃ after, skipNumber (.before n.unsigned offset rest) = .ok ⟨after, rest⟩ := by
  have stop := noDigit_tail n delimited
  rw [Numeral.unsigned, Cursor.before_append]
  by_cases zero : n.whole = 0
  · obtain ⟨after, skipped⟩ := skipNumberTail_written n (offset + 1) delimited
    refine ⟨after, ?_⟩
    have alone : (Utf8.encode (n.fractionText ++ n.exponentText) ++ rest).head?.any isDigit =
        false := by
      cases head : (Utf8.encode (n.fractionText ++ n.exponentText) ++ rest).head? with
      | none => rfl
      | some b => exact stop b head
    rw [zero, Nat.toDigits_zero, skipNumber, Cursor.rest_before_cons (by decide),
      Cursor.advance_before (by decide)]
    exact (if_pos rfl).trans ((if_neg (Bool.not_eq_true _ ▸ alone)).trans skipped)
  · -- No other number starts with a zero, so its digits are passed over as a whole.
    have all (c : Char) (member : c ∈ Nat.toDigits 10 n.whole) : c.isDigit = true :=
      Nat.isDigit_of_mem_toDigits (by decide) (by decide) member
    have passed := skipWhile_digits all offset stop
    obtain ⟨c, text, written, digit, apart⟩ := Codec.toDigits_of_ne_zero zero
    rw [written] at passed ⊢
    obtain ⟨ascii, byte, -⟩ := Codec.isDigit_byte digit
    obtain ⟨after, skipped⟩ :=
      skipNumberTail_written n (offset + (c :: text).length) delimited
    refine ⟨after, ?_⟩
    rw [skipNumber, Cursor.rest_before_cons ascii]
    simp only
    rw [if_neg apart, if_pos byte, passed]
    exact skipped

/-- A code unit is four digits, wherever it stands. -/
theorem readUnit_cons {used unit : Nat} {rest : List UInt8} (read : readUnit used rest = .ok unit) :
    ∃ a b c d more, rest = a :: b :: c :: d :: more ∧ ∀ other, readUnit other rest = .ok unit := by
  match rest with
  | a :: b :: c :: d :: more =>
    refine ⟨a, b, c, d, more, rfl, fun other => ?_⟩
    simp only [readUnit] at read ⊢
    split at read
    · exact read
    · cases read
  | [] | [_] | [_, _] | [_, _, _] => cases read

/-- Where a pair of surrogates is read as one character, two escapes are passed over. -/
theorem skipTextFrom_low {high : Nat} {rest : List UInt8} {read : Char × Nat}
    (low : readLowSurrogate high rest = .ok read) (offset : Nat) :
    read.2 = 11 ∧ skipTextFrom 0 offset rest = skipTextFrom 6 offset rest := by
  match rest with
  | [] => cases low
  | [b] =>
    simp only [readLowSurrogate] at low
    split at low <;> cases low
  | b :: u :: rest =>
    simp only [readLowSurrogate] at low
    split at low
    · cases low
    · rename_i backslash
      split at low
      · cases low
      · rename_i letter
        rw [not_not] at backslash letter
        cases unit : readUnit 7 rest with
        | error e =>
          rw [unit] at low
          cases low
        | ok n =>
          rw [unit] at low
          obtain ⟨e, f, g, h, more, rfl, again⟩ := readUnit_cons unit
          simp only at low
          split at low
          · have same := Except.ok.inj low
            subst same
            refine ⟨rfl, ?_⟩
            have escape : skipEscape (u :: e :: f :: g :: h :: more) = .ok 5 := by
              simp only [skipEscape, letter, again 1]
              rfl
            change _ = skipTextFrom 5 (offset + 1) (u :: e :: f :: g :: h :: more)
            conv_lhs => rw [skipTextFrom, backslash, if_neg (by decide), if_pos rfl, escape]
          · cases low

/-- An escape that can be read can be passed over. -/
theorem skipEscape_of_readEscape {rest : List UInt8} {c : Char} {used : Nat}
    (read : readEscape rest = .ok (c, used)) : ∃ passed, skipEscape rest = .ok passed ∧
      ∀ offset, skipTextFrom passed offset rest = skipTextFrom used offset rest := by
  match rest with
  | [] => cases read
  | b :: rest =>
    rw [readEscape] at read
    rw [skipEscape]
    split at read
    · rename_i letter
      cases read
      exact ⟨1, by simp [letter], fun _ => rfl⟩
    · rename_i letter
      split at read
      · cases read
      · rename_i unicode
        cases unit : readUnit 1 rest with
        | error e =>
          rw [unit] at read
          cases read
        | ok n =>
          rw [unit] at read
          refine ⟨5, by simp [letter, unicode, Except.map], ?_⟩
          obtain ⟨a, b, c, d, more, rfl, -⟩ := readUnit_cons unit
          simp only at read
          split at read
          · cases read
          · split at read
            · intro offset
              obtain ⟨all, pair⟩ := skipTextFrom_low read (offset + 5)
              cases all
              exact pair
            · cases read
              exact fun _ => rfl

/-- A string that can be read can be passed over. -/
theorem skipTextFrom_of_gatherText {content gathered bytes : List UInt8} {skip offset : Nat}
    {after : Cursor} (read : gatherText gathered skip offset bytes = .ok (content, after)) :
    skipTextFrom skip offset bytes = .ok after := by
  induction bytes generalizing gathered skip offset with
  | nil => cases read
  | cons b rest ih =>
    cases skip with
    | succ skip =>
      rw [gatherText] at read
      exact ih read
    | zero =>
      rw [gatherText] at read
      rw [skipTextFrom]
      split at read
      · rename_i quote
        cases read
        exact if_pos quote
      · rename_i quote
        rw [if_neg quote]
        split at read
        · rename_i backslash
          rw [if_pos backslash]
          split at read
          · cases read
          · rename_i escaped
            obtain ⟨passed, skipped, same⟩ := skipEscape_of_readEscape escaped
            rw [skipped]
            exact (same (offset + 1)).trans (ih read)
        · rename_i backslash
          rw [if_neg backslash]
          split at read
          · cases read
          · rename_i control
            rw [if_neg control]
            exact ih read

theorem skipText_written (text : String) (offset : Nat) (rest : List UInt8) :
    ∃ after, skipText (.before (text.toList.flatMap escapeChar ++ ['"']) offset rest) =
      .ok ⟨after, rest⟩ := by
  have read := readText_written text offset rest
  rw [readText] at read
  split at read
  · cases read
  · rename_i gathered
    split at read
    · cases read
      exact ⟨_, skipTextFrom_of_gatherText gathered⟩
    · cases read

end AmdBundler.Json
