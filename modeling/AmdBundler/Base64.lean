namespace AmdBundler.Base64

/-- The digit of a value below 64. -/
def digit (n : Nat) : Char :=
  if n < 26 then Char.ofNat ('A'.toNat + n)
  else if n < 52 then Char.ofNat ('a'.toNat + (n - 26))
  else if n < 62 then Char.ofNat ('0'.toNat + (n - 52))
  else if n = 62 then '+' else '/'

def value? (c : Char) : Option Nat :=
  if c.isUpper then some (c.toNat - 'A'.toNat)
  else if c.isLower then some (c.toNat - 'a'.toNat + 26)
  else if c.isDigit then some (c.toNat - '0'.toNat + 52)
  else if c = '+' then some 62
  else if c = '/' then some 63
  else none

theorem value?_digit {n : Nat} (h : n < 64) : value? (digit n) = some n := by
  revert n
  decide

theorem value?_pad : value? '=' = none := by
  decide

def alphabet : List Char :=
  "ABCDEFGHIJKLMNOPQRSTUVWXYZabcdefghijklmnopqrstuvwxyz0123456789+/".toList

theorem getElem?_alphabet {n : Nat} (h : n < 64) : alphabet[n]? = some (digit n) := by
  revert n
  decide

theorem digit_mem_alphabet {n : Nat} (h : n < 64) : digit n ∈ alphabet :=
  List.mem_of_getElem? (getElem?_alphabet h)

theorem length_alphabet : alphabet.length = 64 := by
  decide

theorem isSome_value?_of_mem {c : Char} (h : c ∈ alphabet) : (value? c).isSome = true := by
  obtain ⟨n, place⟩ := List.mem_iff_getElem?.mp h
  have bound : n < 64 := length_alphabet ▸ (List.getElem?_eq_some_iff.mp place).1
  rw [getElem?_alphabet bound, Option.some.injEq] at place
  rw [← place, value?_digit bound]
  rfl

theorem digit_of_value? {c : Char} {n : Nat} (h : value? c = some n) : n < 64 ∧ digit n = c := by
  have counted {first k : Nat} (above : first ≤ c.toNat) (same : k = c.toNat - first) :
      Char.ofNat (first + k) = c := by
    rw [same, Nat.add_sub_cancel' above, Char.ofNat_toNat]
  rw [value?] at h
  split at h
  · rename_i upper
    have letter : 65 ≤ c.val ∧ c.val ≤ 90 := of_decide_eq_true upper
    have bounds : 65 ≤ c.toNat ∧ c.toNat ≤ 90 := by
      simpa [UInt32.le_iff_toNat_le] using letter
    have value : c.toNat - 65 = n := Option.some.inj h
    refine ⟨by omega, ?_⟩
    rw [digit, if_pos (by omega)]
    exact counted bounds.1 value.symm
  split at h
  · rename_i lower
    have letter : (decide (97 ≤ c.val) && decide (c.val ≤ 122)) = true := lower
    have bounds : 97 ≤ c.toNat ∧ c.toNat ≤ 122 := by
      simpa [UInt32.le_iff_toNat_le] using letter
    have value : c.toNat - 97 + 26 = n := Option.some.inj h
    refine ⟨by omega, ?_⟩
    rw [digit, if_neg (by omega), if_pos (by omega)]
    exact counted bounds.1 (show n - 26 = c.toNat - 97 by omega)
  split at h
  · rename_i decimal
    have bounds : 48 ≤ c.toNat ∧ c.toNat ≤ 57 := Char.isDigit_iff_toNat.mp decimal
    have value : c.toNat - 48 + 52 = n := Option.some.inj h
    refine ⟨by omega, ?_⟩
    rw [digit, if_neg (by omega), if_neg (by omega), if_pos (by omega)]
    exact counted bounds.1 (show n - 52 = c.toNat - 48 by omega)
  split at h
  · cases h
    exact ⟨by decide, by subst c; rfl⟩
  split at h
  · cases h
    exact ⟨by decide, by subst c; rfl⟩
  · cases h

/-- The digits of the bytes, after the reversed digits already written. -/
def encodeFrom (written : List Char) : List UInt8 → List Char
  | [] => written.reverse
  | [a] =>
    written.reverse ++ [digit (a.toNat / 4), digit (a.toNat % 4 * 16), '=', '=']
  | [a, b] =>
    written.reverse ++ [digit (a.toNat / 4), digit (a.toNat % 4 * 16 + b.toNat / 16),
      digit (b.toNat % 16 * 4), '=']
  | a :: b :: c :: rest =>
    encodeFrom (digit (c.toNat % 64) :: digit (b.toNat % 16 * 4 + c.toNat / 64) ::
      digit (a.toNat % 4 * 16 + b.toNat / 16) :: digit (a.toNat / 4) :: written) rest

def encode (bytes : List UInt8) : List Char :=
  encodeFrom [] bytes

/-- The bytes of the digits, after the reversed bytes already read. Bits that fill up a group have
to be zero, and padding closes the text. -/
def decodeFrom? (read : List UInt8) : List Char → Option (List UInt8)
  | [] => some read.reverse
  | w :: x :: y :: z :: rest =>
    match value? w, value? x with
    | some w, some x =>
      let first := (w * 4 + x / 16).toUInt8
      match value? y, value? z with
      | some y, some z =>
        decodeFrom?
          ((y % 4 * 64 + z).toUInt8 :: (x % 16 * 16 + y / 4).toUInt8 :: first :: read) rest
      | some y, none =>
        if z = '=' ∧ rest = [] ∧ y % 4 = 0 then
          some (read.reverse ++ [first, (x % 16 * 16 + y / 4).toUInt8])
        else none
      | none, _ =>
        if y = '=' ∧ z = '=' ∧ rest = [] ∧ x % 16 = 0 then some (read.reverse ++ [first]) else none
    | _, _ => none
  | _ => none

def decode? (text : List Char) : Option (List UInt8) :=
  decodeFrom? [] text

theorem encodeFrom_append (late early : List Char) (bytes : List UInt8) :
    encodeFrom (late ++ early) bytes = early.reverse ++ encodeFrom late bytes := by
  fun_induction encodeFrom late bytes with
  | case1 => simp [encodeFrom]
  | case2 => simp [encodeFrom]
  | case3 => simp [encodeFrom]
  | case4 late a b c rest ih => simpa [encodeFrom] using ih

theorem encode_group (a b c : UInt8) (rest : List UInt8) :
    encode (a :: b :: c :: rest) = digit (a.toNat / 4) ::
      digit (a.toNat % 4 * 16 + b.toNat / 16) :: digit (b.toNat % 16 * 4 + c.toNat / 64) ::
      digit (c.toNat % 64) :: encode rest := by
  rw [encode, encodeFrom]
  exact encodeFrom_append [] _ rest

/-- Every group that is begun has four characters. -/
theorem length_encode (bytes : List UInt8) :
    (encode bytes).length = 4 * ((bytes.length + 2) / 3) := by
  match bytes with
  | [] => rfl
  | [a] => simp [encode, encodeFrom]
  | [a, b] => simp [encode, encodeFrom]
  | a :: b :: c :: rest =>
    have others := length_encode rest
    rw [encode_group]
    simp only [List.length_cons, others]
    omega

/-- The digits come first, and padding stands for the bytes that the last group is short of. -/
theorem encode_padded (bytes : List UInt8) :
    ∃ body, encode bytes = body ++ List.replicate ((3 - bytes.length % 3) % 3) '=' ∧
      ∀ c ∈ body, c ∈ alphabet := by
  match bytes with
  | [] => exact ⟨[], rfl, fun c absent => absurd absent List.not_mem_nil⟩
  | [a] =>
    have ha := a.toNat_lt
    have first := digit_mem_alphabet (n := a.toNat / 4) (by omega)
    have second := digit_mem_alphabet (n := a.toNat % 4 * 16) (by omega)
    exact ⟨[digit (a.toNat / 4), digit (a.toNat % 4 * 16)], rfl, by simp [first, second]⟩
  | [a, b] =>
    have ha := a.toNat_lt
    have hb := b.toNat_lt
    have first := digit_mem_alphabet (n := a.toNat / 4) (by omega)
    have second := digit_mem_alphabet (n := a.toNat % 4 * 16 + b.toNat / 16) (by omega)
    have third := digit_mem_alphabet (n := b.toNat % 16 * 4) (by omega)
    exact ⟨[digit (a.toNat / 4), digit (a.toNat % 4 * 16 + b.toNat / 16),
      digit (b.toNat % 16 * 4)], rfl, by simp [first, second, third]⟩
  | a :: b :: c :: rest =>
    have ha := a.toNat_lt
    have hb := b.toNat_lt
    have hc := c.toNat_lt
    have first := digit_mem_alphabet (n := a.toNat / 4) (by omega)
    have second := digit_mem_alphabet (n := a.toNat % 4 * 16 + b.toNat / 16) (by omega)
    have third := digit_mem_alphabet (n := b.toNat % 16 * 4 + c.toNat / 64) (by omega)
    have fourth := digit_mem_alphabet (n := c.toNat % 64) (by omega)
    obtain ⟨body, written, digits⟩ := encode_padded rest
    have short : (a :: b :: c :: rest).length % 3 = rest.length % 3 := by
      simp only [List.length_cons]
      omega
    refine ⟨digit (a.toNat / 4) :: digit (a.toNat % 4 * 16 + b.toNat / 16) ::
      digit (b.toNat % 16 * 4 + c.toNat / 64) :: digit (c.toNat % 64) :: body, ?_, ?_⟩
    · rw [encode_group, written, short]
      rfl
    · simpa [first, second, third, fourth] using digits

/-- All that is written is digits and padding. -/
theorem mem_encode (bytes : List UInt8) :
    ∀ c ∈ encode bytes, (value? c).isSome = true ∨ c = '=' := by
  intro c member
  obtain ⟨body, written, digits⟩ := encode_padded bytes
  rw [written, List.mem_append] at member
  rcases member with inside | pad
  · exact .inl (isSome_value?_of_mem (digits c inside))
  · exact .inr (List.eq_of_mem_replicate pad)

theorem toUInt8_eq {n : Nat} {b : UInt8} (h : n = b.toNat) : n.toUInt8 = b := by
  rw [h]
  exact UInt8.ofNat_toNat

theorem decodeFrom?_encode (read bytes : List UInt8) :
    decodeFrom? read (encode bytes) = some (read.reverse ++ bytes) := by
  match bytes with
  | [] => simp [encode, encodeFrom, decodeFrom?]
  | [a] =>
    have ha := a.toNat_lt
    have first : (a.toNat / 4 * 4 + a.toNat % 4 * 16 / 16).toUInt8 = a := toUInt8_eq (by omega)
    simp only [encode, encodeFrom, List.reverse_nil, List.nil_append, decodeFrom?]
    rw [value?_digit (by omega), value?_digit (by omega), value?_pad]
    simp only [first]
    simp
  | [a, b] =>
    have ha := a.toNat_lt
    have hb := b.toNat_lt
    have first : (a.toNat / 4 * 4 + (a.toNat % 4 * 16 + b.toNat / 16) / 16).toUInt8 = a :=
      toUInt8_eq (by omega)
    have second :
        ((a.toNat % 4 * 16 + b.toNat / 16) % 16 * 16 + b.toNat % 16 * 4 / 4).toUInt8 = b :=
      toUInt8_eq (by omega)
    simp only [encode, encodeFrom, List.reverse_nil, List.nil_append, decodeFrom?]
    rw [value?_digit (by omega), value?_digit (by omega), value?_digit (by omega), value?_pad]
    simp only [first, second]
    simp
  | a :: b :: c :: rest =>
    have ha := a.toNat_lt
    have hb := b.toNat_lt
    have hc := c.toNat_lt
    have first : (a.toNat / 4 * 4 + (a.toNat % 4 * 16 + b.toNat / 16) / 16).toUInt8 = a :=
      toUInt8_eq (by omega)
    have second : ((a.toNat % 4 * 16 + b.toNat / 16) % 16 * 16 +
        (b.toNat % 16 * 4 + c.toNat / 64) / 4).toUInt8 = b := toUInt8_eq (by omega)
    have third : ((b.toNat % 16 * 4 + c.toNat / 64) % 4 * 64 + c.toNat % 64).toUInt8 = c :=
      toUInt8_eq (by omega)
    rw [encode_group, decodeFrom?]
    rw [value?_digit (by omega), value?_digit (by omega), value?_digit (by omega),
      value?_digit (by omega)]
    simp only [first, second, third]
    rw [decodeFrom?_encode _ rest]
    simp

/-- What was encoded is read back. -/
theorem decode?_encode (bytes : List UInt8) : decode? (encode bytes) = some bytes :=
  decodeFrom?_encode [] bytes

end AmdBundler.Base64
