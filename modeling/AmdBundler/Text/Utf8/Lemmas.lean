import AmdBundler.Text.Utf8

namespace AmdBundler.Utf8

theorem toNat_toUInt8 {n : Nat} (h : n < 256) : n.toUInt8.toNat = n := by
  rw [Nat.toUInt8_eq, UInt8.toNat_ofNat_of_lt' h]

/-- A following byte within the bounds ends a character or leaves one byte less to come. -/
theorem step_within {bits more low high n : Nat} (h : n < 64) (above : low ≤ 0x80 + n)
    (below : 0x80 + n ≤ high) :
    step (.within bits more low high) (0x80 + n).toUInt8 =
      match more with
      | 0 => ([some (Char.ofNat (bits * 0x40 + n))], .ready)
      | more + 1 => ([], .within (bits * 0x40 + n) more 0x80 0xBF) := by
  have byte : (0x80 + n).toUInt8.toNat = 0x80 + n := toNat_toUInt8 (by omega)
  cases more <;> simp only [step, byte, above, below, and_self, if_true, Nat.add_sub_cancel_left]

theorem lead_of_two {n : Nat} (least : 0x80 ≤ n) (most : n < 0x800) :
    lead (0xC0 + n / 0x40).toUInt8 = ([], .within (n / 0x40) 0 0x80 0xBF) := by
  simp only [lead]
  rw [toNat_toUInt8 (by omega), if_neg (by omega), if_neg (by omega), if_pos (by omega),
    Nat.add_sub_cancel_left]

theorem lead_of_three {n : Nat} (most : n < 0x10000) :
    lead (0xE0 + n / 0x1000).toUInt8 = ([], .within (n / 0x1000) 1
      (if n / 0x1000 = 0 then 0xA0 else 0x80) (if n / 0x1000 = 0xD then 0x9F else 0xBF)) := by
  simp only [lead]
  rw [toNat_toUInt8 (by omega), if_neg (by omega), if_neg (by omega), if_neg (by omega)]
  by_cases zero : n / 0x1000 = 0
  · simp [zero]
  · by_cases surrogate : n / 0x1000 = 0xD
    · simp [surrogate]
    · rw [if_neg (by omega), if_neg (by omega), if_pos (by omega), if_neg zero, if_neg surrogate,
        Nat.add_sub_cancel_left]

theorem lead_of_four {n : Nat} (most : n < 0x110000) :
    lead (0xF0 + n / 0x40000).toUInt8 = ([], .within (n / 0x40000) 2
      (if n / 0x40000 = 0 then 0x90 else 0x80) (if n / 0x40000 = 4 then 0x8F else 0xBF)) := by
  simp only [lead]
  rw [toNat_toUInt8 (by omega), if_neg (by omega), if_neg (by omega), if_neg (by omega),
    if_neg (by omega), if_neg (by omega), if_neg (by omega)]
  by_cases zero : n / 0x40000 = 0
  · simp [zero]
  · by_cases last : n / 0x40000 = 4
    · simp [last]
    · rw [if_neg (by omega), if_pos (by omega), if_neg zero, if_neg last, Nat.add_sub_cancel_left]

theorem itemsFrom_encodeChar (read : List (Option Char)) (c : Char) (rest : List UInt8) :
    itemsFrom read .ready (encodeChar c ++ rest) = itemsFrom (some c :: read) .ready rest := by
  have valid : c.toNat < 0xD800 ∨ 0xDFFF < c.toNat ∧ c.toNat < 0x110000 := c.valid
  have whole : Char.ofNat c.toNat = c := Char.ofNat_toNat c
  simp only [encodeChar]
  split
  · rename_i one
    simp [itemsFrom, step, lead, toNat_toUInt8 (show c.toNat < 256 by omega), one, whole]
  · split
    · rename_i one two
      simp only [List.cons_append, List.nil_append, itemsFrom, step.eq_1]
      rw [lead_of_two (by omega) two]
      simp only [List.reverse_nil, List.nil_append]
      rw [step_within (by omega) (by omega) (by omega)]
      simp only [List.reverse_cons, List.reverse_nil, List.nil_append, List.singleton_append]
      rw [show c.toNat / 0x40 * 0x40 + c.toNat % 0x40 = c.toNat by omega, whole]
    · split
      · rename_i one two three
        simp only [List.cons_append, List.nil_append, itemsFrom, step.eq_1]
        rw [lead_of_three three]
        simp only [List.reverse_nil, List.nil_append]
        rw [step_within (by omega) (by split <;> omega) (by split <;> omega)]
        simp only [List.reverse_nil, List.nil_append]
        rw [step_within (by omega) (by omega) (by omega)]
        simp only [List.reverse_cons, List.reverse_nil, List.nil_append, List.singleton_append]
        rw [show (c.toNat / 0x1000 * 0x40 + c.toNat / 0x40 % 0x40) * 0x40 + c.toNat % 0x40 =
          c.toNat by omega, whole]
      · rename_i one two three
        simp only [List.cons_append, List.nil_append, itemsFrom, step.eq_1]
        rw [lead_of_four (by omega)]
        simp only [List.reverse_nil, List.nil_append]
        rw [step_within (by omega) (by split <;> omega) (by split <;> omega)]
        simp only [List.reverse_nil, List.nil_append]
        rw [step_within (by omega) (by omega) (by omega)]
        simp only [List.reverse_nil, List.nil_append]
        rw [step_within (by omega) (by omega) (by omega)]
        simp only [List.reverse_cons, List.reverse_nil, List.nil_append, List.singleton_append]
        rw [show ((c.toNat / 0x40000 * 0x40 + c.toNat / 0x1000 % 0x40) * 0x40 +
          c.toNat / 0x40 % 0x40) * 0x40 + c.toNat % 0x40 = c.toNat by omega, whole]

theorem itemsFrom_encode (read : List (Option Char)) (text : List Char) :
    itemsFrom read .ready (encode text) = read.reverse ++ text.map some := by
  induction text generalizing read with
  | nil => simp [encode, itemsFrom, finish]
  | cons c text ih =>
    rw [encode, List.flatMap_cons, itemsFrom_encodeChar]
    exact (ih _).trans (by simp)

/-- What was encoded has no ill-formed part. -/
theorem items_encode (text : List Char) : items (encode text) = text.map some :=
  itemsFrom_encode [] text

theorem decode?_encode (text : List Char) : decode? (encode text) = some text := by
  simp [decode?, items_encode, List.filterMap_map]

theorem decodeLossy_encode (text : List Char) : decodeLossy (encode text) = text := by
  simp [decodeLossy, items_encode, Function.comp_def]

theorem length_encodeChar (c : Char) : (encodeChar c).length = c.utf8Size := by
  have bound (n : Nat) (small : n < UInt32.size) :
      c.val ≤ UInt32.ofNatLT n small ↔ c.toNat ≤ n := by
    rw [UInt32.le_iff_toNat_le]
    rfl
  simp only [encodeChar, Char.utf8Size, bound]
  repeat' split
  all_goals first | rfl | omega

/-- The size of a text is the number of its bytes. -/
theorem length_encode (text : String) : (encode text.toList).length = text.utf8ByteSize := by
  have sizes (chars : List Char) :
      (encode chars).length = (String.ofList chars).utf8ByteSize := by
    induction chars with
    | nil => rfl
    | cons c chars ih =>
      have split : String.ofList (c :: chars) = String.singleton c ++ String.ofList chars := by
        rw [← String.toList_inj]
        simp
      rw [encode] at ih
      rw [encode, List.flatMap_cons, List.length_append, length_encodeChar, split,
        String.utf8ByteSize_append, String.utf8ByteSize_singleton, ih]
  rw [sizes, String.ofList_toList]

end AmdBundler.Utf8
