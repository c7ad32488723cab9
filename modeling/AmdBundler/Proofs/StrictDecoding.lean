import AmdBundler.Base64
import AmdBundler.Proofs.AsciiBytes

namespace AmdBundler.Utf8
open Base64 (toUInt8_eq)

/-- If all is well, the last byte of a character is within its bounds and the character comes
out. -/
theorem itemsFrom_last {bits low high : Nat} {bytes : List UInt8} {text : List Char}
    (whole : itemsFrom [] (.within bits 0 low high) bytes = text.map some) :
    ∃ b rest c more, bytes = b :: rest ∧ text = c :: more ∧ low ≤ b.toNat ∧ b.toNat ≤ high ∧
      c = Char.ofNat (bits * 0x40 + (b.toNat - 0x80)) ∧ items rest = more.map some := by
  cases bytes with
  | nil =>
    rw [itemsFrom, finish] at whole
    cases text <;> simp at whole
  | cons b rest =>
    rw [itemsFrom_cons, step] at whole
    split at whole
    · rename_i inside
      cases text with
      | nil => simp at whole
      | cons c more =>
        simp only [List.singleton_append, List.map_cons, List.cons.injEq, Option.some_inj] at whole
        exact ⟨b, rest, c, more, rfl, rfl, inside.1, inside.2, whole.1.symm, whole.2⟩
    · cases text <;> simp at whole

theorem itemsFrom_more {bits more low high : Nat} {bytes : List UInt8} {text : List Char}
    (whole : itemsFrom [] (.within bits (more + 1) low high) bytes = text.map some) :
    ∃ b rest, bytes = b :: rest ∧ low ≤ b.toNat ∧ b.toNat ≤ high ∧
      itemsFrom [] (.within (bits * 0x40 + (b.toNat - 0x80)) more 0x80 0xBF) rest =
        text.map some := by
  cases bytes with
  | nil =>
    rw [itemsFrom, finish] at whole
    cases text <;> simp at whole
  | cons b rest =>
    rw [itemsFrom_cons, step] at whole
    split at whole
    · rename_i inside
      exact ⟨b, rest, rfl, inside.1, inside.2, by simpa using whole⟩
    · cases text <;> simp at whole

/-- The bytes of the character that the bits of its bytes make up. -/
theorem encodeChar_ofNat {n : Nat} (valid : n.isValidChar) : encodeChar (Char.ofNat n) =
    if n < 0x80 then [n.toUInt8]
    else if n < 0x800 then [(0xC0 + n / 0x40).toUInt8, (0x80 + n % 0x40).toUInt8]
    else if n < 0x10000 then
      [(0xE0 + n / 0x1000).toUInt8, (0x80 + n / 0x40 % 0x40).toUInt8, (0x80 + n % 0x40).toUInt8]
    else
      [(0xF0 + n / 0x40000).toUInt8, (0x80 + n / 0x1000 % 0x40).toUInt8,
        (0x80 + n / 0x40 % 0x40).toUInt8, (0x80 + n % 0x40).toUInt8] := by
  rw [encodeChar, Char.toNat_ofNat, if_pos valid]

/-- What is read from bytes starts with a character, and the bytes with its own. -/
def Leads (bytes : List UInt8) (text : List Char) : Prop :=
  ∃ c more back, text = c :: more ∧ bytes = encodeChar c ++ back ∧ items back = more.map some

section Leads

variable {first : UInt8} {bits low high : Nat} {rest : List UInt8} {text : List Char}

theorem leads_of_two (start : 0xC2 ≤ first.toNat ∧ first.toNat < 0xE0)
    (whole : itemsFrom [] (.within (first.toNat - 0xC0) 0 0x80 0xBF) rest = text.map some) :
    Leads (first :: rest) text := by
  obtain ⟨b, back, c, more, rfl, rfl, above, below, made, after⟩ := itemsFrom_last whole
  refine ⟨c, more, back, rfl, ?_, after⟩
  generalize code : (first.toNat - 0xC0) * 0x40 + (b.toNat - 0x80) = n at made
  have short : n < 0x800 := by omega
  rw [made, encodeChar_ofNat (.inl (by omega)), if_neg (show ¬n < 0x80 by omega), if_pos short,
    toUInt8_eq (show 0xC0 + n / 0x40 = first.toNat by omega),
    toUInt8_eq (show 0x80 + n % 0x40 = b.toNat by omega)]
  rfl

theorem leads_of_three (start : 0xE0 + bits = first.toNat ∧ bits < 0x10)
    (least : if bits = 0 then 0xA0 ≤ low else 0x80 ≤ low)
    (most : if bits = 0xD then high ≤ 0x9F else high ≤ 0xBF)
    (whole : itemsFrom [] (.within bits 1 low high) rest = text.map some) :
    Leads (first :: rest) text := by
  obtain ⟨b, rest, rfl, above, below, whole⟩ := itemsFrom_more whole
  obtain ⟨d, back, c, more, rfl, rfl, least2, most2, made, after⟩ := itemsFrom_last whole
  refine ⟨c, more, back, rfl, ?_, after⟩
  generalize code : (bits * 0x40 + (b.toNat - 0x80)) * 0x40 + (d.toNat - 0x80) = n at made
  have long : 0x800 ≤ n := by split at least <;> omega
  have proper : n < 0xD800 ∨ 0xDFFF < n := by split at least <;> split at most <;> omega
  have inside : 0x80 ≤ b.toNat ∧ b.toNat ≤ 0xBF := by split at least <;> split at most <;> omega
  have valid : n.isValidChar := proper.imp id fun large => ⟨large, by omega⟩
  rw [made, encodeChar_ofNat valid, if_neg (show ¬n < 0x80 by omega),
    if_neg (show ¬n < 0x800 by omega), if_pos (show n < 0x10000 by omega),
    toUInt8_eq (show 0xE0 + n / 0x1000 = first.toNat by omega),
    toUInt8_eq (show 0x80 + n / 0x40 % 0x40 = b.toNat by omega),
    toUInt8_eq (show 0x80 + n % 0x40 = d.toNat by omega)]
  rfl

theorem leads_of_four (start : 0xF0 + bits = first.toNat ∧ bits < 5)
    (least : if bits = 0 then 0x90 ≤ low else 0x80 ≤ low)
    (most : if bits = 4 then high ≤ 0x8F else high ≤ 0xBF)
    (whole : itemsFrom [] (.within bits 2 low high) rest = text.map some) :
    Leads (first :: rest) text := by
  obtain ⟨b, rest, rfl, above, below, whole⟩ := itemsFrom_more whole
  obtain ⟨d, rest, rfl, least2, most2, whole⟩ := itemsFrom_more whole
  obtain ⟨e, back, c, more, rfl, rfl, least3, most3, made, after⟩ := itemsFrom_last whole
  refine ⟨c, more, back, rfl, ?_, after⟩
  generalize code : ((bits * 0x40 + (b.toNat - 0x80)) * 0x40 + (d.toNat - 0x80)) * 0x40 +
    (e.toNat - 0x80) = n at made
  have long : 0x10000 ≤ n := by split at least <;> omega
  have proper : n < 0x110000 := by split at most <;> omega
  have inside : 0x80 ≤ b.toNat ∧ b.toNat ≤ 0xBF := by split at least <;> split at most <;> omega
  rw [made, encodeChar_ofNat (.inr ⟨by omega, proper⟩), if_neg (show ¬n < 0x80 by omega),
    if_neg (show ¬n < 0x800 by omega), if_neg (show ¬n < 0x10000 by omega),
    toUInt8_eq (show 0xF0 + n / 0x40000 = first.toNat by omega),
    toUInt8_eq (show 0x80 + n / 0x1000 % 0x40 = b.toNat by omega),
    toUInt8_eq (show 0x80 + n / 0x40 % 0x40 = d.toNat by omega),
    toUInt8_eq (show 0x80 + n % 0x40 = e.toNat by omega)]
  rfl

/-- A first byte is ASCII, or tells how many bytes are to come. -/
theorem leads_of_items (whole : items (first :: rest) = text.map some) :
    Leads (first :: rest) text := by
  have refused {found : List (Option Char)} : none :: found ≠ text.map some := by
    cases text <;> simp
  rw [items, itemsFrom_cons, step, lead] at whole
  split at whole
  · rename_i ascii
    cases text with
    | nil => cases whole
    | cons c more =>
      obtain ⟨same, after⟩ := List.cons.inj whole
      refine ⟨c, more, rest, rfl, ?_, after⟩
      rw [← Option.some.inj same, encodeChar_ofNat (.inl (by omega)), if_pos ascii, toUInt8_eq rfl]
      rfl
  · split at whole
    · exact absurd whole refused
    · split at whole
      · exact leads_of_two (by omega) whole
      · split at whole
        · exact leads_of_three (by omega) (by simp) (by simp) whole
        · split at whole
          · exact leads_of_three (by omega) (by simp) (by simp) whole
          · split at whole
            · refine leads_of_three (by omega) ?_ ?_ whole
              · rw [if_neg (by omega)]
              · rw [if_neg (by omega)]
            · split at whole
              · exact leads_of_four (by omega) (by simp) (by simp) whole
              · split at whole
                · refine leads_of_four (by omega) ?_ ?_ whole
                  · rw [if_neg (by omega)]
                  · rw [if_neg (by omega)]
                · split at whole
                  · exact leads_of_four (by omega) (by simp) (by simp) whole
                  · exact absurd whole refused

end Leads

/-- Bytes without an ill-formed part are those of the text that is read from them. -/
theorem eq_encode_of_items {bytes : List UInt8} {text : List Char}
    (whole : items bytes = text.map some) : bytes = encode text := by
  induction text generalizing bytes with
  | nil => exact (eq_nil_of_itemsFrom whole).1
  | cons c text ih =>
    cases bytes with
    | nil => cases whole
    | cons b rest =>
      obtain ⟨d, more, back, same, front, after⟩ := leads_of_items whole
      cases same
      rw [front, ih after, encode_cons]

theorem decode?_eq_some_iff_items {bytes : List UInt8} {text : List Char} :
    decode? bytes = some text ↔ items bytes = text.map some := by
  have whole (found : List (Option Char)) (formed : found.all Option.isSome = true) :
      (found.filterMap id).map some = found := by
    induction found with
    | nil => rfl
    | cons item found ih =>
      rw [List.all_cons, Bool.and_eq_true] at formed
      obtain ⟨c, rfl⟩ := Option.isSome_iff_exists.mp formed.1
      rw [List.filterMap_cons_some (id_eq (some c)), List.map_cons, ih formed.2]
  rw [decode?, Option.ite_none_right_eq_some]
  constructor
  · rintro ⟨formed, same⟩
    rw [← Option.some.inj same, whole _ formed]
  · intro same
    rw [same]
    exact ⟨by simp, by simp [List.filterMap_map]⟩

/-- A strict reader takes the bytes of a text, and no others. -/
theorem decode?_eq_some_iff {bytes : List UInt8} {text : List Char} :
    decode? bytes = some text ↔ bytes = encode text := by
  rw [decode?_eq_some_iff_items]
  constructor
  · exact eq_encode_of_items
  · rintro rfl
    exact items_encode text

/-- A text behind a character of ASCII is taken, and what stands before is as it is by itself. -/
theorem decode?_mark {byte : UInt8} {mark : Char} (h : Marks byte mark) (front : List UInt8)
    (back : List Char) :
    decode? (front ++ byte :: encode back) = (decode? front).map (· ++ mark :: back) := by
  simp only [decode?, items_ascii h.ascii, items_encode, h.char]
  cases sound : (items front).all Option.isSome <;>
    simp [sound, List.filterMap_append, List.filterMap_map]

end AmdBundler.Utf8
