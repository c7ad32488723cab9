import AmdBundler.Text.Split
import AmdBundler.Text.Utf8.Lemmas
import Mathlib

namespace AmdBundler.Utf8

theorem encode_cons (c : Char) (text : List Char) :
    encode (c :: text) = encodeChar c ++ encode text :=
  List.flatMap_cons

theorem encode_append (text more : List Char) :
    encode (text ++ more) = encode text ++ encode more :=
  List.flatMap_append

theorem encodeChar_of_ascii {c : Char} (ascii : c.toNat < 0x80) :
    encodeChar c = [c.toNat.toUInt8] := by
  simp [encodeChar, ascii]

theorem encodeChar_ne_nil (c : Char) : encodeChar c ≠ [] := by
  unfold encodeChar
  dsimp only
  repeat' split
  all_goals exact List.cons_ne_nil _ _

theorem encode_injective {text other : List Char} (same : encode text = encode other) :
    text = other := by
  rw [← decodeLossy_encode text, same, decodeLossy_encode]

/-- A character that takes more than one byte takes none of ASCII. -/
theorem le_of_mem_encodeChar {c : Char} (wide : 0x80 ≤ c.toNat) :
    ∀ b ∈ encodeChar c, 0x80 ≤ b.toNat := by
  have valid : c.toNat < 0x110000 := by
    rcases c.valid with low | high
    · exact Nat.lt_trans low (by decide)
    · exact high.2
  intro b member
  simp only [encodeChar, if_neg (Nat.not_lt.mpr wide)] at member
  repeat' split at member
  all_goals
    simp only [List.mem_cons, List.not_mem_nil, or_false] at member
    rcases member with rfl | rfl | rfl | rfl <;> rw [toNat_toUInt8 (by omega)] <;> omega

theorem length_le_length_encode (text : List Char) : text.length ≤ (encode text).length := by
  induction text with
  | nil => exact Nat.le_refl 0
  | cons c text ih =>
    have one := List.length_pos_iff.mpr (encodeChar_ne_nil c)
    rw [encode_cons, List.length_append, List.length_cons]
    omega

/-- Between two bytes of a text: what the bytes still to come add up to is no ASCII. -/
def State.Sound : State → Prop
  | .ready => True
  | .within bits more low _ => 0x80 ≤ low ∧ 0x80 ≤ (bits * 0x40 + (low - 0x80)) * 0x40 ^ more

theorem sound_lead (byte : UInt8) : (lead byte).2.Sound := by
  simp only [lead]
  repeat' split
  all_goals simp only [State.Sound]
  all_goals omega

theorem sound_step {state : State} (sound : state.Sound) (byte : UInt8) :
    (step state byte).2.Sound := by
  cases state with
  | ready => exact sound_lead byte
  | within bits more low high =>
    obtain ⟨above, large⟩ := sound
    simp only [step]
    split
    · rename_i inside
      cases more with
      | zero => trivial
      | succ more =>
        refine ⟨Nat.le_refl _, ?_⟩
        have grows : bits * 0x40 + (low - 0x80) ≤ bits * 0x40 + (byte.toNat - 0x80) := by omega
        calc 0x80 ≤ (bits * 0x40 + (low - 0x80)) * 0x40 ^ (more + 1) := large
          _ ≤ (bits * 0x40 + (byte.toNat - 0x80)) * 0x40 ^ (more + 1) :=
            Nat.mul_le_mul_right _ grows
          _ = ((bits * 0x40 + (byte.toNat - 0x80)) * 0x40 + (0x80 - 0x80)) * 0x40 ^ more := by
            rw [Nat.pow_succ]
            ring
    · exact sound_lead byte

theorem itemsFrom_eq (read : List (Option Char)) (state : State) (bytes : List UInt8) :
    itemsFrom read state bytes = read.reverse ++ itemsFrom [] state bytes := by
  induction bytes generalizing read state with
  | nil => simp [itemsFrom]
  | cons byte bytes ih =>
    rw [itemsFrom, itemsFrom, ih, ih ((step state byte).1.reverse ++ [])]
    simp

theorem itemsFrom_cons (state : State) (byte : UInt8) (bytes : List UInt8) :
    itemsFrom [] state (byte :: bytes) =
      (step state byte).1 ++ itemsFrom [] (step state byte).2 bytes := by
  rw [itemsFrom, itemsFrom_eq]
  simp

section Ascii

variable {byte : UInt8}

theorem lead_ascii (ascii : byte.toNat < 0x80) :
    lead byte = ([some (Char.ofNat byte.toNat)], .ready) := by
  simp [lead, ascii]

/-- A byte of ASCII ends what comes before it, and stands for itself. -/
theorem step_ascii {state : State} (sound : state.Sound) (ascii : byte.toNat < 0x80) :
    step state byte = (finish state ++ [some (Char.ofNat byte.toNat)], .ready) := by
  cases state with
  | ready => rw [step, lead_ascii ascii, finish, List.nil_append]
  | within bits more low high =>
    have outside : ¬(low ≤ byte.toNat ∧ byte.toNat ≤ high) := by
      have := sound.1
      omega
    simp only [step, if_neg outside, lead_ascii ascii, finish, List.cons_append, List.nil_append]

theorem itemsFrom_ascii {state : State} (sound : state.Sound) (ascii : byte.toNat < 0x80)
    (front back : List UInt8) :
    itemsFrom [] state (front ++ byte :: back) =
      itemsFrom [] state front ++ some (Char.ofNat byte.toNat) :: items back := by
  induction front generalizing state with
  | nil =>
    rw [List.nil_append, itemsFrom_cons, step_ascii sound ascii, items]
    simp [itemsFrom]
  | cons b front ih =>
    rw [List.cons_append, itemsFrom_cons, itemsFrom_cons, ih (sound_step sound b),
      List.append_assoc]

/-- The parts of a text around a byte of ASCII are decoded by themselves. -/
theorem items_ascii (ascii : byte.toNat < 0x80) (front back : List UInt8) :
    items (front ++ byte :: back) =
      items front ++ some (Char.ofNat byte.toNat) :: items back :=
  itemsFrom_ascii (show State.ready.Sound from trivial) ascii front back

end Ascii

theorem ofNat_large {n : Nat} (large : 0x80 ≤ n) :
    Char.ofNat n = '\x00' ∨ 0x80 ≤ (Char.ofNat n).toNat := by
  by_cases valid : n.isValidChar
  · right
    rw [Char.toNat_ofNat, if_pos valid]
    exact large
  · left
    rw [Char.ofNat, dif_neg valid]
    rfl

/-- Apart from NUL, a step gives out a character of ASCII only for its own byte. -/
theorem mem_step {state : State} (sound : state.Sound) {byte : UInt8} {c : Char}
    (member : some c ∈ (step state byte).1) (ascii : c.toNat < 0x80) (apart : c ≠ '\x00') :
    byte.toNat = c.toNat := by
  have leads : some c ∈ (lead byte).1 → byte.toNat = c.toNat := by
    intro member
    by_cases small : byte.toNat < 0x80
    · rw [lead_ascii small, List.mem_singleton, Option.some_inj] at member
      rw [member, Char.toNat_ofNat, if_pos (Or.inl (by omega))]
    · exfalso
      simp only [lead, if_neg small] at member
      repeat' split at member
      all_goals simp at member
  cases state with
  | ready => exact leads member
  | within bits more low high =>
    obtain ⟨above, large⟩ := sound
    simp only [step] at member
    split at member
    · rename_i inside
      cases more with
      | zero =>
        rw [List.mem_singleton, Option.some_inj] at member
        have wide : 0x80 ≤ bits * 0x40 + (byte.toNat - 0x80) := by
          rw [Nat.pow_zero] at large
          omega
        rcases ofNat_large wide with zero | wide
        · exact absurd (member.trans zero) apart
        · rw [← member] at wide
          omega
      | succ more => cases member
    · rcases List.mem_cons.mp member with none | later
      · cases none
      · exact leads later

theorem mem_itemsFrom {state : State} (sound : state.Sound) {bytes : List UInt8} {c : Char}
    (member : some c ∈ itemsFrom [] state bytes) (ascii : c.toNat < 0x80) (apart : c ≠ '\x00') :
    ∃ byte ∈ bytes, byte.toNat = c.toNat := by
  induction bytes generalizing state with
  | nil =>
    cases state with
    | ready => cases member
    | within bits more low high =>
      rw [itemsFrom, finish] at member
      simp at member
  | cons b bytes ih =>
    rw [itemsFrom_cons, List.mem_append] at member
    rcases member with here | later
    · exact ⟨b, List.mem_cons_self, mem_step sound here ascii apart⟩
    · obtain ⟨byte, m, same⟩ := ih (sound_step sound b) later
      exact ⟨byte, List.mem_cons_of_mem _ m, same⟩

theorem lead_ne (byte : UInt8) : lead byte ≠ ([], .ready) := by
  simp only [lead]
  repeat' split
  all_goals simp

/-- A step gives something out, or goes into a character. -/
theorem step_ne (state : State) (byte : UInt8) : step state byte ≠ ([], .ready) := by
  cases state with
  | ready => exact lead_ne byte
  | within bits more low high =>
    simp only [step]
    split
    · cases more <;> simp
    · simp

theorem eq_nil_of_itemsFrom {state : State} {bytes : List UInt8}
    (silent : itemsFrom [] state bytes = []) : bytes = [] ∧ state = .ready := by
  induction bytes generalizing state with
  | nil =>
    cases state with
    | ready => exact ⟨rfl, rfl⟩
    | within bits more low high =>
      rw [itemsFrom, finish] at silent
      simp at silent
  | cons byte bytes ih =>
    rw [itemsFrom_cons, List.append_eq_nil_iff] at silent
    exact absurd (Prod.ext silent.1 (ih silent.2).2) (step_ne state byte)

theorem decodeLossy_eq_nil_iff {bytes : List UInt8} : decodeLossy bytes = [] ↔ bytes = [] := by
  rw [decodeLossy, List.map_eq_nil_iff]
  constructor
  · intro silent
    exact (eq_nil_of_itemsFrom silent).1
  · rintro rfl
    rfl

section Marks

variable {byte : UInt8} {mark : Char}

/-- A character of ASCII other than NUL, and its byte. -/
structure Marks (byte : UInt8) (mark : Char) : Prop where
  ascii : byte.toNat < 0x80
  char : Char.ofNat byte.toNat = mark
  apart : mark ≠ '\x00'

theorem Marks.toNat_eq (h : Marks byte mark) : byte.toNat = mark.toNat := by
  rw [← h.char, Char.toNat_ofNat, if_pos (Or.inl (by have := h.ascii; omega))]

theorem mark_not_mem (h : Marks byte mark) {bytes : List UInt8} (absent : byte ∉ bytes) :
    mark ∉ decodeLossy bytes := by
  intro member
  obtain ⟨item, found, same⟩ := List.mem_map.mp member
  cases item with
  | none =>
    have wide : mark = '\uFFFD' := same.symm
    have := h.ascii
    rw [h.toNat_eq, wide] at this
    exact absurd this (by decide)
  | some c =>
    have here : c = mark := same
    subst here
    have small : c.toNat < 0x80 := by
      rw [← h.toNat_eq]
      exact h.ascii
    obtain ⟨b, m, code⟩ := mem_itemsFrom (show State.ready.Sound from trivial) found small h.apart
    have one : b = byte := UInt8.toNat_inj.mp (code.trans h.toNat_eq.symm)
    exact absent (one ▸ m)

theorem decodeLossy_mark (h : Marks byte mark) (front back : List UInt8) :
    decodeLossy (front ++ byte :: back) =
      decodeLossy front ++ mark :: decodeLossy back := by
  rw [decodeLossy, items_ascii h.ascii, h.char]
  simp [decodeLossy]

/-- Cutting bytes at a character of ASCII is cutting the text that they stand for. -/
theorem map_decodeLossy_splitOn (h : Marks byte mark) (bytes : List UInt8) :
    (bytes.splitOn byte).map decodeLossy = (decodeLossy bytes).splitOn mark := by
  induction size : bytes.length using Nat.strongRecOn generalizing bytes with
  | ind n ih =>
    by_cases there : byte ∈ bytes
    · obtain ⟨front, back, rfl⟩ := List.append_of_mem there
      rw [List.length_append, List.length_cons] at size
      rw [List.splitOn_append_cons_self, List.map_append, decodeLossy_mark h,
        List.splitOn_append_cons_self, ih _ (by omega) front rfl, ih _ (by omega) back rfl]
    · rw [List.splitOn_eq_singleton there, List.splitOn_eq_singleton (mark_not_mem h there)]
      rfl

theorem getLast?_decodeLossy (h : Marks byte mark) (bytes : List UInt8) :
    (decodeLossy bytes).getLast? = some mark ↔ bytes.getLast? = some byte := by
  have pieces := map_decodeLossy_splitOn h bytes
  have last : ((decodeLossy bytes).splitOn mark).getLast? = some [] ↔
      (bytes.splitOn byte).getLast? = some [] := by
    rw [← pieces, List.getLast?_map, Option.map_eq_some_iff]
    simp [decodeLossy_eq_nil_iff]
  rw [Text.getLast?_splitOn, Text.getLast?_splitOn, decodeLossy_eq_nil_iff] at last
  by_cases none : bytes = []
  · subst none
    constructor
    · intro found
      cases found
    · intro found
      cases found
  · simpa [none] using last

theorem Marks.encode_cons (h : Marks byte mark) (text : List Char) :
    encode (mark :: text) = byte :: encode text := by
  have ascii : mark.toNat < 0x80 := by
    rw [← h.toNat_eq]
    exact h.ascii
  rw [Utf8.encode_cons, encodeChar_of_ascii ascii, ← h.toNat_eq]
  simp

theorem not_mem_encodeChar (h : Marks byte mark) {c : Char} (apart : c ≠ mark) :
    byte ∉ encodeChar c := by
  intro member
  by_cases ascii : c.toNat < 0x80
  · rw [encodeChar_of_ascii ascii, List.mem_singleton] at member
    apply apart
    rw [← h.char, member, toNat_toUInt8 (by omega), Char.ofNat_toNat]
  · have wide := le_of_mem_encodeChar (Nat.not_lt.mp ascii) byte member
    have narrow := h.ascii
    omega

theorem mem_encode_iff (h : Marks byte mark) {text : List Char} :
    byte ∈ encode text ↔ mark ∈ text := by
  constructor
  · intro member
    obtain ⟨c, inside, there⟩ := List.mem_flatMap.mp member
    by_contra absent
    exact not_mem_encodeChar h (fun same => absent (same ▸ inside)) there
  · intro member
    obtain ⟨front, back, rfl⟩ := List.append_of_mem member
    rw [encode_append, h.encode_cons]
    simp

theorem head?_encode (h : Marks byte mark) (text : List Char) :
    (encode text).head? = some byte ↔ text.head? = some mark := by
  cases text with
  | nil => simp [encode]
  | cons c text =>
    by_cases here : c = mark
    · simp [here, h.encode_cons]
    · rw [Utf8.encode_cons, List.head?_append_of_ne_nil _ (encodeChar_ne_nil c), List.head?_cons,
        Option.some_inj]
      exact ⟨fun first => absurd (List.mem_of_head? first) (not_mem_encodeChar h here),
        fun same => absurd same here⟩

theorem getLast?_encode (h : Marks byte mark) (text : List Char) :
    (encode text).getLast? = some byte ↔ text.getLast? = some mark := by
  rcases List.eq_nil_or_concat' text with rfl | ⟨front, c, rfl⟩
  · simp [encode]
  · have one : encode [c] = encodeChar c := by simp [encode]
    rw [encode_append, one, List.getLast?_append_of_ne_nil _ (encodeChar_ne_nil c),
      List.getLast?_concat, Option.some_inj]
    by_cases here : c = mark
    · rw [here] at one ⊢
      rw [← one, h.encode_cons]
      simp [encode]
    · exact ⟨fun last => absurd (List.mem_of_getLast? last) (not_mem_encodeChar h here),
        fun same => absurd same here⟩

end Marks

end AmdBundler.Utf8
