import AmdBundler.Directive
import AmdBundler.Proofs.RecordRoundTrip
import AmdBundler.SourceMap.Basic

namespace AmdBundler

/-- All characters are bytes of Latin-1. -/
def Latin1 (text : List Char) : Prop :=
  ∀ c ∈ text, c.toNat ≤ 0xFF

instance (text : List Char) : Decidable (Latin1 text) :=
  decidable_of_iff (text.all (·.toNat ≤ 0xFF) = true) (by simp [Latin1])

@[simp] theorem latin1_nil : Latin1 [] := by
  intro c member
  cases member

@[simp] theorem latin1_cons {c : Char} {text : List Char} :
    Latin1 (c :: text) ↔ c.toNat ≤ 0xFF ∧ Latin1 text :=
  List.forall_mem_cons

@[simp] theorem latin1_append {text more : List Char} :
    Latin1 (text ++ more) ↔ Latin1 text ∧ Latin1 more :=
  List.forall_mem_append

theorem latin1_flatMap {α : Type} {f : α → List Char} {vs : List α} :
    Latin1 (vs.flatMap f) ↔ ∀ v ∈ vs, Latin1 (f v) := by
  constructor
  · intro narrow v m c inside
    exact narrow c (List.mem_flatMap.mpr ⟨v, m, inside⟩)
  · intro narrow c member
    obtain ⟨v, m, inside⟩ := List.mem_flatMap.mp member
    exact narrow v m c inside

namespace Json

theorem latin1_escapeChar (c : Char) : Latin1 (escapeChar c) ↔ c.toNat ≤ 0xFF := by
  have control : ∀ n < 0x20, Latin1 (escapeChar (Char.ofNat n)) := by decide
  by_cases low : c.toNat < 0x20
  · have narrow := control c.toNat low
    rw [Char.ofNat_toNat] at narrow
    exact ⟨fun _ => by omega, fun _ => narrow⟩
  · by_cases quote : c = '"'
    · subst quote
      decide
    · by_cases backslash : c = '\\'
      · subst backslash
        decide
      · simp [escapeChar, quote, backslash, low]

theorem latin1_writeText (text : String) : Latin1 (writeText text) ↔ Latin1 text.toList := by
  rw [writeText, latin1_append, latin1_cons, latin1_flatMap]
  simp only [latin1_escapeChar]
  simp [Latin1]

theorem latin1_joined (parts : List (List Char)) : ∀ first,
    Latin1 (Codec.joined first parts) ↔ ∀ part ∈ parts, Latin1 part := by
  induction parts with
  | nil => simp [Codec.joined]
  | cons part parts ih =>
    intro first
    cases first <;> simp [Codec.joined, ih]

theorem latin1_write_list {α : Type} (item : Codec α) (vs : List α) :
    Latin1 (item.list.write vs) ↔ ∀ v ∈ vs, Latin1 (item.write v) := by
  rw [Codec.list_write, latin1_cons, latin1_append, latin1_joined]
  simp

theorem latin1_writeMember (name : String) (value : List Char) :
    Latin1 (Codec.writeMember name value) ↔ Latin1 name.toList ∧ Latin1 value := by
  rw [Codec.writeMember, latin1_append, latin1_writeText, latin1_cons]
  simp

theorem latin1_write_uint32 (n : UInt32) : Latin1 (Codec.uint32.write n) := by
  intro c member
  have digit := Nat.isDigit_of_mem_toDigits (b := 10) (n := n.toNat) (by decide) (by decide) member
  have ascii := (of_solid (Codec.solid_of_isDigit digit)).1
  omega

theorem latin1_write_record {α : Type} (r : Record α) (v : α) :
    Latin1 (r.codec.write v) ↔ ∀ m ∈ r.members v, Latin1 m := by
  have written : r.codec.write v = '\x7b' :: (Codec.joined true (r.members v) ++ ['\x7d']) := by
    rw [← Codec.intercalate_eq_joined]
    rfl
  rw [written, latin1_cons, latin1_append, latin1_joined]
  simp

end Json

namespace SourceMap

open Json

theorem faithful_texts : (Codec.list .string).nullable.Faithful := by
  apply Codec.faithful_nullable (Codec.faithful_list Codec.faithful_string)
  intro texts
  exact fun same => by cases same

theorem refills_record (m : SourceMap) : Record.Refills m record.fields record.blank m := by
  refine .of Codec.faithful_uint32 ?_
  refine .of Codec.faithful_string ?_
  refine .of Codec.faithful_string ?_
  refine .of (Codec.faithful_list Codec.faithful_string) ?_
  refine .of (Codec.faithful_list Codec.faithful_string) ?_
  refine .of Codec.faithful_string ?_
  refine .of faithful_texts ?_
  -- A map without the texts of its sources is read as it was blank.
  obtain ⟨version, file, sourceRoot, sources, names, mappings, sourcesContent⟩ := m
  cases sourcesContent <;> exact .nil _

/-- A source map is read from the text that it was written as. -/
theorem faithful_codec : codec.Faithful := by
  apply Record.faithful
  · decide
  · intro m f member required
    simp only [record, List.mem_cons, List.not_mem_nil, or_false] at member
    rcases member with rfl | rfl | rfl | rfl | rfl | rfl | rfl
    all_goals first | rfl | cases required
  · exact refills_record

/-- Only the texts of a map can keep it from being written in Latin-1. -/
theorem latin1_write (m : SourceMap) :
    Latin1 (codec.write m) ↔
      Latin1 m.file.toList ∧ Latin1 m.sourceRoot.toList ∧ (∀ s ∈ m.sources, Latin1 s.toList) ∧
        (∀ s ∈ m.names, Latin1 s.toList) ∧ Latin1 m.mappings.toList ∧
        ∀ texts, m.sourcesContent = some texts → ∀ s ∈ texts, Latin1 s.toList := by
  have text (v : String) : Latin1 (Codec.string.write v) ↔ Latin1 v.toList := latin1_writeText v
  obtain ⟨version, file, sourceRoot, sources, names, mappings, sourcesContent⟩ := m
  rw [codec, latin1_write_record]
  cases sourcesContent with
  | none =>
    simp [Record.members, record, Field.of, latin1_writeMember, latin1_write_uint32,
      latin1_write_list, text]
  | some texts =>
    simp [Record.members, record, Field.of, latin1_writeMember, latin1_write_uint32,
      latin1_write_list, text, Codec.nullable]

end SourceMap

end AmdBundler
