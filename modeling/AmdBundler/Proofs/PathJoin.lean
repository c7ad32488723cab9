import AmdBundler.Loader.PathTable
import AmdBundler.Proofs.FileReplacement

namespace AmdBundler.Path

/-- Bytes with a slash at their end. No bytes stay none. -/
def opened (bytes : List UInt8) : List UInt8 :=
  if bytes.isEmpty || bytes.getLast? == some slash then bytes else bytes ++ [slash]

theorem opened_nil : opened [] = [] := rfl

theorem opened_closed {bytes : List UInt8} (closed : bytes.getLast? = some slash) :
    opened bytes = bytes := by
  simp [opened, closed]

theorem opened_open {bytes : List UInt8} (full : bytes ≠ [])
    (open_ : bytes.getLast? ≠ some slash) : opened bytes = bytes ++ [slash] := by
  rw [opened, if_neg]
  rw [Bool.or_eq_true, not_or, beq_iff_eq, List.isEmpty_iff]
  exact ⟨full, open_⟩

theorem opened_eq_nil_iff {bytes : List UInt8} : opened bytes = [] ↔ bytes = [] := by
  constructor
  · intro empty
    rw [opened] at empty
    split at empty
    · exact empty
    · simp at empty
  · rintro rfl
    rfl

theorem getLast?_opened {bytes : List UInt8} (full : bytes ≠ []) :
    (opened bytes).getLast? = some slash := by
  by_cases closed : bytes.getLast? = some slash
  · rw [opened_closed closed, closed]
  · simp [opened_open full closed]

/-- What is put behind decides on the slash, if it is anything. -/
theorem opened_append (front back : List UInt8) :
    opened (opened front ++ back) = opened front ++ opened back := by
  by_cases none_ : back = []
  · rw [none_, opened_nil, List.append_nil]
    by_cases empty : front = []
    · rw [empty]
      rfl
    · exact opened_closed (getLast?_opened empty)
  · have last : (opened front ++ back).getLast? = back.getLast? :=
      List.getLast?_append_of_ne_nil _ none_
    by_cases closed : back.getLast? = some slash
    · rw [opened_closed (last.trans closed), opened_closed closed]
    · rw [opened_open (List.append_ne_nil_of_right_ne_nil _ none_) (last ▸ closed),
        opened_open none_ closed, List.append_assoc]

theorem ofText_append (front back : String) :
    FileName.ofText (front ++ back) = FileName.ofText front ++ FileName.ofText back := by
  rw [FileName.ofText, String.toList_append]
  exact Utf8.encode_append _ _

theorem ofText_eq_nil_iff {text : String} : FileName.ofText text = [] ↔ text = "" := by
  constructor
  · intro empty
    have none : text.toList = [] := Utf8.encode_injective empty
    simpa using none
  · rintro rfl
    rfl

theorem text_ofText (text : String) : FileName.text (.ofText text) = text := by
  rw [FileName.text, FileName.ofText, Utf8.decodeLossy_encode, String.ofList_toList]

theorem text_eq_empty_iff {name : FileName} : FileName.text name = "" ↔ name = [] := by
  rw [← Utf8.decodeLossy_eq_nil_iff, FileName.text, String.ofList_eq_empty_iff]

theorem ofText_intercalate (names : List String) :
    FileName.ofText ("/".intercalate names) = [slash].intercalate (names.map FileName.ofText) := by
  induction names with
  | nil => rfl
  | cons name names ih =>
    cases names with
    | nil => simp
    | cons next names =>
      rw [String.intercalate_cons_cons, ofText_append, ofText_append, ih]
      exact List.intercalate_cons_cons.symm

/-- A slash behind a base URL is a slash behind its bytes. -/
theorem baseUrl_ofBase (base : String) :
    FileName.ofText (PathTable.ofBase base).baseUrl = opened (FileName.ofText base) := by
  rw [PathTable.ofBase]
  split
  · rename_i none_
    have empty : base = "" := by simpa using none_
    rw [empty]
    rfl
  · rename_i closed
    exact (opened_closed ((Utf8.getLast?_encode marks_slash _).mpr closed)).symm
  · rename_i last open_ found
    have full : base ≠ "" := by
      rintro rfl
      cases found
    have apart : (FileName.ofText base).getLast? ≠ some slash := by
      rw [FileName.ofText, ne_eq, Utf8.getLast?_encode marks_slash, found]
      rintro ⟨⟩
      exact open_ rfl
    rw [opened_open (mt ofText_eq_nil_iff.mp full) apart, ofText_append]
    rfl

theorem isAbsolute_append {front : List UInt8} (full : front ≠ []) (back : List UInt8) :
    (Path.mk (front ++ back)).isAbsolute = (Path.mk front).isAbsolute := by
  rw [isAbsolute, isAbsolute, List.head?_append_of_ne_nil _ full]

theorem isAbsolute_opened {bytes : List UInt8} (full : bytes ≠ []) :
    (Path.mk (opened bytes)).isAbsolute = (Path.mk bytes).isAbsolute := by
  by_cases closed : bytes.getLast? = some slash
  · rw [opened_closed closed]
  · rw [opened_open full closed, isAbsolute_append full]

theorem join_relative {p : Path} (relative : p.isAbsolute = false) (base : Path) :
    base.join p = ⟨opened base.bytes ++ p.bytes⟩ := by
  rw [join, if_neg (by simp [relative]), opened]
  split
  · rfl
  · simp

theorem join_inj {base p q : Path} (relative : p.isAbsolute = false)
    (other : q.isAbsolute = false) : base.join p = base.join q ↔ p = q := by
  rw [join_relative relative, join_relative other]
  cases p
  cases q
  simp

theorem join_full {base : Path} (full : base.bytes ≠ []) (p : Path) : (base.join p).bytes ≠ [] := by
  cases absolute : p.isAbsolute with
  | true =>
    rw [join, if_pos absolute]
    intro empty
    rw [isAbsolute, empty] at absolute
    cases absolute
  | false =>
    rw [join_relative absolute]
    exact List.append_ne_nil_of_left_ne_nil (mt opened_eq_nil_iff.mp full) _

/-- It does not matter which paths are put together first. -/
theorem join_join (directory : Path) (base : List UInt8) {rest : List UInt8}
    (relative : (Path.mk rest).isAbsolute = false) :
    (directory.join ⟨base⟩).join ⟨rest⟩ = directory.join ⟨opened base ++ rest⟩ := by
  rw [join_relative relative]
  by_cases empty : base = []
  · subst empty
    rw [join_relative (p := ⟨[]⟩) rfl, opened_nil, List.nil_append, join_relative relative,
      opened_append, opened_nil, List.append_nil]
  · have start : (Path.mk (opened base ++ rest)).isAbsolute = (Path.mk base).isAbsolute := by
      rw [isAbsolute_append (mt opened_eq_nil_iff.mp empty), isAbsolute_opened empty]
    cases absolute : (Path.mk base).isAbsolute with
    | true =>
      rw [join, if_pos absolute, join, if_pos (start.trans absolute)]
    | false =>
      rw [join_relative absolute, join_relative (start.trans absolute), opened_append,
        List.append_assoc]

/-- A name of an entry in a directory. -/
structure IsName (name : FileName) : Prop where
  plain : slash ∉ name
  stands : Part.ofSegment? name = some (.named name)

instance (name : FileName) : Decidable (IsName name) :=
  decidable_of_iff (slash ∉ name ∧ Part.ofSegment? name = some (.named name))
    ⟨fun both => ⟨both.1, both.2⟩, fun isName => ⟨isName.plain, isName.stands⟩⟩

theorem isName_iff {name : FileName} :
    IsName name ↔ slash ∉ name ∧ name ≠ [] ∧ name ≠ [dot] ∧ name ≠ [dot, dot] := by
  have stands : Part.ofSegment? name = some (.named name) ↔
      name ≠ [] ∧ name ≠ [dot] ∧ name ≠ [dot, dot] := by
    unfold Part.ofSegment?
    split
    · rename_i blank
      rcases blank with rfl | rfl <;> simp
    · split <;> simp_all
  rw [← stands]
  exact ⟨fun isName => ⟨isName.plain, isName.stands⟩, fun both => ⟨both.1, both.2⟩⟩

theorem IsName.relative {name : FileName} (isName : IsName name) :
    (Path.mk name).isAbsolute = false :=
  not_isAbsolute_of_plain isName.plain

theorem IsName.full {name : FileName} (isName : IsName name) : name ≠ [] :=
  (isName_iff.mp isName).2.1

theorem IsName.join_full {name : FileName} (isName : IsName name) (base : Path) :
    (base.join ⟨name⟩).bytes ≠ [] := by
  rw [join_relative isName.relative]
  exact List.append_ne_nil_of_right_ne_nil _ isName.full

section Names

variable {base : Path} {name : FileName} (full : base.bytes ≠ []) (isName : IsName name)

include full isName

theorem isAbsolute_join_name : (base.join ⟨name⟩).isAbsolute = base.isAbsolute := by
  rw [join_relative isName.relative, isAbsolute_append (mt opened_eq_nil_iff.mp full)]
  exact isAbsolute_opened full

/-- The segments of a path before the name that is put behind it: its own, but an empty one at the
end. -/
theorem segments_join_name :
    ∃ front ≠ [], (base.segments = front ∨ base.segments = front ++ [[]]) ∧
      (base.join ⟨name⟩).segments = front ++ [name] := by
  by_cases closed : base.bytes.getLast? = some slash
  · obtain ⟨front, bytes⟩ := List.getLast?_eq_some_iff.mp closed
    refine ⟨front.splitOn slash, List.splitOn_ne_nil slash front, .inr ?_, ?_⟩
    · rw [segments, bytes, List.splitOn_append_cons_self, List.splitOn_nil]
    · rw [join_relative isName.relative, opened_closed closed, segments]
      simp only
      rw [bytes, List.append_assoc, List.singleton_append, List.splitOn_append_cons_self,
        List.splitOn_eq_singleton isName.plain]
  · refine ⟨base.segments, List.splitOn_ne_nil _ _, .inl rfl, segments_join isName.plain ?_⟩
    intro last
    rcases (Text.getLast?_splitOn slash base.bytes).mp last with empty | slash
    · exact full empty
    · exact closed slash

theorem parts_join : (base.join ⟨name⟩).parts = base.parts ++ [.named name] := by
  obtain ⟨front, some_, own, whole⟩ := segments_join_name full isName
  have heads : (base.join ⟨name⟩).segments.head? = base.segments.head? := by
    rw [whole, List.head?_append_of_ne_nil _ some_]
    rcases own with same | more
    · rw [same]
    · rw [more, List.head?_append_of_ne_nil _ some_]
  have leads : base.segments.filterMap Part.ofSegment? = front.filterMap Part.ofSegment? := by
    rcases own with same | more
    · rw [same]
    · rw [more, List.filterMap_append]
      exact List.append_nil _
  rw [parts, parts, opening, opening, isAbsolute_join_name full isName, heads, leads, whole,
    List.filterMap_append, List.filterMap_cons, isName.stands, List.append_assoc]
  rfl

end Names

end AmdBundler.Path
