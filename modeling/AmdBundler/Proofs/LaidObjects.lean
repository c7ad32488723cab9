import AmdBundler.Proofs.ValueSkipping
import AmdBundler.Proofs.WireRoundTrip

namespace AmdBundler.Json

/-- Members that lead from one state to another, however they are laid out. -/
inductive Accepts {σ : Type} (member : String → σ → Reader σ) : List (String × Value) → σ → σ → Prop
  | nil (state : σ) : Accepts member [] state state
  | cons {name : String} {v : Value} {members : List (String × Value)} {state next last : σ}
      (head : ∀ gap text rest, Blank gap → Laid v.marks text → Delimited rest →
        Reads (member name state) (gap ++ ':' :: text) next rest)
      (tail : Accepts member members next last) : Accepts member ((name, v) :: members) state last

theorem leads_laid {first : Bool} {text gap : List Char} (laid : Laid (comma first) text)
    (blank : Blank gap) : Codec.Leads first (text ++ gap) := by
  cases first with
  | true =>
    cases laid
    exact blank
  | false =>
    obtain ⟨front, free, rfl⟩ := laid.mark
    exact ⟨front, gap, free, blank, List.append_assoc _ _ _⟩

theorem takesIn_laid {σ : Type} {member : String → σ → Reader σ} {members : List (String × Value)}
    {state last : σ} (accepts : Accepts member members state last) {gap : List Char}
    (blank : Blank gap) (first : Bool) {text : List Char}
    (laid : Laid (separated first (membersMarks members)) text) :
    Codec.TakesIn member first (text ++ gap) state last := by
  induction accepts generalizing first text with
  | nil state =>
    cases laid
    exact .nil blank state
  | @cons name v members state next last head _ ih =>
    obtain ⟨part, others, here, behind, rfl⟩ := laid.split
    obtain ⟨lead, key, before, inside, rfl⟩ := here.split
    cases inside with
    | cons front inside =>
      cases inside with
      | cons between value =>
        have taken := Codec.TakesIn.cons (leads_laid before front)
          (fun rest => head _ _ rest between value) (ih false behind)
        simpa using taken

/-- A value of one mark may be laid out in any way. -/
theorem reads_laid {α : Type} {codec : Codec α} (faithful : codec.Faithful) (x : α)
    {text : List Char} (laid : Laid [codec.write x] text) {rest : List UInt8}
    (delimited : Delimited rest) : Reads codec.read text x rest := by
  obtain ⟨gap, blank, rfl⟩ := laid.mark
  exact (faithful.reads x rest delimited).behind faithful.passes blank

theorem laid_flatMap {gap : List Char} (blank : Blank gap) (marks : List (List Char)) :
    Laid marks (marks.flatMap (gap ++ ·)) := by
  induction marks with
  | nil => exact .nil
  | cons mark marks ih => exact .cons blank ih

theorem accepts_entries (entries : List (String × String)) (m : NameMap String) :
    Accepts (Codec.readEntry .string) (entries.map fun e => (e.1, .text e.2)) m
      (entries.foldl (fun m e => m.insert e.1 e.2) m) := by
  induction entries generalizing m with
  | nil => exact .nil m
  | cons e entries ih =>
    refine .cons ?_ (ih _)
    intro gap text rest blank laid delimited
    exact Codec.reads_entry blank (reads_laid Codec.faithful_string e.2 laid delimited) m

/-- A map may be laid out in any way. -/
theorem reads_laid_map (m : NameMap String) {text : List Char}
    (laid : Laid (Value.object (m.entries.map fun e => (e.1, .text e.2))).marks text)
    (rest : List UInt8) : Reads (Codec.nameMap .string).read text m rest := by
  obtain ⟨gap, inside, last, blank, free, members, rfl⟩ := laid.enclosed
  have taken := takesIn_laid (accepts_entries m.entries .empty) free true members
  rw [show m.entries.foldl (fun m e => m.insert e.1 e.2) .empty = m from
    NameMap.ofList_entries m] at taken
  have faithful := Codec.faithful_nameMap Codec.faithful_string
  exact (Codec.reads_nameMap taken rest).behind faithful.passes blank

/-- A member that a record does not know changes nothing. -/
theorem reads_unknown {α : Type} {r : Record α} {key : String}
    (unknown : r.fields.find? (·.name == key) = none) (v : Value) (state : α × List String)
    {gap text : List Char} {rest : List UInt8} (blank : Blank gap) (laid : Laid v.marks text)
    (delimited : Delimited rest) :
    Reads (r.readMember key state) (gap ++ ':' :: text) state rest := by
  intro offset
  obtain ⟨behind, colon⟩ := Codec.expectColon_written blank text offset rest
  obtain ⟨after, skipped⟩ := skipValue_laid v laid behind delimited
  refine ⟨after, ?_⟩
  rw [Record.readMember, unknown]
  simp only [colon, skipped]
  rfl

end AmdBundler.Json
