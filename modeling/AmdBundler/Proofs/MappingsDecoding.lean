import AmdBundler.SourceMap.Decode
import Mathlib

namespace AmdBundler.SourceMap

theorem Vlq.digits_letters (n : Nat) :
    digits n ≠ [] ∧ ∀ c ∈ digits n, ∃ d < 64, c = Base64.digit d := by
  induction n using Nat.strongRecOn with
  | ind n ih =>
    rw [digits]
    split
    · rename_i small
      refine ⟨List.cons_ne_nil _ _, ?_⟩
      intro c member
      exact ⟨n, by omega, List.mem_singleton.mp member⟩
    · rename_i large
      refine ⟨List.cons_ne_nil _ _, ?_⟩
      intro c member
      rcases List.mem_cons.mp member with rfl | later
      · exact ⟨n % 32 + 32, by omega, rfl⟩
      · exact (ih (n / 32) (by omega)).2 c later

namespace Mappings

theorem segmentText_ne_nil (last s : Segment) : segmentText last s ≠ [] := by
  have first := (Vlq.digits_letters (Vlq.ofInt (distance last.column s.column))).1
  simp [segmentText, Vlq.encode, first]

theorem segmentText_letters {last s : Segment} {c : Char} (member : c ∈ segmentText last s) :
    ∃ d < 64, c = Base64.digit d := by
  simp only [segmentText, Vlq.encode, List.mem_append] at member
  rcases member with ((member | member) | member) | member <;>
    exact (Vlq.digits_letters _).2 c member

/-- The segments on each line; there is always a first line. -/
def linesOf : List Step → List (List Segment)
  | [] => [[]]
  | .nextLine :: steps => [] :: linesOf steps
  | .add s :: steps => (s :: (linesOf steps).headD []) :: (linesOf steps).tail

/-- What the steps append to a text. -/
def appended (atLineStart : Bool) (last : Segment) : List Step → List Char
  | [] => []
  | .nextLine :: steps => ';' :: appended true { last with column := 0 } steps
  | .add s :: steps =>
    (if atLineStart then [] else [',']) ++ segmentText last s ++ appended false s steps

theorem text_foldl (steps : List Step) : ∀ m : Mappings,
    (steps.foldl take m).text = m.text ++ appended m.atLineStart m.last steps := by
  induction steps with
  | nil => exact fun m => (List.append_nil _).symm
  | cons step steps ih =>
    intro m
    rw [List.foldl_cons, ih (m.take step)]
    cases step with
    | nextLine => simp [take, nextLine, text, appended]
    | add s => simp [take, add, text, appended]

def segmentTexts (last : Segment) : List Segment → List (List Char)
  | [] => []
  | s :: line => segmentText last s :: segmentTexts s line

def lastOf (last : Segment) (line : List Segment) : Segment :=
  { line.getLastD last with column := 0 }

/-- The texts of lines that go on after `last`. -/
def lineTexts (last : Segment) : List (List Segment) → List (List Char)
  | [] => []
  | line :: lines =>
    [','].intercalate (segmentTexts last line) :: lineTexts (lastOf last line) lines

theorem intercalate_cons (mark : Char) (part : List Char) (parts : List (List Char)) :
    [mark].intercalate (part :: parts) = part ++ parts.flatMap (mark :: ·) := by
  induction parts generalizing part with
  | nil => simp
  | cons next parts ih => simp [List.intercalate_cons_cons, ih next]

theorem mem_of_mem_intercalate {mark c : Char} {parts : List (List Char)}
    (member : c ∈ [mark].intercalate parts) : (∃ part ∈ parts, c ∈ part) ∨ c = mark := by
  cases parts with
  | nil => cases member
  | cons part parts =>
    rw [intercalate_cons, List.mem_append, List.mem_flatMap] at member
    rcases member with first | ⟨next, later, inside⟩
    · exact .inl ⟨part, List.mem_cons_self, first⟩
    · rcases List.mem_cons.mp inside with rfl | found
      · exact .inr rfl
      · exact .inl ⟨next, List.mem_cons_of_mem _ later, found⟩

theorem linesOf_eq (steps : List Step) :
    linesOf steps = (linesOf steps).headD [] :: (linesOf steps).tail := by
  cases steps with
  | nil => rfl
  | cons step steps => cases step <;> rfl

/-- What is appended ends the current line and goes on with the others. -/
theorem appended_eq (steps : List Step) : ∀ atLineStart last,
    appended atLineStart last steps =
      (if atLineStart then [','].intercalate (segmentTexts last ((linesOf steps).headD []))
        else (segmentTexts last ((linesOf steps).headD [])).flatMap (',' :: ·)) ++
      (lineTexts (lastOf last ((linesOf steps).headD [])) (linesOf steps).tail).flatMap
        (';' :: ·) := by
  induction steps with
  | nil =>
    intro atLineStart last
    cases atLineStart <;> rfl
  | cons step steps ih =>
    intro atLineStart last
    cases step with
    | nextLine =>
      have rest : appended true (lastOf last []) steps =
          [','].intercalate (segmentTexts (lastOf last []) ((linesOf steps).headD [])) ++ _ :=
        ih true (lastOf last [])
      -- The line before the step has ended, so the first line of the rest stands behind a mark.
      have ended : (linesOf (.nextLine :: steps)).headD [] = [] := rfl
      have opened : (linesOf (.nextLine :: steps)).tail =
          (linesOf steps).headD [] :: (linesOf steps).tail := linesOf_eq steps
      rw [ended, opened, lineTexts, List.flatMap_cons, List.cons_append, ← rest]
      cases atLineStart <;> rfl
    | add s =>
      have same : lastOf last (s :: (linesOf steps).headD []) =
          lastOf s ((linesOf steps).headD []) := by
        rw [lastOf, List.getLastD_cons]
        rfl
      have rest := ih false s
      rw [appended, rest]
      simp only [linesOf, List.headD_cons, List.tail_cons, segmentTexts, same, intercalate_cons]
      cases atLineStart <;> simp

theorem text_ofSteps (steps : List Step) :
    (ofSteps steps).text = [';'].intercalate (lineTexts empty.last (linesOf steps)) := by
  rw [ofSteps, text_foldl, appended_eq, linesOf_eq, lineTexts, intercalate_cons]
  rfl

theorem ofText?_segmentText (last s : Segment) :
    Place.ofText? last.place (segmentText last s) = some s.place := by
  have close := Vlq.read?_encode (distance last.sourceColumn s.sourceColumn) []
  rw [List.append_nil] at close
  have arrive (a b : UInt32) : (a.toNat : Int) + distance a b = b.toNat := by
    rw [distance]
    omega
  have ended : (guard (([] : List Char).isEmpty = true) : Option Unit) = some () := rfl
  simp only [Place.ofText?, segmentText, List.append_assoc, Vlq.read?_encode, Option.bind_some,
    Option.bind_eq_bind, close, ended, Segment.place, arrive]
  rfl

theorem ofSegments?_segmentTexts (line : List Segment) : ∀ last : Segment,
    Place.ofSegments? last.place (segmentTexts last line) =
      some (line.map Segment.place, (line.getLastD last).place) := by
  induction line with
  | nil => exact fun last => rfl
  | cons s line ih =>
    intro last
    rw [segmentTexts, Place.ofSegments?, ofText?_segmentText]
    simp only [Option.bind_some, Option.bind_eq_bind]
    rw [ih s, List.getLastD_cons]
    rfl

theorem mem_segmentTexts {line : List Segment} {last : Segment} {text : List Char}
    (member : text ∈ segmentTexts last line) :
    ∃ before s, text = segmentText before s := by
  induction line generalizing last with
  | nil => cases member
  | cons s line ih =>
    rcases List.mem_cons.mp member with rfl | later
    · exact ⟨last, s, rfl⟩
    · exact ih later

theorem comma_not_mem {line : List Segment} {last : Segment} :
    ∀ text ∈ segmentTexts last line, ',' ∉ text := by
  have check : ∀ d < 64, ',' ≠ Base64.digit d := by decide
  intro text member found
  obtain ⟨before, s, rfl⟩ := mem_segmentTexts member
  obtain ⟨d, small, digit⟩ := segmentText_letters found
  exact check d small digit

theorem ofLine?_segmentTexts (last : Segment) (line : List Segment) :
    Place.ofLine? last.place ([','].intercalate (segmentTexts { last with column := 0 } line)) =
      some (line.map Segment.place, (line.getLastD { last with column := 0 }).place) := by
  have start : ({ last.place with column := 0 } : Place) =
      ({ last with column := 0 } : Segment).place := rfl
  rw [Place.ofLine?]
  rw [start]
  cases line with
  | nil => rfl
  | cons s line =>
    have there : ([','].intercalate
        (segmentTexts { last with column := 0 } (s :: line))).isEmpty = false := by
      rw [segmentTexts, intercalate_cons, List.isEmpty_eq_false_iff]
      exact List.append_ne_nil_of_left_ne_nil (segmentText_ne_nil _ s) _
    rw [there]
    simp only [Bool.false_eq_true, if_false]
    rw [List.splitOn_intercalate ',' comma_not_mem (by simp [segmentTexts]),
      ofSegments?_segmentTexts]

theorem ofLines?_lineTexts (lines : List (List Segment)) : ∀ last : Segment,
    Place.ofLines? last.place (lineTexts { last with column := 0 } lines) =
      some (lines.map fun line => line.map Segment.place) := by
  induction lines with
  | nil => exact fun last => rfl
  | cons line lines ih =>
    intro last
    have rest := ih (line.getLastD { last with column := 0 })
    rw [lineTexts, Place.ofLines?, ofLine?_segmentTexts]
    simp only [Option.bind_some, Option.bind_eq_bind]
    rw [lastOf, rest]
    rfl

theorem mem_lineTexts {lines : List (List Segment)} : ∀ {last : Segment} {text : List Char},
    text ∈ lineTexts last lines → ∀ c ∈ text, c = ',' ∨ ∃ d < 64, c = Base64.digit d := by
  induction lines with
  | nil =>
    intro last text member
    cases member
  | cons line lines ih =>
    intro last text member c found
    rcases List.mem_cons.mp member with rfl | later
    · rcases mem_of_mem_intercalate found with ⟨part, m, inside⟩ | mark
      · obtain ⟨before, s, rfl⟩ := mem_segmentTexts m
        exact .inr (segmentText_letters inside)
      · exact .inl mark
    · exact ih later c found

/-- A text of mappings is made of separators and base64 digits. -/
theorem mem_text_ofSteps {steps : List Step} {c : Char} (member : c ∈ (ofSteps steps).text) :
    c = ';' ∨ c = ',' ∨ ∃ d < 64, c = Base64.digit d := by
  rw [text_ofSteps] at member
  rcases mem_of_mem_intercalate member with ⟨line, m, inside⟩ | mark
  · exact .inr (mem_lineTexts m c inside)
  · exact .inl mark

/-- A text of mappings has just the lines that its steps made, with the places that were put on
them. -/
theorem decode_ofSteps (steps : List Step) :
    decodeMappings? (ofSteps steps).text =
      some ((linesOf steps).map fun line => line.map Segment.place) := by
  have filled : lineTexts empty.last (linesOf steps) ≠ [] := by
    rw [linesOf_eq, lineTexts]
    exact List.cons_ne_nil _ _
  have closed : ∀ text ∈ lineTexts empty.last (linesOf steps), ';' ∉ text := by
    have check : ∀ d < 64, ';' ≠ Base64.digit d := by decide
    intro text member found
    rcases mem_lineTexts member ';' found with comma | ⟨d, small, digit⟩
    · cases comma
    · exact check d small digit
  rw [decodeMappings?, text_ofSteps, List.splitOn_intercalate ';' closed filled]
  exact ofLines?_lineTexts (linesOf steps) empty.last

end Mappings

end AmdBundler.SourceMap
