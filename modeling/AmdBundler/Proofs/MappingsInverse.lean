import AmdBundler.Proofs.MappingsDecoding
import AmdBundler.Proofs.VlqWords

namespace AmdBundler.SourceMap

theorem Segment.place_injective : Function.Injective Segment.place := by
  intro a b same
  obtain ⟨column, source, sourceLine, sourceColumn⟩ := a
  simp only [place, Place.mk.injEq, Int.natCast_inj, UInt32.toNat_inj] at same
  obtain ⟨rfl, rfl, rfl, rfl⟩ := same
  rfl

namespace Mappings

def Step.segment? : Step → Option Segment
  | .nextLine => none
  | .add s => some s

/-- The four integers that are written for `s` after the segment `last`. -/
def distances (last s : Segment) : List Int :=
  [distance last.column s.column, distance last.source s.source,
    distance last.sourceLine s.sourceLine, distance last.sourceColumn s.sourceColumn]

theorem segmentText_eq_flatMap (last s : Segment) :
    segmentText last s = (distances last s).flatMap Vlq.encode := by
  simp [segmentText, distances]

theorem distance_bounds (a b : UInt32) : -2 ^ 32 < distance a b ∧ distance a b < 2 ^ 32 := by
  have first := a.toNat_lt
  have second := b.toNat_lt
  unfold distance
  omega

theorem distances_bounds {last s : Segment} {d : Int} (member : d ∈ distances last s) :
    -2 ^ 32 < d ∧ d < 2 ^ 32 := by
  simp only [distances, List.mem_cons, List.not_mem_nil, or_false] at member
  rcases member with rfl | rfl | rfl | rfl <;> exact distance_bounds _ _

/-- Seven digits are enough for what is written, and its sign fits into a 64-bit word. -/
theorem takeDigits?_of_bounds {d : Int} (above : -2 ^ 32 < d) (below : d < 2 ^ 32) :
    Vlq.takeDigits? 7 (Vlq.foldSign (Int64.ofInt d)) = some (Vlq.encode d) := by
  have fits : Vlq.ofInt d < 32 ^ (6 + 1) := by
    unfold Vlq.ofInt
    split <;> omega
  exact Vlq.takeDigits?_foldSign (by omega) fits

theorem ofSteps_append (early late : List Step) :
    ofSteps (early ++ late) = late.foldl take (ofSteps early) :=
  List.foldl_append

theorem text_append (early late : List Step) :
    (ofSteps (early ++ late)).text =
      (ofSteps early).text ++ appended (ofSteps early).atLineStart (ofSteps early).last late := by
  rw [ofSteps_append, text_foldl]

theorem text_prefix_of_prefix {early steps : List Step} (h : early <+: steps) :
    (ofSteps early).text <+: (ofSteps steps).text := by
  obtain ⟨late, rfl⟩ := h
  rw [text_append]
  exact List.prefix_append _ _

theorem text_add (before : List Step) (s : Segment) :
    (ofSteps (before ++ [.add s])).text =
      (ofSteps before).text ++ (if (ofSteps before).atLineStart then [] else [',']) ++
        (distances (ofSteps before).last s).flatMap Vlq.encode := by
  rw [text_append, ← segmentText_eq_flatMap]
  simp [appended]

/-- The lines are what stands between the line ends. -/
theorem linesOf_eq_splitOn (steps : List Step) :
    linesOf steps = (steps.splitOn .nextLine).map fun line => line.filterMap Step.segment? := by
  induction steps with
  | nil => rfl
  | cons step steps ih =>
    rw [List.splitOn_cons_eq_if_modifyHead]
    cases step with
    | nextLine =>
      rw [linesOf, ih]
      rfl
    | add s =>
      have other : (Step.add s == Step.nextLine) = false := rfl
      rw [linesOf, ih, other]
      cases parts : steps.splitOn Step.nextLine with
      | nil => exact absurd parts (List.splitOn_ne_nil _ _)
      | cons line lines => rfl

theorem length_linesOf (steps : List Step) :
    (linesOf steps).length = steps.count .nextLine + 1 := by
  induction steps with
  | nil => rfl
  | cons step steps ih =>
    cases step with
    | nextLine => rw [linesOf, List.length_cons, ih, List.count_cons_self]
    | add s =>
      have filled := congrArg List.length (linesOf_eq steps)
      rw [linesOf, List.length_cons, List.count_cons_of_ne (by simp), ← ih]
      exact filled.symm

/-- No other steps make the same lines. -/
theorem linesOf_injective {steps others : List Step} (same : linesOf others = linesOf steps) :
    others = steps := by
  induction steps generalizing others with
  | nil =>
    cases others with
    | nil => rfl
    | cons other others =>
      rw [linesOf_eq] at same
      cases other with
      | nextLine =>
        have more : linesOf others = [] := (List.cons.inj same).2
        rw [linesOf_eq] at more
        cases more
      | add t => cases (List.cons.inj same).1
  | cons step steps ih =>
    cases others with
    | nil =>
      cases step with
      | nextLine =>
        have more : [] = linesOf steps := (List.cons.inj same).2
        rw [linesOf_eq] at more
        cases more
      | add s => cases (List.cons.inj same).1
    | cons other others =>
      cases step with
      | nextLine =>
        cases other with
        | nextLine => rw [ih (List.cons.inj same).2]
        | add t => cases (List.cons.inj same).1
      | add s =>
        cases other with
        | nextLine => cases (List.cons.inj same).1
        | add t =>
          obtain ⟨first, tails⟩ := List.cons.inj same
          obtain ⟨rfl, heads⟩ := List.cons.inj first
          have rest : linesOf others = linesOf steps := by
            rw [linesOf_eq others, linesOf_eq steps, heads, tails]
          rw [ih rest]

/-- The lines can be told from the places on them. -/
theorem linesOf_injective_places {steps others : List Step}
    (same : (linesOf others).map (·.map Segment.place) =
      (linesOf steps).map (·.map Segment.place)) : others = steps := by
  have lines : Function.Injective fun line : List Segment => line.map Segment.place :=
    List.map_injective_iff.mpr Segment.place_injective
  exact linesOf_injective (List.map_injective_iff.mpr lines same)

/-- A text of mappings has just the lines that its steps made, with the places that were put on
them; it belongs to these steps alone and starts with the texts of all runs of steps before them.
What is written for a segment are four integers of less than 33 bits, and the loop over 64-bit words
comes to the end of each of them. -/
theorem text_determines_steps (steps : List Step) :
    decodeMappings? (ofSteps steps).text =
      some ((steps.splitOn .nextLine).map fun line =>
        (line.filterMap Step.segment?).map Segment.place) ∧
    (steps.splitOn .nextLine).length = steps.count .nextLine + 1 ∧
    (∀ others, (ofSteps others).text = (ofSteps steps).text → others = steps) ∧
    (∀ k, (ofSteps (steps.take k)).text <+: (ofSteps (steps.take (k + 1))).text) ∧
    ∀ before s after, steps = before ++ .add s :: after →
      (ofSteps (before ++ [.add s])).text =
        (ofSteps before).text ++ (if (ofSteps before).atLineStart then [] else [',']) ++
          (distances (ofSteps before).last s).flatMap Vlq.encode ∧
      ∀ d ∈ distances (ofSteps before).last s, -2 ^ 32 < d ∧ d < 2 ^ 32 ∧
        Vlq.takeDigits? 7 (Vlq.foldSign (Int64.ofInt d)) = some (Vlq.encode d) := by
  have decoded := decode_ofSteps steps
  refine ⟨?_, ?_, ?_, ?_, ?_⟩
  · rw [decoded, linesOf_eq_splitOn, List.map_map]
    rfl
  · rw [← length_linesOf, linesOf_eq_splitOn, List.length_map]
  · intro others same
    rw [← same, decode_ofSteps others, Option.some_inj] at decoded
    exact linesOf_injective_places decoded
  · intro k
    exact text_prefix_of_prefix (List.take_prefix_take_left (Nat.le_succ k))
  · intro before s after _
    refine ⟨text_add before s, ?_⟩
    intro d member
    obtain ⟨above, below⟩ := distances_bounds member
    exact ⟨above, below, takeDigits?_of_bounds above below⟩

end Mappings

end AmdBundler.SourceMap
