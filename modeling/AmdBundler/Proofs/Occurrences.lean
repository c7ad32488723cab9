import AmdBundler.Text.Split
import Mathlib

namespace AmdBundler.Text

variable {α : Type}

/-- The text goes on with `part` behind `before`, and nowhere earlier. -/
structure FirstAt (part text before after : List α) : Prop where
  cut : text = before ++ part ++ after
  first : ∀ front back, text = front ++ part ++ back → before.length ≤ front.length

/-- The text goes on with `part` behind `before`, and nowhere later. -/
structure LastAt (part text before after : List α) : Prop where
  cut : text = before ++ part ++ after
  last : ∀ front back, text = front ++ part ++ back → front.length ≤ before.length

theorem exists_firstAt {part text front back : List α} (cut : text = front ++ part ++ back) :
    ∃ before after, FirstAt part text before after := by
  classical
  have somewhere : ∃ n before after, text = before ++ part ++ after ∧ before.length = n :=
    ⟨_, front, back, cut, rfl⟩
  obtain ⟨before, after, here, least⟩ := Nat.find_spec somewhere
  refine ⟨before, after, here, ?_⟩
  intro front back cut
  rw [least]
  exact Nat.find_min' somewhere ⟨front, back, cut, rfl⟩

/-- A place that is not in the front of a text is one in the rest of it. -/
theorem exists_behind {part passed rest front back : List α}
    (cut : passed ++ rest = front ++ part ++ back) (within : passed.length ≤ front.length) :
    ∃ more, front = passed ++ more ∧ rest = more ++ part ++ back := by
  rw [List.append_assoc] at cut
  obtain ⟨more, rfl⟩ := List.prefix_of_prefix_length_le ⟨rest, rfl⟩ ⟨part ++ back, cut.symm⟩ within
  rw [List.append_assoc, List.append_cancel_left_eq] at cut
  exact ⟨more, rfl, by rw [cut, List.append_assoc]⟩

theorem cut_at_mark {mark : α} {part before after front back : List α} (apart : mark ∉ part)
    (cut : before ++ mark :: after = front ++ part ++ back) :
    (∃ more, before = front ++ part ++ more) ∨
      ∃ more, front = before ++ mark :: more ∧ after = more ++ part ++ back := by
  rcases List.append_eq_append_iff.mp cut with ⟨gap, reaches, rest⟩ | ⟨more, here, -⟩
  · cases gap with
    | nil => exact .inl ⟨[], by simpa using reaches.symm⟩
    | cons c gap =>
      obtain ⟨rfl, rfl⟩ := List.cons.inj rest
      rcases List.append_eq_append_iff.mp reaches with ⟨more, -, across⟩ | ⟨more, start, across⟩
      · exact absurd (across ▸ by simp) apart
      · cases more with
        | nil =>
          rw [List.nil_append] at across
          exact absurd (across ▸ List.mem_cons_self) apart
        | cons d more =>
          obtain ⟨rfl, rfl⟩ := List.cons.inj across
          exact .inr ⟨more, start, rfl⟩
  · exact .inl ⟨more, here⟩

/-- A part does not start in a text without its first character. -/
theorem length_le_of_plain {c : α} {letters plain text front back : List α} (absent : c ∉ plain)
    (cut : plain ++ text = front ++ (c :: letters) ++ back) : plain.length ≤ front.length := by
  by_contra short
  have long : plain <+: front ++ (c :: letters) ++ back := ⟨text, cut⟩
  have start : front ++ [c] <+: front ++ (c :: letters) ++ back := ⟨letters ++ back, by simp⟩
  have inside := List.prefix_of_prefix_length_le start long (by simp; omega)
  exact absent (inside.subset (by simp))

/-- A part does not reach across its own first character. -/
theorem prefix_append_iff {c : α} {letters : List α} (apart : c ∉ letters) (d : α)
    (before after : List α) :
    c :: letters <+: d :: before ++ c :: after ↔ c :: letters <+: d :: before := by
  constructor
  · intro long
    by_cases short : (c :: letters).length ≤ (d :: before).length
    · exact List.prefix_of_prefix_length_le long (List.prefix_append _ _) short
    · obtain ⟨more, same⟩ := List.prefix_of_prefix_length_le
        (List.prefix_append (d :: before) (c :: after)) long (by omega)
      cases more with
      | nil =>
        rw [List.append_nil] at same
        exact absurd (congrArg List.length same) (by omega)
      | cons e more =>
        rw [← same, List.prefix_append_right_inj] at long
        obtain ⟨rfl, -⟩ := List.cons_prefix_cons.mp long
        obtain ⟨-, rfl⟩ := List.cons.inj same
        exact absurd (List.mem_append_right before List.mem_cons_self) apart
  · intro here
    exact here.trans (List.prefix_append _ _)

section Counting

variable [DecidableEq α] {c : α} {letters : List α}

/-- The number of places where the text goes on with `part`. -/
def occurrences (part text : List α) : Nat :=
  text.tails.countP part.isPrefixOf

theorem occurrences_cons (part : List α) (d : α) (text : List α) :
    occurrences part (d :: text) =
      occurrences part text + if part <+: d :: text then 1 else 0 := by
  rw [occurrences, List.tails, List.countP_cons]
  simp only [List.isPrefixOf_iff_prefix]
  rfl

theorem occurrences_nil : occurrences (c :: letters) [] = 0 := by
  simp [occurrences]

/-- Without its first character, a text does not go on with the part. -/
theorem occurrences_plain_append {plain : List α} (absent : c ∉ plain) (text : List α) :
    occurrences (c :: letters) (plain ++ text) = occurrences (c :: letters) text := by
  induction plain with
  | nil => rfl
  | cons d plain ih =>
    rw [List.mem_cons, not_or] at absent
    have elsewhere : ¬c :: letters <+: d :: (plain ++ text) := fun here =>
      absent.1 (List.cons_prefix_cons.mp here).1
    rw [List.cons_append, occurrences_cons, if_neg elsewhere, Nat.add_zero]
    exact ih absent.2

theorem occurrences_plain {plain : List α} (absent : c ∉ plain) :
    occurrences (c :: letters) plain = 0 := by
  calc occurrences (c :: letters) plain
      = occurrences (c :: letters) (plain ++ []) := by rw [List.append_nil]
    _ = occurrences (c :: letters) [] := occurrences_plain_append absent []
    _ = 0 := occurrences_nil

theorem occurrences_append (apart : c ∉ letters) (before after : List α) :
    occurrences (c :: letters) (before ++ c :: after) =
      occurrences (c :: letters) before + occurrences (c :: letters) (c :: after) := by
  induction before with
  | nil => rw [List.nil_append, occurrences_nil, Nat.zero_add]
  | cons d before ih =>
    rw [List.cons_append, occurrences_cons, occurrences_cons, ih, ← List.cons_append]
    simp only [prefix_append_iff apart]
    omega

/-- The places in a text are those before one of them, that one, and those behind it. -/
theorem occurrences_cut (apart : c ∉ letters) (before after : List α) :
    occurrences (c :: letters) (before ++ (c :: letters) ++ after) =
      occurrences (c :: letters) before + 1 + occurrences (c :: letters) after := by
  have here : c :: letters <+: c :: (letters ++ after) := ⟨after, rfl⟩
  rw [List.append_assoc, List.cons_append, occurrences_append apart, occurrences_cons, if_pos here,
    occurrences_plain_append apart]
  omega

/-- A place behind which there is no other one is the last. -/
theorem lastAt_of_occurrences (apart : c ∉ letters) {before after : List α}
    (none_ : occurrences (c :: letters) after = 0) :
    LastAt (c :: letters) (before ++ (c :: letters) ++ after) before after := by
  refine ⟨rfl, ?_⟩
  intro front back cut
  by_contra later
  rw [List.append_assoc] at cut
  obtain ⟨more, rfl, behind⟩ := exists_behind cut (by omega)
  cases more with
  | nil => simp at later
  | cons d more =>
    -- What follows the first character of the part is free of it, so the later place is in `after`.
    replace behind : letters ++ after = more ++ (c :: letters) ++ back :=
      (List.cons.inj behind).2
    have counted := occurrences_cut apart more back
    rw [← behind, occurrences_plain_append apart, none_] at counted
    omega

end Counting

section LastPlace

variable [DecidableEq α]

/-- The text before the last place of `part`, and the text behind it. -/
def splitLastAt? (part : List α) : List α → Option (List α × List α)
  | [] => none
  | c :: text =>
    match splitLastAt? part text with
    | some (before, after) => some (c :: before, after)
    | none => (dropStart? part (c :: text)).map fun after => ([], after)

theorem cut_of_splitLastAt? {part text before after : List α}
    (found : splitLastAt? part text = some (before, after)) : text = before ++ part ++ after := by
  induction text generalizing before with
  | nil => cases found
  | cons c text ih =>
    rw [splitLastAt?] at found
    split at found
    · rename_i later
      cases found
      rw [ih later, List.cons_append, List.cons_append]
    · obtain ⟨rest, start, same⟩ := Option.map_eq_some_iff.mp found
      cases same
      exact dropStart?_eq_some_iff.mp start

theorem splitLastAt?_of_lastAt {part text before after : List α} (full : part ≠ [])
    (place : LastAt part text before after) : splitLastAt? part text = some (before, after) := by
  induction text generalizing before with
  | nil => exact absurd place.cut (by simp [full])
  | cons c text ih =>
    rw [splitLastAt?]
    cases before with
    | nil =>
      cases later : splitLastAt? part text with
      | some parts =>
        have cut := congrArg (c :: ·) (cut_of_splitLastAt? later)
        exact absurd (place.last (c :: parts.1) parts.2 cut) (by simp)
      | none =>
        have start : dropStart? part (c :: text) = some after :=
          dropStart?_eq_some_iff.mpr (by simpa using place.cut)
        simp [start]
    | cons d before =>
      obtain ⟨rfl, cut⟩ := List.cons.inj place.cut
      have inside : LastAt part text before after := by
        refine ⟨cut, ?_⟩
        intro front back same
        have := place.last (c :: front) back (by rw [same]; rfl)
        simpa using this
      rw [ih inside]

end LastPlace

end AmdBundler.Text
