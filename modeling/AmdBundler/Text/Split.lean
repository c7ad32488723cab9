namespace AmdBundler.Text

/-- What follows `start`, if the text begins with it. -/
def dropStart? {α : Type} [DecidableEq α] : (start text : List α) → Option (List α)
  | [], text => some text
  | _ :: _, [] => none
  | s :: start, c :: text => if s = c then dropStart? start text else none

def holds {α : Type} [DecidableEq α] (part : List α) : List α → Bool
  | [] => part.isEmpty
  | c :: text => (dropStart? part (c :: text)).isSome || holds part text

/-- What comes before `last`, if the text ends with it. -/
def dropEnd? {α : Type} [DecidableEq α] (last text : List α) : Option (List α) :=
  (dropStart? last.reverse text.reverse).map List.reverse

def splitFirst? {α : Type} [DecidableEq α] (mark : α) : List α → Option (List α × List α)
  | [] => none
  | c :: text =>
    if c = mark then some ([], text)
    else (splitFirst? mark text).map fun (before, after) => (c :: before, after)

def splitLast? {α : Type} [DecidableEq α] (mark : α) (text : List α) : Option (List α × List α) :=
  (splitFirst? mark text.reverse).map fun (after, before) => (before.reverse, after.reverse)

def trimEndOf {α : Type} [DecidableEq α] (mark : α) (text : List α) : List α :=
  (text.reverse.dropWhile (· = mark)).reverse

theorem dropStart?_eq_some_iff {α : Type} [DecidableEq α] {start text rest : List α} :
    dropStart? start text = some rest ↔ text = start ++ rest := by
  induction start generalizing text with
  | nil => simp [dropStart?, eq_comm]
  | cons s start ih =>
    cases text with
    | nil => simp [dropStart?]
    | cons c text =>
      by_cases h : s = c
      · simp [dropStart?, h, ih]
      · simp [dropStart?, h, Ne.symm h]

theorem dropEnd?_eq_some_iff {α : Type} [DecidableEq α] {last text before : List α} :
    dropEnd? last text = some before ↔ text = before ++ last := by
  rw [dropEnd?, Option.map_eq_some_iff]
  constructor
  · rintro ⟨back, h, rfl⟩
    have := congrArg List.reverse (dropStart?_eq_some_iff.mp h)
    simpa using this
  · rintro rfl
    exact ⟨before.reverse, dropStart?_eq_some_iff.mpr (by simp), by simp⟩

theorem splitFirst?_eq_some_iff {α : Type} [DecidableEq α] {mark : α} {text before after : List α} :
    splitFirst? mark text = some (before, after) ↔
      text = before ++ mark :: after ∧ mark ∉ before := by
  induction text generalizing before with
  | nil => simp [splitFirst?]
  | cons c text ih =>
    rw [splitFirst?]
    split
    · rename_i here
      subst here
      constructor
      · intro same
        cases same
        exact ⟨rfl, List.not_mem_nil⟩
      · rintro ⟨same, absent⟩
        cases before with
        | nil =>
          cases same
          rfl
        | cons b before => exact absurd ((List.cons.inj same).1 ▸ List.mem_cons_self) absent
    · rename_i apart
      rw [Option.map_eq_some_iff]
      constructor
      · rintro ⟨⟨front, back⟩, found, same⟩
        cases same
        obtain ⟨rfl, absent⟩ := ih.mp found
        exact ⟨rfl, by simp [absent, Ne.symm apart]⟩
      · rintro ⟨same, absent⟩
        cases before with
        | nil => exact absurd (List.cons.inj same).1 apart
        | cons b before =>
          obtain ⟨rfl, rfl⟩ := List.cons.inj same
          exact ⟨(before, after), ih.mpr ⟨rfl, fun m => absent (.tail _ m)⟩, rfl⟩

theorem splitLast?_eq_some_iff {α : Type} [DecidableEq α] {mark : α} {text before after : List α} :
    splitLast? mark text = some (before, after) ↔
      text = before ++ mark :: after ∧ mark ∉ after := by
  rw [splitLast?, Option.map_eq_some_iff]
  constructor
  · rintro ⟨⟨back, front⟩, found, same⟩
    obtain ⟨e, absent⟩ := splitFirst?_eq_some_iff.mp found
    cases same
    exact ⟨by simpa using congrArg List.reverse e, by simpa using absent⟩
  · rintro ⟨rfl, absent⟩
    exact ⟨(after.reverse, before.reverse),
      splitFirst?_eq_some_iff.mpr ⟨by simp, by simpa using absent⟩, by simp⟩

theorem splitFirst?_eq_none_iff {α : Type} [DecidableEq α] {mark : α} {text : List α} :
    splitFirst? mark text = none ↔ mark ∉ text := by
  induction text with
  | nil => simp [splitFirst?]
  | cons c text ih =>
    rw [splitFirst?]
    split
    · rename_i here
      simp [here]
    · rename_i apart
      rw [Option.map_eq_none_iff, ih, List.mem_cons, not_or]
      exact ⟨fun absent => ⟨Ne.symm apart, absent⟩, And.right⟩

theorem splitLast?_eq_none_iff {α : Type} [DecidableEq α] {mark : α} {text : List α} :
    splitLast? mark text = none ↔ mark ∉ text := by
  rw [splitLast?, Option.map_eq_none_iff, splitFirst?_eq_none_iff, List.mem_reverse]

theorem all_ne_of_not_mem {α : Type} [DecidableEq α] {mark : α} {text : List α}
    (absent : mark ∉ text) : ∀ c ∈ text, decide (c ≠ mark) = true := by
  intro c member
  exact decide_eq_true fun same => absent (same ▸ member)

theorem takeWhile_before {α : Type} [DecidableEq α] {mark : α} {before : List α}
    (absent : mark ∉ before) (after : List α) :
    (before ++ mark :: after).takeWhile (· ≠ mark) = before := by
  rw [List.takeWhile_append_of_pos (all_ne_of_not_mem absent)]
  simp

/-- Parts of both lists are joined apart, with a mark between them. -/
theorem intercalate_append {α : Type} {mark : α} {front back : List (List α)} (some : front ≠ [])
    (more : back ≠ []) :
    [mark].intercalate (front ++ back) =
      [mark].intercalate front ++ mark :: [mark].intercalate back := by
  induction front with
  | nil => exact absurd rfl some
  | cons part front ih =>
    cases front with
    | nil =>
      obtain ⟨next, back, rfl⟩ := List.exists_cons_of_ne_nil more
      rw [List.singleton_append, List.intercalate_cons_cons]
      simp
    | cons next front =>
      rw [List.cons_append, List.cons_append, List.intercalate_cons_cons, ← List.cons_append,
        ih (List.cons_ne_nil _ _), List.intercalate_cons_cons]
      simp

section SplitOn

variable {α : Type} [DecidableEq α] {mark c : α}

theorem splitOn_mark (mark : α) (text : List α) :
    (mark :: text).splitOn mark = [] :: text.splitOn mark := by
  simp [List.splitOn_cons_eq_if_modifyHead]

theorem splitOn_plain (plain : c ≠ mark) (text : List α) :
    (c :: text).splitOn mark = (text.splitOn mark).modifyHead (c :: ·) := by
  simp [List.splitOn_cons_eq_if_modifyHead, plain]

/-- A text without marks goes before the first part. -/
theorem splitOn_plain_append {plain : List α} (absent : mark ∉ plain) (text : List α) :
    (plain ++ text).splitOn mark = (text.splitOn mark).modifyHead (plain ++ ·) := by
  induction plain with
  | nil =>
    obtain ⟨part, parts, cut⟩ := List.exists_cons_of_ne_nil (List.splitOn_ne_nil mark text)
    rw [List.nil_append, cut]
    rfl
  | cons c plain ih =>
    rw [List.mem_cons, not_or] at absent
    rw [List.cons_append, splitOn_plain (Ne.symm absent.1), ih absent.2, List.modifyHead_modifyHead]
    rfl

/-- What is put into a text, if it has no mark, goes into one of its parts. -/
theorem splitOn_insert {inserted : List α} (absent : mark ∉ inserted) (front back : List α) :
    ∃ above left right below, (front ++ back).splitOn mark = above ++ (left ++ right) :: below ∧
      (front ++ inserted ++ back).splitOn mark =
        above ++ (left ++ inserted ++ right) :: below := by
  induction front with
  | nil =>
    obtain ⟨right, below, cut⟩ := List.exists_cons_of_ne_nil (List.splitOn_ne_nil mark back)
    refine ⟨[], [], right, below, cut, ?_⟩
    rw [List.nil_append, splitOn_plain_append absent, cut]
    rfl
  | cons c front ih =>
    obtain ⟨above, left, right, below, before, after⟩ := ih
    simp only [List.cons_append]
    by_cases here : c = mark
    · subst here
      exact ⟨[] :: above, left, right, below, by rw [splitOn_mark, before]; rfl,
        by rw [splitOn_mark, after]; rfl⟩
    · rw [splitOn_plain here, splitOn_plain here, before, after]
      cases above with
      | nil => exact ⟨[], c :: left, right, below, rfl, rfl⟩
      | cons part above => exact ⟨(c :: part) :: above, left, right, below, rfl, rfl⟩

theorem getLast?_splitOn (mark : α) (text : List α) :
    (text.splitOn mark).getLast? = some [] ↔ text = [] ∨ text.getLast? = some mark := by
  induction text with
  | nil => simp
  | cons c text ih =>
    by_cases single : text = []
    · by_cases here : c = mark <;> simp [List.splitOn_cons_eq_if_modifyHead, single, here]
    · obtain ⟨part, parts, cut⟩ :=
        List.exists_cons_of_ne_nil (List.splitOn_ne_nil mark text)
      rw [cut] at ih
      rw [List.getLast?_cons_of_ne_nil single]
      by_cases here : c = mark
      · subst here
        simpa [splitOn_mark, cut, single, List.getLast?_cons_cons] using ih
      · rw [splitOn_plain here, cut]
        cases parts with
        | nil =>
          have whole : text = part := by
            have joined : [mark].intercalate (text.splitOn mark) = text :=
              List.intercalate_splitOn mark
            rw [cut] at joined
            simpa [List.intercalate] using joined.symm
          simpa [single, ← whole] using ih
        | cons next parts => simpa [single, List.getLast?_cons_cons] using ih

theorem not_mem_of_mem_splitOn {text part : List α} (member : part ∈ text.splitOn mark) :
    mark ∉ part := by
  induction text generalizing part with
  | nil =>
    rw [List.splitOn_nil, List.mem_singleton] at member
    simp [member]
  | cons c text ih =>
    by_cases here : c = mark
    · subst here
      rw [splitOn_mark, List.mem_cons] at member
      rcases member with rfl | later
      · exact List.not_mem_nil
      · exact ih later
    · obtain ⟨first, parts, cut⟩ :=
        List.exists_cons_of_ne_nil (List.splitOn_ne_nil mark text)
      rw [splitOn_plain here, cut, List.modifyHead_cons, List.mem_cons] at member
      rcases member with rfl | later
      · have inside : mark ∉ first := ih (by simp [cut])
        simp [inside, Ne.symm here]
      · exact ih (by simp [cut, later])

end SplitOn

end AmdBundler.Text
