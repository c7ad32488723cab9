namespace AmdBundler.Lookup

variable {κ α : Type} [BEq κ] [LawfulBEq κ]

theorem mem_of_lookup {entries : List (κ × α)} {name : κ} {value : α}
    (found : entries.lookup name = some value) : (name, value) ∈ entries := by
  obtain ⟨front, back, rfl, -⟩ := List.lookup_eq_some_iff.mp found
  exact List.mem_append_right _ List.mem_cons_self

/-- An entry is found by its name if no other one has it. -/
theorem lookup_of_mem {entries : List (κ × α)} {name : κ} {value : α}
    (apart : (entries.map Prod.fst).Nodup) (member : (name, value) ∈ entries) :
    entries.lookup name = some value := by
  obtain ⟨front, back, rfl⟩ := List.append_of_mem member
  refine List.lookup_eq_some_iff.mpr ⟨front, back, rfl, ?_⟩
  intro other before
  rw [List.map_append, List.map_cons, List.nodup_append] at apart
  have differ := apart.2.2 other.1 (List.mem_map.mpr ⟨other, before, rfl⟩) name
    List.mem_cons_self
  simpa using differ.symm

variable [DecidableEq κ]

theorem lookup_cons_eq (key head : κ) (value : α) (rest : List (κ × α)) :
    ((head, value) :: rest).lookup key = if key = head then some value else rest.lookup key := by
  by_cases h : key = head
  · simp [h]
  · simp [List.lookup_cons, beq_eq_false_iff_ne.mpr h, h]

/-- The value of one name changes, and the others keep theirs. -/
theorem lookup_update (name key : κ) (change : α → α) (entries : List (κ × α)) :
    (entries.map fun e => if e.1 = name then (name, change e.2) else e).lookup key =
      if key = name then (entries.lookup name).map change else entries.lookup key := by
  induction entries with
  | nil => simp
  | cons entry entries ih =>
    obtain ⟨head, old⟩ := entry
    rw [List.map_cons, lookup_cons_eq, lookup_cons_eq]
    by_cases atHead : head = name
    · subst atHead
      rw [if_pos rfl, lookup_cons_eq, ih]
      split <;> simp
    · have apart : name ≠ head := fun h => atHead h.symm
      rw [if_neg atHead, if_neg apart, lookup_cons_eq, ih]
      by_cases found : key = head
      · subst found
        rw [if_pos rfl, if_pos rfl, if_neg atHead]
      · rw [if_neg found, if_neg found]

theorem lookup_filter_ne (name key : κ) (entries : List (κ × α)) :
    (entries.filter fun e => e.1 ≠ name).lookup key =
      if key = name then none else entries.lookup key := by
  induction entries with
  | nil => simp
  | cons entry entries ih =>
    obtain ⟨head, value⟩ := entry
    rw [List.filter_cons]
    by_cases atHead : head = name
    · subst atHead
      rw [if_neg (by simp), ih, lookup_cons_eq]
      split <;> rfl
    · rw [if_pos (by simpa using atHead), lookup_cons_eq, lookup_cons_eq, ih]
      by_cases found : key = head
      · subst found
        rw [if_pos rfl, if_pos rfl, if_neg atHead]
      · rw [if_neg found, if_neg found]

end AmdBundler.Lookup
