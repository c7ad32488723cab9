import AmdBundler.Lookup

namespace AmdBundler

/-- Entries with strictly ascending names. -/
structure NameMap (α : Type) where
  entries : List (String × α)
  ascending : entries.Pairwise fun a b => a.1 < b.1

namespace NameMap

open Lookup

variable {α : Type}

instance [DecidableEq α] : DecidableEq (NameMap α) := fun a b =>
  decidable_of_iff (a.entries = b.entries)
    ⟨fun h => by cases a; cases b; simpa using h, fun h => h ▸ rfl⟩

def empty : NameMap α := ⟨[], .nil⟩

instance : Inhabited (NameMap α) := ⟨empty⟩

def find? (m : NameMap α) (name : String) : Option α :=
  m.entries.lookup name

def contains (m : NameMap α) (name : String) : Bool :=
  (m.find? name).isSome

def names (m : NameMap α) : List String :=
  m.entries.map Prod.fst

def size (m : NameMap α) : Nat :=
  m.entries.length

/-- Puts an entry where the order wants it, over an entry of the same name. -/
def place (name : String) (value : α) : List (String × α) → List (String × α)
  | [] => [(name, value)]
  | (key, old) :: rest =>
    if name < key then (name, value) :: (key, old) :: rest
    else if name = key then (name, value) :: rest
    else (key, old) :: place name value rest

theorem mem_place {name : String} {value : α} {l : List (String × α)} {e : String × α}
    (h : e ∈ place name value l) : e.1 = name ∨ e ∈ l := by
  induction l with
  | nil => simp [place] at h; exact .inl (h ▸ rfl)
  | cons entry rest ih =>
    obtain ⟨key, old⟩ := entry
    rw [place] at h
    split at h
    · rcases List.mem_cons.mp h with rfl | h
      · exact .inl rfl
      · exact .inr h
    · split at h
      · rcases List.mem_cons.mp h with rfl | h
        · exact .inl rfl
        · exact .inr (List.mem_cons_of_mem _ h)
      · rcases List.mem_cons.mp h with rfl | h
        · exact .inr List.mem_cons_self
        · exact (ih h).imp id (List.mem_cons_of_mem _)

theorem ascending_place {l : List (String × α)} (name : String) (value : α)
    (h : l.Pairwise fun a b => a.1 < b.1) :
    (place name value l).Pairwise fun a b => a.1 < b.1 := by
  induction l with
  | nil => simp [place]
  | cons entry rest ih =>
    obtain ⟨key, old⟩ := entry
    obtain ⟨before, tail⟩ := List.pairwise_cons.mp h
    rw [place]
    split
    · rename_i less
      refine List.pairwise_cons.mpr ⟨fun e he => ?_, h⟩
      rcases List.mem_cons.mp he with rfl | he
      · exact less
      · exact String.lt_trans less (before e he)
    · split
      · rename_i same
        exact List.pairwise_cons.mpr ⟨fun e he => same ▸ before e he, tail⟩
      · rename_i notLess notSame
        have less : key < name := by
          rcases String.le_total key name with le | le
          · exact String.not_le.mp fun ge => notSame (String.le_antisymm ge le)
          · exact absurd (String.not_le.mp fun ge => notSame (String.le_antisymm le ge)) notLess
        refine List.pairwise_cons.mpr ⟨fun e he => ?_, ih tail⟩
        rcases mem_place he with same | he
        · exact same ▸ less
        · exact before e he

/-- The last value written under a name is the one that stays. -/
def insert (m : NameMap α) (name : String) (value : α) : NameMap α :=
  ⟨place name value m.entries, ascending_place name value m.ascending⟩

def ofList (entries : List (String × α)) : NameMap α :=
  entries.foldl (fun m e => m.insert e.1 e.2) empty

theorem lookup_place (name : String) (value : α) (l : List (String × α)) (key : String) :
    (place name value l).lookup key = if key = name then some value else l.lookup key := by
  induction l with
  | nil => rw [place, lookup_cons_eq]
  | cons entry rest ih =>
    obtain ⟨head, old⟩ := entry
    rw [place]
    split
    · rw [lookup_cons_eq]
    · split
      · rename_i same
        subst same
        rw [lookup_cons_eq, lookup_cons_eq]
        split <;> rfl
      · rename_i notSame
        rw [lookup_cons_eq, lookup_cons_eq, ih]
        split
        · rename_i atHead
          rw [if_neg fun atName => notSame (atName.symm.trans atHead)]
        · rfl

@[simp] theorem find?_empty (name : String) : (empty : NameMap α).find? name = none := rfl

theorem find?_insert (m : NameMap α) (name : String) (value : α) (key : String) :
    (m.insert name value).find? key = if key = name then some value else m.find? key :=
  lookup_place name value m.entries key

@[simp] theorem find?_insert_self (m : NameMap α) (name : String) (value : α) :
    (m.insert name value).find? name = some value := by
  simp [find?_insert]

theorem find?_insert_of_ne (m : NameMap α) {name key : String} (value : α) (h : key ≠ name) :
    (m.insert name value).find? key = m.find? key := by
  simp [find?_insert, h]

/-- The value of a name is the one that its entry holds. -/
theorem mem_entries_iff {m : NameMap α} {name : String} {value : α} :
    (name, value) ∈ m.entries ↔ m.find? name = some value := by
  obtain ⟨entries, ascending⟩ := m
  simp only [find?]
  induction entries with
  | nil => simp
  | cons entry rest ih =>
    obtain ⟨head, old⟩ := entry
    obtain ⟨before, tail⟩ := List.pairwise_cons.mp ascending
    rw [List.mem_cons, lookup_cons_eq, ih tail]
    by_cases h : name = head
    · subst h
      have absent : rest.lookup name ≠ some value := fun found =>
        String.lt_irrefl name (before _ ((ih tail).mpr found))
      simp [absent, eq_comm]
    · simp [h]

theorem mem_names_iff {m : NameMap α} {name : String} :
    name ∈ m.names ↔ m.contains name = true := by
  rw [names, contains, List.mem_map, Option.isSome_iff_exists]
  constructor
  · rintro ⟨⟨key, value⟩, member, rfl⟩
    exact ⟨value, mem_entries_iff.mp member⟩
  · rintro ⟨value, found⟩
    exact ⟨(name, value), mem_entries_iff.mpr found, rfl⟩

theorem names_ascending (m : NameMap α) : m.names.Pairwise (· < ·) :=
  List.pairwise_map.mpr m.ascending

/-- Entries in ascending order are determined by which ones they are. -/
theorem eq_of_mem_iff {a b : List (String × α)} (ascendingA : a.Pairwise fun x y => x.1 < y.1)
    (ascendingB : b.Pairwise fun x y => x.1 < y.1) (members : ∀ e, e ∈ a ↔ e ∈ b) : a = b := by
  induction a generalizing b with
  | nil =>
    exact (List.eq_nil_iff_forall_not_mem.mpr fun e he => by simpa using (members e).mpr he).symm
  | cons x a ih =>
    cases b with
    | nil => exact absurd ((members x).mp List.mem_cons_self) List.not_mem_nil
    | cons y b =>
      obtain ⟨beforeA, tailA⟩ := List.pairwise_cons.mp ascendingA
      obtain ⟨beforeB, tailB⟩ := List.pairwise_cons.mp ascendingB
      have heads : x = y := by
        rcases List.mem_cons.mp ((members x).mp List.mem_cons_self) with e | inB
        · exact e
        · rcases List.mem_cons.mp ((members y).mpr List.mem_cons_self) with e | inA
          · exact e.symm
          · exact absurd (beforeB x inB) (String.lt_asymm (beforeA y inA))
      subst heads
      refine congrArg (x :: ·) (ih tailA tailB fun e => ?_)
      constructor
      · intro inA
        rcases List.mem_cons.mp ((members e).mp (List.mem_cons_of_mem _ inA)) with rfl | inB
        · exact absurd (beforeA e inA) (String.lt_irrefl _)
        · exact inB
      · intro inB
        rcases List.mem_cons.mp ((members e).mpr (List.mem_cons_of_mem _ inB)) with rfl | inA
        · exact absurd (beforeB e inB) (String.lt_irrefl _)
        · exact inA

/-- Maps that give every name the same value are the same. -/
theorem ext_find? {m n : NameMap α} (h : ∀ name, m.find? name = n.find? name) : m = n := by
  have entries : m.entries = n.entries :=
    eq_of_mem_iff m.ascending n.ascending fun (name, value) => by
      rw [mem_entries_iff, mem_entries_iff, h]
  cases m
  cases n
  cases entries
  rfl

/-- Entries with ascending names that are put in one after the other are all found, and other names
have the value that they had. -/
theorem find?_foldl_insert {l : List (String × α)} (ascending : l.Pairwise fun a b => a.1 < b.1)
    (m : NameMap α) (key : String) :
    (l.foldl (fun m e => m.insert e.1 e.2) m).find? key = (l.lookup key).or (m.find? key) := by
  induction l generalizing m with
  | nil => rfl
  | cons entry rest ih =>
    obtain ⟨head, value⟩ := entry
    obtain ⟨before, tail⟩ := List.pairwise_cons.mp ascending
    rw [List.foldl_cons, ih tail, lookup_cons_eq, find?_insert]
    by_cases here : key = head
    · subst here
      have absent : rest.lookup key = none := by
        rw [List.lookup_eq_none_iff]
        intro e member
        exact bne_iff_ne.mpr (String.ne_of_lt (before e member))
      rw [if_pos rfl, if_pos rfl, absent]
      rfl
    · rw [if_neg here, if_neg here]

/-- A map is built from its own entries. -/
theorem ofList_entries (m : NameMap α) : ofList m.entries = m := by
  apply ext_find?
  intro name
  rw [ofList, find?_foldl_insert m.ascending, find?_empty, Option.or_none]
  rfl

end NameMap

end AmdBundler
