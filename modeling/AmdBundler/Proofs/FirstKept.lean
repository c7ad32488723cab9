import AmdBundler.Module.Artifact
import Mathlib

namespace AmdBundler.BuildCache

/-- A call on a cache. -/
inductive Call where
  | keep (name : String) (artifact : Artifact)
  | find (name : String)
  | contains (name : String)
  | size
  | isEmpty
  | entries

inductive Answer where
  | kept (artifact : Artifact)
  | found (artifact? : Option Artifact)
  | holds (yes : Bool)
  | counted (number : Nat)
  | listed (entries : List (String × Artifact))

def perform (cache : BuildCache) : Call → Answer × BuildCache
  | .keep name artifact =>
    let (kept, cache) := cache.keep name artifact
    (.kept kept, cache)
  | .find name => (.found (cache.find? name), cache)
  | .contains name => (.holds (cache.contains name), cache)
  | .size => (.counted cache.size, cache)
  | .isEmpty => (.holds (cache.size == 0), cache)
  | .entries => (.listed cache.entries, cache)

def run (cache : BuildCache) : List Call → List Answer × BuildCache
  | [] => ([], cache)
  | call :: calls =>
    let (answer, cache) := perform cache call
    let (answers, cache) := run cache calls
    (answer :: answers, cache)

def Call.brings? (name : String) : Call → Option Artifact
  | .keep other artifact => if other = name then some artifact else none
  | _ => none

/-- The first artifact that calls bring for a name. -/
def first? (name : String) (calls : List Call) : Option Artifact :=
  calls.findSome? (Call.brings? name)

/-- What an answer says of the entries that the cache holds after the call. -/
def Answer.Agrees (entries : List (String × Artifact)) : Call → Answer → Prop
  | .keep name _, .kept artifact => (name, artifact) ∈ entries
  | .find name, .found artifact? =>
    ∀ artifact, artifact? = some artifact ↔ (name, artifact) ∈ entries
  | .contains name, .holds yes => yes = true ↔ name ∈ entries.map Prod.fst
  | .size, .counted number => number = entries.length
  | .isEmpty, .holds yes => yes = true ↔ entries = []
  | .entries, .listed all => all = entries
  | _, _ => False

theorem keep_fst (cache : BuildCache) (name : String) (artifact : Artifact) :
    (cache.keep name artifact).1 = (cache.find? name).getD artifact := by
  rw [keep]
  cases cache.find? name <;> rfl

theorem find?_keep (cache : BuildCache) (name other : String) (artifact : Artifact) :
    (cache.keep name artifact).2.find? other =
      if other = name then some ((cache.find? name).getD artifact) else cache.find? other := by
  split
  · rename_i same
    rw [same, find?_keep_self, keep_fst]
  · rename_i apart
    exact find?_keep_of_ne cache artifact apart

/-- Two names may be kept in either order. -/
theorem keep_comm (cache : BuildCache) {name other : String} (apart : name ≠ other)
    (a b : Artifact) :
    ((cache.keep name a).2.keep other b).2 = ((cache.keep other b).2.keep name a).2 := by
  apply NameMap.ext_find?
  intro key
  simp only [find?_keep, if_neg apart, if_neg apart.symm]
  by_cases first : key = name
  · simp [first, apart]
  · simp [first]

theorem run_append (cache : BuildCache) (front back : List Call) :
    cache.run (front ++ back) =
      ((cache.run front).1 ++ ((cache.run front).2.run back).1,
        ((cache.run front).2.run back).2) := by
  induction front generalizing cache with
  | nil => rfl
  | cons call front ih => simp [run, ih]

theorem length_answers (cache : BuildCache) (calls : List Call) :
    (cache.run calls).1.length = calls.length := by
  induction calls generalizing cache with
  | nil => rfl
  | cons call calls ih => simp [run, ih]

/-- A call fills a name that is free, and leaves all others as they are. -/
theorem find?_perform (cache : BuildCache) (call : Call) (name : String) :
    (cache.perform call).2.find? name = (cache.find? name).or (call.brings? name) := by
  cases call with
  | keep key artifact =>
    simp only [perform, Call.brings?, find?_keep]
    by_cases here : name = key
    · subst here
      cases cache.find? name <;> simp
    · have there : key ≠ name := fun same => here same.symm
      simp [here, there]
  | find | contains | size | isEmpty | entries => simp [perform, Call.brings?]

/-- A name has the artifact that it had, or else the first one that calls brought. -/
theorem find?_calls (cache : BuildCache) (calls : List Call) (name : String) :
    (cache.run calls).2.find? name = (cache.find? name).or (first? name calls) := by
  induction calls generalizing cache with
  | nil => simp [run, first?]
  | cons call calls ih =>
    simp only [run, ih, find?_perform, first?, List.findSome?_cons, Option.or_assoc]
    cases call.brings? name <;> simp

/-- Each name has one entry if an artifact was brought for it, and none otherwise. -/
theorem filter_entries (calls : List Call) (name : String) :
    (run .empty calls).2.entries.filter (·.1 == name) =
      ((first? name calls).map fun artifact => (name, artifact)).toList := by
  have found := find?_calls .empty calls name
  rw [NameMap.find?_empty, Option.none_or] at found
  apply NameMap.eq_of_mem_iff
  · exact (NameMap.ascending _).filter _
  · cases first? name calls <;> simp
  · rintro ⟨key, artifact⟩
    simp only [List.mem_filter, NameMap.mem_entries_iff, beq_iff_eq, Option.mem_toList,
      Option.map_eq_some_iff, Prod.mk.injEq]
    constructor
    · rintro ⟨kept, rfl⟩
      exact ⟨artifact, found.symm.trans kept, rfl, rfl⟩
    · rintro ⟨_, brought, rfl, rfl⟩
      exact ⟨found.trans brought, rfl⟩

/-- What a call answers is what the entries tell then. -/
theorem agrees_perform (cache : BuildCache) (call : Call) :
    (cache.perform call).1.Agrees (cache.perform call).2.entries call := by
  cases call with
  | keep name artifact => exact NameMap.mem_entries_iff.mpr (find?_keep_self cache name artifact)
  | find name => exact fun artifact => NameMap.mem_entries_iff.symm
  | contains name => exact NameMap.mem_names_iff.symm
  | size => rfl
  | isEmpty => simp [perform, Answer.Agrees, NameMap.size]
  | entries => rfl

/-- Keeping two names one after the other in either order brings the same answers and leaves the
same cache. -/
theorem run_swap (cache : BuildCache) {name other : String} (apart : name ≠ other)
    (a b : Artifact) (front back : List Call) :
    (cache.run (front ++ .keep name a :: .keep other b :: back)).2 =
        (cache.run (front ++ .keep other b :: .keep name a :: back)).2 ∧
      ∃ before p q after, before.length = front.length ∧
        (cache.run (front ++ .keep name a :: .keep other b :: back)).1 =
          before ++ p :: q :: after ∧
        (cache.run (front ++ .keep other b :: .keep name a :: back)).1 =
          before ++ q :: p :: after := by
  obtain ⟨here, there⟩ : (∀ cache : BuildCache,
      ((cache.keep other b).2.keep name a).1 = (cache.keep name a).1) ∧
      ∀ cache : BuildCache, ((cache.keep name a).2.keep other b).1 = (cache.keep other b).1 := by
    constructor <;> intro cache
    · rw [keep_fst, keep_fst, find?_keep, if_neg apart]
    · rw [keep_fst, keep_fst, find?_keep, if_neg apart.symm]
  simp only [run_append, run, perform, keep_comm _ apart a b, here, there]
  exact ⟨trivial, _, _, _, _, length_answers cache front, rfl, rfl⟩

/-- A cache under any calls. At any time its entries ascend by name, are as many as it says, and
hold one artifact for each name that was kept, the first one; every answer agrees with the entries
at that time; and two names that are kept one after the other may as well be kept the other way
round. -/
theorem calls_keep_first :
    (∀ calls : List Call, let cache := (run .empty calls).2
      cache.entries.Pairwise (fun a b => a.1 < b.1) ∧ cache.entries.length = cache.size ∧
      (∀ name, cache.entries.filter (·.1 == name) =
        ((first? name calls).map fun artifact => (name, artifact)).toList) ∧
      (∀ name artifact, cache.find? name = some artifact ↔ (name, artifact) ∈ cache.entries) ∧
      ∀ name, cache.contains name = true ↔ name ∈ cache.entries.map Prod.fst) ∧
    (∀ (front : List Call) (call : Call) (back : List Call), ∃ answer,
      (run .empty (front ++ call :: back)).1[front.length]? = some answer ∧
      answer.Agrees (run .empty (front ++ [call])).2.entries call) ∧
    ∀ (front back : List Call) (name other : String) (a b : Artifact), name ≠ other →
      (run .empty (front ++ .keep name a :: .keep other b :: back)).2 =
          (run .empty (front ++ .keep other b :: .keep name a :: back)).2 ∧
        ∃ before p q after, before.length = front.length ∧
          (run .empty (front ++ .keep name a :: .keep other b :: back)).1 =
            before ++ p :: q :: after ∧
          (run .empty (front ++ .keep other b :: .keep name a :: back)).1 =
            before ++ q :: p :: after := by
  refine ⟨?_, ?_, ?_⟩
  · intro calls
    exact ⟨NameMap.ascending _, rfl, filter_entries calls,
      fun name artifact => NameMap.mem_entries_iff.symm, fun name => NameMap.mem_names_iff.symm⟩
  · intro front call back
    have agrees := agrees_perform (run .empty front).2 call
    refine ⟨((run .empty front).2.perform call).1, ?_, ?_⟩
    · simp [run_append, run, ← length_answers .empty front]
    · simpa [run_append, run] using agrees
  · intro front back name other a b apart
    exact run_swap .empty apart a b front back

end AmdBundler.BuildCache
