import AmdBundler.Proofs.RegistryRun

namespace AmdBundler

namespace Transformer

/-- The artifact of a module that nothing was loaded before. -/
def makeAlone (t : Transformer) (w : Surroundings) (paths : PathTable) (name : String) :
    Except TransformError Artifact :=
  (t.make w.services name (.ofPaths paths)).1

/-- The state of a run over `paths` whose cache holds nothing but artifacts made alone. -/
structure MadeAlone (t : Transformer) (w : Surroundings) (paths : PathTable)
    (state : BuildCache × Registry) : Prop where
  samePaths : state.2.paths = paths
  kept : ∀ name artifact, state.1.find? name = some artifact →
    t.makeAlone w paths name = .ok artifact

theorem madeAlone_start (t : Transformer) (w : Surroundings) (paths : PathTable) :
    t.MadeAlone w paths (.empty, .ofPaths paths) :=
  ⟨rfl, by simp⟩

theorem load_alone (t : Transformer) (w : Surroundings) (paths : PathTable) (name : String) :
    (t.load w.services false name (.empty, .ofPaths paths)).1 =
      (t.makeAlone w paths name).map fun artifact =>
        ⟨⟨name, artifact.text⟩, artifact, false⟩ := by
  unfold makeAlone
  have made := t.make_registry w name (.ofPaths paths)
  cases h : (t.make w.services name (.ofPaths paths)).1 with
  | error e =>
    change _ = ((t.make w.services name (.ofPaths paths)).1, _) at made
    rw [h] at made
    rw [load_failed (by simp) made]
    rfl
  | ok artifact =>
    change _ = ((t.make w.services name (.ofPaths paths)).1, _) at made
    rw [h] at made
    rw [load_made (by simp) made, handOver, register_registry]
    rfl

/-- A load for a build keeps, of its module, what is made alone, and succeeds if there is such. -/
theorem perform_madeAlone {t : Transformer} {w : Surroundings} {paths : PathTable}
    {state : BuildCache × Registry} (h : t.MadeAlone w paths state) (name : String) :
    t.MadeAlone w paths (t.perform (RegistryLoad.mk w true name).request state).exit ∧
      (t.perform (RegistryLoad.mk w true name).request state).succeeded =
        (t.makeAlone w paths name).isOk ∧
      ∀ other, (t.perform (RegistryLoad.mk w true name).request state).exit.1.find? other =
        if other = name then (t.makeAlone w paths name).toOption else state.1.find? other := by
  obtain ⟨cache, r⟩ := state
  obtain ⟨rfl, kept⟩ := h
  have made := t.make_registry w name r
  change _ = (t.makeAlone w r.paths name, r) at made
  have loaded : (t.perform (RegistryLoad.mk w true name).request (cache, r)).result =
        (t.load w.services true name (cache, r)).1 ∧
      (t.perform (RegistryLoad.mk w true name).request (cache, r)).exit =
        (t.load w.services true name (cache, r)).2 := ⟨rfl, rfl⟩
  -- A load that keeps nothing new leaves the cache as the statement wants it.
  have still (kept? : Option Artifact) (same : cache.find? name = kept?) (other : String) :
      cache.find? other = if other = name then kept? else cache.find? other := by
    by_cases here : other = name
    · rw [if_pos here, here, same]
    · rw [if_neg here]
  unfold LoadStep.succeeded
  rw [loaded.1, loaded.2]
  cases found : cache.find? name with
  | some artifact =>
    have alone := kept name artifact found
    rw [load_kept found, handOver, register_registry, alone]
    exact ⟨⟨rfl, kept⟩, rfl, still (some artifact) found⟩
  | none =>
    have fresh : true = true → cache.find? name = none := fun _ => found
    cases alone : t.makeAlone w r.paths name with
    | error e =>
      rw [alone] at made
      rw [load_failed fresh made]
      exact ⟨⟨rfl, kept⟩, rfl, still none found⟩
    | ok artifact =>
      rw [alone] at made
      rw [load_made fresh made, handOver, register_registry, if_pos rfl]
      refine ⟨⟨rfl, ?_⟩, rfl, fun other => NameMap.find?_insert cache name artifact other⟩
      intro other held hold
      rw [NameMap.find?_insert] at hold
      by_cases same : other = name
      · subst other
        rw [if_pos rfl] at hold
        cases hold
        exact alone
      · rw [if_neg same] at hold
        exact kept other held hold

def buildRequests (w : Surroundings) (names : List String) : List (LoadRequest Registry) :=
  names.map fun name => (RegistryLoad.mk w true name).request

/-- After a build the cache holds, of the modules that were asked for, those that can be made. -/
theorem find?_run_build {t : Transformer} {w : Surroundings} {paths : PathTable}
    {state : BuildCache × Registry} (h : t.MadeAlone w paths state) (names : List String)
    (name : String) :
    (t.run (buildRequests w names) state).1.find? name =
      if name ∈ names then (t.makeAlone w paths name).toOption else state.1.find? name := by
  induction names generalizing state with
  | nil => simp [buildRequests]
  | cons head names ih =>
    obtain ⟨next, -, found⟩ := perform_madeAlone h head
    have others := ih next
    change (t.run (buildRequests w names)
      (t.perform (RegistryLoad.mk w true head).request state).exit).1.find? name = _
    rw [others, found]
    by_cases later : name ∈ names
    · simp [later]
    · by_cases here : name = head
      · simp [here]
      · simp [later, here]

theorem succeeded_of_mem_history {t : Transformer} {w : Surroundings} {paths : PathTable}
    {state : BuildCache × Registry} (h : t.MadeAlone w paths state) (names : List String)
    (name : String) :
    (∃ step ∈ t.history (buildRequests w names) state,
        step.request.name = name ∧ step.succeeded = true) ↔
      name ∈ names ∧ (t.makeAlone w paths name).isOk = true := by
  induction names generalizing state with
  | nil => simp [buildRequests, history]
  | cons head names ih =>
    obtain ⟨next, succeeded, -⟩ := perform_madeAlone h head
    have others := ih next
    change (∃ step ∈ t.perform (RegistryLoad.mk w true head).request state ::
      t.history (buildRequests w names) (t.perform (RegistryLoad.mk w true head).request state).exit,
        step.request.name = name ∧ step.succeeded = true) ↔ _
    simp only [List.mem_cons, or_and_right, exists_or, exists_eq_left]
    rw [others, succeeded, perform_request]
    constructor
    · rintro (⟨rfl, made⟩ | ⟨member, made⟩)
      · exact .inl ⟨rfl, made⟩
      · exact .inr ⟨member, made⟩
    · rintro (⟨rfl, made⟩ | ⟨member, made⟩)
      · exact .inl ⟨rfl, made⟩
      · exact .inr ⟨member, made⟩

/-- What a build keeps hangs on which modules it asks for, not on how. -/
theorem run_build_congr (t : Transformer) (w : Surroundings) (paths : PathTable)
    {names others : List String} (same : ∀ name, name ∈ others ↔ name ∈ names) :
    (t.run (buildRequests w others) (.empty, .ofPaths paths)).1 =
      (t.run (buildRequests w names) (.empty, .ofPaths paths)).1 := by
  apply NameMap.ext_find?
  intro name
  have start := t.madeAlone_start w paths
  rw [find?_run_build start, find?_run_build start]
  simp only [same]

end Transformer

namespace BuildCache

variable (cache : BuildCache) (plugin : String)

def bundled (name text : String) : String × String :=
  (bundleId plugin name, nameAnonymousDefine (bundleId plugin name) text)

theorem modules_writeAll (bundle : Bundle) :
    (cache.writeAll plugin bundle).modules =
      bundle.modules ++ cache.entries.map fun entry => bundled plugin entry.1 entry.2.text := by
  unfold writeAll
  generalize cache.entries = entries
  induction entries generalizing bundle with
  | nil => simp
  | cons entry entries ih =>
    rw [List.foldl_cons, ih, List.map_cons]
    simp [Bundle.write, bundled]

theorem write_eq (name : String) (bundle : Bundle) :
    cache.write plugin name bundle = match cache.find? name with
      | some artifact => (true, ⟨bundle.modules ++ [bundled plugin name artifact.text]⟩)
      | none => (false, bundle) := by
  unfold write
  cases cache.find? name <;> rfl

/-- Writing the modules one by one, in the order of their names, is writing them all. -/
theorem foldl_write (bundle : Bundle) :
    cache.names.foldl (fun bundle name => (cache.write plugin name bundle).2) bundle =
      cache.writeAll plugin bundle := by
  unfold writeAll NameMap.names
  rw [List.foldl_map]
  have found : ∀ entry ∈ cache.entries, cache.find? entry.1 = some entry.2 :=
    fun entry member => NameMap.mem_entries_iff.mp member
  generalize cache.entries = entries at found
  induction entries generalizing bundle with
  | nil => rfl
  | cons entry entries ih =>
    rw [List.foldl_cons, List.foldl_cons, write, found entry List.mem_cons_self]
    exact ih _ fun other member => found other (List.mem_cons_of_mem _ member)

end BuildCache

theorem closeModule_eq (text : List Char) :
    Bundle.closeModule text =
      text ++ (if text.getLast? = some '\n' then [] else ['\n']) ++ ['\n'] := by
  unfold Bundle.closeModule
  split <;> simp

namespace Transformer

/-- The text of a module alone; what it is for a module that cannot be loaded does not matter. -/
def textAlone (t : Transformer) (w : Surroundings) (paths : PathTable) (name : String) : String :=
  match t.makeAlone w paths name with
  | .ok artifact => artifact.text
  | .error _ => ""

theorem entries_run_build (t : Transformer) (w : Surroundings) (paths : PathTable)
    (names : List String) :
    ∀ entry ∈ (t.run (buildRequests w names) (.empty, .ofPaths paths)).1.entries,
      t.makeAlone w paths entry.1 = .ok entry.2 := by
  intro entry member
  have kept := find?_run_build (t.madeAlone_start w paths) names entry.1
  rw [NameMap.mem_entries_iff.mp member] at kept
  split at kept
  · cases made : t.makeAlone w paths entry.1 with
    | error e =>
      rw [made] at kept
      cases kept
    | ok artifact =>
      rw [made] at kept
      cases kept
      rfl
  · cases kept

theorem modules_run_build (t : Transformer) (w : Surroundings) (paths : PathTable)
    (plugin : String) (names : List String) :
    let cache := (t.run (buildRequests w names) (.empty, .ofPaths paths)).1
    (cache.writeAll plugin .empty).modules = cache.names.map fun name =>
      BuildCache.bundled plugin name (t.textAlone w paths name) := by
  intro cache
  rw [BuildCache.modules_writeAll, NameMap.names, List.map_map]
  apply List.map_congr_left
  intro entry member
  have made := entries_run_build t w paths names entry member
  simp [textAlone, made]

/-- A bundle holds each module that could be loaded once, in the order of the names, as it comes
from a load of that module alone. It is the same when the modules are written one by one, and for
every row of loads of the same modules. -/
theorem bundle_of_build (t : Transformer) (w : Surroundings) (paths : PathTable) (plugin : String)
    (names : List String) :
    let start : BuildCache × Registry := (.empty, .ofPaths paths)
    let steps := t.history (buildRequests w names) start
    let cache := (t.run (buildRequests w names) start).1
    ∃ (loaded : List String) (alone : String → String),
      loaded.Pairwise (· < ·) ∧
      (∀ name, name ∈ loaded ↔
        ∃ step ∈ steps, step.request.name = name ∧ step.succeeded = true) ∧
      (∀ name ∈ loaded, ∃ outcome, (t.load w.services false name start).1 = .ok outcome ∧
        outcome.artifact.text = alone name) ∧
      (cache.writeAll plugin .empty).ids = loaded.map (plugin ++ "!" ++ ·) ∧
      (∀ bundle, cache.writeAll plugin bundle =
        loaded.foldl (fun bundle name => (cache.write plugin name bundle).2) bundle) ∧
      (∀ name ∈ loaded, ∀ bundle, (cache.write plugin name bundle).1 = true) ∧
      (∀ name, name ∉ loaded → ∀ bundle, cache.write plugin name bundle = (false, bundle)) ∧
      (cache.writeAll plugin .empty).text.toList = (loaded.flatMap fun name =>
        let named := (nameAnonymousDefine (plugin ++ "!" ++ name) (alone name)).toList
        named ++ (if named.getLast? = some '\n' then [] else ['\n']) ++ ['\n']) ∧
      ∀ others, (∀ name, name ∈ others ↔ name ∈ names) →
        (t.run (buildRequests w others) start).1.writeAll plugin .empty =
          cache.writeAll plugin .empty := by
  intro start steps cache
  have begin := t.madeAlone_start w paths
  have found (name : String) : cache.find? name =
      if name ∈ names then (t.makeAlone w paths name).toOption else none :=
    find?_run_build begin names name
  have entries := entries_run_build t w paths names
  have modules := modules_run_build t w paths plugin names
  refine ⟨cache.names, t.textAlone w paths, cache.names_ascending, ?_, ?_, ?_, ?_, ?_, ?_, ?_, ?_⟩
  · intro name
    rw [succeeded_of_mem_history begin, NameMap.mem_names_iff, NameMap.contains, found]
    cases t.makeAlone w paths name <;> simp [Except.toOption, Except.isOk, Except.toBool]
  · intro name member
    obtain ⟨⟨name, artifact⟩, kept, rfl⟩ := List.mem_map.mp member
    have made := entries _ kept
    refine ⟨⟨⟨name, artifact.text⟩, artifact, false⟩, ?_, ?_⟩
    · rw [load_alone, made]
      rfl
    · rw [textAlone, made]
  · rw [Bundle.ids, modules]
    simp [cache, start, BuildCache.bundled, BuildCache.bundleId]
  · intro bundle
    exact (cache.foldl_write plugin bundle).symm
  · intro name member bundle
    rw [NameMap.mem_names_iff, NameMap.contains, Option.isSome_iff_exists] at member
    obtain ⟨artifact, kept⟩ := member
    rw [BuildCache.write_eq, kept]
  · intro name absent bundle
    rw [NameMap.mem_names_iff, NameMap.contains, Bool.not_eq_true, Option.isSome_eq_false_iff,
      Option.isNone_iff_eq_none] at absent
    rw [BuildCache.write_eq, absent]
  · rw [Bundle.text, modules]
    simp only [String.toList_ofList, List.flatMap_map, closeModule_eq]
    rfl
  · intro others same
    rw [run_build_congr t w paths same]

end Transformer

end AmdBundler
