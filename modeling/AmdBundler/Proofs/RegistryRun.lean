import AmdBundler.Proofs.LoadRun

namespace AmdBundler

/-- What a load finds outside of its registry: the sources and the compiler, as they are at the
time. -/
structure Surroundings where
  fetch : String → Except FetchError String
  compilerName : String
  compile : String → CompileOptions → Except CompilerError CompileOutput

def Surroundings.services (w : Surroundings) : Services Registry :=
  .ofRegistry w.fetch w.compilerName w.compile

/-- A load into a registry. -/
structure RegistryLoad where
  surroundings : Surroundings
  isBuild : Bool
  name : String

def RegistryLoad.request (l : RegistryLoad) : LoadRequest Registry :=
  ⟨id, l.surroundings.services, l.isBuild, l.name⟩

def LoadStep.artifactOf? {σ : Type} (name : String) (step : LoadStep σ) : Option Artifact :=
  match step.result with
  | .ok outcome => if step.request.name = name then some outcome.artifact else none
  | .error _ => none

theorem LoadStep.artifactOf?_of_ok {σ : Type} {step : LoadStep σ} {outcome : LoadOutcome}
    (h : step.result = .ok outcome) (name : String) :
    step.artifactOf? name =
      if step.request.name = name then some outcome.artifact else none := by
  unfold LoadStep.artifactOf?
  rw [h]

namespace Transformer

variable {σ : Type}

/-- Of a registry only the paths matter for an artifact, and nothing of it changes. -/
theorem make_registry (t : Transformer) (w : Surroundings) (name : String) (r : Registry) :
    t.make w.services name r = ((t.make w.services name (.ofPaths r.paths)).1, r) := by
  cases resolved : r.paths.toUrl (name ++ "." ++ t.sourceExt) with
  | error cause =>
    have here (q : Registry) (same : q.paths = r.paths) :
        w.services.loader.toUrl (name ++ "." ++ t.sourceExt) q = (.error cause, q) := by
      simp [Surroundings.services, Services.ofRegistry, Registry.loader, Registry.toUrl, same,
        resolved]
    rw [make_unresolved (here r rfl), make_unresolved (here (.ofPaths r.paths) rfl)]
  | ok path =>
    have here (q : Registry) (same : q.paths = r.paths) :
        w.services.loader.toUrl (name ++ "." ++ t.sourceExt) q = (.ok path, q) := by
      simp [Surroundings.services, Services.ofRegistry, Registry.loader, Registry.toUrl, same,
        resolved]
    have fetch (q : Registry) : w.services.fetch path q = (w.fetch path, q) := rfl
    cases fetched : w.fetch path with
    | error cause =>
      rw [fetched] at fetch
      rw [make_unfetched (here r rfl) (fetch _),
        make_unfetched (here (.ofPaths r.paths) rfl) (fetch _)]
    | ok text =>
      rw [fetched] at fetch
      have compile (q : Registry) : w.services.compiler.compile text
          (t.compileOptions (displayPath path)) q =
          (w.compile text (t.compileOptions (displayPath path)), q) := rfl
      cases compiled : w.compile text (t.compileOptions (displayPath path)) with
      | error cause =>
        rw [compiled] at compile
        rw [make_rejected (here r rfl) (fetch _) (compile _),
          make_rejected (here (.ofPaths r.paths) rfl) (fetch _) (compile _)]
      | ok output =>
        rw [compiled] at compile
        rw [make_compiled (here r rfl) (fetch _) (compile _),
          make_compiled (here (.ofPaths r.paths) rfl) (fetch _) (compile _)]

/-- A registry takes every text and gives it out again. -/
theorem register_registry (w : Surroundings) (name : String) (artifact : Artifact) (reused : Bool)
    (r : Registry) :
    register w.services name artifact reused r =
      (.ok ⟨⟨name, artifact.text⟩, artifact, reused⟩, r.define name artifact.text) := by
  have defined : w.services.loader.define name artifact.text r =
      (.ok (), r.define name artifact.text) := rfl
  apply register_loaded reused defined
  change ((r.define name artifact.text).request name, r.define name artifact.text) = _
  rw [Registry.request_define, if_pos rfl]

/-- A load into a registry fails before anything has changed, or gives out the text of its artifact
and leaves it in the registry. -/
theorem perform_registry (t : Transformer) (l : RegistryLoad) (state : BuildCache × Registry) :
    (∃ e, e.isMaking = true ∧ (t.perform l.request state).result = .error e ∧
      (t.perform l.request state).exit = state) ∨
    ∃ artifact reused, (t.perform l.request state).result =
        .ok ⟨⟨l.name, artifact.text⟩, artifact, reused⟩ ∧
      (t.perform l.request state).exit.2 = state.2.define l.name artifact.text := by
  obtain ⟨cache, r⟩ := state
  have loaded : (t.perform l.request (cache, r)).result =
        (t.load l.surroundings.services l.isBuild l.name (cache, r)).1 ∧
      (t.perform l.request (cache, r)).exit =
        (t.load l.surroundings.services l.isBuild l.name (cache, r)).2 :=
    ⟨rfl, rfl⟩
  rw [loaded.1, loaded.2]
  have made := t.make_registry l.surroundings l.name r
  rcases t.load_cases l.surroundings.services l.isBuild l.name cache r with
    ⟨artifact, build, kept⟩ | ⟨fresh, ⟨e, rest, making, failed⟩ | ⟨artifact, rest, done⟩⟩
  · right
    refine ⟨artifact, true, ?_⟩
    rw [build, load_kept kept, handOver, register_registry]
    exact ⟨rfl, rfl⟩
  · left
    have same : rest = r := by
      rw [failed] at made
      exact congrArg Prod.snd made
    subst rest
    rw [load_failed fresh failed]
    exact ⟨e, making, rfl, rfl⟩
  · right
    have same : rest = r := by
      rw [done] at made
      exact congrArg Prod.snd made
    subst rest
    refine ⟨artifact, false, ?_⟩
    rw [load_made fresh done, handOver, register_registry]
    exact ⟨rfl, rfl⟩

theorem mem_history_loads {t : Transformer} {loads : List RegistryLoad}
    {state : BuildCache × Registry} {step : LoadStep Registry}
    (h : step ∈ t.history (loads.map RegistryLoad.request) state) :
    ∃ l ∈ loads, ∃ before, step = t.perform l.request before := by
  obtain ⟨early, r, late, all, rfl⟩ := mem_history h
  have member : r ∈ loads.map RegistryLoad.request := by simp [all]
  obtain ⟨l, listed, rfl⟩ := List.mem_map.mp member
  exact ⟨l, listed, _, rfl⟩

/-- If failing leaves no trace in any state, the steps that succeed make up a run of their own. -/
theorem history_filter_succeeded {t : Transformer} {rs : List (LoadRequest σ)}
    (idle : ∀ r ∈ rs, ∀ state, (t.perform r state).succeeded = false →
      (t.perform r state).exit = state) (state : BuildCache × σ) :
    t.history (((t.history rs state).filter LoadStep.succeeded).map LoadStep.request) state =
        (t.history rs state).filter LoadStep.succeeded ∧
      t.run (((t.history rs state).filter LoadStep.succeeded).map LoadStep.request) state =
        t.run rs state := by
  induction rs generalizing state with
  | nil => exact ⟨rfl, rfl⟩
  | cons r rs ih =>
    have others := ih (fun q member => idle q (List.mem_cons_of_mem _ member))
    rw [history, List.filter_cons]
    cases succeeded : (t.perform r state).succeeded with
    | true =>
      obtain ⟨steps, last⟩ := others (t.perform r state).exit
      rw [if_pos rfl, List.map_cons, perform_request, history, steps]
      exact ⟨rfl, last⟩
    | false =>
      -- A load that is taken out leaves the state in which the next one finds it.
      have stays := idle r List.mem_cons_self state succeeded
      rw [if_neg Bool.false_ne_true, stays, run_cons, stays]
      exact others state

/-- What a registry gives out after a run: the text of the last artifact of the name, and before
there is one, what it gave out at the start. -/
theorem request_run (t : Transformer) (loads : List RegistryLoad) (state : BuildCache × Registry)
    (name : String) :
    (t.run (loads.map RegistryLoad.request) state).2.request name =
      match ((t.history (loads.map RegistryLoad.request) state).filterMap
        (LoadStep.artifactOf? name)).getLast? with
      | some artifact => .ok ⟨name, artifact.text⟩
      | none => state.2.request name := by
  induction loads generalizing state with
  | nil => rfl
  | cons l loads ih =>
    rw [List.map_cons, run_cons, ih, history, List.filterMap_cons]
    rcases t.perform_registry l state with
      ⟨e, -, failed, stays⟩ | ⟨artifact, reused, loaded, defined⟩
    · have none : (t.perform l.request state).artifactOf? name = none := by
        simp [LoadStep.artifactOf?, failed]
      rw [none, stays]
    · rw [defined, Registry.request_define]
      by_cases same : l.name = name
      · have some : (t.perform l.request state).artifactOf? name = some artifact :=
          (LoadStep.artifactOf?_of_ok loaded name).trans (if_pos same)
        rw [some, if_pos same.symm, List.getLast?_cons]
        cases ((t.history (loads.map RegistryLoad.request)
          (t.perform l.request state).exit).filterMap (LoadStep.artifactOf? name)).getLast? with
        | none => rfl
        | some last => rfl
      · have none : (t.perform l.request state).artifactOf? name = none :=
          (LoadStep.artifactOf?_of_ok loaded name).trans (if_neg same)
        have apart : name ≠ l.name := fun e => same e.symm
        rw [none, if_neg apart]

/-- Loads that fail leave no trace. Taken out of a run, they leave every other step as it was, with
the result of its load and the states around it, and the end of the run too; none of them came to
the loader. What the registry gives out for a name is the text of the artifact that was loaded last,
and every load gave out that text of its own artifact. -/
theorem failed_loads_leave_no_trace (t : Transformer) (loads : List RegistryLoad)
    (cache : BuildCache) (paths : PathTable) :
    let start := (cache, Registry.ofPaths paths)
    let steps := t.history (loads.map RegistryLoad.request) start
    let kept := steps.filter LoadStep.succeeded
    t.run (kept.map LoadStep.request) start = t.run (loads.map RegistryLoad.request) start ∧
    t.history (kept.map LoadStep.request) start = kept ∧
    (∀ step ∈ steps, ∀ e, step.result = .error e → e.isMaking = true) ∧
    (∀ step ∈ steps, ∀ outcome, step.result = .ok outcome →
      outcome.loaded = ⟨step.request.name, outcome.artifact.text⟩) ∧
    ∀ name, (t.run (loads.map RegistryLoad.request) start).2.request name =
      match (steps.filterMap (LoadStep.artifactOf? name)).getLast? with
      | some artifact => .ok ⟨name, artifact.text⟩
      | none => .error (.notDefined name) := by
  intro start steps kept
  have idle : ∀ r ∈ loads.map RegistryLoad.request, ∀ state,
      (t.perform r state).succeeded = false → (t.perform r state).exit = state := by
    intro r member state failed
    obtain ⟨l, -, rfl⟩ := List.mem_map.mp member
    rcases t.perform_registry l state with ⟨e, -, -, stays⟩ | ⟨artifact, reused, loaded, -⟩
    · exact stays
    · simp [LoadStep.succeeded, loaded, Except.isOk, Except.toBool] at failed
  obtain ⟨history, run⟩ := history_filter_succeeded idle start
  refine ⟨run, history, ?_, ?_, fun name => ?_⟩
  · intro step member e failed
    obtain ⟨l, -, before, rfl⟩ := mem_history_loads member
    rcases t.perform_registry l before with
      ⟨cause, making, result, -⟩ | ⟨artifact, reused, loaded, -⟩
    · rw [result] at failed
      cases failed
      exact making
    · rw [loaded] at failed
      cases failed
  · intro step member outcome succeeded
    obtain ⟨l, -, before, rfl⟩ := mem_history_loads member
    rcases t.perform_registry l before with
      ⟨cause, -, result, -⟩ | ⟨artifact, reused, loaded, -⟩
    · rw [result] at succeeded
      cases succeeded
    · rw [loaded] at succeeded
      cases succeeded
      rfl
  · exact t.request_run loads start name

end Transformer

end AmdBundler
