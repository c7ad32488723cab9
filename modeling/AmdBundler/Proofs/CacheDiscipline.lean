import AmdBundler.Proofs.LoadRun

namespace AmdBundler

variable {σ : Type}

/-- The calls that hand a text to the loader: it refuses the text, or is asked for the module. -/
def HandsOver (name text : String) (calls : List ServiceCall) : Prop :=
  (∃ cause, calls = [.define name text (.error cause)]) ∨
    ∃ answer, calls = [.define name text (.ok ()), .request name answer]

theorem HandsOver.filter_isCompile {name text : String} {calls : List ServiceCall}
    (h : HandsOver name text calls) : calls.filter ServiceCall.isCompile = [] := by
  rcases h with ⟨cause, rfl⟩ | ⟨answer, rfl⟩ <;> rfl

theorem ServiceCall.countP_filter_isCompile (calls : List ServiceCall) :
    (calls.filter ServiceCall.isCompile).countP ServiceCall.hasCompiled =
      calls.countP ServiceCall.hasCompiled := by
  rw [List.countP_filter]
  apply List.countP_congr
  intro call _
  cases call <;> simp [ServiceCall.isCompile, ServiceCall.hasCompiled]

theorem HandsOver.countP_hasCompiled {name text : String} {calls : List ServiceCall}
    (h : HandsOver name text calls) : calls.countP ServiceCall.hasCompiled = 0 := by
  rw [← ServiceCall.countP_filter_isCompile, h.filter_isCompile]
  rfl

namespace Transformer

/-- The call on the compiler for the text at a path, with its answer. -/
def compileCall (t : Transformer) (s : Services σ) (text path : String) (state : σ) :
    ServiceCall :=
  .compile text (t.compileOptions path)
    (s.compiler.compile text (t.compileOptions path) state).1

/-- The calls on the compiler for a module that is made: one if its source is fetched. -/
def compileCalls (t : Transformer) (s : Services σ) (name : String) (state : σ) :
    List ServiceCall :=
  match t.fetchSource s name state with
  | (.ok r, fetching) => [t.compileCall s r.text r.sourcePath fetching]
  | (.error _, _) => []

theorem countP_compileCalls (t : Transformer) (s : Services σ) (name : String) (state : σ) :
    (t.compileCalls s name state).countP ServiceCall.hasCompiled =
      if (t.make s name state).1.isOk then 1 else 0 := by
  unfold compileCalls make
  rcases t.fetchSource s name state with ⟨e | r, fetching⟩
  · rfl
  · cases compiled : s.compiler.compile r.text (t.compileOptions r.sourcePath) fetching with
    | mk answer rest =>
      cases answer <;> simp [andThen, buildArtifact, compile, compileCall, stage, compiled,
        Except.mapError, ServiceCall.hasCompiled, Except.isOk, Except.toBool]

theorem fetchSource_noting (t : Transformer) (s : Services σ) (name : String) (state : σ)
    (before : List ServiceCall) :
    ∃ calls, t.fetchSource s.noting name (state, before) =
        ((t.fetchSource s name state).1, (t.fetchSource s name state).2, before ++ calls) ∧
      calls.filter ServiceCall.isCompile = [] := by
  simp only [fetchSource, resolve, fetchText, stage, Services.noting, noted]
  rcases s.loader.toUrl (name ++ "." ++ t.sourceExt) state with ⟨cause | path, resolving⟩
  · exact ⟨[.toUrl (name ++ "." ++ t.sourceExt) (.error cause)], rfl, rfl⟩
  rcases fetched : s.fetch path resolving with ⟨cause | text, fetching⟩
  · exact ⟨[.toUrl (name ++ "." ++ t.sourceExt) (.ok path), .fetch path (.error cause)],
      by simp [andThen, fetched, Except.mapError], rfl⟩
  · exact ⟨[.toUrl (name ++ "." ++ t.sourceExt) (.ok path), .fetch path (.ok text)],
      by simp [andThen, fetched, Except.mapError], rfl⟩

theorem compile_noting (t : Transformer) (s : Services σ) (text path : String) (state : σ)
    (before : List ServiceCall) :
    t.compile s.noting text path (state, before) =
      ((t.compile s text path state).1, (t.compile s text path state).2,
        before ++ [t.compileCall s text path state]) := rfl

theorem buildArtifact_noting (t : Transformer) (s : Services σ) (r : SourceRecord) (state : σ)
    (before : List ServiceCall) :
    t.buildArtifact s.noting r (state, before) =
      ((t.buildArtifact s r state).1, (t.buildArtifact s r state).2,
        before ++ [t.compileCall s r.text r.sourcePath state]) := by
  rw [buildArtifact, compile_noting, buildArtifact]
  rcases t.compile s r.text r.sourcePath state with ⟨e | output, rest⟩ <;> rfl

theorem make_noting (t : Transformer) (s : Services σ) (name : String) (state : σ)
    (before : List ServiceCall) :
    ∃ calls, t.make s.noting name (state, before) =
        ((t.make s name state).1, (t.make s name state).2, before ++ calls) ∧
      calls.filter ServiceCall.isCompile = t.compileCalls s name state := by
  obtain ⟨calls, noting, none_⟩ := t.fetchSource_noting s name state before
  unfold make compileCalls
  rw [noting]
  rcases t.fetchSource s name state with ⟨e | r, fetching⟩
  · exact ⟨calls, rfl, none_⟩
  · refine ⟨calls ++ [t.compileCall s r.text r.sourcePath fetching], ?_, ?_⟩
    · simp only [andThen]
      rw [buildArtifact_noting, List.append_assoc]
    · rw [List.filter_append, none_]
      rfl

theorem register_noting (s : Services σ) (name : String) (artifact : Artifact) (reused : Bool)
    (state : σ) (before : List ServiceCall) :
    ∃ calls, register s.noting name artifact reused (state, before) =
        ((register s name artifact reused state).1, (register s name artifact reused state).2,
          before ++ calls) ∧
      HandsOver name artifact.text calls := by
  rcases register_cases s name artifact state with
    ⟨cause, rest, refused⟩ | ⟨defining, defined, answer⟩
  · refine ⟨_, ?_, .inl ⟨cause, rfl⟩⟩
    rw [register_refused reused refused]
    apply register_refused
    simp [Services.noting, noted, refused]
  have definedToo : s.noting.loader.define name artifact.text (state, before) =
      (.ok (), defining, before ++ [.define name artifact.text (.ok ())]) := by
    simp [Services.noting, noted, defined]
  rcases answer with ⟨cause, rest, unanswered⟩ | ⟨loaded, rest, given⟩
  · refine ⟨_, ?_, .inr ⟨.error cause, rfl⟩⟩
    rw [register_unanswered reused defined unanswered]
    apply register_unanswered reused definedToo
    simp [Services.noting, noted, unanswered]
  · refine ⟨_, ?_, .inr ⟨.ok loaded, rfl⟩⟩
    rw [register_loaded reused defined given]
    apply register_loaded reused definedToo
    simp [Services.noting, noted, given]

theorem handOver_noting (s : Services σ) (name : String) (artifact : Artifact) (reused : Bool)
    (cache : BuildCache) (state : σ) (before : List ServiceCall) :
    ∃ calls, handOver s.noting name artifact reused cache (state, before) =
        ((handOver s name artifact reused cache state).1, cache,
          (handOver s name artifact reused cache state).2.2, before ++ calls) ∧
      HandsOver name artifact.text calls := by
  obtain ⟨calls, noting, handed⟩ := register_noting s name artifact reused state before
  exact ⟨calls, by simp [handOver, noting], handed⟩

/-- Noting down the calls of a load changes neither its result nor what it leaves. -/
theorem load_noting (t : Transformer) (s : Services σ) (isBuild : Bool) (name : String)
    (cache : BuildCache) (state : σ) :
    t.load s.noting isBuild name (cache, state, []) =
      ((t.load s isBuild name (cache, state)).1, (t.load s isBuild name (cache, state)).2.1,
        (t.load s isBuild name (cache, state)).2.2, t.calls s isBuild name (cache, state)) := by
  unfold calls
  rcases t.load_cases s isBuild name cache state with
    ⟨artifact, rfl, kept⟩ | ⟨fresh, ⟨e, rest, -, failed⟩ | ⟨artifact, rest, made⟩⟩
  · obtain ⟨calls, noting, -⟩ := handOver_noting s name artifact true cache state []
    rw [load_kept kept, load_kept kept, noting]
    rfl
  · obtain ⟨calls, noting, -⟩ := t.make_noting s name state []
    rw [failed] at noting
    rw [load_failed fresh failed, load_failed fresh noting]
  · obtain ⟨calls, noting, -⟩ := t.make_noting s name state []
    rw [made] at noting
    obtain ⟨more, handing, -⟩ := handOver_noting s name artifact false
      (if isBuild then cache.insert name artifact else cache) rest ([] ++ calls)
    rw [load_made fresh made, load_made fresh noting, handing]
    rfl

/-- A load that finds its module kept calls on the loader only, with the text that is kept. -/
theorem calls_of_kept {cache : BuildCache} {name : String} {artifact : Artifact}
    (h : cache.find? name = some artifact) (t : Transformer) (s : Services σ) (state : σ) :
    HandsOver name artifact.text (t.calls s true name (cache, state)) := by
  obtain ⟨calls, noting, handed⟩ := handOver_noting s name artifact true cache state []
  unfold Transformer.calls
  rw [load_kept h, noting]
  exact handed

/-- Any other load calls on the compiler as the making of its artifact does. -/
theorem filter_calls_of_fresh {t : Transformer} {s : Services σ} {isBuild : Bool} {name : String}
    {cache : BuildCache} (fresh : isBuild = true → cache.find? name = none) (state : σ) :
    (t.calls s isBuild name (cache, state)).filter ServiceCall.isCompile =
      t.compileCalls s name state := by
  obtain ⟨calls, noting, compiled⟩ := t.make_noting s name state []
  unfold Transformer.calls
  rcases made : t.make s name state with ⟨e | artifact, rest⟩ <;> rw [made] at noting
  · rw [load_failed fresh noting]
    exact compiled
  · obtain ⟨more, handing, handed⟩ := handOver_noting s name artifact false
      (if isBuild then cache.insert name artifact else cache) rest ([] ++ calls)
    rw [load_made fresh noting, handing, List.filter_append, handed.filter_isCompile,
      List.append_nil]
    exact compiled

/-- It compiles once if it makes its artifact, and not at all if it does not. -/
theorem countP_calls_of_fresh {t : Transformer} {s : Services σ} {isBuild : Bool} {name : String}
    {cache : BuildCache} (fresh : isBuild = true → cache.find? name = none) (state : σ) :
    (t.calls s isBuild name (cache, state)).countP ServiceCall.hasCompiled =
      if (t.make s name state).1.isOk then 1 else 0 := by
  rw [← ServiceCall.countP_filter_isCompile, filter_calls_of_fresh fresh, countP_compileCalls]

/-- A load that is not for a build goes the same way whatever is kept, and keeps nothing. -/
theorem load_plain (t : Transformer) (s : Services σ) (name : String) (cache other : BuildCache)
    (state : σ) :
    t.load s false name (other, state) =
      ((t.load s false name (cache, state)).1, other,
        (t.load s false name (cache, state)).2.2) := by
  rcases t.make_cases s name state with ⟨e, rest, -, failed⟩ | ⟨artifact, rest, made⟩
  · rw [load_failed (by simp) failed, load_failed (by simp) failed]
  · rw [load_made (by simp) made, load_made (by simp) made]
    rfl

theorem calls_plain (t : Transformer) (s : Services σ) (name : String) (cache other : BuildCache)
    (state : σ) : t.calls s false name (other, state) = t.calls s false name (cache, state) := by
  unfold Transformer.calls
  rw [t.load_plain s.noting name cache other]

end Transformer

namespace LoadStep

def compilations (name : String) (step : LoadStep σ) : Nat :=
  if step.request.isBuild = true ∧ step.request.name = name then
    step.calls.countP ServiceCall.hasCompiled
  else 0

/-- A load that came to hand an artifact to the loader, whatever the loader answered. -/
def reachedLoader (step : LoadStep σ) : Bool :=
  match step.result with
  | .ok _ => true
  | .error e => !e.isMaking

end LoadStep

def BuildCache.room (cache : BuildCache) (name : String) : Nat :=
  if cache.contains name then 0 else 1

theorem BuildCache.room_insert (cache : BuildCache) (name other : String) (artifact : Artifact) :
    BuildCache.room (cache.insert name artifact) other =
      if other = name then 0 else cache.room other := by
  unfold BuildCache.room NameMap.contains
  rw [NameMap.find?_insert]
  by_cases same : other = name <;> simp [same]

namespace Transformer

theorem reached_of_handOver {step : LoadStep σ} {s : Services σ} {name : String}
    {artifact : Artifact} {reused : Bool} {cache : BuildCache} {state : σ}
    (h : step.result = (handOver s name artifact reused cache state).1) :
    step.reachedLoader = true ∧
      ∀ outcome, step.result = .ok outcome → outcome.artifact = artifact ∧ outcome.reused = reused := by
  unfold LoadStep.reachedLoader
  rcases handOver_cases s name artifact reused cache state with ⟨cause, error⟩ | ⟨loaded, ok⟩
  · rw [h, error]
    exact ⟨rfl, by simp⟩
  · rw [h, ok]
    refine ⟨rfl, ?_⟩
    intro outcome same
    cases same
    exact ⟨rfl, rfl⟩

theorem perform_keeps {name : String} {artifact : Artifact} (t : Transformer) (r : LoadRequest σ)
    (state : BuildCache × σ) (h : state.1.find? name = some artifact) :
    (t.perform r state).exit.1.find? name = some artifact := by
  unfold perform
  dsimp only
  rcases t.load_cases r.services r.isBuild r.name state.1 (r.change state.2) with
    ⟨kept, build, found⟩ | ⟨fresh, ⟨e, rest, -, failed⟩ | ⟨made, rest, done⟩⟩
  · rw [build, load_kept found]
    exact h
  · rw [load_failed fresh failed]
    exact h
  · rw [load_made fresh done]
    change (if r.isBuild then state.1.insert r.name made else state.1).find? name = _
    split
    · rename_i build
      rw [NameMap.find?_insert_of_ne _ _ (by
        rintro rfl
        simp [fresh build] at h)]
      exact h
    · exact h

theorem perform_kept (t : Transformer) (r : LoadRequest σ) (state : BuildCache × σ)
    {artifact : Artifact} (build : r.isBuild = true)
    (h : state.1.find? r.name = some artifact) :
    HandsOver r.name artifact.text (t.perform r state).calls ∧
      (t.perform r state).exit.1 = state.1 ∧ (t.perform r state).reachedLoader = true ∧
      ∀ outcome, (t.perform r state).result = .ok outcome →
        outcome.artifact = artifact ∧ outcome.reused = true := by
  have loaded : t.load r.services r.isBuild r.name (state.1, r.change state.2) =
      handOver r.services r.name artifact true state.1 (r.change state.2) := by
    rw [build, load_kept h]
  refine ⟨?_, ?_, reached_of_handOver (congrArg Prod.fst loaded)⟩
  · have handed := calls_of_kept h t r.services (r.change state.2)
    rw [← build] at handed
    exact handed
  · unfold perform
    dsimp only
    rw [loaded]
    rfl

/-- A load for a build that does not find its module kept compiles it once and keeps it, or stops
short of the loader and keeps nothing. -/
theorem perform_fresh (t : Transformer) (r : LoadRequest σ) (state : BuildCache × σ)
    (build : r.isBuild = true) (h : state.1.find? r.name = none) :
    ((t.perform r state).calls.countP ServiceCall.hasCompiled = 0 ∧
      (t.perform r state).reachedLoader = false ∧ (t.perform r state).exit.1 = state.1) ∨
    ((t.perform r state).calls.countP ServiceCall.hasCompiled = 1 ∧
      (t.perform r state).reachedLoader = true ∧
      ∃ artifact, (t.perform r state).exit.1 = state.1.insert r.name artifact) := by
  have fresh : r.isBuild = true → state.1.find? r.name = none := fun _ => h
  have count := countP_calls_of_fresh (t := t) (s := r.services) fresh (r.change state.2)
  rcases t.make_cases r.services r.name (r.change state.2) with
    ⟨e, rest, making, failed⟩ | ⟨artifact, rest, made⟩
  · left
    rw [failed] at count
    refine ⟨count, ?_, ?_⟩
    · simp [perform, LoadStep.reachedLoader, load_failed fresh failed, making]
    · simp [perform, load_failed fresh failed]
  · right
    rw [made] at count
    have loaded := load_made fresh made
    rw [if_pos build] at loaded
    refine ⟨count, (reached_of_handOver (congrArg Prod.fst loaded)).1, artifact, ?_⟩
    unfold perform
    dsimp only
    rw [loaded]
    rfl

theorem perform_plain (t : Transformer) (r : LoadRequest σ) (state : BuildCache × σ)
    (build : r.isBuild = false) :
    (t.perform r state).exit.1 = state.1 ∧
      (∀ outcome, (t.perform r state).result = .ok outcome → outcome.reused = false) ∧
      ∀ other, t.load r.services false r.name (other, r.change state.2) =
          ((t.perform r state).result, other, (t.perform r state).exit.2) ∧
        t.calls r.services false r.name (other, r.change state.2) = (t.perform r state).calls := by
  refine ⟨?_, ?_, ?_⟩
  · unfold perform
    dsimp only
    rw [build, t.load_plain r.services r.name state.1]
  · intro outcome ok
    have fresh : r.isBuild = true → state.1.find? r.name = none := by simp [build]
    rcases t.make_cases r.services r.name (r.change state.2) with
      ⟨e, rest, -, failed⟩ | ⟨artifact, rest, made⟩
    · simp [perform, load_failed fresh failed] at ok
    · exact ((reached_of_handOver (congrArg Prod.fst (load_made fresh made))).2 outcome ok).2
  · intro other
    refine ⟨?_, ?_⟩
    · rw [t.load_plain r.services r.name state.1 other]
      simp [perform, build]
    · rw [t.calls_plain r.services r.name state.1 other]
      simp [perform, build]

/-- A compilation that succeeds in a build takes up the room of its module. -/
theorem perform_room (t : Transformer) (r : LoadRequest σ) (state : BuildCache × σ)
    (name : String) :
    (t.perform r state).compilations name + (t.perform r state).exit.1.room name =
      state.1.room name := by
  unfold LoadStep.compilations
  rw [perform_request]
  cases build : r.isBuild with
  | false => simp [(t.perform_plain r state build).1]
  | true =>
    cases found : state.1.find? r.name with
    | some artifact =>
      obtain ⟨handed, exit, -⟩ := t.perform_kept r state build found
      rw [exit, handed.countP_hasCompiled]
      simp
    | none =>
      rcases t.perform_fresh r state build found with ⟨count, -, exit⟩ | ⟨count, -, artifact, exit⟩
      · rw [exit, count]
        simp
      · -- The one compilation of the step is the room that the kept artifact takes up.
        rw [exit, count, BuildCache.room_insert]
        by_cases same : r.name = name
        · subst name
          simp [BuildCache.room, NameMap.contains, found]
        · have others : name ≠ r.name := fun e => same e.symm
          simp [same, others]

/-- Over a whole run the compilations of a module take up the room that it had. -/
theorem history_room (t : Transformer) (rs : List (LoadRequest σ)) (state : BuildCache × σ)
    (name : String) :
    ((t.history rs state).map (·.compilations name)).sum + (t.run rs state).1.room name =
      state.1.room name := by
  induction rs generalizing state with
  | nil => simp [history]
  | cons r rs ih =>
    have first := t.perform_room r state name
    have others := ih (t.perform r state).exit
    simp only [history, List.map_cons, List.sum_cons, run_cons]
    omega

theorem contains_run_iff (t : Transformer) (rs : List (LoadRequest σ)) (start : σ) (name : String) :
    (t.run rs (.empty, start)).1.contains name = true ↔
      ∃ step ∈ t.history rs (.empty, start), 0 < step.compilations name := by
  have whole := t.history_room rs (.empty, start) name
  have empty : BuildCache.room .empty name = 1 := rfl
  rw [empty] at whole
  have some : (∃ step ∈ t.history rs (.empty, start), 0 < step.compilations name) ↔
      0 < ((t.history rs (.empty, start)).map (·.compilations name)).sum := by
    rw [List.sum_pos_iff_exists_pos_nat]
    simp only [List.mem_map]
    constructor
    · rintro ⟨step, member, pos⟩
      exact ⟨_, ⟨step, member, rfl⟩, pos⟩
    · rintro ⟨_, ⟨step, member, rfl⟩, pos⟩
      exact ⟨step, member, pos⟩
  rw [some]
  -- The room of the name is one at the start, so it is gone if and only if the total is positive.
  unfold BuildCache.room at whole
  cases kept : (t.run rs (.empty, start)).1.contains name with
  | true =>
    rw [kept, if_pos rfl] at whole
    exact ⟨fun _ => by omega, fun _ => rfl⟩
  | false =>
    rw [kept, if_neg Bool.false_ne_true] at whole
    exact ⟨fun h => absurd h Bool.false_ne_true, fun h => by omega⟩

theorem compilations_pos_iff (step : LoadStep σ) (name : String) :
    0 < step.compilations name ↔ step.request.isBuild = true ∧ step.request.name = name ∧
      step.calls.any ServiceCall.hasCompiled = true := by
  unfold LoadStep.compilations
  split
  · rename_i both
    rw [List.countP_pos_iff, List.any_eq_true]
    simp [both]
  · rename_i apart
    constructor
    · intro h
      exact absurd h (Nat.lt_irrefl 0)
    · rintro ⟨build, same, -⟩
      exact absurd ⟨build, same⟩ apart

/-- A load for a build that compiles its module reaches the loader, and one that reaches the loader
leaves its module kept. -/
theorem perform_reached (t : Transformer) (r : LoadRequest σ) (state : BuildCache × σ)
    (build : r.isBuild = true) :
    (0 < (t.perform r state).calls.countP ServiceCall.hasCompiled →
      (t.perform r state).reachedLoader = true) ∧
    ((t.perform r state).reachedLoader = true →
      ∃ artifact, (t.perform r state).exit.1.find? r.name = some artifact) := by
  cases found : state.1.find? r.name with
  | some artifact =>
    obtain ⟨-, exit, reached, -⟩ := t.perform_kept r state build found
    exact ⟨fun _ => reached, fun _ => ⟨artifact, exit ▸ found⟩⟩
  | none =>
    rcases t.perform_fresh r state build found with ⟨count, reached, -⟩ | ⟨-, reached, artifact, exit⟩
    · refine ⟨fun h => ?_, fun h => ?_⟩
      · omega
      · rw [reached] at h
        cases h
    · exact ⟨fun _ => reached, fun _ => ⟨artifact, by rw [exit, NameMap.find?_insert_self]⟩⟩

/-- What a build keeps over a whole run: once kept, an artifact stays as it is; kept are the modules
of which a compilation succeeded, also when the loader then refused them; a kept module is handed to
the loader and nothing else is called on; no module is compiled twice; and loads that are not for a
build neither read nor change what is kept. -/
theorem history_respects_cache (t : Transformer) (rs : List (LoadRequest σ)) (start : σ) :
    (∀ step ∈ t.history rs (.empty, start),
      t.load step.request.services.noting step.request.isBuild step.request.name
          (step.entry.1, step.entry.2, []) =
        (step.result, step.exit.1, step.exit.2, step.calls)) ∧
    (∀ early late, rs = early ++ late → ∀ name artifact,
      (t.run early (.empty, start)).1.find? name = some artifact →
        (t.run rs (.empty, start)).1.find? name = some artifact) ∧
    (∀ name, (t.run rs (.empty, start)).1.contains name = true ↔
      ∃ step ∈ t.history rs (.empty, start), step.request.isBuild = true ∧
        step.request.name = name ∧ step.calls.any ServiceCall.hasCompiled = true) ∧
    (∀ name, (t.run rs (.empty, start)).1.contains name = true ↔
      ∃ step ∈ t.history rs (.empty, start), step.request.isBuild = true ∧
        step.request.name = name ∧ step.reachedLoader = true) ∧
    (∀ step ∈ t.history rs (.empty, start), step.request.isBuild = true →
      ∀ artifact, step.entry.1.find? step.request.name = some artifact →
        HandsOver step.request.name artifact.text step.calls ∧
          ∀ outcome, step.result = .ok outcome →
            outcome.artifact = artifact ∧ outcome.reused = true) ∧
    (∀ name, ((t.history rs (.empty, start)).map (·.compilations name)).sum ≤ 1) ∧
    (∀ step ∈ t.history rs (.empty, start), step.request.isBuild = false →
      step.exit.1 = step.entry.1 ∧
        (∀ outcome, step.result = .ok outcome → outcome.reused = false) ∧
        ∀ other, t.load step.request.services false step.request.name (other, step.entry.2) =
            (step.result, other, step.exit.2) ∧
          t.calls step.request.services false step.request.name (other, step.entry.2) =
            step.calls) := by
  have compiled (name : String) : (t.run rs (.empty, start)).1.contains name = true ↔
      ∃ step ∈ t.history rs (.empty, start), step.request.isBuild = true ∧
        step.request.name = name ∧ step.calls.any ServiceCall.hasCompiled = true := by
    rw [contains_run_iff]
    simp only [compilations_pos_iff]
  refine ⟨?_, ?_, compiled, ?_, ?_, ?_, ?_⟩
  · intro step member
    obtain ⟨early, r, late, -, rfl⟩ := mem_history member
    exact t.load_noting r.services r.isBuild r.name _ _
  · rintro early late rfl name artifact kept
    rw [run_append]
    exact t.run_keeps (fun state => state.1.find? name = some artifact)
      (fun r state => t.perform_keeps r state) late kept
  · intro name
    constructor
    · intro kept
      obtain ⟨step, member, build, same, some⟩ := (compiled name).mp kept
      refine ⟨step, member, build, same, ?_⟩
      obtain ⟨early, r, late, -, rfl⟩ := mem_history member
      rw [List.any_eq_true] at some
      exact (t.perform_reached r _ build).1 (List.countP_pos_iff.mpr some)
    · rintro ⟨step, member, build, rfl, reached⟩
      obtain ⟨early, r, late, rfl, rfl⟩ := mem_history member
      obtain ⟨artifact, kept⟩ := (t.perform_reached r _ build).2 reached
      have stays := t.run_keeps (fun state => state.1.find? r.name = some artifact)
        (fun q state => t.perform_keeps q state) late kept
      rw [run_append, run_cons, NameMap.contains, perform_request, stays]
      rfl
  · intro step member build artifact kept
    obtain ⟨early, r, late, -, rfl⟩ := mem_history member
    obtain ⟨handed, -, -, outcomes⟩ :=
      t.perform_kept r (t.run early (.empty, start)) build kept
    exact ⟨handed, outcomes⟩
  · intro name
    have whole := t.history_room rs (.empty, start) name
    have empty : BuildCache.room .empty name = 1 := rfl
    rw [empty] at whole
    omega
  · intro step member build
    obtain ⟨early, r, late, -, rfl⟩ := mem_history member
    exact t.perform_plain r _ build

end Transformer

end AmdBundler
