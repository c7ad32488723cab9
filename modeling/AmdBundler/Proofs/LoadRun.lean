import AmdBundler.Module.Load
import Mathlib

namespace AmdBundler

variable {σ : Type}

/-- A load as it is asked for. -/
structure LoadRequest (σ : Type) where
  /-- What others have done to the state since the load before. -/
  change : σ → σ
  services : Services σ
  isBuild : Bool
  name : String

inductive ServiceCall where
  | toUrl (nameWithExt : String) (answer : Except LoaderError String)
  | fetch (path : String) (answer : Except FetchError String)
  | compile (source : String) (options : CompileOptions)
      (answer : Except CompilerError CompileOutput)
  | define (name text : String) (answer : Except LoaderError Unit)
  | request (name : String) (answer : Except LoaderError LoadedModule)

namespace ServiceCall

def isCompile : ServiceCall → Bool
  | .compile .. => true
  | _ => false

def hasCompiled : ServiceCall → Bool
  | .compile _ _ (.ok _) => true
  | _ => false

end ServiceCall

/-- The answer of a service, its call put behind the calls noted so far. -/
def noted {ε α : Type} (call : Except ε α → ServiceCall) (calls : List ServiceCall)
    (answer : Except ε α × σ) : Except ε α × σ × List ServiceCall :=
  (answer.1, answer.2, calls ++ [call answer.1])

/-- Services that note down what they are called for. -/
def Services.noting (s : Services σ) : Services (σ × List ServiceCall) where
  loader :=
    { toUrl := fun name state => noted (.toUrl name) state.2 (s.loader.toUrl name state.1)
      define := fun name text state =>
        noted (.define name text) state.2 (s.loader.define name text state.1)
      request := fun name state => noted (.request name) state.2 (s.loader.request name state.1) }
  fetch path state := noted (.fetch path) state.2 (s.fetch path state.1)
  compiler :=
    { name := s.compiler.name
      compile := fun source options state =>
        noted (.compile source options) state.2 (s.compiler.compile source options state.1) }

/-- A load that took place: where it began, what it called on, its result, and where it ended. -/
structure LoadStep (σ : Type) where
  request : LoadRequest σ
  entry : BuildCache × σ
  calls : List ServiceCall
  result : Except TransformError LoadOutcome
  exit : BuildCache × σ

def LoadStep.succeeded (step : LoadStep σ) : Bool :=
  step.result.isOk

def TransformError.isMaking : TransformError → Bool
  | .register .. => false
  | .resolve _ | .fetch _ | .compile .. => true

namespace Transformer

/-- What a load calls on, in order. -/
def calls (t : Transformer) (s : Services σ) (isBuild : Bool) (name : String)
    (state : BuildCache × σ) : List ServiceCall :=
  (t.load s.noting isBuild name (state.1, state.2, [])).2.2.2

def perform (t : Transformer) (r : LoadRequest σ) (state : BuildCache × σ) : LoadStep σ :=
  let entry := (state.1, r.change state.2)
  let answer := t.load r.services r.isBuild r.name entry
  ⟨r, entry, t.calls r.services r.isBuild r.name entry, answer.1, answer.2⟩

def history (t : Transformer) : List (LoadRequest σ) → BuildCache × σ → List (LoadStep σ)
  | [], _ => []
  | r :: rs, state => t.perform r state :: t.history rs (t.perform r state).exit

def run (t : Transformer) (rs : List (LoadRequest σ)) (state : BuildCache × σ) : BuildCache × σ :=
  rs.foldl (fun state r => (t.perform r state).exit) state

@[simp] theorem perform_request (t : Transformer) (r : LoadRequest σ) (state : BuildCache × σ) :
    (t.perform r state).request = r := rfl

@[simp] theorem perform_entry (t : Transformer) (r : LoadRequest σ) (state : BuildCache × σ) :
    (t.perform r state).entry = (state.1, r.change state.2) := rfl

@[simp] theorem run_nil (t : Transformer) (state : BuildCache × σ) : t.run [] state = state := rfl

@[simp] theorem run_cons (t : Transformer) (r : LoadRequest σ) (rs : List (LoadRequest σ))
    (state : BuildCache × σ) :
    t.run (r :: rs) state = t.run rs (t.perform r state).exit := rfl

theorem run_append (t : Transformer) (early late : List (LoadRequest σ))
    (state : BuildCache × σ) : t.run (early ++ late) state = t.run late (t.run early state) :=
  List.foldl_append

/-- Every step of a run is one of its requests, performed where the requests before it end. -/
theorem mem_history {t : Transformer} {rs : List (LoadRequest σ)} {state : BuildCache × σ}
    {step : LoadStep σ} (h : step ∈ t.history rs state) :
    ∃ early r late, rs = early ++ r :: late ∧ step = t.perform r (t.run early state) := by
  induction rs generalizing state with
  | nil => simp [history] at h
  | cons r rs ih =>
    rcases List.mem_cons.mp h with rfl | h
    · exact ⟨[], r, rs, rfl, rfl⟩
    · obtain ⟨early, q, late, rfl, rfl⟩ := ih h
      exact ⟨r :: early, q, late, rfl, rfl⟩

theorem run_keeps (t : Transformer) (holds : BuildCache × σ → Prop)
    (keeps : ∀ r state, holds state → holds (t.perform r state).exit)
    (rs : List (LoadRequest σ)) {state : BuildCache × σ} (h : holds state) :
    holds (t.run rs state) := by
  induction rs generalizing state with
  | nil => exact h
  | cons r rs ih => exact ih (keeps r state h)

section Make

variable {t : Transformer} {s : Services σ} {name path text : String}
  {state resolving fetching rest : σ}

theorem make_unresolved {cause : LoaderError}
    (h : s.loader.toUrl (name ++ "." ++ t.sourceExt) state = (.error cause, rest)) :
    t.make s name state = (.error (.resolve cause), rest) := by
  simp [make, fetchSource, resolve, stage, andThen, h, Except.mapError]

theorem make_unfetched {cause : FetchError}
    (resolved : s.loader.toUrl (name ++ "." ++ t.sourceExt) state = (.ok path, resolving))
    (h : s.fetch path resolving = (.error cause, rest)) :
    t.make s name state = (.error (.fetch cause), rest) := by
  simp [make, fetchSource, resolve, fetchText, stage, andThen, resolved, h, Except.mapError]

theorem make_rejected {cause : CompilerError}
    (resolved : s.loader.toUrl (name ++ "." ++ t.sourceExt) state = (.ok path, resolving))
    (fetched : s.fetch path resolving = (.ok text, fetching))
    (h : s.compiler.compile text (t.compileOptions (displayPath path)) fetching =
      (.error cause, rest)) :
    t.make s name state = (.error (.compile (displayPath path) cause), rest) := by
  simp [make, fetchSource, buildArtifact, resolve, fetchText, compile, record, stage, andThen,
    resolved, fetched, h, Except.mapError]

theorem make_compiled {output : CompileOutput}
    (resolved : s.loader.toUrl (name ++ "." ++ t.sourceExt) state = (.ok path, resolving))
    (fetched : s.fetch path resolving = (.ok text, fetching))
    (h : s.compiler.compile text (t.compileOptions (displayPath path)) fetching =
      (.ok output, rest)) :
    t.make s name state = (.ok (t.annotate (t.record name path text) output), rest) := by
  simp [make, fetchSource, buildArtifact, resolve, fetchText, compile, record, stage, andThen,
    resolved, fetched, h, Except.mapError]

theorem fetchSource_eq_ok {r : SourceRecord}
    (h : t.fetchSource s name state = (.ok r, rest)) :
    ∃ path resolving text,
      s.loader.toUrl (name ++ "." ++ t.sourceExt) state = (.ok path, resolving) ∧
      s.fetch path resolving = (.ok text, rest) ∧ r = t.record name path text := by
  unfold fetchSource resolve fetchText stage andThen at h
  rcases resolved : s.loader.toUrl (name ++ "." ++ t.sourceExt) state with ⟨cause | path, resolving⟩
  · rw [resolved] at h
    cases h
  rcases fetched : s.fetch path resolving with ⟨cause | text, fetching⟩
  · simp [resolved, fetched, Except.mapError] at h
  · simp only [resolved, fetched, Except.mapError, Prod.mk.injEq, Except.ok.injEq] at h
    obtain ⟨rfl, rfl⟩ := h
    exact ⟨path, resolving, text, rfl, fetched, rfl⟩

theorem make_eq_ok {artifact : Artifact} (h : t.make s name state = (.ok artifact, rest)) :
    ∃ r fetching output, t.fetchSource s name state = (.ok r, fetching) ∧
      s.compiler.compile r.text (t.compileOptions r.sourcePath) fetching = (.ok output, rest) ∧
      artifact = t.annotate r output := by
  unfold make andThen at h
  rcases fetched : t.fetchSource s name state with ⟨e | r, fetching⟩
  · rw [fetched] at h
    cases h
  unfold buildArtifact compile stage andThen at h
  rcases compiled : s.compiler.compile r.text (t.compileOptions r.sourcePath) fetching with
    ⟨cause | output, ending⟩
  · simp [fetched, compiled, Except.mapError] at h
  · simp only [fetched, compiled, Except.mapError, Prod.mk.injEq, Except.ok.injEq] at h
    obtain ⟨rfl, rfl⟩ := h
    exact ⟨r, fetching, output, rfl, compiled, rfl⟩

/-- No artifact is made without a path, a text and a compiled output. -/
theorem make_cases (t : Transformer) (s : Services σ) (name : String) (state : σ) :
    (∃ e rest, e.isMaking = true ∧ t.make s name state = (.error e, rest)) ∨
      ∃ artifact rest, t.make s name state = (.ok artifact, rest) := by
  rcases resolved : s.loader.toUrl (name ++ "." ++ t.sourceExt) state with ⟨cause | path, resolving⟩
  · exact .inl ⟨_, _, rfl, make_unresolved resolved⟩
  rcases fetched : s.fetch path resolving with ⟨cause | text, fetching⟩
  · exact .inl ⟨_, _, rfl, make_unfetched resolved fetched⟩
  rcases compiled : s.compiler.compile text (t.compileOptions (displayPath path)) fetching with
    ⟨cause | output, rest⟩
  · exact .inl ⟨_, _, rfl, make_rejected resolved fetched compiled⟩
  · exact .inr ⟨_, _, make_compiled resolved fetched compiled⟩

end Make

section Register

variable {s : Services σ} {name : String} {artifact : Artifact} {state defining rest : σ}

theorem register_refused {cause : LoaderError} (reused : Bool)
    (h : s.loader.define name artifact.text state = (.error cause, rest)) :
    register s name artifact reused state = (.error (.register name cause), rest) := by
  simp [register, stage, andThen, h, Except.mapError]

theorem register_unanswered {cause : LoaderError} (reused : Bool)
    (defined : s.loader.define name artifact.text state = (.ok (), defining))
    (h : s.loader.request name defining = (.error cause, rest)) :
    register s name artifact reused state = (.error (.register name cause), rest) := by
  simp [register, stage, andThen, defined, h, Except.mapError]

theorem register_loaded {loaded : LoadedModule} (reused : Bool)
    (defined : s.loader.define name artifact.text state = (.ok (), defining))
    (h : s.loader.request name defining = (.ok loaded, rest)) :
    register s name artifact reused state = (.ok ⟨loaded, artifact, reused⟩, rest) := by
  simp [register, stage, andThen, defined, h, Except.mapError]

/-- The loader refuses a text, or is asked for the module and may have none. -/
theorem register_cases (s : Services σ) (name : String) (artifact : Artifact) (state : σ) :
    (∃ cause rest, s.loader.define name artifact.text state = (.error cause, rest)) ∨
    ∃ defining, s.loader.define name artifact.text state = (.ok (), defining) ∧
      ((∃ cause rest, s.loader.request name defining = (.error cause, rest)) ∨
        ∃ loaded rest, s.loader.request name defining = (.ok loaded, rest)) := by
  rcases s.loader.define name artifact.text state with ⟨cause | ⟨⟩, defining⟩
  · exact .inl ⟨cause, defining, rfl⟩
  · right
    refine ⟨defining, rfl, ?_⟩
    rcases s.loader.request name defining with ⟨cause | loaded, rest⟩
    · exact .inl ⟨cause, rest, rfl⟩
    · exact .inr ⟨loaded, rest, rfl⟩

end Register

/-- An artifact handed to the loader: the result, with the cache and the state it leaves. -/
def handOver (s : Services σ) (name : String) (artifact : Artifact) (reused : Bool)
    (cache : BuildCache) (state : σ) : Except TransformError LoadOutcome × BuildCache × σ :=
  ((register s name artifact reused state).1, cache, (register s name artifact reused state).2)

theorem handOver_cases (s : Services σ) (name : String) (artifact : Artifact) (reused : Bool)
    (cache : BuildCache) (state : σ) :
    (∃ cause, (handOver s name artifact reused cache state).1 = .error (.register name cause)) ∨
      ∃ loaded, (handOver s name artifact reused cache state).1 =
        .ok ⟨loaded, artifact, reused⟩ := by
  unfold handOver
  rcases register_cases s name artifact state with
    ⟨cause, rest, refused⟩ | ⟨defining, defined, ⟨cause, rest, unanswered⟩ | ⟨loaded, rest, given⟩⟩
  · exact .inl ⟨cause, by rw [register_refused reused refused]⟩
  · exact .inl ⟨cause, by rw [register_unanswered reused defined unanswered]⟩
  · exact .inr ⟨loaded, by rw [register_loaded reused defined given]⟩

theorem load_kept {cache : BuildCache} {name : String} {artifact : Artifact}
    (h : cache.find? name = some artifact) (t : Transformer) (s : Services σ) (state : σ) :
    t.load s true name (cache, state) = handOver s name artifact true cache state := by
  simp [load, Transformer.obtain, h, andThen, handOver]

theorem load_failed {t : Transformer} {s : Services σ} {isBuild : Bool} {name : String}
    {cache : BuildCache} {state rest : σ} {e : TransformError}
    (fresh : isBuild = true → cache.find? name = none)
    (h : t.make s name state = (.error e, rest)) :
    t.load s isBuild name (cache, state) = (.error e, cache, rest) := by
  cases isBuild with
  | false => simp [load, Transformer.obtain, h, andThen]
  | true => simp [load, Transformer.obtain, fresh rfl, h, andThen]

theorem load_made {t : Transformer} {s : Services σ} {isBuild : Bool} {name : String}
    {cache : BuildCache} {state rest : σ} {artifact : Artifact}
    (fresh : isBuild = true → cache.find? name = none)
    (h : t.make s name state = (.ok artifact, rest)) :
    t.load s isBuild name (cache, state) =
      handOver s name artifact false (if isBuild then cache.insert name artifact else cache)
        rest := by
  cases isBuild with
  | false => simp [load, Transformer.obtain, h, andThen, handOver]
  | true => simp [load, Transformer.obtain, fresh rfl, h, andThen, handOver, BuildCache.keep]

theorem load_cases (t : Transformer) (s : Services σ) (isBuild : Bool) (name : String)
    (cache : BuildCache) (state : σ) :
    (∃ artifact, isBuild = true ∧ cache.find? name = some artifact) ∨
    ((isBuild = true → cache.find? name = none) ∧
      ((∃ e rest, e.isMaking = true ∧ t.make s name state = (.error e, rest)) ∨
        ∃ artifact rest, t.make s name state = (.ok artifact, rest))) := by
  have made := t.make_cases s name state
  cases isBuild with
  | false => exact .inr ⟨by simp, made⟩
  | true =>
    cases h : cache.find? name with
    | some artifact => exact .inl ⟨artifact, rfl, rfl⟩
    | none => exact .inr ⟨fun _ => rfl, made⟩

/-- A load keeps the annotated output for the record that it has fetched, or nothing new. -/
theorem find?_load {t : Transformer} {s : Services σ} {isBuild : Bool} {name other : String}
    {cache : BuildCache} {state : σ} {artifact : Artifact}
    (kept : (t.load s isBuild name (cache, state)).2.1.find? other = some artifact) :
    cache.find? other = some artifact ∨ other = name ∧ ∃ r fetching output,
      t.fetchSource s name state = (.ok r, fetching) ∧ artifact = t.annotate r output := by
  rcases t.load_cases s isBuild name cache state with
    ⟨there, rfl, found⟩ | ⟨fresh, ⟨e, rest, -, failed⟩ | ⟨made, rest, done⟩⟩
  · rw [load_kept found] at kept
    exact .inl kept
  · rw [load_failed fresh failed] at kept
    exact .inl kept
  · rw [load_made fresh done] at kept
    change (if isBuild then cache.insert name made else cache).find? other = _ at kept
    split at kept
    · rw [NameMap.find?_insert] at kept
      split at kept
      · rename_i same
        cases kept
        obtain ⟨r, fetching, output, fetched, -, annotated⟩ := make_eq_ok done
        exact .inr ⟨same, r, fetching, output, fetched, annotated⟩
      · exact .inl kept
    · exact .inl kept

/-- What is kept after a run was kept before it, or comes from a step of the run. -/
theorem find?_run {t : Transformer} {rs : List (LoadRequest σ)} {state : BuildCache × σ}
    {name : String} {artifact : Artifact}
    (kept : (t.run rs state).1.find? name = some artifact) :
    state.1.find? name = some artifact ∨
    ∃ step ∈ t.history rs state, step.request.name = name ∧ ∃ r fetching output,
      t.fetchSource step.request.services step.request.name step.entry.2 = (.ok r, fetching) ∧
        artifact = t.annotate r output := by
  induction rs generalizing state with
  | nil => exact .inl kept
  | cons r rs ih =>
    rcases ih kept with first | ⟨step, member, later⟩
    · rcases find?_load first with before | ⟨rfl, made⟩
      · exact .inl before
      · exact .inr ⟨t.perform r state, List.mem_cons_self, rfl, made⟩
    · exact .inr ⟨step, List.mem_cons_of_mem _ member, later⟩

end Transformer

end AmdBundler
