import AmdBundler.Proofs.CacheDiscipline
import AmdBundler.Proofs.DirectiveRecovery
import AmdBundler.Proofs.PathSubstitution

namespace AmdBundler

namespace PathTable

/-- A URL keeps the extension of its name. -/
theorem urlOf_ends (t : PathTable) {name ext : List Char}
    (ends : (name.splitOn '/').getLast? ≠ some []) (slash : '/' ∉ ext) (dot : '.' ∉ ext) :
    ∃ stem, t.urlOf (name ++ '.' :: ext) = stem ++ '.' :: ext := by
  cases absolute : isAbsolute name with
  | true =>
    refine ⟨name, ?_⟩
    rw [urlOf, splitExtension_append ends slash dot]
    simp only [absolute, if_true]
  | false =>
    rw [urlOf_append t ends slash dot absolute, based]
    split
    · exact ⟨_, rfl⟩
    · exact ⟨t.baseUrl.toList ++ substitute t.targets name, (List.append_assoc _ _ _).symm⟩

theorem toUrl_ends {t : PathTable} {name ext url : String}
    (ends : (name.toList.splitOn '/').getLast? ≠ some []) (slash : '/' ∉ ext.toList)
    (dot : '.' ∉ ext.toList) (found : t.toUrl (name ++ "." ++ ext) = .ok url) :
    ∃ stem, url.toList = stem ++ '.' :: ext.toList := by
  rw [toUrl] at found
  split at found
  · cases found
  · cases found
    have text : (name ++ "." ++ ext).toList = name.toList ++ '.' :: ext.toList := by
      simp [String.toList_append]
    rw [String.toList_ofList, text]
    exact t.urlOf_ends ends slash dot

end PathTable

variable {σ : Type}

namespace Transformer

/-- The dot that is dropped from a path is not the one before the extension. -/
theorem displayPath_ends {path : String} {stem ext : List Char} (slash : '/' ∉ ext)
    (ends : path.toList = stem ++ '.' :: ext) :
    ∃ shown, (displayPath path).toList = shown ++ '.' :: ext := by
  rw [displayPath]
  split
  · rename_i rest dotted
    rw [ends] at dotted
    match stem with
    | [] => exact absurd ((List.cons.inj dotted).2 ▸ List.mem_cons_self) slash
    | [c] => exact absurd (List.cons.inj (List.cons.inj dotted).2).1 (by decide)
    | c :: d :: stem =>
      obtain ⟨-, later⟩ := List.cons.inj dotted
      obtain ⟨-, rfl⟩ := List.cons.inj later
      exact ⟨'/' :: stem, String.toList_ofList⟩
  · exact ⟨stem, ends⟩

theorem outputPath_of_ends {t : Transformer} {path : String} {stem : List Char}
    (ends : path.toList = stem ++ '.' :: t.sourceExt.toList) :
    (t.outputPath path).toList = stem ++ '.' :: t.targetExt.toList := by
  rw [outputPath, Text.dropEnd?_eq_some_iff.mpr ends, String.toList_ofList]
  rfl

/-- The loader answers by a path table for a name with a last segment. -/
structure Located (t : Transformer) (s : Services σ) (name : String) (state : σ) : Prop where
  byTable : ∃ paths : PathTable, (s.loader.toUrl (name ++ "." ++ t.sourceExt) state).1 =
    paths.toUrl (name ++ "." ++ t.sourceExt)
  segment : (name.toList.splitOn '/').getLast? ≠ some []

/-- A record that is fetched for such a name. -/
inductive Fetched (t : Transformer) : SourceRecord → Prop
  | fetch {σ : Type} {s : Services σ} {name : String} {state rest : σ} {r : SourceRecord}
    (located : t.Located s name state) (fetched : t.fetchSource s name state = (.ok r, rest)) :
    Fetched t r

end Transformer

namespace SourceRecord

open Directive

/-- The two paths are one path with the two extensions. -/
def InStep (t : Transformer) (r : SourceRecord) : Prop :=
  ∃ stem, r.sourcePath.toList = stem ++ '.' :: t.sourceExt.toList ∧
    r.outputPath.toList = stem ++ '.' :: t.targetExt.toList

/-- The call on the compiler for a record: its text, with its own paths for the source map. -/
def compileCall (r : SourceRecord) (s : Services σ) (state : σ) : ServiceCall :=
  let options := CompileOptions.inlineMap r.sourcePath r.outputPath
  .compile r.text options (s.compiler.compile r.text options state).1

/-- An artifact of the code `js` goes by the paths of a record, and its text by the output path. -/
structure Names (r : SourceRecord) (js : String) (artifact : Artifact) : Prop where
  sourcePath : artifact.sourcePath = r.sourcePath
  outputPath : artifact.outputPath = r.outputPath
  directive : ∃ payload, artifact.text.toList =
    js.toList ++ nameMark ++ (r.outputPath.toList ++ mapLine payload)

theorem names_annotate (t : Transformer) (r : SourceRecord) (output : CompileOutput) :
    r.Names output.js (t.annotate r output) := by
  refine ⟨rfl, rfl, ?_⟩
  obtain ⟨payload, made, -⟩ :=
    directives_text r.outputPath.toList (output.sourceMap.map String.toList) t.base64
  refine ⟨payload, ?_⟩
  change (append output.js r.outputPath output.sourceMap t.base64).1.toList = _
  rw [append_eq, String.toList_ofList, made, List.append_assoc]

end SourceRecord

namespace Transformer

open SourceRecord

section Fetched

variable {t : Transformer} {r other : SourceRecord}

theorem outputPath_of_fetched (fetched : t.Fetched r) :
    r.outputPath = t.outputPath r.sourcePath := by
  obtain ⟨-, fetched⟩ := fetched
  obtain ⟨path, -, text, -, -, rfl⟩ := fetchSource_eq_ok fetched
  rfl

/-- What the transformer asks the compiler for is what the record says. -/
theorem compileCall_of_fetched (fetched : t.Fetched r) (s : Services σ) (state : σ) :
    t.compileCall s r.text r.sourcePath state = r.compileCall s state := by
  rw [Transformer.compileCall, SourceRecord.compileCall, compileOptions,
    ← outputPath_of_fetched fetched]

section Extension

variable (slash : '/' ∉ t.sourceExt.toList) (dot : '.' ∉ t.sourceExt.toList)
include slash dot

theorem inStep_of_fetched (fetched : t.Fetched r) : r.InStep t := by
  have derived := outputPath_of_fetched fetched
  obtain ⟨located, fetched⟩ := fetched
  obtain ⟨path, resolving, text, resolved, -, rfl⟩ := fetchSource_eq_ok fetched
  obtain ⟨paths, answer⟩ := located.byTable
  rw [resolved] at answer
  obtain ⟨stem, ends⟩ := PathTable.toUrl_ends located.segment slash dot answer.symm
  obtain ⟨shown, shownEnds⟩ := displayPath_ends slash ends
  refine ⟨shown, shownEnds, ?_⟩
  rw [derived]
  exact outputPath_of_ends shownEnds

/-- The output path tells the source path. -/
theorem sourcePath_eq_of_outputPath_eq (fetched : t.Fetched r) (again : t.Fetched other)
    (same : r.outputPath = other.outputPath) : r.sourcePath = other.sourcePath := by
  obtain ⟨stem, source, output⟩ := inStep_of_fetched slash dot fetched
  obtain ⟨stem', source', output'⟩ := inStep_of_fetched slash dot again
  rw [← String.toList_inj, output, output', List.append_cancel_right_eq] at same
  rw [← String.toList_inj, source, source', same]

end Extension

end Fetched

theorem compile_eq (t : Transformer) (s : Services σ) (r : SourceRecord) (state : σ) :
    (t.compile s r.text r.sourcePath state).1 =
      (s.compiler.compile r.text (t.compileOptions r.sourcePath) state).1.mapError
        (.compile r.sourcePath) := rfl

theorem buildArtifact_eq (t : Transformer) (s : Services σ) (r : SourceRecord) (state : σ) :
    (t.buildArtifact s r state).1 =
      (t.compile s r.text r.sourcePath state).1.map (t.annotate r) := by
  unfold buildArtifact andThen
  rcases t.compile s r.text r.sourcePath state with ⟨e | output, rest⟩ <;> rfl

section Load

variable {t : Transformer} {s : Services σ} {isBuild : Bool} {name : String} {cache : BuildCache}
  {state rest : σ} {r : SourceRecord}

/-- A load that fetches its source builds its artifact, which the loader may yet refuse. -/
theorem load_eq_build (fresh : isBuild = true → cache.find? name = none)
    (fetched : t.fetchSource s name state = (.ok r, rest)) :
    (t.load s isBuild name (cache, state)).1.map (·.artifact) = (t.buildArtifact s r rest).1 ∨
      ∃ cause, (t.load s isBuild name (cache, state)).1 = .error (.register name cause) := by
  have making : t.make s name state = t.buildArtifact s r rest := by
    rw [make, fetched]
    rfl
  rcases built : t.buildArtifact s r rest with ⟨e | artifact, ending⟩
  · rw [load_failed fresh (making.trans built)]
    exact .inl rfl
  · rw [load_made fresh (making.trans built)]
    rcases handOver_cases s name artifact false
      (if isBuild then cache.insert name artifact else cache) ending with
      ⟨cause, refused⟩ | ⟨loaded, given⟩
    · exact .inr ⟨cause, refused⟩
    · left
      rw [given]
      rfl

theorem mem_calls_compile {call : ServiceCall}
    (member : call ∈ t.calls s isBuild name (cache, state)) (compiles : call.isCompile = true) :
    ∃ r rest, t.fetchSource s name state = (.ok r, rest) ∧
      call = t.compileCall s r.text r.sourcePath rest := by
  have found : call ∈ (t.calls s isBuild name (cache, state)).filter ServiceCall.isCompile :=
    List.mem_filter.mpr ⟨member, compiles⟩
  rcases t.load_cases s isBuild name cache state with ⟨artifact, rfl, kept⟩ | ⟨fresh, -⟩
  · rw [(calls_of_kept kept t s state).filter_isCompile] at found
    exact absurd found List.not_mem_nil
  · rw [filter_calls_of_fresh fresh, compileCalls] at found
    split at found
    · rename_i r rest fetched
      exact ⟨r, rest, fetched, List.mem_singleton.mp found⟩
    · exact absurd found List.not_mem_nil

theorem filter_calls_of_fetched (fresh : isBuild = true → cache.find? name = none)
    (fetched : t.fetchSource s name state = (.ok r, rest)) :
    (t.calls s isBuild name (cache, state)).filter ServiceCall.isCompile =
      [t.compileCall s r.text r.sourcePath rest] := by
  rw [filter_calls_of_fresh fresh, compileCalls, fetched]

end Load

/-- The two paths of a record go together from the loader's answer to the cache. The output path is
the source path with the target extension in place of the source extension, and no other source
path has it. The compiler is asked for these two, whoever asks; an error of the compiler is told
with the source path; and an artifact has both, with the output path in its directive. All artifacts
that a run keeps have such paths. -/
theorem paths_stay_in_step (t : Transformer) (slash : '/' ∉ t.sourceExt.toList)
    (dot : '.' ∉ t.sourceExt.toList) :
    (∀ r, t.Fetched r → r.InStep t ∧
      ∀ {σ : Type} (s : Services σ) (state : σ) (before : List ServiceCall),
        let options := CompileOptions.inlineMap r.sourcePath r.outputPath
        let compiled := (s.compiler.compile r.text options state).1.mapError (.compile r.sourcePath)
        (t.compile s.noting r.text r.sourcePath (state, before)).2.2 =
          before ++ [r.compileCall s state] ∧
        (t.buildArtifact s.noting r (state, before)).2.2 = before ++ [r.compileCall s state] ∧
        (t.compile s r.text r.sourcePath state).1 = compiled ∧
        (t.buildArtifact s r state).1 = compiled.map (t.annotate r) ∧
        ∀ output, r.Names output.js (t.annotate r output)) ∧
    (∀ r other, t.Fetched r → t.Fetched other → r.sourcePath ≠ other.sourcePath →
      r.outputPath ≠ other.outputPath) ∧
    (∀ {σ : Type} (s : Services σ) (isBuild : Bool) (name : String) (cache : BuildCache) (state : σ),
      t.Located s name state →
      (∀ call ∈ t.calls s isBuild name (cache, state), call.isCompile = true →
        ∃ r rest, t.fetchSource s name state = (.ok r, rest) ∧ call = r.compileCall s rest) ∧
      ∀ r rest, t.fetchSource s name state = (.ok r, rest) →
        (isBuild = true → cache.find? name = none) →
        (t.calls s isBuild name (cache, state)).filter ServiceCall.isCompile =
          [r.compileCall s rest] ∧
        ((t.load s isBuild name (cache, state)).1.map (·.artifact) = (t.buildArtifact s r rest).1 ∨
          ∃ cause, (t.load s isBuild name (cache, state)).1 = .error (.register name cause))) ∧
    ∀ {σ : Type} (rs : List (LoadRequest σ)) (start : σ),
      (∀ step ∈ t.history rs (.empty, start),
        t.Located step.request.services step.request.name step.entry.2) →
      ∀ name artifact, (t.run rs (.empty, start)).1.find? name = some artifact →
        ∃ r output, t.Fetched r ∧ r.InStep t ∧ artifact = t.annotate r output := by
  refine ⟨?_, ?_, ?_, ?_⟩
  · intro r fetched
    refine ⟨inStep_of_fetched slash dot fetched, ?_⟩
    intro σ s state before options compiled
    have asked := compileCall_of_fetched fetched s state
    have optionsEq : t.compileOptions r.sourcePath = options := by
      rw [compileOptions, ← outputPath_of_fetched fetched]
    have compiledEq : (t.compile s r.text r.sourcePath state).1 = compiled := by
      rw [compile_eq, optionsEq]
    refine ⟨?_, ?_, compiledEq, ?_, names_annotate t r⟩
    · rw [compile_noting, asked]
    · rw [buildArtifact_noting, asked]
    · rw [buildArtifact_eq, compiledEq]
  · intro r other fetched again apart same
    exact apart (sourcePath_eq_of_outputPath_eq slash dot fetched again same)
  · intro σ s isBuild name cache state located
    refine ⟨?_, ?_⟩
    · intro call member compiles
      obtain ⟨r, rest, fetched, rfl⟩ := mem_calls_compile member compiles
      exact ⟨r, rest, fetched, compileCall_of_fetched (.fetch located fetched) s rest⟩
    · intro r rest fetched fresh
      refine ⟨?_, load_eq_build fresh fetched⟩
      rw [filter_calls_of_fetched fresh fetched,
        compileCall_of_fetched (.fetch located fetched) s rest]
  · intro σ rs start located name artifact kept
    rcases find?_run kept with before | ⟨step, member, -, r, fetching, output, fetched, made⟩
    · simp at before
    · have record : t.Fetched r := .fetch (located step member) fetched
      exact ⟨r, output, record, inStep_of_fetched slash dot record, made⟩

def fetching : Services Registry :=
  .ofRegistry (fun _ => .ok "x = 1") "identity" fun source options =>
    .ok (Identity.compile source options)

theorem fetchSource_fetching {t : Transformer} {name path : String} {r : Registry}
    (resolved : t.resolve fetching name r = (.ok path, r)) :
    t.fetchSource fetching name r = (.ok (t.record name path "x = 1"), r) := by
  rw [fetchSource, resolved]
  rfl

theorem located_registry (t : Transformer) {name : String}
    (segment : (name.toList.splitOn '/').getLast? ≠ some []) (r : Registry) :
    t.Located fetching name r :=
  ⟨⟨r.paths, rfl⟩, segment⟩

def movedList : SourceRecord :=
  (ofKind "coffee").record "model/list" "static/modules/models/list.coffee" "x = 1"

/-- The source of the module of that folder that has moved elsewhere. -/
def movedTodo : SourceRecord :=
  (ofKind "coffee").record "model/todo" "static/modules/todo_model.coffee" "x = 1"

theorem fetchSource_movedList :
    (ofKind "coffee").fetchSource fetching "model/list" movedModels = (.ok movedList, movedModels) :=
  fetchSource_fetching rfl

theorem fetchSource_movedTodo :
    (ofKind "coffee").fetchSource fetching "model/todo" movedModels = (.ok movedTodo, movedModels) :=
  fetchSource_fetching rfl

theorem fetched_movedList : (ofKind "coffee").Fetched movedList :=
  .fetch (located_registry _ (by decide) movedModels) fetchSource_movedList

theorem fetched_movedTodo : (ofKind "coffee").Fetched movedTodo :=
  .fetch (located_registry _ (by decide) movedModels) fetchSource_movedTodo

/-- Both modules have paths of their own, and a build of the second asks the compiler for its. -/
theorem moved_modules_in_step :
    ('/' ∉ (ofKind "coffee").sourceExt.toList ∧ '.' ∉ (ofKind "coffee").sourceExt.toList) ∧
      (ofKind "coffee").Fetched movedList ∧ (ofKind "coffee").Fetched movedTodo ∧
      movedTodo.InStep (ofKind "coffee") ∧ movedList.sourcePath ≠ movedTodo.sourcePath ∧
      movedList.outputPath ≠ movedTodo.outputPath ∧
      ((ofKind "coffee").calls fetching true "model/todo" (.empty, movedModels)).filter
        ServiceCall.isCompile = [movedTodo.compileCall fetching movedModels] := by
  have slash : '/' ∉ (ofKind "coffee").sourceExt.toList := by decide
  have dot : '.' ∉ (ofKind "coffee").sourceExt.toList := by decide
  obtain ⟨records, apart, loads, -⟩ := paths_stay_in_step (ofKind "coffee") slash dot
  have differ : movedList.sourcePath ≠ movedTodo.sourcePath := by
    change displayPath "static/modules/models/list.coffee" ≠
      displayPath "static/modules/todo_model.coffee"
    decide
  have load := (loads fetching true "model/todo" .empty movedModels
    (located_registry _ (by decide) movedModels)).2 movedTodo movedModels fetchSource_movedTodo
    fun _ => NameMap.find?_empty _
  exact ⟨⟨slash, dot⟩, fetched_movedList, fetched_movedTodo,
    (records movedTodo fetched_movedTodo).1, differ,
    apart movedList movedTodo fetched_movedList fetched_movedTodo differ, load.1⟩

end Transformer

end AmdBundler
