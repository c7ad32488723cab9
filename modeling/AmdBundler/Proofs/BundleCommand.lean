import AmdBundler.CommandLine.Bundle
import AmdBundler.Proofs.FileReplacement
import AmdBundler.Proofs.LoadRun
import AmdBundler.Text.Utf8.Lemmas

namespace AmdBundler

namespace FileSystem
open Replacement

/-- A file was replaced: it holds the bytes, and what else changed are directories that its path
passes through and that were not there, and a file at the temporary place, which is gone. -/
structure Replaced (before after : FileSystem) (target : Path) (bytes : List UInt8)
    (process : Nat) : Prop where
  workPlace : after.workPlace = before.workPlace
  read : after.read target = .ok bytes
  rest : ∀ place, after.tree.look place = before.tree.look place ∨
    after.place target = .ok place ∨
    (before.tree.look place = none ∧ after.tree.look place = some none ∧
      ∃ path, target.Passes path ∧ after.place path = .ok place) ∨
    (∃ old, before.tree.look place = some (some old)) ∧ after.tree.look place = none ∧
      ∃ folder name, after.place target = .ok (folder ++ [name]) ∧
        place = folder ++ [temporaryName (some name) process]

/-- Only a file changed, and directories above its place. -/
def ChangedAlone (before after : FileSystem) (target : Path) : Prop :=
  ∀ place, after.tree.look place ≠ before.tree.look place →
    ∃ full, after.place target = .ok full ∧ place <+: full

end FileSystem

namespace CommandLine
open FileSystem Replacement

theorem makeParent_adds (files : FileSystem) (target : Path) :
    files.Adds (makeParent files target).1 target.Passes := by
  rw [makeParent]
  split
  · exact Adds.refl files _
  · rename_i parent above
    split
    · exact Adds.refl files _
    · refine (makeDirectoriesFrom_adds files _ parent).mono ?_
      rintro p (rfl | passes)
      · exact .parent above
      · exact .further above passes

theorem writeFile_ok {world : World} {target : Path} {text : String} {files : FileSystem}
    (written : writeFile world target text = (files, none)) :
    world.files.Replaced files target (Utf8.encode text.toList) world.process := by
  rw [writeFile] at written
  have adds := makeParent_adds world.files target
  split at written
  · cases written
  · rename_i opened made
    rw [made] at adds
    obtain ⟨folder, name, leads, kept, bare, seen⟩ := replaceFile_ok written
    refine ⟨kept.workPlace.trans adds.workPlace, ?_, fun place => ?_⟩
    · have file := seen (folder ++ [name])
      rw [if_pos rfl, FileTree.look_eq_file] at file
      simp only [FileSystem.read, FileSystem.find, leads, file]
    · have now := seen place
      split at now
      · rename_i here
        exact .inr (.inl (here ▸ leads))
      · split at now
        · rename_i beside
          rcases adds.look place with same | ⟨-, there, -⟩
          · cases old : world.files.tree.look place with
            | none => exact .inl now
            | some seen =>
              cases seen with
              | none => exact absurd (beside ▸ same.trans old) bare
              | some bytes =>
                exact .inr (.inr (.inr ⟨⟨bytes, rfl⟩, now, folder, name, leads, beside⟩))
          · exact absurd (beside ▸ there) bare
        · rcases adds.look place with same | ⟨none, there, path, passes, reached⟩
          · exact .inl (now.trans same)
          · right; right; left
            exact ⟨none, now.trans there, path, passes, place_of_keeps kept reached there⟩

/-- The error of a load that failed, with the name that was asked for. -/
def failure? (step : LoadStep Registry) : Option LoadFailure :=
  match step.result with
  | .ok _ => none
  | .error cause => some ⟨step.request.name, cause⟩

namespace Pipeline

def request (p : Pipeline) (name : String) : LoadRequest Registry :=
  ⟨id, p.services, p.project.isBuild, name⟩

def start (p : Pipeline) : BuildCache × Registry := (.empty, p.registry)

def steps (p : Pipeline) (names : List String) : List (LoadStep Registry) :=
  p.transformer.history (names.map p.request) p.start

def cache (p : Pipeline) (names : List String) : BuildCache :=
  (p.transformer.run (names.map p.request) p.start).1

theorem names_history (p : Pipeline) (names : List String) (state : BuildCache × Registry) :
    (p.transformer.history (names.map p.request) state).map (fun step => step.request.name) =
      names := by
  induction names generalizing state with
  | nil => rfl
  | cons name names ih => exact congrArg (name :: ·) (ih _)

end Pipeline

theorem load_eq (p : Pipeline) (l : Loads) (name : String) :
    l.load p name = ⟨(p.transformer.perform (p.request name) l.state).exit,
      l.failures ++ (failure? (p.transformer.perform (p.request name) l.state)).toList⟩ := by
  have performed : (p.transformer.perform (p.request name) l.state).result =
        (p.transformer.load p.services p.project.isBuild name l.state).1 ∧
      (p.transformer.perform (p.request name) l.state).exit =
        (p.transformer.load p.services p.project.isBuild name l.state).2 := ⟨rfl, rfl⟩
  rw [Loads.load, failure?, performed.1, performed.2, Transformer.perform_request]
  rcases p.transformer.load p.services p.project.isBuild name l.state with ⟨result, state⟩
  cases result with
  | ok outcome => simp
  | error cause => rfl

/-- A row of loads is a run, and its failures are those of its steps. -/
theorem foldl_load (p : Pipeline) (names : List String) (l : Loads) :
    names.foldl (Loads.load p) l = ⟨p.transformer.run (names.map p.request) l.state,
      l.failures ++ (p.transformer.history (names.map p.request) l.state).filterMap failure?⟩ := by
  induction names generalizing l with
  | nil => simp [Transformer.history]
  | cons name names ih =>
    rw [List.foldl_cons, ih, load_eq, List.map_cons, Transformer.run_cons, Transformer.history,
      List.filterMap_cons]
    cases failure? (p.transformer.perform (p.request name) l.state) with
    | none => simp
    | some f => simp

theorem ofNames_eq (p : Pipeline) (names : List String) :
    Loads.ofNames p names = ⟨p.transformer.run (names.map p.request) p.start,
      (p.steps names).filterMap failure?⟩ :=
  foldl_load p names ⟨p.start, []⟩

/-- The names that were given, and with them, if all are asked for, those of all sources. -/
def listed (world : World) (directory : Path) (p : Pipeline) (names : List String) (all : Bool) :
    List String :=
  if all then addNames names (discover world directory p.project) else names

/-- The command failed and left the files alone. -/
structure Untouched (world : World) (outcome : Outcome) : Prop where
  files : outcome.files = world.files
  code : outcome.code ≠ 0

theorem failure?_eq_none_iff (step : LoadStep Registry) :
    failure? step = none ↔ step.succeeded = true := by
  rw [failure?, LoadStep.succeeded]
  cases step.result <;> simp [Except.isOk, Except.toBool]

theorem failures_eq_nil_iff (steps : List (LoadStep Registry)) :
    steps.filterMap failure? = [] ↔ ∀ step ∈ steps, step.succeeded = true := by
  simp only [List.filterMap_eq_nil_iff, failure?_eq_none_iff]

theorem untouched_failure (world : World) (message : String) :
    Untouched world (.failure world message) := ⟨rfl, by simp [Outcome.failure]⟩

/-- Nothing to bundle is refused, like sources that cannot be listed. -/
theorem moduleNames_cases (world : World) (directory : Path) (p : Pipeline)
    (names : List String) (all : Bool) :
    (∃ message, moduleNames world directory p.project names all = .error message) ∨
    listed world directory p names all ≠ [] ∧
      moduleNames world directory p.project names all =
        .ok (listed world directory p names all) := by
  have unfolded : moduleNames world directory p.project names all =
      if all && hasScheme p.project.baseUrl then
        .error ("--all needs a local baseUrl, got `" ++ p.project.baseUrl ++ "`")
      else if (listed world directory p names all).isEmpty then
        .error "no modules to bundle (name some, or pass --all)"
      else .ok (listed world directory p names all) := rfl
  rw [unfolded]
  split
  · exact .inl ⟨_, rfl⟩
  · split
    · exact .inl ⟨_, rfl⟩
    · rename_i full
      exact .inr ⟨by simpa using full, rfl⟩

theorem eq_listed {world : World} {directory : Path} {p : Pipeline} {names list : List String}
    {all : Bool} (accepted : moduleNames world directory p.project names all = .ok list) :
    list = listed world directory p names all := by
  rcases moduleNames_cases world directory p names all with ⟨message, wrong⟩ | ⟨-, right⟩
  · rw [wrong] at accepted
    cases accepted
  · exact Except.ok.inj (accepted.symm.trans right)

theorem bundleReport_ofNames (p : Pipeline) (list : List String) (outfile : Option Path)
    (elapsed : Nat) :
    let failures := (p.steps list).filterMap failure?
    let written := (p.cache list).writeAll pluginName .empty
    bundleReport outfile (Loads.ofNames p list) (Loads.ofNames p list).bundle.text.utf8ByteSize
        elapsed = object (
      .boolean "ok" failures.isEmpty :: Member.text? "outfile" (outfile.map Path.text) ++ [
      .list "modules" (written.ids.map Json.writeText),
      .number "size_bytes"
        (if failures.isEmpty then (Utf8.encode written.text.toList).length else 0),
      .number "duration_ms" elapsed,
      .list "errors" (failures.map LoadFailure.report)]) := by
  intro failures written
  have holding : (Loads.ofNames p list).bundle = written := by
    rw [ofNames_eq]
    rfl
  rw [bundleReport, holding, ofNames_eq, ← Utf8.length_encode]

section Command

variable {world : World} {directory : Path} {names : List String} {all : Bool}
  {overrides : Overrides} {p : Pipeline} (outfile : Option Path) (json : Bool)

theorem bundle_of_load_error {e : SetUpError}
    (broken : Pipeline.load world directory overrides true = .error e) :
    bundle world directory names all outfile overrides json = .failure world e.message := by
  rw [bundle, broken]

theorem bundle_of_names_error {message : String}
    (set : Pipeline.load world directory overrides true = .ok p)
    (refused : moduleNames world directory p.project names all = .error message) :
    bundle world directory names all outfile overrides json = .failure world message := by
  rw [bundle, set]
  simp only [refused]

theorem bundle_of_scheduler_fault {reason : String}
    (set : Pipeline.load world directory overrides true = .ok p)
    (unscheduled : world.schedulerFault? = some reason) :
    ∃ message, bundle world directory names all outfile overrides json =
      .failure world message := by
  rw [bundle, set]
  simp only [unscheduled]
  cases moduleNames world directory p.project names all with
  | error message => exact ⟨message, rfl⟩
  | ok list => exact ⟨reason, rfl⟩

variable {list : List String} (scheduled : world.schedulerFault? = none)
  (set : Pipeline.load world directory overrides true = .ok p)
  (accepted : moduleNames world directory p.project names all = .ok list)

include scheduled set accepted

theorem bundle_of_failures (failed : (Loads.ofNames p list).failures ≠ []) :
    Untouched world (bundle world directory names all outfile overrides json) ∧
    (json = true → (bundle world directory names all outfile overrides json).stdout =
      printed (bundleReport outfile (Loads.ofNames p list)
        (Loads.ofNames p list).bundle.text.utf8ByteSize world.elapsed)) := by
  rw [bundle, set]
  simp only [scheduled, accepted, List.isEmpty_iff, failed, if_false]
  cases json with
  | true => exact ⟨⟨rfl, by simp [Outcome.complaints]⟩, fun _ => rfl⟩
  | false => exact ⟨⟨rfl, by simp [Outcome.complaints]⟩, fun no => by cases no⟩

/-- If every module could be loaded, the command succeeds unless the bundle cannot be written. -/
theorem bundle_of_no_failures (loaded : (Loads.ofNames p list).failures = []) :
    ((bundle world directory names all outfile overrides json).code = 0 ∧
      (json = true → (bundle world directory names all outfile overrides json).stdout =
        printed (bundleReport outfile (Loads.ofNames p list)
          (Loads.ofNames p list).bundle.text.utf8ByteSize world.elapsed)) ∧
      (∀ path, outfile = some path →
        writeFile world (directory.join path) (Loads.ofNames p list).bundle.text =
          ((bundle world directory names all outfile overrides json).files, none)) ∧
      (outfile = none →
        (bundle world directory names all outfile overrides json).files = world.files)) ∨
    (bundle world directory names all outfile overrides json).code = 1 ∧
      ∃ path fault, outfile = some path ∧
        (writeFile world (directory.join path) (Loads.ofNames p list).bundle.text).2 =
          some fault := by
  rw [bundle, set]
  simp only [scheduled, accepted, List.isEmpty_iff, loaded, if_true]
  cases outfile with
  | none =>
    refine .inl ⟨rfl, ?_, ?_, fun _ => rfl⟩
    · rintro rfl
      rfl
    · rintro path ⟨⟩
  | some path =>
    cases done : writeFile world (directory.join path) (Loads.ofNames p list).bundle.text with
    | mk files fault =>
      cases fault with
      | none =>
        left
        simp only [done]
        refine ⟨rfl, ?_, ?_, ?_⟩
        · rintro rfl
          rfl
        · rintro other ⟨⟩
          exact done
        · rintro ⟨⟩
      | some fault =>
        right
        simp only [done]
        exact ⟨rfl, path, fault, rfl, congrArg Prod.snd done⟩

end Command

/-- A partial bundle is never written. -/
theorem bundle_all_or_nothing (world : World) (directory : Path) (names : List String)
    (all : Bool) (outfile : Option Path) (overrides : Overrides) (json : Bool) :
    let outcome := bundle world directory names all outfile overrides json
    (∀ e, Pipeline.load world directory overrides true = .error e → Untouched world outcome) ∧
    ∀ p, Pipeline.load world directory overrides true = .ok p →
      (listed world directory p names all = [] → Untouched world outcome) ∧
      (∀ message, moduleNames world directory p.project names all = .error message →
        Untouched world outcome) ∧
      (∀ reason, world.schedulerFault? = some reason → Untouched world outcome) ∧
      (world.schedulerFault? = none → ∀ list,
        moduleNames world directory p.project names all = .ok list →
        let failures := (p.steps list).filterMap failure?
        let written := (p.cache list).writeAll pluginName .empty
        let bytes := Utf8.encode written.text.toList
        list = listed world directory p names all ∧
        (p.steps list).map (fun step => step.request.name) = list ∧
        ((∃ step ∈ p.steps list, step.succeeded = false) → Untouched world outcome) ∧
        ((∀ step ∈ p.steps list, step.succeeded = true) → outcome.code = 0 ∨
          ∃ path fault, outfile = some path ∧
            (writeFile world (directory.join path) written.text).2 = some fault) ∧
        (outcome.code = 0 →
          (∀ path, outfile = some path →
            world.files.Replaced outcome.files (directory.join path) bytes world.process) ∧
          (outfile = none → outcome.files = world.files)) ∧
        (json = true → failures ≠ [] ∨ outcome.code = 0 →
          outcome.stdout = printed (object (
            .boolean "ok" failures.isEmpty :: Member.text? "outfile" (outfile.map Path.text) ++ [
            .list "modules" (written.ids.map Json.writeText),
            .number "size_bytes" (if failures.isEmpty then bytes.length else 0),
            .number "duration_ms" world.elapsed,
            .list "errors" (failures.map LoadFailure.report)])))) := by
  intro outcome
  refine ⟨?_, ?_⟩
  · intro e broken
    rw [show outcome = _ from bundle_of_load_error outfile json broken]
    exact untouched_failure world _
  · intro p set
    have refused (message : String)
        (wrong : moduleNames world directory p.project names all = .error message) :
        Untouched world outcome := by
      rw [show outcome = _ from bundle_of_names_error outfile json set wrong]
      exact untouched_failure world message
    refine ⟨?_, refused, ?_, ?_⟩
    · intro empty
      rcases moduleNames_cases world directory p names all with ⟨message, wrong⟩ | ⟨full, -⟩
      · exact refused message wrong
      · exact absurd empty full
    · intro reason unscheduled
      obtain ⟨message, failed⟩ := bundle_of_scheduler_fault outfile json set unscheduled
      rw [show outcome = _ from failed]
      exact untouched_failure world message
    · intro scheduled list accepted failures written bytes
      have loads := ofNames_eq p list
      have failing : (Loads.ofNames p list).failures = failures := by rw [loads]
      have holding : (Loads.ofNames p list).bundle = written := by
        rw [loads]
        rfl
      have report := bundleReport_ofNames p list outfile world.elapsed
      refine ⟨eq_listed accepted, p.names_history list p.start, ?_⟩
      by_cases none : failures = []
      · have loaded := (failures_eq_nil_iff (p.steps list)).mp none
        have broken : ¬∃ step ∈ p.steps list, step.succeeded = false := by
          rintro ⟨step, member, failed⟩
          rw [loaded step member] at failed
          cases failed
        have done := bundle_of_no_failures outfile json scheduled set accepted (failing.trans none)
        rw [report, holding] at done
        refine ⟨fun any => absurd any broken, fun _ => done.imp And.left And.right, ?_, ?_⟩
        · intro success
          rcases done with ⟨-, -, wrote, silent⟩ | ⟨failure, -⟩
          · exact ⟨fun path is => writeFile_ok (wrote path is), silent⟩
          · rw [success] at failure
            cases failure
        · rintro shown (some | success)
          · exact absurd none some
          · rcases done with ⟨-, printed, -⟩ | ⟨failure, -⟩
            · exact printed shown
            · rw [success] at failure
              cases failure
      · obtain ⟨untouched, shown⟩ :=
          bundle_of_failures outfile json scheduled set accepted (failing ▸ none)
        rw [report] at shown
        refine ⟨fun _ => untouched, ?_, ?_, fun printed _ => shown printed⟩
        · intro loaded
          exact absurd ((failures_eq_nil_iff (p.steps list)).mpr loaded) none
        · intro success
          exact absurd success untouched.code

/-- A project of one module, with other entries beside it. -/
def oneModule (entries : List (FileName × FileTree)) : World where
  files := ⟨.directory ((.ofText "m.coffee", .file []) :: entries), []⟩
  opens := fun _ => true
  network := .silent
  clientFault? := none
  schedulerFault? := none
  runner := Runner.bare ⟨.directory [], []⟩
  process := 7
  elapsed := 0

/-- Bundles the module of such a project. -/
def bundleOne (entries : List (FileName × FileTree)) (outfile : String) : Outcome :=
  bundle (oneModule entries) (.ofText "/") ["m"] false (some (.ofText outfile))
    ⟨none, some .identity, none⟩ false

/-- More may change than the target and the directories above it: a directory that the path leaves
again is made, and a file that stands at the temporary place is gone. -/
theorem bundle_changes_more_than_target :
    ((bundleOne [] "a/../out.js").code = 0 ∧
      ¬(oneModule []).files.ChangedAlone (bundleOne [] "a/../out.js").files
        ((Path.ofText "/").join (.ofText "a/../out.js"))) ∧
    (bundleOne [(.ofText ".out.js.tmp.7", .file [])] "out.js").code = 0 ∧
      ¬(oneModule [(.ofText ".out.js.tmp.7", .file [])]).files.ChangedAlone
        (bundleOne [(.ofText ".out.js.tmp.7", .file [])] "out.js").files
        ((Path.ofText "/").join (.ofText "out.js")) := by
  have target (path : Except FileError (List FileName)) (full : List FileName)
      (leads : path.toOption = some [.ofText "out.js"]) (same : path = .ok full) :
      full = [.ofText "out.js"] := by
    rw [same] at leads
    cases leads
    rfl
  refine ⟨⟨by decide +kernel, fun alone => ?_⟩, by decide +kernel, fun alone => ?_⟩
  · obtain ⟨full, leads, below⟩ := alone [.ofText "a"] (by decide +kernel)
    rw [target _ full (by decide +kernel) leads] at below
    exact absurd below (by decide)
  · obtain ⟨full, leads, below⟩ := alone [.ofText ".out.js.tmp.7"] (by decide +kernel)
    rw [target _ full (by decide +kernel) leads] at below
    exact absurd below (by decide)

end CommandLine

end AmdBundler
