import AmdBundler.CommandLine.Pipeline
import AmdBundler.CommandLine.Report

namespace AmdBundler.CommandLine

def endLine (text : String) : String :=
  if text.toList.getLast? = some '\n' then text else text ++ "\n"

def compiledReport (name : String) (a : Artifact) (elapsed : Nat) : List Char :=
  object [
    .boolean "ok" true,
    .text "module" name,
    .text "source_path" a.sourcePath,
    .text "output_path" a.outputPath,
    ("embedding", embeddingReport a.embedding),
    .text "text" a.text,
    .number "duration_ms" elapsed]

def failedReport (f : LoadFailure) (elapsed : Nat) : List Char :=
  object [
    .boolean "ok" false,
    .text "module" f.name,
    .number "duration_ms" elapsed,
    ("error", f.report)]

def compile (world : World) (directory : Path) (name : String) (overrides : Overrides)
    (json : Bool) : Outcome :=
  match Pipeline.load world directory overrides false, world.schedulerFault? with
  | .error e, _ => .failure world e.message
  | .ok _, some reason => .failure world reason
  | .ok p, none =>
    match (p.transformer.load p.services p.project.isBuild name (.empty, p.registry)).1 with
    | .ok outcome =>
      .success world <|
        if json then printed (compiledReport name outcome.artifact world.elapsed)
        else endLine outcome.artifact.text
    | .error cause =>
      if json then
        { Outcome.complaints world [] with
          stdout := printed (failedReport ⟨name, cause⟩ world.elapsed) }
      else .complaints world [cause.message]

end AmdBundler.CommandLine
