import AmdBundler.CommandLine.Bundle
import AmdBundler.CommandLine.Probe

namespace AmdBundler.CommandLine

def Invocation.run (i : Invocation) (world : World) : Outcome :=
  let directory := i.projectPath world
  match i.command with
  | .version => .success world (versionLine ++ "\n")
  | .probe host => probe world directory host i.json
  | .compile name overrides => compile world directory name overrides i.json
  | .bundle names all outfile overrides =>
    bundle world directory names all outfile overrides i.json

def usage : String :=
  "Usage: " ++ programName ++ " [-v] [--json] [--cwd PATH] [version | probe | compile | bundle]\n"

def run (arguments : List String) (world : World) : Outcome :=
  match parse arguments with
  | .ok i => i.run world
  | .error .showVersion => .success world (programName ++ " " ++ version ++ "\n")
  | .error .showHelp => .success world usage
  | .error .usage => ⟨2, "", usage, world.files⟩

end AmdBundler.CommandLine
