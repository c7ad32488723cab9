import AmdBundler.Compiler.Runner
import AmdBundler.Source.Discovery
import AmdBundler.Source.Fetcher

namespace AmdBundler.CommandLine

/-- What a run of the program finds. -/
structure World where
  files : FileSystem
  /-- The directories that may be listed. -/
  opens : Openness
  network : Network
  /-- Why there is no client for the network, if there is none. -/
  clientFault? : Option String
  /-- Why loads cannot be scheduled, if they cannot. -/
  schedulerFault? : Option String
  runner : Runner
  /-- The number of the running process, which temporary files carry. -/
  process : Nat
  /-- How long the command takes, in whole milliseconds. -/
  elapsed : Nat

structure Outcome where
  code : Nat
  stdout : String
  stderr : String
  files : FileSystem

namespace Outcome

def success (world : World) (stdout : String) : Outcome :=
  ⟨0, stdout, "", world.files⟩

def failure (world : World) (message : String) : Outcome :=
  ⟨1, "", "Error: " ++ message ++ "\n", world.files⟩

def complaints (world : World) (messages : List String) : Outcome :=
  ⟨1, "", String.join (messages.map fun m => "error: " ++ m ++ "\n"), world.files⟩

end Outcome

end AmdBundler.CommandLine
