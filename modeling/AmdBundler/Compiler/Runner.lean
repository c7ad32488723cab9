import AmdBundler.Compiler.Child
import AmdBundler.Files.System

namespace AmdBundler

inductive StartFault where
  | containsNul
  | file (cause : FileError)
deriving DecidableEq

def StartFault.message : StartFault → String
  | .containsNul => "nul byte found in provided data"
  | .file cause => cause.message

namespace Child

/-- How far a child comes: each stage is reached only if the one before it went well. How a child
ended is known only once it has taken the whole request and has been waited for. -/
inductive Course where
  | notStarted (fault : StartFault)
  | notWritten (reason : String)
  | notAwaited (reason : String)
  | ended (exit : Exit)
deriving DecidableEq

end Child

/-- Starts a program in a directory, sends it a text and waits for its end. -/
abbrev Runner := Path → String → String → Child.Course

namespace Runner

/-- The directory is entered before the program is looked up there. A name without a slash is looked
up among the installed programs, and there are none. -/
def missing (files : FileSystem) (directory : Path) (program : String) : StartFault :=
  if directory.bytes.contains 0 || program.toList.contains '\x00' then .containsNul
  else
    match files.place directory with
    | .error cause => .file cause
    | .ok place =>
      match files.tree.find? place with
      | some (.directory _) =>
        if program.toList.contains '/' then
          match { files with workPlace := place }.find (.ofText program) with
          | .error cause => .file cause
          | .ok _ => .file .permissionDenied
        else if FileSystem.nameLimit < program.utf8ByteSize then .file .nameTooLong
        else .file .notFound
      | _ => .file .notDirectory

/-- The runner of a host on which no file is a program. -/
def bare (files : FileSystem) : Runner := fun directory program _ =>
  .notStarted (missing files directory program)

end Runner

namespace Child

def standardProgram : String := "node"

/-- What a child says that came so far. -/
def Course.outcome (program : String) : Course → Except CompilerError CompileOutput
  | .notStarted fault => .error (.io ("failed to execute " ++ program ++ ": " ++ fault.message))
  | .notWritten reason => .error (.io ("failed to write to compiler: " ++ reason))
  | .notAwaited reason => .error (.io ("failed to wait for compiler: " ++ reason))
  | .ended exit => exit.outcome

def compile (run : Runner) (directory : Path) (program source : String)
    (options : CompileOptions) : Except CompilerError CompileOutput :=
  (run directory program (request source options)).outcome program

end Child

end AmdBundler
