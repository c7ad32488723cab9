import AmdBundler.Compiler.Basic
import AmdBundler.Text.Blank

namespace AmdBundler.Child

structure Request where
  source : String
  options : CompileOptions
deriving DecidableEq

open Json in
def Request.record : Record Request where
  title := "NodeRequest"
  blank := ⟨"", CompileOptions.record.blank⟩
  fields := [
    .of "source" .required .string (·.source) (fun x r => { r with source := x }) fun _ => false,
    .of "options" .required CompileOptions.codec (·.options) (fun x r => { r with options := x })
      fun _ => false]

def Request.codec : Json.Codec Request := Request.record.codec

structure Response where
  js : Option String
  sourceMap : Option String
  error : Option String
  line : Option UInt32
  column : Option UInt32
deriving DecidableEq

open Json in
def Response.record : Record Response where
  title := "NodeResponse"
  blank := ⟨none, none, none, none, none⟩
  fields := [
    .of "js" .optional (.nullable .string) (·.js) (fun x r => { r with js := x }) fun _ => false,
    .of "v3SourceMap" .optional (.nullable .string) (·.sourceMap)
      (fun x r => { r with sourceMap := x }) fun _ => false,
    .of "error" .optional (.nullable .string) (·.error) (fun x r => { r with error := x })
      fun _ => false,
    .of "line" .optional (.nullable .uint32) (·.line) (fun x r => { r with line := x })
      fun _ => false,
    .of "column" .optional (.nullable .uint32) (·.column) (fun x r => { r with column := x })
      fun _ => false]

def Response.codec : Json.Codec Response := Response.record.codec

inductive Ending where
  | exited (code : Nat)
  /-- A signal ended it, and may have left its memory behind. -/
  | killed (signal : Nat) (dumped : Bool)
deriving DecidableEq

namespace Ending

def signalNames : List String := [
  "SIGHUP", "SIGINT", "SIGQUIT", "SIGILL", "SIGTRAP", "SIGABRT", "SIGBUS", "SIGFPE", "SIGKILL",
  "SIGUSR1", "SIGSEGV", "SIGUSR2", "SIGPIPE", "SIGALRM", "SIGTERM", "SIGSTKFLT", "SIGCHLD",
  "SIGCONT", "SIGSTOP", "SIGTSTP", "SIGTTIN", "SIGTTOU", "SIGURG", "SIGXCPU", "SIGXFSZ",
  "SIGVTALRM", "SIGPROF", "SIGWINCH", "SIGIO", "SIGPWR", "SIGSYS"]

def signalName? (signal : Nat) : Option String :=
  if signal = 0 then none else signalNames[signal - 1]?

def message : Ending → String
  | .exited code => "exit status: " ++ toString code
  | .killed signal dumped =>
    let name := match signalName? signal with
      | some name => " (" ++ name ++ ")"
      | none => ""
    "signal: " ++ toString signal ++ name ++ (if dumped then " (core dumped)" else "")

end Ending

/-- The end of a child, and what it wrote. -/
structure Exit where
  ending : Ending
  stdout : List UInt8
  stderr : List UInt8
deriving DecidableEq

def request (source : String) (options : CompileOptions) : String :=
  Request.codec.render ⟨source, options⟩

/-- What an answer says. An error counts, whatever else is there. -/
def Response.outcome (r : Response) : Except CompilerError CompileOutput :=
  match r.error, r.js with
  | some message, _ =>
    match r.line, r.column with
    | some line, some column => .error ((CompilerError.parse message).located line column)
    | _, _ => .error (.parse message)
  | none, some js => .ok ⟨js, r.sourceMap⟩
  | none, none => .error (.protocol "compiler response has no `js` field")

def decode (stdout : List UInt8) : Except CompilerError CompileOutput :=
  match Response.codec.parseText stdout with
  | .error message => .error (.protocol ("invalid compiler response: " ++ message))
  | .ok response => response.outcome

/-- What a child that has ended says. What it wrote counts only if it ended well. -/
def Exit.outcome (e : Exit) : Except CompilerError CompileOutput :=
  if e.ending = .exited 0 then decode e.stdout
  else
    let complaint := String.ofList (Text.trim (Utf8.decodeLossy e.stderr))
    .error (.io ("compiler exited with " ++ e.ending.message ++ ": " ++ complaint))

end AmdBundler.Child
