import AmdBundler.Host
import AmdBundler.Project.Config

namespace AmdBundler.CommandLine

structure Overrides where
  host : Option HostKind
  compiler : Option CompilerKind
  baseUrl : Option String
deriving DecidableEq

inductive Command where
  | version
  | probe (host : Option HostKind)
  | compile (name : String) (overrides : Overrides)
  | bundle (names : List String) (all : Bool) (outfile : Option Path) (overrides : Overrides)
deriving DecidableEq

/-- A command with the options that every command takes. -/
structure Invocation where
  verbosity : Nat
  json : Bool
  directory : Option Path
  command : Command
deriving DecidableEq

/-- Why there is no command to run. -/
inductive Refusal where
  /-- The arguments make no sense. -/
  | usage
  | showVersion
  | showHelp
deriving DecidableEq

inductive OptionName where
  | verbose
  | json
  | cwd
  | help
  | version
  | host
  | compiler
  | baseUrl
  | all
  | outfile
deriving DecidableEq

namespace OptionName

def long : OptionName → String
  | .verbose => "verbose"
  | .json => "json"
  | .cwd => "cwd"
  | .help => "help"
  | .version => "version"
  | .host => "host"
  | .compiler => "compiler"
  | .baseUrl => "base-url"
  | .all => "all"
  | .outfile => "outfile"

def short? : OptionName → Option Char
  | .verbose => some 'v'
  | .help => some 'h'
  | .version => some 'V'
  | .outfile => some 'o'
  | _ => none

def takesValue : OptionName → Bool
  | .cwd | .host | .compiler | .baseUrl | .outfile => true
  | _ => false

def isCounted (o : OptionName) : Bool := o == .verbose

def common : List OptionName := [.verbose, .json, .cwd, .help]

def loading : List OptionName := [.host, .compiler, .baseUrl]

end OptionName

/-- Letters with another case that is one of the letters of a known word. -/
def lowerChar (c : Char) : Char :=
  if c = '\u212A' then 'k' else c.toLower

def lower (text : String) : String :=
  String.ofList (text.toList.map lowerChar)

/-- The host that a word means, in letters of any case. -/
def host? (text : String) : Option HostKind :=
  ([("fs", HostKind.filesystem), ("http", .network)] ++ HostKind.table).lookup (lower text)

/-- The compiler that a word means, in letters of any case. -/
def compiler? (text : String) : Option CompilerKind :=
  ([("coffee", CompilerKind.node), ("js", .identity)] ++ CompilerKind.table).lookup (lower text)

/-- The text is a value of the option. Paths are not empty. -/
def accepts (o : OptionName) (value : String) : Bool :=
  match o with
  | .cwd | .outfile => !value.isEmpty
  | .host => (host? value).isSome
  | .compiler => (compiler? value).isSome
  | _ => true

/-- What was read in one place: options with their values, and the other words, the last one
first. -/
structure Reading where
  given : List (OptionName × String)
  words : List String

namespace Reading

def empty : Reading := ⟨[], []⟩

def has (r : Reading) (o : OptionName) : Bool :=
  r.given.any (·.1 == o)

def value? (r : Reading) (o : OptionName) : Option String :=
  r.given.lookup o

def count (r : Reading) (o : OptionName) : Nat :=
  r.given.countP (·.1 == o)

def give (r : Reading) (o : OptionName) (value : String) : Except Refusal Reading :=
  if o = .help then .error .showHelp
  else if o = .version then .error .showVersion
  else if r.has o && !o.isCounted then .error .usage
  else if accepts o value then .ok { r with given := (o, value) :: r.given }
  else .error .usage

/-- Takes in letters after a dash. Letters after an option with a value are its value; without any,
the option is left over to find its value in the next argument. -/
def giveLetters (options : List OptionName) : List Char → Reading →
    Except Refusal (Reading × Option OptionName)
  | [], r => .ok (r, none)
  | c :: rest, r =>
    match options.find? (·.short? == some c) with
    | none => .error .usage
    | some o =>
      if o.takesValue then
        match rest with
        | [] => .ok (r, some o)
        | '=' :: value | value => (r.give o (String.ofList value)).map fun r => (r, none)
      else
        match r.give o "" with
        | .error e => .error e
        | .ok r => giveLetters options rest r

/-- Takes in a word after two dashes, which may have its value behind an equals sign. -/
def giveLong (options : List OptionName) (text : List Char) (r : Reading) :
    Except Refusal (Reading × Option OptionName) :=
  let name := String.ofList (text.takeWhile (· ≠ '='))
  match options.find? (·.long == name), text.dropWhile (· ≠ '=') with
  | none, _ => .error .usage
  | some o, [] =>
    if o.takesValue then .ok (r, some o) else (r.give o "").map fun r => (r, none)
  | some o, _ :: value =>
    if o.takesValue then (r.give o (String.ofList value)).map fun r => (r, none)
    else .error .usage

/-- Takes in an argument that starts with a dash and is more than that. -/
def giveOption (options : List OptionName) (argument : List Char) (r : Reading) :
    Except Refusal (Reading × Option OptionName) :=
  match argument with
  | '-' :: '-' :: text => giveLong options text r
  | _ => giveLetters options (argument.drop 1) r

end Reading

/-- An argument that is an option and no word. A single dash is a word. -/
def isOption (argument : String) : Bool :=
  match argument.toList with
  | '-' :: _ :: _ => true
  | _ => false

/-- Where words are read: a first word may end the reading, or there is room for so many of them. -/
inductive Room where
  | endsAtWord
  | words (limit : Nat)
  | anyWords
deriving DecidableEq

def Room.holds : Room → (count : Nat) → Bool
  | .endsAtWord, count => count == 0
  | .words limit, count => count ≤ limit
  | .anyWords, _ => true

/-- Reads arguments, one after the other, so the first fault is the one that counts. The arguments
from a word on that ends the reading are left over. -/
def readArguments (options : List OptionName) (room : Room) : List String → Reading →
    Except Refusal (Reading × List String)
  | [], r => .ok (r, [])
  | "--" :: rest, r =>
    let words := rest.reverse ++ r.words
    if room.holds words.length then .ok ({ r with words := words }, []) else .error .usage
  | argument :: rest, r =>
    if isOption argument then
      match r.giveOption options argument.toList with
      | .error e => .error e
      | .ok (r, none) => readArguments options room rest r
      | .ok (r, some o) =>
        match rest with
        | [] => .error .usage
        | value :: rest =>
          if isOption value then .error .usage
          else
            match r.give o value with
            | .error e => .error e
            | .ok r => readArguments options room rest r
    else if room = .endsAtWord then .ok (r, argument :: rest)
    else if room.holds (r.words.length + 1) then
      readArguments options room rest { r with words := argument :: r.words }
    else .error .usage

namespace Reading

def overrides (r : Reading) : Overrides :=
  ⟨(r.value? .host).bind host?, (r.value? .compiler).bind compiler?, r.value? .baseUrl⟩

def invocation (before after : Reading) (command : Command) : Invocation where
  verbosity := if after.has .verbose then after.count .verbose else before.count .verbose
  json := before.has .json || after.has .json
  directory := ((after.value? .cwd).or (before.value? .cwd)).map .ofText
  command := command

end Reading

/-- What may follow the name of a command, and what it makes of that. -/
structure Form where
  options : List OptionName
  room : Room
  command : Reading → Except Refusal Command

namespace Form

def table : List (String × Form) := [
  ("version", ⟨[], .words 0, fun _ => .ok .version⟩),
  ("probe", ⟨[.host], .words 0, fun r => .ok (.probe ((r.value? .host).bind host?))⟩),
  ("compile", ⟨OptionName.loading, .words 1, fun r =>
    match r.words.head? with
    | some name => .ok (.compile name r.overrides)
    | none => .error .usage⟩),
  ("bundle", ⟨[.all, .outfile] ++ OptionName.loading, .anyWords, fun r =>
    .ok (.bundle r.words.reverse (r.has .all) ((r.value? .outfile).map .ofText) r.overrides)⟩)]

def read (form : Form) (before : Reading) (arguments : List String) : Except Refusal Invocation :=
  match readArguments (form.options ++ OptionName.common) form.room arguments .empty with
  | .error e => .error e
  | .ok (after, _) => (form.command after).map (before.invocation after)

end Form

/-- The command that explains the others. It may be given the name of one of them, or its own. -/
def helpName : String := "help"

def helpOn : List String → Refusal
  | [] => .showHelp
  | [name] => if name = helpName || (Form.table.lookup name).isSome then .showHelp else .usage
  | _ => .usage

/-- What the arguments ask for. Without a command it is the version. -/
def parse (arguments : List String) : Except Refusal Invocation :=
  match readArguments (.version :: OptionName.common) .endsAtWord arguments .empty with
  | .error e => .error e
  | .ok (before, []) => .ok (before.invocation .empty .version)
  | .ok (before, name :: rest) =>
    if name = helpName then .error (helpOn rest)
    else
      match Form.table.lookup name with
      | none => .error .usage
      | some form => form.read before rest

end AmdBundler.CommandLine
