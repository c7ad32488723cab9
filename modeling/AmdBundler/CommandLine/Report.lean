import AmdBundler.Json.Codec
import AmdBundler.Module.Load

namespace AmdBundler.CommandLine

abbrev Member := String × List Char

namespace Member

def text (name value : String) : Member := (name, Json.writeText value)

def boolean (name : String) (value : Bool) : Member := (name, Json.Codec.boolean.write value)

def number (name : String) (value : Nat) : Member := (name, Nat.toDigits 10 value)

def list (name : String) (values : List (List Char)) : Member :=
  (name, '[' :: [','].intercalate values ++ [']'])

def text? (name : String) : Option String → List Member
  | some value => [text name value]
  | none => []

end Member

def object (members : List Member) : List Char :=
  '\x7b' :: [','].intercalate (members.map fun m => Json.Codec.writeMember m.1 m.2) ++ ['\x7d']

/-- An object with each member on a line of its own, in an object that is indented by `depth`. -/
def laidOut (depth : Nat) (members : List Member) : List Char :=
  let line (depth : Nat) : List Char := '\n' :: List.replicate (2 * depth) ' '
  let written := members.map fun m => line (depth + 1) ++ Json.writeText m.1 ++ ": ".toList ++ m.2
  '\x7b' :: [','].intercalate written ++ line depth ++ ['\x7d']

def printed (report : List Char) : String :=
  String.ofList (report ++ ['\n'])

/-- What became of a source map. -/
def embeddingReport (e : Embedding) : List Char :=
  object (.text "status" e.status :: Member.text? "reason" e.reason?)

/-- A module that could not be loaded. -/
structure LoadFailure where
  name : String
  cause : TransformError

def LoadFailure.report (f : LoadFailure) : List Char :=
  object [.text "code" f.cause.code, .text "message" f.cause.message, .text "module" f.name]

end AmdBundler.CommandLine
