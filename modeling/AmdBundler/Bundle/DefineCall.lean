import AmdBundler.Text.Alphanumeric
import AmdBundler.Text.Blank
import AmdBundler.Text.Split

namespace AmdBundler

namespace DefineCall

def opening : List Char := "define(".toList

/-- `redefine(`, `obj.define(` and `$define(` are calls of other functions. -/
def joinsWord (before : Char) : Bool :=
  Text.isAlphanumeric before || before == '_' || before == '$' || before == '.'

/-- The first call of its own: the text before it, reversed, and the text of its arguments. -/
def find? (before : List Char) : List Char → Option (List Char × List Char)
  | [] => none
  | c :: text =>
    match Text.dropStart? opening (c :: text) with
    | some arguments =>
      if before.head?.any joinsWord then find? (c :: before) text else some (before, arguments)
    | none => find? (c :: before) text

def isNamed (arguments : List Char) : Bool :=
  match (Text.trimStart arguments).head? with
  | some c => c == '\'' || c == '"'
  | none => false

/-- A backslash or a quote inside a string follows a backslash. -/
def escape (id : List Char) : List Char :=
  id.flatMap fun c => if c = '\\' ∨ c = '\'' then ['\\', c] else [c]

/-- The first argument of a named call, as it is written before the others. -/
def nameArgument (id : List Char) : List Char :=
  '\'' :: escape id ++ ['\'', ',', ' ']

/-- The text with `id` written into its first call, unless that call has a name. -/
def insertName (id text : List Char) : List Char :=
  match find? [] text with
  | none => text
  | some (before, arguments) =>
    if isNamed arguments then text
    else before.reverse ++ opening ++ nameArgument id ++ arguments

end DefineCall

/-- The module text `text`, its anonymous define call named `id`. -/
def nameAnonymousDefine (id text : String) : String :=
  String.ofList (DefineCall.insertName id.toList text.toList)

end AmdBundler
