import AmdBundler.Json.Fault
import AmdBundler.Text.Utf8

namespace AmdBundler.Json

/-- How many bytes have been read, and the bytes still to be read. -/
structure Cursor where
  offset : Nat
  rest : List UInt8
deriving DecidableEq

abbrev Reader (α : Type) := Cursor → Except Fault (α × Cursor)

def isSpace (b : UInt8) : Bool :=
  b == 0x20 || b == 0x0A || b == 0x09 || b == 0x0D

def isDigit (b : UInt8) : Bool :=
  0x30 ≤ b && b ≤ 0x39

namespace Cursor

def start (text : List UInt8) : Cursor := ⟨0, text⟩

def advance (c : Cursor) (n : Nat) : Cursor :=
  ⟨c.offset + n, c.rest.drop n⟩

def skipWhile (kind : UInt8 → Bool) (c : Cursor) : Cursor :=
  ⟨c.offset + (c.rest.takeWhile kind).length, c.rest.dropWhile kind⟩

def skipSpace (c : Cursor) : Cursor :=
  c.skipWhile isSpace

def peek? (c : Cursor) : Option Char :=
  c.rest.head?.map Char.ofUInt8

def failed {α : Type} (c : Cursor) (cause : Cause) : Except Fault α :=
  .error ⟨cause, c.offset⟩

/-- A fault of the byte to be read next, or of the end of the text. -/
def refused {α : Type} (c : Cursor) (cause : Cause) : Except Fault α :=
  .error ⟨cause, c.offset + c.rest.head?.toList.length⟩

end Cursor

def expectLetters : List Char → Reader Unit
  | [], c => .ok ((), c)
  | letter :: letters, c =>
    match c.peek? with
    | none => c.failed .endInValue
    | some found =>
      if found = letter then expectLetters letters (c.advance 1)
      else (c.advance 1).failed .expectedIdent

def expectColon (c : Cursor) : Except Fault Cursor :=
  let c := c.skipSpace
  match c.peek? with
  | some ':' => .ok (c.advance 1)
  | some _ => c.refused .expectedColon
  | none => c.refused .endInObject

/-- Whether an item of a list follows; the cursor is then at the item, and else at the bracket. -/
def nextItem (first : Bool) (c : Cursor) : Except Fault (Bool × Cursor) :=
  let c := c.skipSpace
  match c.peek? with
  | none => c.refused .endInList
  | some ']' => .ok (false, c)
  | some found =>
    if first then .ok (true, c)
    else if found = ',' then
      let c := (c.advance 1).skipSpace
      match c.peek? with
      | none => c.refused .endInValue
      | some ']' => c.refused .trailingComma
      | some _ => .ok (true, c)
    else c.refused .expectedCommaOrBracket

/-- Whether a member of an object follows; the cursor is then inside the quotes of its key, and else
at the brace. -/
def nextMember (first : Bool) (c : Cursor) : Except Fault (Bool × Cursor) :=
  let c := c.skipSpace
  match c.peek? with
  | none => c.refused .endInObject
  | some '\x7d' => .ok (false, c)
  | some found =>
    if first then
      if found = '"' then .ok (true, c.advance 1) else c.refused .keyNotString
    else if found = ',' then
      let c := (c.advance 1).skipSpace
      match c.peek? with
      | none => c.refused .endInValue
      | some '"' => .ok (true, c.advance 1)
      | some '\x7d' => c.refused .trailingComma
      | some _ => c.refused .keyNotString
    else c.refused .expectedCommaOrBrace

/-- Where an object is left that is given up before its end: behind the brace, if that is next. -/
def offsetOfClose (c : Cursor) : Nat :=
  let c := c.skipSpace
  if c.peek? = some '\x7d' then c.offset + 1 else c.offset

end AmdBundler.Json
