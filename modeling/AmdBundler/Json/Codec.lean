import AmdBundler.Json.Skip
import AmdBundler.NameMap

namespace AmdBundler.Json

structure Codec (α : Type) where
  write : α → List Char
  read : Reader α

/-- What value stands at the cursor; a list or an object is not entered. -/
def readFound (c : Cursor) : Except Fault (Found × Cursor) :=
  match c.peek? with
  | some 'n' => (expectLetters "ull".toList (c.advance 1)).map fun (_, c) => (.null, c)
  | some 't' => (expectLetters "rue".toList (c.advance 1)).map fun (_, c) => (.boolean true, c)
  | some 'f' => (expectLetters "alse".toList (c.advance 1)).map fun (_, c) => (.boolean false, c)
  | some '-' => (readNumber false (c.advance 1)).map fun (n, c) => (n.found, c)
  | some '"' => (readText (c.advance 1)).map fun (text, c) => (.string text, c)
  | some '[' => .ok (.sequence, c)
  | some '\x7b' => .ok (.map, c)
  | some found =>
    if found.isDigit then (readNumber true c).map fun (n, c) => (n.found, c)
    else c.refused .expectedValue
  | none => c.refused .expectedValue

/-- A value of another shape than `expected` stands at the cursor. -/
def mismatch {α : Type} (expected : String) (c : Cursor) : Except Fault α :=
  match readFound c with
  | .error f => .error f
  | .ok (found, after) => after.failed (.invalidType found expected)

namespace Codec

/-- The same text under another type. -/
def map {α β : Type} (codec : Codec α) (back : β → α) (forth : α → β) : Codec β where
  write v := codec.write (back v)
  read c := (codec.read c).map fun (v, c) => (forth v, c)

def text (expected : String) : Codec String where
  write := writeText
  read c :=
    let c := c.skipSpace
    match c.peek? with
    | none => c.refused .endInValue
    | some '"' => readText (c.advance 1)
    | some _ => mismatch expected c

def string : Codec String := text "a string"

def boolean : Codec Bool where
  write v := (if v then "true" else "false").toList
  read c :=
    let c := c.skipSpace
    match c.peek? with
    | none => c.refused .endInValue
    | some 't' => (expectLetters "rue".toList (c.advance 1)).map fun (_, c) => (true, c)
    | some 'f' => (expectLetters "alse".toList (c.advance 1)).map fun (_, c) => (false, c)
    | some _ => mismatch "a boolean" c

def natural (limit : Nat) (expected : String) : Codec Nat where
  write := Nat.toDigits 10
  read c :=
    let c := c.skipSpace
    let bounded : Number × Cursor → Except Fault (Nat × Cursor)
      | (.natural n, c) =>
        if n < limit then .ok (n, c) else c.failed (.invalidValue (.integer n) expected)
      | (.negative n, c) => c.failed (.invalidValue (.integer (-n)) expected)
      | (.decimal x, c) => c.failed (.invalidType (.decimal (showDecimal x)) expected)
    match c.peek? with
    | none => c.refused .endInValue
    | some '-' => (readNumber false (c.advance 1)).bind bounded
    | some found => if found.isDigit then (readNumber true c).bind bounded else mismatch expected c

def uint32 : Codec UInt32 :=
  (natural (Nat.pow 2 32) "u32").map UInt32.toNat Nat.toUInt32

def uint8 : Codec UInt8 :=
  (natural (Nat.pow 2 8) "u8").map UInt8.toNat Nat.toUInt8

/-- The value `null` is `none`. -/
def nullable {α : Type} (codec : Codec α) : Codec (Option α) where
  write
    | none => "null".toList
    | some v => codec.write v
  read c :=
    if c.skipSpace.peek? = some 'n' then
      (expectLetters "ull".toList (c.skipSpace.advance 1)).map fun (_, c) => (none, c)
    else (codec.read c).map fun (v, c) => (some v, c)

/-- The items of a list up to its bracket, after the reversed items already read. An item takes a
byte, so the number of bytes is `steps` enough. -/
def readItems {α : Type} (item : Reader α) : (steps : Nat) → List α → Cursor →
    Except Fault (List α × Cursor)
  | 0, _, c => c.failed .endInList
  | steps + 1, read, c =>
    match nextItem read.isEmpty c with
    | .error f => .error f
    | .ok (false, c) => .ok (read.reverse, c.advance 1)
    | .ok (true, c) =>
      match item c with
      | .error f => .error f
      | .ok (v, c) => readItems item steps (v :: read) c

def list {α : Type} (item : Codec α) : Codec (List α) where
  write vs := '[' :: [','].intercalate (vs.map item.write) ++ [']']
  read c :=
    let c := c.skipSpace
    match c.peek? with
    | none => c.refused .endInValue
    | some '[' => readItems item.read (c.rest.length + 1) [] (c.advance 1)
    | some _ => mismatch "a sequence" c

/-- The members of an object up to its brace, each taken in by `member`, which starts behind the
key. -/
def readMembers {σ : Type} (member : String → σ → Reader σ) : (steps : Nat) → (first : Bool) → σ →
    Reader σ
  | 0, _, _, c => c.failed .endInObject
  | steps + 1, first, state, c =>
    match nextMember first c with
    | .error f => .error f
    | .ok (false, c) => .ok (state, c)
    | .ok (true, c) =>
      match readText c with
      | .error f => .error f
      | .ok (key, c) =>
        match member key state c with
        | .error f => .error f
        | .ok (state, c) => readMembers member steps false state c

def writeMember (name : String) (value : List Char) : List Char :=
  writeText name ++ ':' :: value

/-- An object whose keys are names, each with a value of one type. The last value of a name that
comes twice stays. -/
def nameMap {α : Type} (value : Codec α) : Codec (NameMap α) where
  write m :=
    '\x7b' :: [','].intercalate (m.entries.map fun e => writeMember e.1 (value.write e.2)) ++
      ['\x7d']
  read c :=
    let c := c.skipSpace
    match c.peek? with
    | none => c.refused .endInValue
    | some '\x7b' =>
      let member (key : String) (m : NameMap α) (c : Cursor) : Except Fault (NameMap α × Cursor) :=
        match expectColon c with
        | .error f => .error f
        | .ok c => (value.read c).map fun (v, c) => (m.insert key v, c)
      (readMembers member (c.rest.length + 1) true .empty (c.advance 1)).map
        fun (m, c) => (m, c.advance 1)
    | some _ => mismatch "a map" c

def readName {α : Type} (names : List (String × α)) (c : Cursor) : Except Fault (α × Cursor) :=
  match readText c with
  | .error f => .error f
  | .ok (name, c) =>
    match names.lookup name with
    | some v => .ok (v, c)
    | none => c.failed (.unknownVariant name (names.map Prod.fst))

/-- A choice between named values. A name may also be the only key of an object, with the value
`null`. -/
def choice {α : Type} (names : List (String × α)) (nameOf : α → String) : Codec α where
  write v := writeText (nameOf v)
  read c :=
    let c := c.skipSpace
    match c.peek? with
    | none => c.refused .endInValue
    | some '"' => readName names (c.advance 1)
    | some '\x7b' =>
      let c := (c.advance 1).skipSpace
      match c.peek? with
      | none => c.refused .endInObject
      | some '"' =>
        match readName names (c.advance 1) with
        | .error f => .error f
        | .ok (v, c) =>
          match expectColon c with
          | .error f => .error f
          | .ok c =>
            let c := c.skipSpace
            match c.peek? with
            | none => c.refused .endInValue
            | some 'n' =>
              match expectLetters "ull".toList (c.advance 1) with
              | .error f => .error f
              | .ok (_, c) =>
                let c := c.skipSpace
                match c.peek? with
                | none => c.failed .endInObject
                | some '\x7d' => .ok (v, c.advance 1)
                | some _ => c.failed .expectedValue
            | some _ => mismatch "unit" c
      | some '\x7d' => c.refused .expectedValue
      | some _ => c.refused .keyNotString
    | some _ => c.refused .expectedValue

def parse {α : Type} (codec : Codec α) (bytes : List UInt8) : Except Fault α :=
  match codec.read (.start bytes) with
  | .error f => .error f
  | .ok (v, c) =>
    let c := c.skipSpace
    if c.rest = [] then .ok v else c.refused .trailingCharacters

def parseText {α : Type} (codec : Codec α) (bytes : List UInt8) : Except String α :=
  (codec.parse bytes).mapError fun f => f.message bytes

def render {α : Type} (codec : Codec α) (v : α) : String :=
  String.ofList (codec.write v)

end Codec

end AmdBundler.Json
