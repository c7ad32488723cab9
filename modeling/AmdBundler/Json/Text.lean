import AmdBundler.Json.Cursor

namespace AmdBundler.Json

def hexPair (n : Nat) : List Char :=
  let digit (d : Nat) := Char.ofNat (if d < 10 then '0'.toNat + d else 'a'.toNat + (d - 10))
  [digit (n / 16), digit (n % 16)]

def escapeChar (c : Char) : List Char :=
  if c = '"' then ['\\', '"']
  else if c = '\\' then ['\\', '\\']
  else if c.toNat < 0x20 then
    if c = '\x08' then ['\\', 'b']
    else if c = '\t' then ['\\', 't']
    else if c = '\n' then ['\\', 'n']
    else if c = '\x0c' then ['\\', 'f']
    else if c = '\r' then ['\\', 'r']
    else '\\' :: 'u' :: '0' :: '0' :: hexPair c.toNat
  else [c]

def writeText (text : String) : List Char :=
  '"' :: text.toList.flatMap escapeChar ++ ['"']

/-- The value of a digit to the base 16, in either case. -/
def hexValue? (b : UInt8) : Option Nat :=
  let n := b.toNat
  if isDigit b then some (n - 0x30)
  else if 0x41 ≤ b && b ≤ 0x46 then some (n - 0x37)
  else if 0x61 ≤ b && b ≤ 0x66 then some (n - 0x57)
  else none

/-- The code unit of the four digits at the start of `rest`, which follow `used` bytes of an
escape. -/
def readUnit (used : Nat) (rest : List UInt8) : Except (Cause × Nat) Nat :=
  match rest with
  | a :: b :: c :: d :: _ =>
    match hexValue? a, hexValue? b, hexValue? c, hexValue? d with
    | some a, some b, some c, some d => .ok (((a * 16 + b) * 16 + c) * 16 + d)
    | _, _, _, _ => .error (.invalidEscape, used + 4)
  | short => .error (.endInString, used + short.length)

def letterEscape? : Char → Option Char
  | '"' => some '"'
  | '\\' => some '\\'
  | '/' => some '/'
  | 'b' => some '\x08'
  | 'f' => some '\x0c'
  | 'n' => some '\n'
  | 'r' => some '\r'
  | 't' => some '\t'
  | _ => none

/-- The second half of a surrogate pair, whose first half is `high`. -/
def readLowSurrogate (high : Nat) (rest : List UInt8) : Except (Cause × Nat) (Char × Nat) :=
  match rest with
  | [] => .error (.endInString, 5)
  | b :: rest =>
    if Char.ofUInt8 b ≠ '\\' then .error (.missingSurrogate, 6) else
    match rest with
    | [] => .error (.endInString, 6)
    | u :: rest =>
      if Char.ofUInt8 u ≠ 'u' then .error (.missingSurrogate, 7) else
      match readUnit 7 rest with
      | .error e => .error e
      | .ok low =>
        if 0xDC00 ≤ low ∧ low ≤ 0xDFFF then
          .ok (Char.ofNat (0x10000 + (high - 0xD800) * 0x400 + (low - 0xDC00)), 11)
        else .error (.loneSurrogate, 11)

/-- The escape whose backslash comes before `rest`: its character, or what is wrong with it, and how
many bytes of `rest` that takes. -/
def readEscape (rest : List UInt8) : Except (Cause × Nat) (Char × Nat) :=
  match rest with
  | [] => .error (.endInString, 0)
  | b :: rest =>
    match letterEscape? (Char.ofUInt8 b) with
    | some c => .ok (c, 1)
    | none =>
      if Char.ofUInt8 b ≠ 'u' then .error (.invalidEscape, 1) else
      match readUnit 1 rest with
      | .error e => .error e
      | .ok unit =>
        if 0xDC00 ≤ unit ∧ unit ≤ 0xDFFF then .error (.loneSurrogate, 5)
        else if 0xD800 ≤ unit ∧ unit ≤ 0xDBFF then readLowSurrogate unit (rest.drop 4)
        else .ok (Char.ofNat unit, 5)

/-- The content of a string up to its closing quote, after the reversed bytes already gathered. The
next `skip` bytes belong to an escape that has been read. -/
def gatherText (gathered : List UInt8) (skip offset : Nat) :
    List UInt8 → Except Fault (List UInt8 × Cursor)
  | [] => .error ⟨.endInString, offset⟩
  | b :: rest =>
    match skip with
    | skip + 1 => gatherText gathered skip (offset + 1) rest
    | 0 =>
      if Char.ofUInt8 b = '"' then .ok (gathered.reverse, ⟨offset + 1, rest⟩)
      else if Char.ofUInt8 b = '\\' then
        match readEscape rest with
        | .error (cause, used) => .error ⟨cause, offset + 1 + used⟩
        | .ok (c, used) =>
          gatherText ((Utf8.encodeChar c).reverse ++ gathered) used (offset + 1) rest
      else if b < 0x20 then .error ⟨.controlCharacter, offset + 1⟩
      else gatherText (b :: gathered) 0 (offset + 1) rest

/-- Reads a string whose opening quote has been read. Bytes that are not UTF-8 are a fault at the
end of their first ill-formed part. -/
def readText (c : Cursor) : Except Fault (String × Cursor) :=
  match gatherText [] 0 c.offset c.rest with
  | .error f => .error f
  | .ok (content, after) =>
    match Utf8.decode? content with
    | some text => .ok (String.ofList text, after)
    | none =>
      let raw := c.rest.take (after.offset - 1 - c.offset)
      .error ⟨.invalidCodePoint, (Utf8.faultEnd? c.offset .ready raw).getD c.offset⟩

/-- How many bytes an escape takes, when nobody asks for its character. -/
def skipEscape (rest : List UInt8) : Except (Cause × Nat) Nat :=
  match rest with
  | [] => .error (.endInString, 0)
  | b :: rest =>
    if (letterEscape? (Char.ofUInt8 b)).isSome then .ok 1
    else if Char.ofUInt8 b ≠ 'u' then .error (.invalidEscape, 1)
    else (readUnit 1 rest).map fun _ => 5

/-- Passes over a string whose opening quote has been read. -/
def skipTextFrom (skip offset : Nat) : List UInt8 → Except Fault Cursor
  | [] => .error ⟨.endInString, offset⟩
  | b :: rest =>
    match skip with
    | skip + 1 => skipTextFrom skip (offset + 1) rest
    | 0 =>
      if Char.ofUInt8 b = '"' then .ok ⟨offset + 1, rest⟩
      else if Char.ofUInt8 b = '\\' then
        match skipEscape rest with
        | .error (cause, used) => .error ⟨cause, offset + 1 + used⟩
        | .ok used => skipTextFrom used (offset + 1) rest
      else if b < 0x20 then .error ⟨.controlCharacter, offset⟩
      else skipTextFrom 0 (offset + 1) rest

def skipText (c : Cursor) : Except Fault Cursor :=
  skipTextFrom 0 c.offset c.rest

end AmdBundler.Json
