import AmdBundler.Decimal.Shortest
import AmdBundler.Json.Cursor

namespace AmdBundler.Json

inductive Number where
  | natural (value : Nat)
  /-- The integer below zero with this magnitude. -/
  | negative (magnitude : Nat)
  | decimal (value : Float)

/-- A double as it is shown: the fewest digits that read back, positional from `0.00001` to below
`10 ^ 16`, with a fraction even if it is zero. An exponent has its sign. -/
def showDecimal (x : Float) : String :=
  let sign := if Nat.pow 2 63 ≤ x.toBits.toNat then "-" else ""
  let magnitude := x.toBits.toNat % Nat.pow 2 63
  if magnitude = 0 then sign ++ "0.0" else
  let (digits, exponent) := (Decimal.Binary.ofBits magnitude.toUInt64).shortest
  let shown := Nat.toDigits 10 digits
  let whole := (shown.length : Int) + exponent
  let zeros (n : Int) := List.replicate n.toNat '0'
  let body :=
    if 0 ≤ exponent ∧ whole ≤ 16 then shown ++ zeros exponent ++ ['.', '0']
    else if 0 < whole ∧ whole ≤ 16 then
      shown.take whole.toNat ++ '.' :: shown.drop whole.toNat
    else if -5 < whole ∧ whole ≤ 0 then '0' :: '.' :: zeros (-whole) ++ shown
    else
      let power := (if 0 < whole then ['+'] else []) ++ (toString (whole - 1)).toList
      match shown with
      | [d] => d :: 'e' :: power
      | d :: rest => d :: '.' :: rest ++ 'e' :: power
      | [] => []
  sign ++ String.ofList body

def Number.found : Number → Found
  | .natural n => .integer n
  | .negative n => .integer (-n)
  | .decimal x => .decimal (showDecimal x)

/-- The number of leading digits that still fit below `limit`, with their value, and the digits
after them. -/
def gatherDigits (limit value : Nat) : List UInt8 → Nat × List UInt8
  | [] => (value, [])
  | b :: rest =>
    let next := value * 10 + (b.toNat - 0x30)
    if next < limit then gatherDigits limit next rest else (value, b :: rest)

/-- `x · 10 ^ exponent` by one multiplication or division, after divisions by `10 ^ 308` that bring
the exponent into reach. Infinity is refused. -/
def scaleByTen (x : Float) : Nat → Int → Option Float
  | 0, _ => some x
  | steps + 1, exponent =>
    if exponent.natAbs ≤ 308 then
      let power := Float.ofScientific 1 false exponent.natAbs
      if 0 ≤ exponent then
        let y := x * power
        if y.isInf then none else some y
      else some (x / power)
    else if x == 0 then some x
    else if 0 ≤ exponent then none
    else scaleByTen (x / Float.ofScientific 1 false 308) steps (exponent + 308)

/-- The double `± significand · 10 ^ exponent`. -/
def readDouble (positive : Bool) (significand : Nat) (exponent : Int) (c : Cursor) :
    Except Fault (Number × Cursor) :=
  match scaleByTen significand.toUInt64.toFloat (exponent.natAbs / 308 + 2) exponent with
  | some x => .ok (.decimal (if positive then x else -x), c)
  | none => c.failed .numberOutOfRange

def readExponent (positive : Bool) (significand : Nat) (start : Int) (c : Cursor) :
    Except Fault (Number × Cursor) :=
  let c := c.advance 1
  let (up, c) := match c.peek? with
    | some '+' => (true, c.advance 1)
    | some '-' => (false, c.advance 1)
    | _ => (true, c)
  let digits := c.rest.takeWhile isDigit
  match digits, c.rest with
  | [], [] => c.failed .endInValue
  | [], _ :: _ => (c.advance 1).failed .invalidNumber
  | _, _ =>
    let (exponent, left) := gatherDigits (Nat.pow 2 31) 0 digits
    match left with
    | [] =>
      readDouble positive significand (if up then start + exponent else start - exponent)
        (c.advance digits.length)
    | _ :: unread =>
      if significand ≠ 0 ∧ up then
        (c.advance (digits.length - unread.length)).failed .numberOutOfRange
      else .ok (.decimal (if positive then 0 else -0), c.advance digits.length)

/-- Reads the fraction behind its point. The digits before it stand for
`significand · 10 ^ exponent`. -/
def readFraction (positive : Bool) (significand exponent : Nat) (c : Cursor) :
    Except Fault (Number × Cursor) :=
  let c := c.advance 1
  let digits := c.rest.takeWhile isDigit
  match digits, c.rest with
  | [], [] => c.refused .endInValue
  | [], _ :: _ => c.refused .invalidNumber
  | _, _ =>
    let (significand, left) := gatherDigits (Nat.pow 2 64) significand digits
    let exponent := (exponent : Int) - (digits.length - left.length : Nat)
    let c := c.advance digits.length
    match c.peek? with
    | some 'e' | some 'E' => readExponent positive significand exponent c
    | _ => readDouble positive significand exponent c

/-- Reads what follows the digits of an integer. Digits that no longer fit into 64 bits make the
number a double. -/
def readNumberTail (positive : Bool) (significand left : Nat) (c : Cursor) :
    Except Fault (Number × Cursor) :=
  match c.peek? with
  | some '.' => readFraction positive significand left c
  | some 'e' | some 'E' => readExponent positive significand left c
  | _ =>
    if left ≠ 0 then readDouble positive significand left c
    else if positive then .ok (.natural significand, c)
    else if significand = 0 ∨ Nat.pow 2 63 < significand then
      .ok (.decimal (-significand.toUInt64.toFloat), c)
    else .ok (.negative significand, c)

def readNumber (positive : Bool) (c : Cursor) : Except Fault (Number × Cursor) :=
  match c.rest with
  | [] => c.failed .endInValue
  | b :: rest =>
    if b = 0x30 then
      match rest.head? with
      | some d =>
        if isDigit d then (c.advance 1).refused .invalidNumber
        else readNumberTail positive 0 0 (c.advance 1)
      | none => readNumberTail positive 0 0 (c.advance 1)
    else if isDigit b then
      let digits := c.rest.takeWhile isDigit
      let (significand, left) := gatherDigits (Nat.pow 2 64) 0 digits
      readNumberTail positive significand left.length (c.advance digits.length)
    else (c.advance 1).failed .invalidNumber

def skipExponent (c : Cursor) : Except Fault Cursor :=
  let c := c.advance 1
  let c := match c.peek? with
    | some '+' | some '-' => c.advance 1
    | _ => c
  match c.rest with
  | [] => c.failed .invalidNumber
  | b :: _ =>
    if isDigit b then .ok (c.skipWhile isDigit) else (c.advance 1).failed .invalidNumber

def skipNumberTail (c : Cursor) : Except Fault Cursor :=
  match c.peek? with
  | some '.' =>
    let digits := c.advance 1
    let after := digits.skipWhile isDigit
    if after.offset = digits.offset then digits.refused .invalidNumber
    else match after.peek? with
      | some 'e' | some 'E' => skipExponent after
      | _ => .ok after
  | some 'e' | some 'E' => skipExponent c
  | _ => .ok c

def skipNumber (c : Cursor) : Except Fault Cursor :=
  match c.rest with
  | [] => c.failed .invalidNumber
  | b :: rest =>
    if b = 0x30 then
      if rest.head?.any isDigit then (c.advance 1).refused .invalidNumber
      else skipNumberTail (c.advance 1)
    else if isDigit b then skipNumberTail (c.skipWhile isDigit)
    else (c.advance 1).failed .invalidNumber

end AmdBundler.Json
