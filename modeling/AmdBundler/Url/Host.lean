import AmdBundler.Text.Quoted
import AmdBundler.Url.Name
import AmdBundler.Url.Percent

namespace AmdBundler.Url

/-- The number of a text of digits, which may start with `0x` or `0` for another base. -/
def number? (text : List Char) : Option Nat :=
  let ofDigits (base : Nat) (digits : List Char) : Option Nat :=
    digits.foldl (fun n c => do
      let d ← hexValue? c
      let n ← n
      if d < base then some (base * n + d) else none) (some 0)
  match text with
  | [] => none
  | '0' :: 'x' :: digits | '0' :: 'X' :: digits => ofDigits 16 digits
  | '0' :: d :: digits => ofDigits 8 (d :: digits)
  | digits => ofDigits 10 digits

def labels (name : List Char) : List (List Char) :=
  let labels := name.splitOn '.'
  if 1 < labels.length ∧ labels.getLast? = some [] then labels.dropLast else labels

def endsInNumber (name : List Char) : Bool :=
  match (labels name).getLast? with
  | some [] | none => false
  | some label => label.all Char.isDigit || (number? label).isSome

/-- The address of up to four numbers. The last one fills the bytes that the others leave. -/
def address? (name : List Char) : Option Nat := do
  let numbers ← (labels name).mapM number?
  guard (numbers.length ≤ 4)
  let last ← numbers.getLast?
  guard (numbers.dropLast.all (· ≤ 255) ∧ last < Nat.pow 256 (5 - numbers.length))
  return numbers.dropLast.zipIdx.foldl (fun sum (n, i) => sum + n * Nat.pow 256 (3 - i)) last

def dotted (address : Nat) : List Char :=
  ['.'].intercalate ([3, 2, 1, 0].map fun i => Nat.toDigits 10 (address / Nat.pow 256 i % 256))

def piece? (text : List Char) : Option Nat :=
  if text.isEmpty || 4 < text.length then none
  else text.foldl (fun n c => return 16 * (← n) + (← hexValue? c)) (some 0)

def dottedPieces? (text : List Char) : Option (List Nat) := do
  let parts := text.splitOn '.'
  let numbers ← parts.mapM fun part =>
    if part.all Char.isDigit ∧ (part.length = 1 ∨ part.head? ≠ some '0') then number? part else none
  match numbers with
  | [a, b, c, d] =>
    if [a, b, c, d].all (· ≤ 255) then some [256 * a + b, 256 * c + d] else none
  | _ => none

def pieces? (text : List Char) : Option (List Nat) :=
  if text.isEmpty then some [] else (text.splitOn ':').mapM piece?

/-- The pieces between colons. The last one may be four numbers with dots. -/
def lastPieces? (text : List Char) : Option (List Nat) :=
  if text.contains '.' then do
    let parts := text.splitOn ':'
    return (← parts.dropLast.mapM piece?) ++ (← dottedPieces? (parts.getLast?.getD []))
  else pieces? text

/-- The first place where the text holds two colons. -/
def gap? (before : List Char) : List Char → Option (List Char × List Char)
  | ':' :: ':' :: after => some (before.reverse, after)
  | c :: rest => gap? (c :: before) rest
  | [] => none

/-- Eight pieces; two colons stand for one or more pieces that are zero. -/
def eightPieces? (text : List Char) : Option (List Nat) :=
  match gap? [] text with
  | none => do
    let pieces ← lastPieces? text
    if pieces.length = 8 then some pieces else none
  | some (before, after) => do
    let before ← pieces? before
    let after ← lastPieces? after
    if before.length + after.length < 8 then
      some (before ++ List.replicate (8 - before.length - after.length) 0 ++ after)
    else none

def zeros (pieces : List Nat) : Nat :=
  (pieces.takeWhile (· = 0)).length

/-- Where the first of the longest runs of zeros starts, if one is longer than one piece. -/
def longestGap? (pieces : List Nat) : Option Nat :=
  let runs := (List.range pieces.length).map fun i => zeros (pieces.drop i)
  match runs.max? with
  | some longest => if 1 < longest then runs.findIdx? (· = longest) else none
  | none => none

/-- Pieces with colons, the longest run of zeros left out. -/
def coloned (pieces : List Nat) : List Char :=
  let join (pieces : List Nat) := [':'].intercalate (pieces.map Text.hex)
  match longestGap? pieces with
  | none => join pieces
  | some i =>
    let after := pieces.drop i
    join (pieces.take i) ++ [':', ':'] ++ join (after.drop (zeros after))

/-- The host of a scheme that is known to have names for hosts. -/
def nameHost? (text : List Char) : Option (List Char) := do
  let name ← Name.ascii? (Utf8.decodeLossy (unescape text))
  guard (!name.isEmpty)
  if endsInNumber name then dotted <$> address? name else some name

/-- The host of another scheme. -/
def otherHost? (text : List Char) : Option (List Char) :=
  if text.any Name.forbidden.contains then none else some (escape [] text)

def host? (special : Bool) (text : List Char) : Option (List Char) :=
  match text with
  | '[' :: rest =>
    if rest.getLast? = some ']' then
      (eightPieces? rest.dropLast).map fun pieces => '[' :: coloned pieces ++ [']']
    else none
  | text => if special then nameHost? text else otherHost? text

end AmdBundler.Url
