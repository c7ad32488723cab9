import AmdBundler.Text.Utf8

namespace AmdBundler.Url

def escapeByte (b : UInt8) : List Char :=
  ['%', (Nat.digitChar (b.toNat / 16)).toUpper, (Nat.digitChar (b.toNat % 16)).toUpper]

/-- Writes the characters that `reserved` names, and those that are not printable ASCII, byte by
byte. -/
def escape (reserved : List Char) (text : List Char) : List Char :=
  text.flatMap fun c =>
    if c.toNat < 0x20 ∨ 0x7E < c.toNat ∨ c ∈ reserved then (Utf8.encodeChar c).flatMap escapeByte
    else [c]

def fragmentSet : List Char := [' ', '"', '<', '>', '\x60']

def querySet : List Char := [' ', '"', '#', '<', '>']

def pathSet : List Char := querySet ++ ['?', '\x60', '\x7b', '\x7d']

def userSet : List Char := pathSet ++ ['/', ':', ';', '=', '@', '[', '\\', ']', '^', '|']

def hexValue? (c : Char) : Option Nat :=
  if c.isDigit then some (c.toNat - '0'.toNat)
  else if 'a' ≤ c.toLower ∧ c.toLower ≤ 'f' then some (c.toLower.toNat - 'a'.toNat + 10)
  else none

/-- The bytes of a text whose escapes stand for bytes. A `%` without two digits is itself. -/
def unescape : List Char → List UInt8
  | [] => []
  | '%' :: x :: y :: rest =>
    match hexValue? x, hexValue? y with
    | some x, some y => (16 * x + y).toUInt8 :: unescape rest
    | _, _ => Utf8.encodeChar '%' ++ unescape (x :: y :: rest)
  | c :: rest => Utf8.encodeChar c ++ unescape rest

end AmdBundler.Url
