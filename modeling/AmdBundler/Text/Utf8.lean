namespace AmdBundler.Utf8

/-- One to four bytes, the fewest that hold the code point. -/
def encodeChar (c : Char) : List UInt8 :=
  let n := c.toNat
  if n < 0x80 then
    [n.toUInt8]
  else if n < 0x800 then
    [(0xC0 + n / 0x40).toUInt8, (0x80 + n % 0x40).toUInt8]
  else if n < 0x10000 then
    [(0xE0 + n / 0x1000).toUInt8, (0x80 + n / 0x40 % 0x40).toUInt8, (0x80 + n % 0x40).toUInt8]
  else
    [(0xF0 + n / 0x40000).toUInt8, (0x80 + n / 0x1000 % 0x40).toUInt8,
      (0x80 + n / 0x40 % 0x40).toUInt8, (0x80 + n % 0x40).toUInt8]

def encode (text : List Char) : List UInt8 :=
  text.flatMap encodeChar

/-- Between two characters, or inside one: the bits read so far, the number of bytes due after the
next one, and the bounds of the next one. -/
inductive State where
  | ready
  | within (bits more low high : Nat)
deriving DecidableEq

/-- The first byte of a character. The bounds of the second byte shut out overlong forms,
surrogates and code points past U+10FFFF. -/
def lead (byte : UInt8) : List (Option Char) × State :=
  let b := byte.toNat
  if b < 0x80 then ([some (Char.ofNat b)], .ready)
  else if b < 0xC2 then ([none], .ready)
  else if b < 0xE0 then ([], .within (b - 0xC0) 0 0x80 0xBF)
  else if b = 0xE0 then ([], .within 0 1 0xA0 0xBF)
  else if b = 0xED then ([], .within 0xD 1 0x80 0x9F)
  else if b < 0xF0 then ([], .within (b - 0xE0) 1 0x80 0xBF)
  else if b = 0xF0 then ([], .within 0 2 0x90 0xBF)
  else if b < 0xF4 then ([], .within (b - 0xF0) 2 0x80 0xBF)
  else if b = 0xF4 then ([], .within 4 2 0x80 0x8F)
  else ([none], .ready)

/-- A byte that cannot go on closes the subpart before it and is read afresh. -/
def step : State → UInt8 → List (Option Char) × State
  | .ready, byte => lead byte
  | .within bits more low high, byte =>
    let b := byte.toNat
    if low ≤ b ∧ b ≤ high then
      match more with
      | 0 => ([some (Char.ofNat (bits * 0x40 + (b - 0x80)))], .ready)
      | more + 1 => ([], .within (bits * 0x40 + (b - 0x80)) more 0x80 0xBF)
    else
      (none :: (lead byte).1, (lead byte).2)

/-- A text that ends inside a character has an ill-formed last part. -/
def finish : State → List (Option Char)
  | .ready => []
  | .within .. => [none]

/-- The items of `bytes`, put before the reversed items already read. -/
def itemsFrom (read : List (Option Char)) : State → List UInt8 → List (Option Char)
  | state, [] => ((finish state).reverse ++ read).reverse
  | state, byte :: rest => itemsFrom ((step state byte).1.reverse ++ read) (step state byte).2 rest

/-- The characters of `bytes`, with `none` for each maximal ill-formed subpart. -/
def items (bytes : List UInt8) : List (Option Char) :=
  itemsFrom [] .ready bytes

/-- Ill-formed parts are replaced by U+FFFD. -/
def decodeLossy (bytes : List UInt8) : List Char :=
  (items bytes).map (·.getD '\uFFFD')

/-- Ill-formed bytes are refused. -/
def decode? (bytes : List UInt8) : Option (List Char) :=
  let chars := items bytes
  if chars.all Option.isSome then some (chars.filterMap id) else none

/-- How many bytes lead up to the end of the first ill-formed subpart, the first of them being
number `offset`. -/
def faultEnd? (offset : Nat) : State → List UInt8 → Option Nat
  | .ready, [] => none
  | .within .., [] => some offset
  | state, byte :: rest =>
    if (step state byte).1.head? = some none then
      some (if state = .ready then offset + 1 else offset)
    else
      faultEnd? (offset + 1) (step state byte).2 rest

end AmdBundler.Utf8
