namespace AmdBundler.Decimal

/-- A positive double: `mantissa · 2 ^ exponent`. The double below it is at half the usual distance
when `narrow`. -/
structure Binary where
  mantissa : Nat
  exponent : Int
  narrow : Bool

def Binary.ofBits (bits : UInt64) : Binary :=
  let fraction : Nat := bits.toNat % Nat.pow 2 52
  let field : Nat := bits.toNat / Nat.pow 2 52 % Nat.pow 2 11
  if field = 0 then ⟨fraction, -1074, false⟩
  else ⟨fraction + Nat.pow 2 52, (field : Int) - 1075, fraction = 0 ∧ 1 < field⟩

/-- The multiple of `10 ^ k` that stands for `b`, if one lies close enough. -/
def Binary.onGrid? (b : Binary) (k : Int) : Option Nat :=
  -- Four times the exponent's unit makes the bounds of the interval whole numbers.
  let p := b.exponent - 2
  let scale := Nat.pow 2 p.toNat * Nat.pow 10 (-k).toNat
  let step := Nat.pow 2 (-p).toNat * Nat.pow 10 k.toNat
  let value := 4 * b.mantissa * scale
  let low := (4 * b.mantissa - if b.narrow then 1 else 2) * scale
  let high := (4 * b.mantissa + 2) * scale
  let inside (d : Nat) : Bool :=
    if b.mantissa % 2 = 0 then low ≤ d * step && d * step ≤ high
    else low < d * step && d * step < high
  let below := value / step
  match inside below, inside (below + 1) with
  | false, false => none
  | true, false => some below
  | false, true => some (below + 1)
  | true, true =>
    let down := value - below * step
    let up := (below + 1) * step - value
    if down < up then some below
    else if up < down then some (below + 1)
    else some (if below % 2 = 0 then below else below + 1)

/-- Digits and exponent on the first grid that has a point, from `10 ^ k` on to finer ones. -/
def Binary.shortestFrom (b : Binary) (k : Int) : Nat → Nat × Int
  | 0 => (0, 0)
  | grids + 1 =>
    match b.onGrid? k with
    | some d => (d, k)
    | none => b.shortestFrom (k - 1) grids

/-- Digits and exponent of the shortest decimal for `b`; every double is a multiple of
`10 ^ (-1074)`. -/
def Binary.shortest (b : Binary) : Nat × Int :=
  b.shortestFrom 309 1384

end AmdBundler.Decimal
