import AmdBundler.Text.Split

namespace AmdBundler.Url.Punycode

def digit (n : Nat) : Char :=
  if n < 26 then Char.ofNat ('a'.toNat + n) else Char.ofNat ('0'.toNat + (n - 26))

def digitValue? (c : Char) : Option Nat :=
  if 'a' ≤ c.toLower ∧ c.toLower ≤ 'z' then some (c.toLower.toNat - 'a'.toNat)
  else if c.isDigit then some (c.toNat - '0'.toNat + 26)
  else none

/-- The least value of a digit at position `k` that says that another one follows. -/
def threshold (k bias : Nat) : Nat :=
  if k ≤ bias then 1 else if bias + 26 ≤ k then 26 else k - bias

theorem one_le_threshold (k bias : Nat) : 1 ≤ threshold k bias := by
  unfold threshold
  split
  · omega
  · split <;> omega

def digits (bias k n : Nat) : List Char :=
  if n < threshold k bias then [digit n]
  else
    let t := threshold k bias
    digit (t + (n - t) % (36 - t)) :: digits bias (k + 36) ((n - t) / (36 - t))
termination_by n
decreasing_by
  have := one_le_threshold k bias
  exact Nat.lt_of_le_of_lt (Nat.div_le_self _ _) (by omega)

/-- Halves a distance by steps of 35, and counts 36 for each. -/
def scale (delta k : Nat) : Nat :=
  if 455 < delta then scale (delta / 35) (k + 36) else k + 36 * delta / (delta + 38)
termination_by delta

/-- The bias after a distance, when `count` characters are written. -/
def adapt (delta count : Nat) (first : Bool) : Nat :=
  let delta := if first then delta / 700 else delta / 2
  scale (delta + delta / count) 0

/-- The digits so far, reversed, the distance from the last of them, the bias, and the number of
characters they stand for. -/
structure State where
  written : List Char
  delta : Nat
  bias : Nat
  count : Nat

/-- Passes a character of the label on the way to the code point `point`. -/
def pass (basic point : Nat) (s : State) (c : Char) : State :=
  if c.toNat < point then { s with delta := s.delta + 1 }
  else if c.toNat = point then
    ⟨(digits s.bias 36 s.delta).reverse ++ s.written, 0,
      adapt s.delta (s.count + 1) (s.count == basic), s.count + 1⟩
  else s

/-- Writes all the places of the code points, which ascend; `point` is the first that can come. -/
def writePoints (label : List Char) (basic : Nat) : (points : List Nat) → (point : Nat) → State →
    List Char
  | [], _, s => s.written.reverse
  | next :: points, point, s =>
    let s := { s with delta := s.delta + (next - point) * (s.count + 1) }
    let s := label.foldl (pass basic next) s
    writePoints label basic points (next + 1) { s with delta := s.delta + 1 }

def encode (label : List Char) : List Char :=
  let basic := label.filter fun c => c.toNat < 0x80
  let points := ((label.map Char.toNat).filter (0x80 ≤ ·)).mergeSort.eraseDups
  let mark := if basic.isEmpty then [] else ['-']
  basic ++ mark ++ writePoints label basic.length points 0x80 ⟨[], 0, 72, basic.length⟩

/-- Distances and the weights of their digits are below this bound. -/
def bound : Nat := Nat.pow 2 32

/-- The sum of `total` and the distance at the start of the digits, and the digits behind it. -/
def readDistance? (bias k weight total : Nat) : List Char → Option (Nat × List Char)
  | [] => none
  | c :: rest => do
    let d ← digitValue? c
    let total := total + d * weight
    if bound ≤ total then none
    else if d < threshold k bias then return (total, rest)
    else
      let weight := weight * (36 - threshold k bias)
      if bound ≤ weight then none else readDistance? bias (k + 36) weight total rest

theorem readDistance?_shorter {code : List Char} {bias k weight total : Nat}
    (h : readDistance? bias k weight total code = some (sum, rest)) :
    rest.length < code.length := by
  induction code generalizing k weight total with
  | nil => cases h
  | cons c code ih =>
    obtain ⟨d, _, h⟩ := Option.bind_eq_some_iff.mp h
    dsimp only at h
    split at h
    · cases h
    · split at h
      · cases h
        exact Nat.lt_succ_self _
      · split at h
        · cases h
        · exact Nat.lt_succ_of_lt (ih h)

/-- Puts the characters that the digits stand for into the text; `place` is the first place where
the next one may come, and `point` its least code point. -/
def insertAll? (text : List Char) (point bias place : Nat) (code : List Char) :
    Option (List Char) :=
  if code.isEmpty then some text
  else
    match h : readDistance? bias 36 1 place code with
    | none => none
    | some (total, rest) =>
      let count := text.length + 1
      let next := point + total / count
      if next.isValidChar then
        insertAll? (text.insertIdx (total % count) (Char.ofNat next)) next
          (adapt (total - place) count (place == 0)) (total % count + 1) rest
      else none
termination_by code.length
decreasing_by exact readDistance?_shorter h

/-- The label that a code stands for. The ASCII characters come before the last hyphen. -/
def decode? (code : List Char) : Option (List Char) :=
  match Text.splitLast? '-' code with
  | none => insertAll? [] 0x80 72 0 code
  | some (basic, code) => if basic.isEmpty then none else insertAll? basic 0x80 72 0 code

end AmdBundler.Url.Punycode
