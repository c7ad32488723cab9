import AmdBundler.Unicode.Composed
import AmdBundler.Url.Name.Label
import AmdBundler.Url.Name.Mapping
import AmdBundler.Url.Punycode

namespace AmdBundler.Url.Name

def mark : List Char := "xn--".toList

/-- No code is read that is longer. -/
def codeLimit : Nat := 2000

/-- The text of a label in Punycode is one that every label might have, as it would be written. -/
def readLabel? (label : List Char) : Option (List Char) :=
  if mark.isPrefixOf label then do
    let code := label.drop mark.length
    guard (label.getLast? ≠ some '-' ∧ code.length ≤ codeLimit)
    let text ← Punycode.decode? code
    guard (text.all (fun c => map? c = some [c]) ∧ Unicode.composed text = text)
    return text
  else some label

def writeLabel (label : List Char) : List Char :=
  if label.all (·.toNat < 0x80) then label else mark ++ Punycode.encode label

/-- The labels of a name, without capitals, variants and codes. -/
def labels? (name : List Char) : Option (List (List Char)) := do
  let characters ← name.mapM map?
  ((Unicode.composed characters.flatten).splitOn '.').mapM readLabel?

/-- In a name with text from right to left, all labels keep their direction. -/
def ascii? (name : List Char) : Option (List Char) := do
  let labels ← labels? name
  guard (labels.all isSound)
  guard (labels.any (·.any fun c => Unicode.turnsText c.toNat) → labels.all keepsDirection)
  return ['.'].intercalate (labels.map writeLabel)

end AmdBundler.Url.Name
