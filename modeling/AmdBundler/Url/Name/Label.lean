import AmdBundler.Unicode.CombiningClass
import AmdBundler.Unicode.Direction
import AmdBundler.Unicode.Joining
import AmdBundler.Unicode.Mark

namespace AmdBundler.Url.Name
open Unicode

def forbidden : List Char :=
  ['\x00', '\t', '\n', '\r', ' ', '#', '/', ':', '<', '>', '?', '@', '[', '\\', ']', '^', '|']

def isForbidden (c : Char) : Bool :=
  forbidden.contains c || c == '%' || c.toNat < 0x20 || c == '\x7f'

/-- Transparent characters apart, a letter that joins comes first. -/
def opensWith (joins : Nat → Bool) : List Nat → Bool
  | [] => false
  | n :: rest => joins n || (isTransparent n && opensWith joins rest)

/-- A joiner without width follows a virama. One that keeps letters apart may also stand between
two that would join. The characters before the text come in reverse. -/
def joinersFit (before : List Nat) : List Nat → Bool
  | [] => true
  | n :: rest =>
    let follows := match before with
      | [] => false
      | m :: _ => isVirama m
    let between := n == 0x200C && opensWith joinsAfter before && opensWith joinsBefore rest
    ((n != 0x200C && n != 0x200D) || follows || between) && joinersFit (n :: before) rest

/-- No text beyond ASCII is longer, since it takes too long to write in ASCII. -/
def labelLimit : Nat := 1000

def isSound (label : List Char) : Bool :=
  let points := label.map Char.toNat
  !label.any isForbidden && !(points.head?.any isMark) && joinersFit [] points &&
    (label.all (·.toNat < 0x80) || label.length ≤ labelLimit)

/-- A label runs in the direction of its first character, and ends in it or in a number. Where it
runs from right to left, all its numbers are of one kind. -/
def keepsDirection (label : List Char) : Bool :=
  match label.map fun c => direction c.toNat with
  | [] => true
  | first :: rest =>
    let rest := rest.reverse.dropWhile (· == .mark)
    match first with
    | .leftToRight =>
      rest.head?.all (fun d => d == .leftToRight || d == .europeanNumber) &&
        rest.all fun d => d != .rightToLeft && d != .arabicNumber
    | .rightToLeft =>
      rest.head?.all (fun d => d != .neutral) && rest.all (· != .leftToRight) &&
        !(rest.contains .europeanNumber && rest.contains .arabicNumber)
    | _ => false

end AmdBundler.Url.Name
