import AmdBundler.Unicode.CombiningClass
import AmdBundler.Unicode.Decomposition

namespace AmdBundler.Unicode

/-- Puts a character before ordered ones, behind the marks of lower classes that they start with. -/
def place (n : Nat) : List Nat → List Nat
  | [] => [n]
  | m :: rest =>
    if combiningClass m ≠ 0 ∧ combiningClass m < combiningClass n then m :: place n rest
    else n :: m :: rest

theorem place_perm (n : Nat) (text : List Nat) : (place n text).Perm (n :: text) := by
  induction text with
  | nil => exact .refl _
  | cons m rest ih =>
    unfold place
    split
    · exact (ih.cons m).trans (.swap n m rest)
    · exact .refl _

/-- Marks of one letter by their classes. -/
def ordered (text : List Nat) : List Nat :=
  text.foldr place []

theorem ordered_perm (text : List Nat) : (ordered text).Perm text := by
  induction text with
  | nil => exact .refl _
  | cons n rest ih => exact (place_perm n _).trans (ih.cons n)

/-- Joins what follows to the starter `n` and its marks, which come in reverse, as do the characters
done before it. A mark of the same class bars the way to the starter, and another starter bars it
for good. -/
def gather (done : List Nat) (n : Nat) (marks : List Nat) : List Nat → List Nat
  | [] => (marks ++ n :: done).reverse
  | m :: rest =>
    let isOpen := match marks with
      | [] => true
      | mark :: _ => combiningClass mark < combiningClass m
    match if isOpen then pair? n m else none with
    | some joined => gather done joined marks rest
    | none =>
      if combiningClass m = 0 then gather (marks ++ n :: done) m [] rest
      else gather done n (m :: marks) rest

/-- Marks before the first starter stay as they are. -/
def joined (text : List Nat) : List Nat :=
  let marks := text.takeWhile (combiningClass · ≠ 0)
  match text.dropWhile (combiningClass · ≠ 0) with
  | [] => marks
  | n :: rest => gather marks.reverse n [] rest

/-- No character before U+0300 joins the one before it, so a text of such characters is composed. -/
def composed (text : List Char) : List Char :=
  if text.all (·.toNat < 0x300) then text
  else (joined (ordered (text.flatMap fun c => parts c.toNat))).map Char.ofNat

end AmdBundler.Unicode
