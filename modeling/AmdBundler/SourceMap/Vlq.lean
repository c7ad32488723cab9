import AmdBundler.Base64

namespace AmdBundler.SourceMap.Vlq

/-- The magnitude doubled, plus one for a negative integer. -/
def ofInt (v : Int) : Nat :=
  if v < 0 then 2 * v.natAbs + 1 else 2 * v.natAbs

/-- The integer whose sign is the lowest bit of `n`; a negative zero is zero. -/
def toInt (n : Nat) : Int :=
  if n % 2 = 1 then -(n / 2 : Nat) else (n / 2 : Nat)

def digits (n : Nat) : List Char :=
  if n < 32 then [Base64.digit n] else Base64.digit (n % 32 + 32) :: digits (n / 32)

def encode (v : Int) : List Char :=
  digits (ofInt v)

/-- The number whose digits open the text, and the text after them. -/
def readDigits? : List Char → Option (Nat × List Char)
  | [] => none
  | c :: rest =>
    match Base64.value? c with
    | none => none
    | some d =>
      if d < 32 then some (d, rest)
      else (readDigits? rest).map fun (n, rest) => (d - 32 + 32 * n, rest)

def read? (text : List Char) : Option (Int × List Char) :=
  (readDigits? text).map fun (n, rest) => (toInt n, rest)

theorem toInt_ofInt (v : Int) : toInt (ofInt v) = v := by
  unfold toInt ofInt
  split <;> split <;> omega

theorem readDigits?_digits (n : Nat) (rest : List Char) :
    readDigits? (digits n ++ rest) = some (n, rest) := by
  induction n using Nat.strongRecOn with
  | ind n ih =>
    rw [digits]
    split
    · rename_i small
      simp [readDigits?, Base64.value?_digit (show n < 64 by omega), small]
    · rename_i large
      have low : ¬n % 32 + 32 < 32 := by omega
      simp [readDigits?, Base64.value?_digit (show n % 32 + 32 < 64 by omega), low,
        ih (n / 32) (by omega)]
      omega

/-- What was written is read back, whatever follows it. -/
theorem read?_encode (v : Int) (rest : List Char) :
    read? (encode v ++ rest) = some (v, rest) := by
  rw [read?, encode, readDigits?_digits]
  simp [toInt_ofInt]

end AmdBundler.SourceMap.Vlq
