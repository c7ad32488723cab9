import AmdBundler.SourceMap.Vlq
import Mathlib

namespace AmdBundler.SourceMap.Vlq

/-- The magnitude moves up by one bit, and the sign goes into the lowest one. -/
def foldSign (v : Int64) : Int64 :=
  if v < 0 then (-v) <<< 1 ||| 1 else v <<< 1

/-- The digits that come off a word until nothing is left of it, if that takes at most `turns`
turns of the loop. -/
def takeDigits? : (turns : Nat) → Int64 → Option (List Char)
  | 0, _ => none
  | turns + 1, word =>
    let rest := word >>> 5
    let digit := if 0 < rest then word &&& 31 ||| 32 else word &&& 31
    if rest = 0 then some [Base64.digit digit.toNatClampNeg]
    else (takeDigits? turns rest).map (Base64.digit digit.toNatClampNeg :: ·)

section Bits

variable {n : Nat}

theorem toNat_ofNat_bits (h : n < 2 ^ 63) : (BitVec.ofNat 64 n).toNat = n := by
  rw [BitVec.toNat_ofNat]
  omega

theorem shiftRight_ofNat (h : n < 2 ^ 63) : Int64.ofNat n >>> 5 = Int64.ofNat (n / 32) := by
  have positive : (BitVec.ofNat 64 n).msb = false := by
    rw [BitVec.msb_eq_false_iff_two_mul_lt, toNat_ofNat_bits h]
    omega
  apply Int64.toBitVec_inj.mp
  rw [Int64.toBitVec_shiftRight, Int64.toBitVec_ofNat', Int64.toBitVec_ofNat']
  apply BitVec.eq_of_toNat_eq
  change ((BitVec.ofNat 64 n).sshiftRight 5).toNat = _
  rw [BitVec.toNat_sshiftRight_of_msb_false positive, toNat_ofNat_bits h,
    toNat_ofNat_bits (by omega), Nat.shiftRight_eq_div_pow]

theorem and_ofNat (h : n < 2 ^ 63) : Int64.ofNat n &&& 31 = Int64.ofNat (n % 32) := by
  apply Int64.toBitVec_inj.mp
  rw [Int64.toBitVec_and, Int64.toBitVec_ofNat', Int64.toBitVec_ofNat']
  apply BitVec.eq_of_toNat_eq
  rw [BitVec.toNat_and, toNat_ofNat_bits h, toNat_ofNat_bits (by omega)]
  exact Nat.and_two_pow_sub_one_eq_mod n 5

theorem or_ofNat (h : n < 32) : Int64.ofNat n ||| 32 = Int64.ofNat (n + 32) := by
  apply Int64.toBitVec_inj.mp
  rw [Int64.toBitVec_or, Int64.toBitVec_ofNat', Int64.toBitVec_ofNat']
  apply BitVec.eq_of_toNat_eq
  rw [BitVec.toNat_or, toNat_ofNat_bits (by omega), toNat_ofNat_bits (by omega)]
  change n ||| 32 = n + 32
  rw [Nat.or_comm, Nat.add_comm]
  exact (Nat.two_pow_add_eq_or_of_lt (i := 5) h 1).symm

theorem shiftLeft_ofNat (h : n < 2 ^ 62) : Int64.ofNat n <<< 1 = Int64.ofNat (2 * n) := by
  apply Int64.toBitVec_inj.mp
  rw [Int64.toBitVec_shiftLeft, Int64.toBitVec_ofNat', Int64.toBitVec_ofNat']
  apply BitVec.eq_of_toNat_eq
  change ((BitVec.ofNat 64 n) <<< 1).toNat = _
  rw [BitVec.toNat_shiftLeft, toNat_ofNat_bits (by omega), toNat_ofNat_bits (by omega),
    Nat.shiftLeft_eq]
  omega

theorem or_one_ofNat (h : n < 2 ^ 62) : Int64.ofNat (2 * n) ||| 1 = Int64.ofNat (2 * n + 1) := by
  apply Int64.toBitVec_inj.mp
  rw [Int64.toBitVec_or, Int64.toBitVec_ofNat', Int64.toBitVec_ofNat']
  apply BitVec.eq_of_toNat_eq
  rw [BitVec.toNat_or, toNat_ofNat_bits (by omega), toNat_ofNat_bits (by omega)]
  exact (Nat.two_pow_add_eq_or_of_lt (i := 1) (b := 1) (by decide) n).symm

theorem pos_ofNat (h : n < 2 ^ 63) : 0 < Int64.ofNat n ↔ 0 < n := by
  rw [Int64.lt_iff_toInt_lt, Int64.toInt_ofNat_of_lt h]
  simp

theorem ofNat_eq_zero (h : n < 2 ^ 63) : Int64.ofNat n = 0 ↔ n = 0 := by
  rw [← Int64.toInt_inj, Int64.toInt_ofNat_of_lt h]
  simp

end Bits

/-- A word with room for its sign is the doubled magnitude. -/
theorem foldSign_ofInt {v : Int} (room : v.natAbs < 2 ^ 62) :
    foldSign (Int64.ofInt v) = Int64.ofNat (ofInt v) := by
  have same : (Int64.ofInt v).toInt = v := Int64.toInt_ofInt_of_le (by omega) (by omega)
  have negative : Int64.ofInt v < 0 ↔ v < 0 := by
    rw [Int64.lt_iff_toInt_lt, same]
    rfl
  unfold foldSign ofInt
  by_cases below : v < 0
  · have magnitude : -Int64.ofInt v = Int64.ofNat v.natAbs := by
      rw [← Int64.ofInt_neg, ← Int64.ofInt_eq_ofNat]
      congr 1
      omega
    rw [if_pos (negative.mpr below), if_pos below, magnitude, shiftLeft_ofNat room,
      or_one_ofNat room]
  · have magnitude : Int64.ofInt v = Int64.ofNat v.natAbs := by
      rw [← Int64.ofInt_eq_ofNat]
      congr 1
      omega
    rw [if_neg fun h => below (negative.mp h), if_neg below, magnitude, shiftLeft_ofNat room]

theorem takeDigits?_succ {n : Nat} (room : n < 2 ^ 63) (turns : Nat) :
    takeDigits? (turns + 1) (Int64.ofNat n) =
      if n < 32 then some [Base64.digit n]
      else (takeDigits? turns (Int64.ofNat (n / 32))).map (Base64.digit (n % 32 + 32) :: ·) := by
  have above : n / 32 < 2 ^ 63 := by omega
  rw [takeDigits?, shiftRight_ofNat room, and_ofNat room]
  simp only [pos_ofNat above, ofNat_eq_zero above]
  by_cases small : n < 32
  · have ended : n / 32 = 0 := by omega
    rw [if_pos ended, if_pos small, if_neg (by omega), Int64.toNatClampNeg_ofNat_of_lt (by omega),
      Nat.mod_eq_of_lt small]
  · have going : n / 32 ≠ 0 := by omega
    rw [if_neg going, if_neg small, if_pos (by omega), or_ofNat (by omega),
      Int64.toNatClampNeg_ofNat_of_lt (by omega)]

/-- The loop takes the digits of a number that as many turns can hold. -/
theorem takeDigits?_ofNat {turns n : Nat} (room : n < 2 ^ 63) (fits : n < 32 ^ (turns + 1)) :
    takeDigits? (turns + 1) (Int64.ofNat n) = some (digits n) := by
  induction turns generalizing n with
  | zero =>
    have small : n < 32 := fits
    rw [takeDigits?_succ room, digits, if_pos small, if_pos small]
  | succ turns ih =>
    rw [takeDigits?_succ room, digits]
    by_cases small : n < 32
    · rw [if_pos small, if_pos small]
    · have rest : n / 32 < 32 ^ (turns + 1) := by
        rw [Nat.pow_succ] at fits
        omega
      rw [if_neg small, if_neg small, ih (by omega) rest, Option.map_some]

/-- A 64-bit word holds an integer of less than 62 bits with its sign, and the loop over it ends
after as many turns as the integer has digits. -/
theorem takeDigits?_foldSign {turns : Nat} {v : Int} (room : v.natAbs < 2 ^ 62)
    (fits : ofInt v < 32 ^ (turns + 1)) :
    takeDigits? (turns + 1) (foldSign (Int64.ofInt v)) = some (encode v) := by
  have bound : ofInt v < 2 ^ 63 := by
    unfold ofInt
    split <;> omega
  rw [foldSign_ofInt room, takeDigits?_ofNat bound fits, encode]

end AmdBundler.SourceMap.Vlq
