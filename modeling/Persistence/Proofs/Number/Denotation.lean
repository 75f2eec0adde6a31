import Mathlib.Algebra.Order.Ring.Rat
import Mathlib.Tactic.FieldSimp
import Mathlib.Tactic.Ring
import Persistence.Number.Binary64

/-! What the bits of a binary64 number stand for, read field by field as IEEE 754 has it: a sign, an exponent of eleven
    bits, of which the last stands for no number, and a fraction of 52 bits. A count of units over how many units make one
    is just that number, so that what is exact on units is exact on numbers. -/

namespace Persistence.Binary64

def signBit (x : Binary64) : Nat := x.bits.toNat / 2 ^ 63

def exponentBits (x : Binary64) : Nat := x.bits.toNat / 2 ^ 52 % 2 ^ 11

def fractionBits (x : Binary64) : Nat := x.bits.toNat % 2 ^ 52

/-- The number that the bits stand for; the infinities and what is no number stand for none. Numbers with the least
exponent have no leading one. -/
def denotation? (x : Binary64) : Option ℚ :=
  if x.exponentBits = 2047 then none
  else if x.exponentBits = 0 then some ((-1) ^ x.signBit * (x.fractionBits / 2 ^ 52) * 2 ^ (-1022 : ℤ))
  else some ((-1) ^ x.signBit * (1 + x.fractionBits / 2 ^ 52) * 2 ^ ((x.exponentBits : ℤ) - 1023))

/-! ### Fields -/

theorem fractionBits_lt (x : Binary64) : x.fractionBits < fractionCount := Nat.mod_lt _ (by decide)

theorem magnitude_eq (x : Binary64) : x.magnitude = x.exponentBits * fractionCount + x.fractionBits := by
  unfold magnitude exponentBits fractionBits signWeight fractionCount
  omega

theorem isFinite_iff (x : Binary64) : x.isFinite = true ↔ x.exponentBits ≠ 2047 := by
  have inside := x.fractionBits_lt
  have most : x.exponentBits < 2 ^ 11 := Nat.mod_lt _ (by decide)
  rw [isFinite, decide_eq_true_eq, magnitude_eq, infiniteMagnitude]
  unfold fractionCount at inside ⊢
  omega

theorem units_eq_sign_mul (x : Binary64) : (x.units : ℚ) = (-1) ^ x.signBit * (unitsOf x.magnitude : ℚ) := by
  have words : x.bits.toNat < 2 ^ 64 := x.bits.toNat_lt
  rw [units, isNegative]
  cases negative : decide (signWeight ≤ x.bits.toNat)
  · have plus : x.signBit = 0 := by
      rw [decide_eq_false_iff_not] at negative
      unfold signWeight at negative
      unfold signBit
      omega
    simp [plus]
  · have minus : x.signBit = 1 := by
      rw [decide_eq_true_eq] at negative
      unfold signWeight at negative
      unfold signBit
      omega
    simp [minus]

theorem unitsOf_magnitude (x : Binary64) : unitsOf x.magnitude =
    if x.exponentBits = 0 then x.fractionBits else (fractionCount + x.fractionBits) * 2 ^ (x.exponentBits - 1) := by
  have exponent : x.magnitude / fractionCount = x.exponentBits := by
    have inside := x.fractionBits_lt
    rw [magnitude_eq]
    unfold fractionCount at inside ⊢
    omega
  have fraction : x.magnitude % fractionCount = x.fractionBits := by
    have inside := x.fractionBits_lt
    rw [magnitude_eq]
    unfold fractionCount at inside ⊢
    omega
  simp only [unitsOf, exponent, fraction, Nat.pow_eq]

/-! ### Units -/

theorem cast_unitsPerOne : ((unitsPerOne : ℤ) : ℚ) = 2 ^ 52 * 2 ^ 1022 := by
  have power (k : ℕ) : (((Nat.pow 2 k : ℕ) : ℤ) : ℚ) = 2 ^ k := by
    rw [Nat.pow_eq, Int.cast_natCast, Nat.cast_pow, Nat.cast_ofNat]
  unfold unitsPerOne
  generalize whole : 1074 = exponent
  have parts : exponent = 52 + 1022 := whole.symm
  rw [power, parts, pow_add]

theorem unitsPerOne_pos : 0 < (unitsPerOne : ℤ) := by
  have positive : 0 < ((unitsPerOne : ℤ) : ℚ) := by
    rw [cast_unitsPerOne]
    exact mul_pos (pow_pos two_pos _) (pow_pos two_pos _)
  exact Int.cast_pos.mp positive

/-- A finite number is its units, over how many units make one. -/
theorem denotation?_eq (x : Binary64) :
    x.denotation? = if x.isFinite then some ((x.units : ℚ) / ((unitsPerOne : ℤ) : ℚ)) else none := by
  by_cases last : x.exponentBits = 2047
  · have endless : x.isFinite = false := by
      rw [← Bool.not_eq_true, isFinite_iff]
      exact not_not.mpr last
    rw [denotation?, if_pos last, endless, if_neg Bool.false_ne_true]
  · have power : (2 : ℚ) ^ 1022 ≠ 0 := pow_ne_zero _ two_ne_zero
    rw [denotation?, if_neg last, if_pos ((isFinite_iff x).mpr last), units_eq_sign_mul, unitsOf_magnitude,
      cast_unitsPerOne]
    -- Both sides have the sign in front, and 2^1022 below.
    generalize (-1 : ℚ) ^ x.signBit = sign
    by_cases least : x.exponentBits = 0
    · have scale : (2 : ℚ) ^ (-1022 : ℤ) = (2 ^ 1022)⁻¹ := zpow_neg 2 1022
      rw [if_pos least, if_pos least, scale]
      generalize (2 : ℚ) ^ 1022 = range at power
      congr 1
      field_simp
    · have scale : (2 : ℚ) ^ ((x.exponentBits : ℤ) - 1023) = 2 ^ (x.exponentBits - 1) * (2 ^ 1022)⁻¹ := by
        have below : (x.exponentBits : ℤ) - 1023 = (x.exponentBits - 1 : ℕ) - (1022 : ℕ) := by omega
        rw [below, zpow_sub₀ two_ne_zero, zpow_natCast, zpow_natCast, div_eq_mul_inv]
      rw [if_neg least, if_neg least, scale, Nat.cast_mul, Nat.cast_add, Nat.cast_pow, Nat.cast_ofNat, fractionCount]
      generalize (2 : ℚ) ^ 1022 = range at power
      congr 1
      field_simp
      norm_num

/-- A number stands for an integer just if its units are a multiple of how many make one. -/
theorem denotation?_eq_some_iff {x : Binary64} {n : ℤ} :
    x.denotation? = some (n : ℚ) ↔ x.isFinite = true ∧ x.units = n * unitsPerOne := by
  have nonzero : ((unitsPerOne : ℤ) : ℚ) ≠ 0 := Int.cast_ne_zero.mpr unitsPerOne_pos.ne'
  rw [denotation?_eq]
  cases x.isFinite
  · rw [if_neg Bool.false_ne_true]
    exact iff_of_false nofun fun whole => Bool.false_ne_true whole.1
  · rw [if_pos rfl, Option.some.injEq, div_eq_iff nonzero, ← Int.cast_mul, Int.cast_inj]
    exact (and_iff_right rfl).symm

end Persistence.Binary64
