import Mathlib.Algebra.Group.Nat.Defs
import Mathlib.Order.Monotone.Basic
import Persistence.Number.Binary64

/-! The number line of the binary64 format. Each magnitude stands for more units than the one before, so that numbers
    compare by their keys as by their exact values; and what is put together from a sign and a magnitude has both. -/

namespace Persistence.Binary64

/-! ### Bits -/

theorem toNat_ofMagnitude {m : Nat} (negative : Bool) (h : m < signWeight) :
    (ofMagnitude negative m).bits.toNat = if negative then signWeight + m else m := by
  have fits : (if negative then signWeight + m else m) < UInt64.size := by
    unfold signWeight at h ⊢
    change _ < 18446744073709551616
    split <;> omega
  exact UInt64.toNat_ofNat_of_lt' fits

@[simp]
theorem magnitude_ofMagnitude {m : Nat} (negative : Bool) (h : m < signWeight) : (ofMagnitude negative m).magnitude = m := by
  rw [magnitude, toNat_ofMagnitude negative h]
  split
  · rw [Nat.add_mod_left, Nat.mod_eq_of_lt h]
  · rw [Nat.mod_eq_of_lt h]

@[simp]
theorem isNegative_ofMagnitude {m : Nat} (negative : Bool) (h : m < signWeight) :
    (ofMagnitude negative m).isNegative = negative := by
  rw [isNegative, toNat_ofMagnitude negative h]
  cases negative <;> simp [h]

theorem magnitude_lt (x : Binary64) : x.magnitude < signWeight :=
  Nat.mod_lt _ (by decide)

theorem infiniteMagnitude_lt : infiniteMagnitude < signWeight := by
  decide

theorem key_ofMagnitude {m : Nat} (negative : Bool) (h : m < signWeight) :
    (ofMagnitude negative m).key = if negative then -(m : Int) else m := by
  rw [key, isNegative_ofMagnitude negative h, magnitude_ofMagnitude negative h]

/-- What has 64 bits is no number, an infinity or a finite number. -/
theorem kinds (x : Binary64) : (x.isNaN = true ∧ x.isInfinite = false ∧ x.isFinite = false) ∨
    (x.isNaN = false ∧ x.isInfinite = true ∧ x.isFinite = false) ∨
    (x.isNaN = false ∧ x.isInfinite = false ∧ x.isFinite = true) := by
  simp only [isNaN, isInfinite, isFinite, decide_eq_true_eq, decide_eq_false_iff_not]
  omega

theorem isFinite_of_not {x : Binary64} (number : x.isNaN = false) (bounded : x.isInfinite = false) : x.isFinite = true := by
  simpa [number, bounded] using x.kinds

theorem kind_of_isNaN {x : Binary64} (invalid : x.isNaN = true) : x.isInfinite = false ∧ x.isFinite = false := by
  simpa [invalid] using x.kinds

theorem kind_of_isInfinite {x : Binary64} (infinite : x.isInfinite = true) : x.isNaN = false ∧ x.isFinite = false := by
  simpa [infinite] using x.kinds

theorem kind_of_isFinite {x : Binary64} (finite : x.isFinite = true) : x.isNaN = false ∧ x.isInfinite = false := by
  simpa [finite] using x.kinds

/-! ### Units of a magnitude -/

theorem unitsOf_of_lt {m : Nat} (h : m < fractionCount) : unitsOf m = m := by
  rw [unitsOf, Nat.div_eq_of_lt h, Nat.mod_eq_of_lt h, if_pos rfl]

/-- Magnitudes with a positive exponent count their fraction on from 2^52, in steps that double with the exponent. -/
theorem unitsOf_normal {fraction : Nat} (exponent : Nat) (h : fraction < fractionCount) :
    unitsOf ((exponent + 1) * fractionCount + fraction) = (fractionCount + fraction) * 2 ^ exponent := by
  have whole : ((exponent + 1) * fractionCount + fraction) / fractionCount = exponent + 1 := by
    unfold fractionCount at h ⊢
    omega
  have rest : ((exponent + 1) * fractionCount + fraction) % fractionCount = fraction := by
    unfold fractionCount at h ⊢
    omega
  simp only [unitsOf, whole, rest, Nat.add_one_ne_zero, if_false, Nat.add_sub_cancel, Nat.pow_eq]

theorem exists_normal {m : Nat} (h : fractionCount ≤ m) :
    ∃ exponent fraction, fraction < fractionCount ∧ m = (exponent + 1) * fractionCount + fraction := by
  refine ⟨m / fractionCount - 1, m % fractionCount, Nat.mod_lt _ (by decide), ?_⟩
  unfold fractionCount at h ⊢
  omega

/-- The next magnitude stands for more. -/
theorem unitsOf_lt_succ (m : Nat) : unitsOf m < unitsOf (m + 1) := by
  rcases Nat.lt_or_ge m fractionCount with small | large
  · rw [unitsOf_of_lt small]
    rcases Nat.lt_or_ge (m + 1) fractionCount with still | last
    · rw [unitsOf_of_lt still]
      exact Nat.lt_succ_self m
    · have first : m + 1 = (0 + 1) * fractionCount + 0 := by omega
      rw [first, unitsOf_normal 0 (by decide)]
      omega
  · obtain ⟨exponent, fraction, inside, rfl⟩ := exists_normal large
    rw [unitsOf_normal exponent inside]
    have step : 0 < 2 ^ exponent := Nat.two_pow_pos exponent
    rcases Nat.lt_or_ge (fraction + 1) fractionCount with still | last
    · rw [Nat.add_assoc, unitsOf_normal exponent still, ← Nat.add_assoc, Nat.succ_mul]
      omega
    · -- The last fraction of an exponent: the next one is the first of the exponent above.
      have next : (exponent + 1) * fractionCount + fraction + 1 = (exponent + 1 + 1) * fractionCount + 0 := by
        rw [Nat.succ_mul (exponent + 1)]
        omega
      have double : fractionCount + fraction + 1 = 2 * fractionCount := by omega
      rw [next, unitsOf_normal (exponent + 1) (by decide), Nat.add_zero]
      calc (fractionCount + fraction) * 2 ^ exponent
          < (fractionCount + fraction + 1) * 2 ^ exponent := by rw [Nat.succ_mul]; omega
        _ = fractionCount * 2 ^ (exponent + 1) := by
          rw [double, Nat.pow_succ, Nat.mul_comm 2, Nat.mul_assoc, Nat.mul_comm 2]

theorem unitsOf_strictMono : StrictMono unitsOf :=
  strictMono_nat_of_lt_succ unitsOf_lt_succ

/-! ### Keys and units -/

/-- The units at a place of the number line. -/
def unitsAt (key : Int) : Int :=
  if key < 0 then -(unitsOf key.natAbs : Int) else unitsOf key.natAbs

theorem unitsOf_zero : unitsOf 0 = 0 := unitsOf_of_lt (by decide)

theorem units_eq (x : Binary64) : x.units = unitsAt x.key := by
  unfold units key unitsAt
  cases x.isNegative
  · simp
  · rcases Nat.eq_zero_or_pos x.magnitude with zero | positive
    · simp [zero, unitsOf_zero]
    · simp [positive]

/-- Further on the number line stand numbers of more units. -/
theorem unitsAt_lt {k l : Int} (h : k < l) : unitsAt k < unitsAt l := by
  have positive {m : Nat} (h : 0 < m) : 0 < unitsOf m := unitsOf_zero ▸ unitsOf_strictMono h
  unfold unitsAt
  rcases Int.lt_or_le k 0 with negative | nonnegative
  · rw [if_pos negative]
    rcases Int.lt_or_le l 0 with negative' | nonnegative'
    · have further : unitsOf l.natAbs < unitsOf k.natAbs := unitsOf_strictMono (by omega)
      rw [if_pos negative']
      omega
    · have above : 0 < unitsOf k.natAbs := positive (by omega)
      rw [if_neg nonnegative'.not_gt]
      omega
  · have further : unitsOf k.natAbs < unitsOf l.natAbs := unitsOf_strictMono (by omega)
    rw [if_neg nonnegative.not_gt, if_neg (by omega)]
    omega

/-- Numbers have the same units just if they stand at the same place. -/
theorem units_eq_iff (x y : Binary64) : x.units = y.units ↔ x.key = y.key := by
  rw [units_eq, units_eq]
  rcases Int.lt_trichotomy x.key y.key with less | same | more
  · exact iff_of_false (unitsAt_lt less).ne less.ne
  · exact iff_of_true (congrArg unitsAt same) same
  · exact iff_of_false (unitsAt_lt more).ne' more.ne'

theorem units_lt_iff (x y : Binary64) : x.units < y.units ↔ x.key < y.key := by
  rw [units_eq, units_eq]
  rcases Int.lt_trichotomy x.key y.key with less | same | more
  · exact iff_of_true (unitsAt_lt less) less
  · exact iff_of_false (by rw [same]; exact Int.lt_irrefl _) (Int.not_lt.mpr same.ge)
  · exact iff_of_false (unitsAt_lt more).le.not_gt more.le.not_gt

section Comparison
variable {x y : Binary64} (hx : x.isNaN = false) (hy : y.isNaN = false)
include hx hy

/-- Numbers compare as their units. -/
theorem isLess_iff : x.isLess y = true ↔ x.units < y.units := by
  simp [isLess, compare?, hx, hy, units_lt_iff, compare_lt_iff_lt]

theorem isLessOrEqual_iff : x.isLessOrEqual y = true ↔ x.units ≤ y.units := by
  simp [isLessOrEqual, compare?, hx, hy, le_iff_lt_or_eq, units_lt_iff, units_eq_iff, compare_lt_iff_lt]

end Comparison

end Persistence.Binary64
