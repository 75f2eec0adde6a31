import Persistence.Proofs.Number.Units

/-! Rounding to the nearest number. A larger quotient never rounds to a smaller magnitude, also where the exponent
    changes, so that integers keep their order, if not their differences, when they become numbers. -/

namespace Persistence.Binary64

/-! ### Rounding to integers -/

section Integers
variable {num den : Nat}

/-- A quotient is rounded up if its rest is more than a half, or is a half above an odd integer. -/
theorem roundHalfEven_eq (num den : Nat) : roundHalfEven num den = num / den +
    if den < 2 * (num % den) ∨ 2 * (num % den) = den ∧ num / den % 2 = 1 then 1 else 0 := by
  unfold roundHalfEven
  dsimp only
  split
  next less => rw [if_neg (by omega), Nat.add_zero]
  next =>
    split
    next more => rw [if_pos (Or.inl more)]
    next =>
      -- A tie: the rest of the integer itself tells whether it is odd.
      split <;> omega

theorem le_roundHalfEven : num / den ≤ roundHalfEven num den := by
  rw [roundHalfEven_eq]
  exact Nat.le_add_right _ _

theorem roundHalfEven_le : roundHalfEven num den ≤ num / den + 1 := by
  rw [roundHalfEven_eq]
  split <;> omega

theorem roundHalfEven_mono {larger : Nat} (h : num ≤ larger) : roundHalfEven num den ≤ roundHalfEven larger den := by
  rcases Nat.lt_or_eq_of_le (Nat.div_le_div_right (c := den) h) with apart | same
  · calc roundHalfEven num den ≤ num / den + 1 := roundHalfEven_le
      _ ≤ larger / den := apart
      _ ≤ roundHalfEven larger den := le_roundHalfEven
  · -- Between the same two integers the rests decide.
    have rests : num % den ≤ larger % den := by
      have one := Nat.div_add_mod num den
      have other := Nat.div_add_mod larger den
      rw [same] at one
      omega
    rw [roundHalfEven_eq, roundHalfEven_eq, same]
    split <;> split <;> omega

end Integers

/-! ### Rounding to magnitudes -/

/-- How many bits a quotient is too long for a fraction. -/
def excess (num den : Nat) : Nat := (num / den).log2 - 52

theorem nearestMagnitude_eq (num den : Nat) : nearestMagnitude num den =
    min infiniteMagnitude (excess num den * fractionCount + roundHalfEven num (den * 2 ^ excess num den)) := rfl

theorem excess_mono {num larger : Nat} (den : Nat) (h : num ≤ larger) : excess num den ≤ excess larger den := by
  refine Nat.sub_le_sub_right ?_ 52
  have quotients : num / den ≤ larger / den := Nat.div_le_div_right h
  rcases Nat.eq_zero_or_pos (num / den) with zero | positive
  · rw [zero]
    exact Nat.zero_le _
  · have power : 2 ^ (num / den).log2 ≤ larger / den := (Nat.log2_self_le positive.ne').trans quotients
    exact (Nat.le_log2 (positive.trans_le quotients).ne').mpr power

/-- Cut by its excess, a quotient is rounded to 2^53 at most. -/
theorem roundHalfEven_excess_le (num den : Nat) : roundHalfEven num (den * 2 ^ excess num den) ≤ 2 * fractionCount := by
  have bound : num / den < 2 ^ excess num den * (2 * fractionCount) := by
    calc num / den < 2 ^ ((num / den).log2 + 1) := Nat.lt_log2_self
      _ ≤ 2 ^ (excess num den + 53) := Nat.pow_le_pow_right (by decide) (by unfold excess; omega)
      _ = 2 ^ excess num den * (2 * fractionCount) := Nat.pow_add 2 _ 53
  calc roundHalfEven num (den * 2 ^ excess num den)
      ≤ num / (den * 2 ^ excess num den) + 1 := roundHalfEven_le
    _ = num / den / 2 ^ excess num den + 1 := by rw [Nat.div_div_eq_div_mul]
    _ ≤ 2 * fractionCount := Nat.div_lt_of_lt_mul bound

/-- Where there is an excess to cut, a quotient is rounded to 2^52 at least. -/
theorem le_roundHalfEven_excess {num den : Nat} (h : 0 < excess num den) :
    fractionCount ≤ roundHalfEven num (den * 2 ^ excess num den) := by
  have long : (num / den).log2 = 52 + excess num den := by
    unfold excess at h ⊢
    omega
  have positive : num / den ≠ 0 := by
    intro zero
    rw [zero, Nat.log2_zero] at long
    omega
  have bound : fractionCount * 2 ^ excess num den ≤ num / den := by
    calc fractionCount * 2 ^ excess num den = 2 ^ (52 + excess num den) := (Nat.pow_add 2 52 _).symm
      _ ≤ num / den := long ▸ Nat.log2_self_le positive
  calc fractionCount ≤ num / den / 2 ^ excess num den := (Nat.le_div_iff_mul_le (Nat.two_pow_pos _)).mpr bound
    _ = num / (den * 2 ^ excess num den) := Nat.div_div_eq_div_mul ..
    _ ≤ roundHalfEven num (den * 2 ^ excess num den) := le_roundHalfEven

/-- Larger quotients do not round to smaller magnitudes. -/
theorem nearestMagnitude_mono {num larger : Nat} (den : Nat) (h : num ≤ larger) :
    nearestMagnitude num den ≤ nearestMagnitude larger den := by
  rw [nearestMagnitude_eq, nearestMagnitude_eq]
  refine Nat.le_min.mpr ⟨Nat.min_le_left _ _, (Nat.min_le_right _ _).trans ?_⟩
  rcases Nat.lt_or_eq_of_le (excess_mono den h) with apart | same
  · -- The last magnitude of one exponent does not lie beyond the first one of the next.
    have most := roundHalfEven_excess_le num den
    have least := le_roundHalfEven_excess (Nat.lt_of_le_of_lt (Nat.zero_le _) apart)
    have next : (excess num den + 1) * fractionCount ≤ excess larger den * fractionCount := Nat.mul_le_mul_right _ apart
    rw [Nat.succ_mul] at next
    omega
  · rw [same]
    exact Nat.add_le_add_left (roundHalfEven_mono h) _

theorem nearestMagnitude_le (num den : Nat) : nearestMagnitude num den ≤ infiniteMagnitude :=
  Nat.min_le_left _ _

theorem nearestMagnitude_lt (num den : Nat) : nearestMagnitude num den < signWeight :=
  (nearestMagnitude_le num den).trans_lt infiniteMagnitude_lt

/-! ### Rounding to numbers -/

theorem magnitude_ofUnits (negative : Bool) (num den : Nat) : (ofUnits negative num den).magnitude = nearestMagnitude num den :=
  magnitude_ofMagnitude negative (nearestMagnitude_lt num den)

theorem isNaN_ofUnits (negative : Bool) (num den : Nat) : (ofUnits negative num den).isNaN = false := by
  rw [isNaN, magnitude_ofUnits, decide_eq_false_iff_not, Nat.not_lt]
  exact nearestMagnitude_le num den

/-! ### Integers as numbers -/

theorem key_ofInt (n : Int) : (ofInt n).key =
    if n < 0 then -(nearestMagnitude (n.natAbs * unitsPerOne) 1 : Int) else nearestMagnitude (n.natAbs * unitsPerOne) 1 := by
  rw [ofInt, ofUnits, key_ofMagnitude _ (nearestMagnitude_lt _ _)]
  simp only [decide_eq_true_eq]

/-- Larger integers do not become smaller numbers. -/
theorem key_ofInt_le {m n : Int} (h : m ≤ n) : (ofInt m).key ≤ (ofInt n).key := by
  have further {a b : Nat} (le : a ≤ b) :
      nearestMagnitude (a * unitsPerOne) 1 ≤ nearestMagnitude (b * unitsPerOne) 1 :=
    nearestMagnitude_mono 1 (Nat.mul_le_mul_right unitsPerOne le)
  rw [key_ofInt, key_ofInt]
  rcases Int.lt_or_le m 0 with negative | nonnegative
  · rw [if_pos negative]
    rcases Int.lt_or_le n 0 with negative' | nonnegative'
    · have nearer := further (show n.natAbs ≤ m.natAbs by omega)
      rw [if_pos negative']
      omega
    · rw [if_neg nonnegative'.not_gt]
      omega
  · have nearer := further (show m.natAbs ≤ n.natAbs by omega)
    rw [if_neg nonnegative.not_gt, if_neg (by omega)]
    omega

theorem isNaN_ofInt (n : Int) : (ofInt n).isNaN = false :=
  isNaN_ofUnits _ _ _

/-- Integers of 64 bits, with a sign or without one, are far from the infinities. -/
theorem isFinite_ofInt_of_le {n : Int} (bound : n.natAbs ≤ 2 ^ 64) : (ofInt n).isFinite = true := by
  have most : nearestMagnitude (2 ^ 64 * unitsPerOne) 1 < infiniteMagnitude := by decide +kernel
  rw [isFinite, ofInt, magnitude_ofUnits, decide_eq_true_eq]
  exact (nearestMagnitude_mono 1 (Nat.mul_le_mul_right unitsPerOne bound)).trans_lt most

theorem isFinite_ofInt (n : Int64) : (ofInt n.toInt).isFinite = true := by
  have low := n.le_toInt
  have high := n.toInt_lt
  exact isFinite_ofInt_of_le (by omega)

end Persistence.Binary64
