import Persistence.Proofs.DataType.Projection
import Persistence.Proofs.Number.Denotation
import Persistence.Proofs.Number.Units

/-! Conversion of numbers to integers. The types of integers take just the numbers that stand for an integer in their
    range, as that integer; a number with a fraction is refused, and so is one out of range, above all 2^63, which is what
    the greatest integer of 64 bits is rounded to. -/

namespace Persistence

open Binary64

namespace DataType

variable {x : Binary64} {n : ℤ}

/-! ### Integers of 64 bits -/

theorem isIntegral_iff (x : Binary64) : x.isIntegral = true ↔ ∃ n : ℤ, x.denotation? = some (n : ℚ) := by
  simp only [isIntegral, Bool.and_eq_true, beq_iff_eq, denotation?_eq_some_iff, exists_and_left]
  refine and_congr_right fun _ => ⟨fun rest => ?_, ?_⟩
  · obtain ⟨n, parts⟩ := Int.dvd_of_emod_eq_zero rest
    exact ⟨n, parts.trans (Int.mul_comm _ _)⟩
  · rintro ⟨n, units⟩
    rw [units, Int.mul_emod_left]

/-- The bounds of the range as numbers: the least integer is one, and the greatest one is rounded up. -/
theorem denotation?_ofInt_bounds : (ofInt Text.leastLong).denotation? = some ((-2 ^ 63 : ℤ) : ℚ) ∧
    (ofInt Text.greatestLong).denotation? = some ((2 ^ 63 : ℤ) : ℚ) := by
  rw [denotation?_eq_some_iff, denotation?_eq_some_iff]
  decide +kernel

/-- The range is compared in units, where it is exact. -/
theorem fitsLong_iff (whole : x.denotation? = some (n : ℚ)) :
    Value.fitsLong x = true ↔ Text.leastLong ≤ n ∧ n ≤ Text.greatestLong := by
  obtain ⟨finite, units⟩ := denotation?_eq_some_iff.mp whole
  obtain ⟨finiteLeast, least⟩ := denotation?_eq_some_iff.mp denotation?_ofInt_bounds.1
  obtain ⟨finiteBound, bound⟩ := denotation?_eq_some_iff.mp denotation?_ofInt_bounds.2
  have number {y : Binary64} (finite : y.isFinite = true) : y.isNaN = false := (kind_of_isFinite finite).1
  rw [Value.fitsLong, finite, Bool.true_and, Bool.and_eq_true, isLessOrEqual_iff (number finiteLeast) (number finite),
    isLess_iff (number finite) (number finiteBound), least, bound, units,
    Int.mul_le_mul_iff_of_pos_right unitsPerOne_pos, Int.mul_lt_mul_right unitsPerOne_pos]
  unfold Text.leastLong Text.greatestLong
  omega

/-- The number 2^63 is whole, but no integer of 64 bits. -/
example : isIntegral ⟨0x43e0000000000000⟩ = true ∧ Value.fitsLong ⟨0x43e0000000000000⟩ = false := by decide +kernel

theorem truncate?_of_whole (whole : x.denotation? = some (n : ℚ)) : x.truncate? = some n := by
  obtain ⟨finite, units⟩ := denotation?_eq_some_iff.mp whole
  rw [truncate?, if_pos finite, units, Int.mul_tdiv_cancel n unitsPerOne_pos.ne']

theorem toLong_of_whole (whole : x.denotation? = some (n : ℚ)) : toLong (.float x) =
    if Text.leastLong ≤ n ∧ n ≤ Text.greatestLong then .ok (Int64.ofInt n) else .error (.outOfLongRange x) := by
  rw [toLong, if_pos ((isIntegral_iff x).mpr ⟨n, whole⟩), Value.asLong?, truncate?_of_whole whole]
  by_cases inside : Text.leastLong ≤ n ∧ n ≤ Text.greatestLong
  · rw [if_pos inside, if_pos ((fitsLong_iff whole).mpr inside)]
    rfl
  · rw [if_neg inside, if_neg fun fits => inside ((fitsLong_iff whole).mp fits)]

theorem toLong_of_fractional (apart : ∀ n : ℤ, x.denotation? ≠ some (n : ℚ)) :
    toLong (.float x) = .error (.fractional x) := by
  rw [toLong, if_neg fun whole => ((isIntegral_iff x).mp whole).elim apart]

/-- A number becomes an integer just if it stands for it. -/
theorem toLong_eq_ok_iff {m : Int64} : toLong (.float x) = .ok m ↔ x.denotation? = some (m.toInt : ℚ) := by
  constructor
  · intro h
    by_cases whole : ∃ n : ℤ, x.denotation? = some (n : ℚ)
    · obtain ⟨n, whole⟩ := whole
      rw [toLong_of_whole whole] at h
      split at h
      next inside =>
        cases h
        rw [whole, Int64.toInt_ofInt_of_le inside.1 (Int.lt_add_one_of_le inside.2)]
      · cases h
    · rw [toLong_of_fractional (not_exists.mp whole)] at h
      cases h
  · intro whole
    rw [toLong_of_whole whole, if_pos ⟨m.le_toInt, Int.le_of_lt_add_one m.toInt_lt⟩, Int64.ofInt_toInt]

/-! ### Integers of 32 bits -/

theorem fitsInteger_iff (m : Int64) : fitsInteger m = true ↔ -2 ^ 31 ≤ m.toInt ∧ m.toInt < 2 ^ 31 := by
  rw [fitsInteger, Bool.and_eq_true, decide_eq_true_eq, decide_eq_true_eq]
  omega

theorem toInteger_eq_ok_iff {value : Value} {m : Int64} :
    toInteger value = .ok m ↔ toLong value = .ok m ∧ fitsInteger m = true := by
  constructor
  · intro h
    have fits := fitsInteger_of_toInteger h
    obtain ⟨k, long, h⟩ := bind_eq_ok.mp h
    split at h
    · cases h
      exact ⟨long, fits⟩
    · cases h
  · rintro ⟨long, fits⟩
    exact bind_eq_ok.mpr ⟨m, long, if_pos fits⟩

/-! ### Conversions -/

theorem convert_long (x : Binary64) : DataType.long.convert (.float x) = Value.integer <$> toLong (.float x) := rfl

theorem convert_integer (x : Binary64) : DataType.integer.convert (.float x) = Value.integer <$> toInteger (.float x) := rfl

/-- A type takes a number just if it stands for an integer between a least one and a bound, as that integer, and refuses
every other number. -/
structure TakesExactly (type : DataType) (least bound : ℤ) (x : Binary64) : Prop where
  takes : ∀ n : ℤ, (∃ m : Int64, m.toInt = n ∧ type.convert (.float x) = .ok (.integer m)) ↔
    x.denotation? = some (n : ℚ) ∧ least ≤ n ∧ n < bound
  refuses : (∀ n : ℤ, x.denotation? = some (n : ℚ) → ¬(least ≤ n ∧ n < bound)) →
    ∃ fault, type.convert (.float x) = .error fault

/-- A type of integers of 64 bits or fewer takes numbers exactly if its checks do, as these let no other value through. -/
theorem TakesExactly.of_check {type : DataType} {least bound : ℤ} {check : Except ConversionFault Int64}
    (conversion : type.convert (.float x) = Value.integer <$> check)
    (exact : ∀ m : Int64, check = .ok m ↔ x.denotation? = some (m.toInt : ℚ) ∧ least ≤ m.toInt ∧ m.toInt < bound)
    (low : -2 ^ 63 ≤ least) (high : bound ≤ 2 ^ 63) : TakesExactly type least bound x where
  takes n := by
    constructor
    · rintro ⟨m, rfl, taken⟩
      obtain ⟨k, checked, same⟩ := map_eq_ok.mp (conversion.symm.trans taken)
      cases same
      exact (exact m).mp checked
    · rintro ⟨whole, inside⟩
      have same : (Int64.ofInt n).toInt = n :=
        Int64.toInt_ofInt_of_le (low.trans inside.1) (inside.2.trans_le high)
      have checked : check = .ok (Int64.ofInt n) := (exact _).mpr (by rw [same]; exact ⟨whole, inside⟩)
      exact ⟨Int64.ofInt n, same, by rw [conversion, checked]; rfl⟩
  refuses outside := by
    rw [conversion]
    cases check with
    | error fault => exact ⟨fault, rfl⟩
    | ok m =>
      obtain ⟨whole, inside⟩ := (exact m).mp rfl
      exact absurd inside (outside _ whole)

/-- Numbers are converted to integers without any loss, or not at all. -/
theorem convert_exactly (x : Binary64) :
    TakesExactly .long (-2 ^ 63) (2 ^ 63) x ∧ TakesExactly .integer (-2 ^ 31) (2 ^ 31) x := by
  constructor
  · refine .of_check (convert_long x) (fun m => ?_) le_rfl le_rfl
    rw [toLong_eq_ok_iff, and_iff_left ⟨m.le_toInt, m.toInt_lt⟩]
  · refine .of_check (convert_integer x) (fun m => ?_) (by decide) (by decide)
    rw [toInteger_eq_ok_iff, toLong_eq_ok_iff, fitsInteger_iff]

end DataType
end Persistence
