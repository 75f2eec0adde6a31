import Persistence.Proofs.Number.Rounding

/-! Nearness and order of numbers in exact terms. The difference of two finite numbers is rounded before it is held
    against the gap after one, so that they are near just if their exact values differ by less than the middle between
    that gap and the number before it (`tolerance`). Nothing is near an infinity, not even the infinity itself. -/

namespace Persistence.Binary64

/-! ### Differences -/

/-- The magnitude of the gap after one. -/
def epsilonMagnitude : Nat := 971 * fractionCount

/-- The least difference, in units, of numbers that are not near: the middle between the gap after one and the number
before it, which on a tie is rounded to the gap. -/
def tolerance : Nat := 2 ^ 1022 - 2 ^ 968

theorem tolerance_pos : 0 < tolerance := by
  decide +kernel

theorem epsilonMagnitude_lt : epsilonMagnitude < infiniteMagnitude := by
  decide

theorem nearestMagnitude_below : nearestMagnitude (tolerance - 1) 1 < epsilonMagnitude := by
  decide +kernel

theorem le_nearestMagnitude_tolerance : epsilonMagnitude ≤ nearestMagnitude tolerance 1 := by
  decide +kernel

/-- Just the differences below the tolerance are rounded to less than the gap. -/
theorem nearestMagnitude_lt_epsilon_iff (n : Nat) : nearestMagnitude n 1 < epsilonMagnitude ↔ n < tolerance := by
  constructor
  · intro less
    by_contra beyond
    have more := le_nearestMagnitude_tolerance.trans (nearestMagnitude_mono 1 (Nat.le_of_not_lt beyond))
    exact Nat.not_lt_of_le more less
  · intro below
    exact Nat.lt_of_le_of_lt (nearestMagnitude_mono 1 (Nat.le_sub_one_of_lt below)) nearestMagnitude_below

/-- The size of a number is compared by its magnitude; what is no number has a magnitude beyond all others. -/
theorem isLess_abs {bound : Nat} (x : Binary64) (h : bound < infiniteMagnitude) :
    x.abs.isLess (ofMagnitude false bound) = decide (x.magnitude < bound) := by
  have fits : bound < signWeight := h.trans infiniteMagnitude_lt
  rw [isLess, compare?, isNaN, isNaN, abs, magnitude_ofMagnitude false x.magnitude_lt, magnitude_ofMagnitude false fits,
    decide_eq_false h.le.not_gt, Bool.or_false, key_ofMagnitude false x.magnitude_lt, key_ofMagnitude false fits]
  split
  next invalid =>
    rw [decide_eq_true_eq] at invalid
    exact (decide_eq_false (h.trans invalid).not_gt).symm
  next =>
    rw [Bool.eq_iff_iff]
    simp [compare_lt_iff_lt]

theorem isLess_abs_epsilon (x : Binary64) : x.abs.isLess epsilon = decide (x.magnitude < epsilonMagnitude) :=
  isLess_abs x epsilonMagnitude_lt

theorem magnitude_sub_of_finite {x y : Binary64} (hx : x.isFinite = true) (hy : y.isFinite = true) :
    (x.sub y).magnitude = nearestMagnitude (x.units - y.units).natAbs 1 := by
  simp only [sub, kind_of_isFinite hx, kind_of_isFinite hy, Bool.or_self, Bool.false_eq_true, if_false, magnitude_ofUnits]

/-- A difference with something that is not finite is not finite. -/
theorem le_magnitude_sub {x y : Binary64} (h : (x.isFinite && y.isFinite) = false) :
    infiniteMagnitude ≤ (x.sub y).magnitude := by
  have beyond : infiniteMagnitude ≤ nan.magnitude := by decide
  have endless {z : Binary64} (infinite : z.isInfinite = true) : infiniteMagnitude ≤ z.magnitude :=
    (of_decide_eq_true infinite).ge
  rw [sub]
  split
  · exact beyond
  next numbers =>
    split
    next infinite =>
      split
      · exact beyond
      · exact endless infinite
    next bounded =>
      split
      next infinite =>
        rw [neg, magnitude_ofMagnitude _ y.magnitude_lt]
        exact endless infinite
      next bounded' =>
        rw [Bool.not_eq_true] at numbers bounded bounded'
        rw [Bool.or_eq_false_iff] at numbers
        rw [isFinite_of_not numbers.1 bounded, isFinite_of_not numbers.2 bounded'] at h
        cases h

/-! ### Nearness -/

/-- Two finite numbers differ by less than the tolerance. -/
def isClose (x y : Binary64) : Bool :=
  x.isFinite && y.isFinite && (x.units - y.units).natAbs < tolerance

theorem isLess_sub_epsilon (x y : Binary64) : (x.sub y).abs.isLess epsilon = x.isClose y := by
  rw [isLess_abs_epsilon, isClose]
  cases finite : x.isFinite && y.isFinite
  · have large := le_magnitude_sub finite
    have less := epsilonMagnitude_lt
    simp only [Bool.false_and, decide_eq_false_iff_not]
    omega
  · rw [Bool.and_eq_true] at finite
    rw [magnitude_sub_of_finite finite.1 finite.2, Bool.true_and, decide_eq_decide]
    exact nearestMagnitude_lt_epsilon_iff _

theorem isNear_eq (x y : Binary64) : x.isNear y = ((x.isNaN && y.isNaN) || x.isClose y) := by
  rw [isNear, isLess_sub_epsilon]

theorem isClose_comm (x y : Binary64) : x.isClose y = y.isClose x := by
  have same : (x.units - y.units).natAbs = (y.units - x.units).natAbs := by omega
  rw [isClose, isClose, same, Bool.and_comm x.isFinite]

theorem isNear_comm (x y : Binary64) : x.isNear y = y.isNear x := by
  rw [isNear_eq, isNear_eq, isClose_comm, Bool.and_comm]

theorem isClose_self (x : Binary64) : x.isClose x = x.isFinite := by
  simp [isClose, tolerance_pos]

theorem isClose_eq_true_iff {x y : Binary64} : x.isClose y = true ↔
    x.isFinite = true ∧ y.isFinite = true ∧ (x.units - y.units).natAbs < tolerance := by
  rw [isClose, Bool.and_eq_true, Bool.and_eq_true, decide_eq_true_eq, and_assoc]

theorem isNear_of_isNaN {x : Binary64} (h : x.isNaN = true) (y : Binary64) : x.isNear y = y.isNaN := by
  rw [isNear_eq, isClose, h, (kind_of_isNaN h).2, Bool.true_and, Bool.false_and, Bool.false_and, Bool.or_false]

theorem isNear_of_isInfinite {x : Binary64} (h : x.isInfinite = true) (y : Binary64) : x.isNear y = false := by
  rw [isNear_eq, isClose, (kind_of_isInfinite h).1, (kind_of_isInfinite h).2, Bool.false_and, Bool.false_and,
    Bool.false_and, Bool.or_false]

theorem isNear_of_isFinite {x : Binary64} (h : x.isFinite = true) (y : Binary64) : x.isNear y = x.isClose y := by
  rw [isNear_eq, (kind_of_isFinite h).1, Bool.false_and, Bool.false_or]

/-- Only an infinity is not near itself. -/
theorem isNear_self (x : Binary64) : x.isNear x = !x.isInfinite := by
  rcases x.kinds with ⟨invalid, bounded, -⟩ | ⟨-, infinite, -⟩ | ⟨-, bounded, finite⟩
  · rw [isNear_of_isNaN invalid, invalid, bounded, Bool.not_false]
  · rw [isNear_of_isInfinite infinite, infinite, Bool.not_true]
  · rw [isNear_of_isFinite finite, isClose_self, finite, bounded, Bool.not_false]

/-- Two finite numbers differ by the tolerance or more. -/
def isApart (x y : Binary64) : Bool :=
  x.isFinite && y.isFinite && tolerance ≤ (x.units - y.units).natAbs

/-- Numbers near to a third one are near each other unless they are apart. -/
theorem isNear_of_near {x y z : Binary64} (hxy : x.isNear y = true) (hyz : y.isNear z = true) :
    x.isNear z = !x.isApart z := by
  rw [isNear_comm] at hxy
  rcases y.kinds with ⟨invalid, -, -⟩ | ⟨-, infinite, -⟩ | ⟨-, -, finite⟩
  · rw [isNear_of_isNaN invalid] at hxy hyz
    rw [isNear_of_isNaN hxy, hyz, isApart, (kind_of_isNaN hxy).2, Bool.false_and, Bool.false_and, Bool.not_false]
  · rw [isNear_of_isInfinite infinite] at hyz
    cases hyz
  · rw [isNear_of_isFinite finite, isClose_eq_true_iff] at hxy hyz
    rw [isNear_of_isFinite hxy.2.1, isClose, isApart, hxy.2.1, hyz.2.1, Bool.true_and, Bool.true_and, Bool.true_and,
      ← decide_not, decide_eq_decide, Nat.not_le]

/-! ### Order -/

theorem compare?_swap (x y : Binary64) : y.compare? x = (x.compare? y).map Ordering.swap := by
  rw [compare?, compare?, Bool.or_comm]
  split
  · rfl
  · rw [Option.map_some, ← Std.OrientedOrd.eq_swap]

theorem compare?_eq_some_iff {x y : Binary64} {o : Ordering} :
    x.compare? y = some o ↔ x.isNaN = false ∧ y.isNaN = false ∧ compare x.key y.key = o := by
  rw [compare?]
  cases x.isNaN <;> cases y.isNaN <;> simp

theorem compare?_eq_lt_iff {x y : Binary64} :
    x.compare? y = some .lt ↔ x.isNaN = false ∧ y.isNaN = false ∧ x.key < y.key := by
  rw [compare?_eq_some_iff, compare_lt_iff_lt]

theorem compare?_lt_trans {x y z : Binary64} (hxy : x.compare? y = some .lt) (hyz : y.compare? z = some .lt) :
    x.compare? z = some .lt := by
  rw [compare?_eq_lt_iff] at hxy hyz ⊢
  exact ⟨hxy.1, hyz.2.1, hxy.2.2.trans hyz.2.2⟩

theorem natAbs_key (x : Binary64) : x.key.natAbs = x.magnitude := by
  rw [key]
  split <;> omega

/-- Order and nearness contradict each other about two numbers: both are none, both are the same infinity, or they are
close without being equal. -/
def clashes (x y : Binary64) : Bool :=
  (x.isNaN && y.isNaN) || (x.isInfinite && x.key == y.key) || (x.isClose y && x.units != y.units)

theorem magnitude_eq_of_key_eq {x y : Binary64} (h : x.key = y.key) : x.magnitude = y.magnitude := by
  rw [← natAbs_key, ← natAbs_key, h]

/-- Numbers have the same place in the order just if they are near, unless the two contradict each other. -/
theorem compare?_iff_isNear_iff (x y : Binary64) :
    (x.compare? y = some .eq ↔ x.isNear y = true) ↔ x.clashes y = false := by
  rw [compare?_eq_some_iff, compare_eq_iff_eq, clashes]
  rcases x.kinds with ⟨xNone, xBounded, xFinite⟩ | ⟨xNone, xInfinite, xFinite⟩ | ⟨xNone, xBounded, xFinite⟩
  · simp [isNear_of_isNaN xNone, isClose, xNone, xBounded, xFinite]
  · by_cases same : x.key = y.key
    · have number : y.isNaN = false := by
        rw [isNaN, ← magnitude_eq_of_key_eq same]
        exact xNone
      simp [isNear_of_isInfinite xInfinite, xNone, xInfinite, same, number]
    · simp [isNear_of_isInfinite xInfinite, isClose, xNone, xFinite, same]
  · rw [isNear_of_isFinite xFinite]
    by_cases same : x.key = y.key
    · have yFinite : y.isFinite = true := by
        rw [isFinite, ← magnitude_eq_of_key_eq same]
        exact xFinite
      have close : x.isClose y = true := by
        rw [isClose_eq_true_iff, (units_eq_iff x y).mpr same, Int.sub_self]
        exact ⟨xFinite, yFinite, tolerance_pos⟩
      simp [xNone, xBounded, kind_of_isFinite yFinite, same, close, units_eq_iff]
    · simp [xNone, xBounded, same, units_eq_iff]

end Persistence.Binary64
