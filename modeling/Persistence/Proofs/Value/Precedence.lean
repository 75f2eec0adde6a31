import Persistence.Proofs.Number.Nearness
import Persistence.Value.Order

/-! The order of values. What comes before what is settled kind by kind (`Precedes`); the one place where kinds meet
    are the numbers, which integers enter through the nearest number, and there the order is transitive because
    rounding keeps it. -/

namespace Persistence

theorem Instant.compare_swap (s t : Instant) : (s.compare t).swap = t.compare s := by
  rw [compare, compare, Ordering.swap_then, ← Std.OrientedOrd.eq_swap, ← Std.OrientedOrd.eq_swap]

/-- Of two instants the earlier one has fewer seconds, or the same and fewer nanoseconds. -/
theorem Instant.compare_eq_lt_iff {s t : Instant} :
    s.compare t = .lt ↔ s.seconds < t.seconds ∨ s.seconds = t.seconds ∧ s.nanos < t.nanos := by
  rw [compare, Ordering.then_eq_lt, compare_lt_iff_lt, compare_eq_iff_eq, compare_lt_iff_lt]

namespace Value

/-! ### The order of a kind -/

theorem compareTexts_swap (s t : String) : (compareTexts s t).swap = compareTexts t s := by
  unfold compareTexts
  rcases Std.lt_trichotomy s t with less | rfl | more
  · have other : t ≠ s := fun same => String.lt_irrefl s (same ▸ less)
    rw [if_pos less, if_neg (String.lt_asymm less), if_neg other, Ordering.swap_lt]
  · rw [if_neg (String.lt_irrefl s), if_pos rfl, Ordering.swap_eq]
  · have other : s ≠ t := fun same => String.lt_irrefl t (same ▸ more)
    rw [if_pos more, if_neg (String.lt_asymm more), if_neg other, Ordering.swap_gt]

theorem compareTexts_eq_lt_iff {s t : String} : compareTexts s t = .lt ↔ s < t := by
  unfold compareTexts
  split
  next less => simp [less]
  next => split <;> simp [*]

theorem compareBooleans_swap (p q : Bool) : (compareBooleans p q).swap = compareBooleans q p := by
  cases p <;> cases q <;> rfl

/-! ### Reversal -/

/-- The other way round two values compare in reverse, or do not compare either. -/
theorem compare?_swap (a b : Value) : b.compare? a = (a.compare? b).map Ordering.swap := by
  cases a with
  | null => cases b <;> rfl
  | integer m =>
    cases b with
    | integer n => rw [compare?, compare?, Option.map_some, ← Std.OrientedOrd.eq_swap]
    | float x => exact Binary64.compare?_swap _ x
    | _ => rfl
  | float x =>
    cases b with
    | integer n => exact Binary64.compare?_swap x _
    | float y => exact Binary64.compare?_swap x y
    | _ => rfl
  | text s =>
    cases b with
    | text t => rw [compare?, compare?, Option.map_some, compareTexts_swap]
    | _ => rfl
  | boolean p =>
    cases b with
    | boolean q => rw [compare?, compare?, Option.map_some, compareBooleans_swap]
    | _ => rfl
  | timestamp s =>
    cases b with
    | timestamp t => rw [compare?, compare?, Option.map_some, Instant.compare_swap]
    | _ => rfl
  | uuid u =>
    cases b with
    | uuid v => rw [compare?, compare?, Option.map_some, ← Std.OrientedOrd.eq_swap]
    | _ => rfl
  | list items => cases b <;> rfl
  | map entries => cases b <;> rfl

/-! ### Precedence -/

/-- One value comes before the other. -/
inductive Precedes : Value → Value → Prop
  | null {b : Value} : b ≠ .null → Precedes .null b
  | integers {m n : Int64} : m.toInt < n.toInt → Precedes (.integer m) (.integer n)
  | floats {x y : Binary64} : x.compare? y = some .lt → Precedes (.float x) (.float y)
  | integerFloat {n : Int64} {x : Binary64} : (Binary64.ofInt n.toInt).compare? x = some .lt →
      Precedes (.integer n) (.float x)
  | floatInteger {x : Binary64} {n : Int64} : x.compare? (Binary64.ofInt n.toInt) = some .lt →
      Precedes (.float x) (.integer n)
  | texts {s t : String} : s < t → Precedes (.text s) (.text t)
  | booleans {p q : Bool} : p.toNat < q.toNat → Precedes (.boolean p) (.boolean q)
  | timestamps {s t : Instant} : s.seconds < t.seconds ∨ s.seconds = t.seconds ∧ s.nanos < t.nanos →
      Precedes (.timestamp s) (.timestamp t)
  | uuids {u v : Uuid} : u.number.val < v.number.val → Precedes (.uuid u) (.uuid v)

theorem isLess_eq_true_iff {a b : Value} : a.isLess b = true ↔ a.compare? b = some .lt := by
  rw [isLess, beq_iff_eq]

theorem isLess_iff_precedes {a b : Value} : a.isLess b = true ↔ Precedes a b := by
  rw [isLess_eq_true_iff]
  constructor
  · intro less
    cases a with
    | null => exact .null fun same => by cases same; cases less
    | integer m =>
      cases b with
      | integer n => exact .integers (compare_lt_iff_lt.mp (Option.some.inj less))
      | float x => exact .integerFloat less
      | _ => cases less
    | float x =>
      cases b with
      | integer n => exact .floatInteger less
      | float y => exact .floats less
      | _ => cases less
    | text s =>
      cases b with
      | text t => exact .texts (compareTexts_eq_lt_iff.mp (Option.some.inj less))
      | _ => cases less
    | boolean p =>
      cases b with
      | boolean q => exact .booleans (compare_lt_iff_lt.mp (Option.some.inj less))
      | _ => cases less
    | timestamp s =>
      cases b with
      | timestamp t => exact .timestamps (Instant.compare_eq_lt_iff.mp (Option.some.inj less))
      | _ => cases less
    | uuid u =>
      cases b with
      | uuid v => exact .uuids (compare_lt_iff_lt.mp (Option.some.inj less))
      | _ => cases less
    | list items => cases b <;> cases less
    | map entries => cases b <;> cases less
  · rintro (present | less | less | less | less | less | less | less | less)
    · cases b <;> first | rfl | exact absurd rfl present
    · exact congrArg some (compare_lt_iff_lt.mpr less)
    · exact less
    · exact less
    · exact less
    · exact congrArg some (compareTexts_eq_lt_iff.mpr less)
    · exact congrArg some (compare_lt_iff_lt.mpr less)
    · exact congrArg some (Instant.compare_eq_lt_iff.mpr less)
    · exact congrArg some (compare_lt_iff_lt.mpr less)

section Rounded
variable {m n : Int64} {x : Binary64}

/-- An integer below another one whose number is below a third is below it as well. -/
theorem compare?_ofInt_lt (mn : m.toInt < n.toInt) (nx : (Binary64.ofInt n.toInt).compare? x = some .lt) :
    (Binary64.ofInt m.toInt).compare? x = some .lt := by
  have kept : (Binary64.ofInt m.toInt).key ≤ (Binary64.ofInt n.toInt).key := Binary64.key_ofInt_le (Int.le_of_lt mn)
  rw [Binary64.compare?_eq_lt_iff] at nx ⊢
  exact ⟨Binary64.isNaN_ofInt _, nx.2.1, kept.trans_lt nx.2.2⟩

theorem compare?_lt_ofInt (xm : x.compare? (Binary64.ofInt m.toInt) = some .lt) (mn : m.toInt < n.toInt) :
    x.compare? (Binary64.ofInt n.toInt) = some .lt := by
  have kept : (Binary64.ofInt m.toInt).key ≤ (Binary64.ofInt n.toInt).key := Binary64.key_ofInt_le (Int.le_of_lt mn)
  rw [Binary64.compare?_eq_lt_iff] at xm ⊢
  exact ⟨xm.1, Binary64.isNaN_ofInt _, xm.2.2.trans_le kept⟩

/-- Integers whose numbers are in order are in order themselves. -/
theorem toInt_lt_of_compare? (h : (Binary64.ofInt m.toInt).compare? (Binary64.ofInt n.toInt) = some .lt) :
    m.toInt < n.toInt := by
  rw [Binary64.compare?_eq_lt_iff] at h
  by_contra swapped
  have kept : (Binary64.ofInt n.toInt).key ≤ (Binary64.ofInt m.toInt).key := Binary64.key_ofInt_le (Int.not_lt.mp swapped)
  exact kept.not_gt h.2.2

end Rounded

theorem Precedes.trans {a b c : Value} (hab : Precedes a b) (hbc : Precedes b c) : Precedes a c := by
  cases hab with
  | null present =>
    refine .null fun absent => ?_
    subst absent
    cases hbc
    contradiction
  -- Two integers are compared exactly and all other numbers after rounding, so that it matters where the integers stand.
  | integers mn =>
    cases hbc with
    | integers np => exact .integers (mn.trans np)
    | integerFloat nx => exact .integerFloat (compare?_ofInt_lt mn nx)
  | floats xy =>
    cases hbc with
    | floats yz => exact .floats (Binary64.compare?_lt_trans xy yz)
    | floatInteger yn => exact .floatInteger (Binary64.compare?_lt_trans xy yn)
  | integerFloat mx =>
    cases hbc with
    | floats xy => exact .integerFloat (Binary64.compare?_lt_trans mx xy)
    | floatInteger xn => exact .integers (toInt_lt_of_compare? (Binary64.compare?_lt_trans mx xn))
  | floatInteger xm =>
    cases hbc with
    | integers mn => exact .floatInteger (compare?_lt_ofInt xm mn)
    | integerFloat my => exact .floats (Binary64.compare?_lt_trans xm my)
  | texts st =>
    cases hbc with
    | texts tu => exact .texts (String.lt_trans st tu)
  | booleans pq =>
    cases hbc with
    | booleans qr => exact .booleans (pq.trans qr)
  | timestamps st =>
    cases hbc with
    | timestamps tu => exact .timestamps (by omega)
  | uuids uv =>
    cases hbc with
    | uuids vw => exact .uuids (uv.trans vw)

/-- Values are strictly and partially ordered: comparisons are reversed the other way round, what comes before is passed
on from value to value, no value comes before itself, and null comes before all others. -/
theorem order_laws (a b c : Value) : b.compare? a = (a.compare? b).map Ordering.swap ∧
    (a.isLess b = true → b.isLess c = true → a.isLess c = true) ∧ a.isLess a = false ∧
    (a ≠ .null → Value.null.isLess a = true) := by
  refine ⟨compare?_swap a b, fun hab hbc => ?_, ?_, fun present => isLess_iff_precedes.mpr (.null present)⟩
  · exact isLess_iff_precedes.mpr ((isLess_iff_precedes.mp hab).trans (isLess_iff_precedes.mp hbc))
  · by_contra before
    rw [Bool.not_eq_false, isLess_eq_true_iff] at before
    have reversed := compare?_swap a a
    rw [before] at reversed
    cases reversed

/-- Integers around 2^53, where rounding sets in, with the number 2^53 in their middle. -/
theorem order_laws_beyond_fraction :
    let a := Value.integer 9007199254740991
    let b := Value.float ⟨0x4340000000000000⟩
    let c := Value.integer 9007199254740994
    a.isLess b = true ∧ b.isLess c = true ∧ a.isLess c = true ∧ Value.null.isLess a = true := by
  intro a b c
  have hab : a.isLess b = true := by decide +kernel
  have hbc : b.isLess c = true := by decide +kernel
  obtain ⟨-, passed, -, least⟩ := order_laws a b c
  exact ⟨hab, hbc, passed hab hbc, least Value.noConfusion⟩

end Value
end Persistence
