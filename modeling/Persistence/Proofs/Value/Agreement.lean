import Persistence.Proofs.Value.Likeness
import Persistence.Proofs.Value.Precedence

/-! Where order and likeness agree. Values have the same place in the order just if they are alike, except for numbers
    that are near without being equal, for those that are none, for the infinities, and for lists and maps, which have
    no place at all. -/

namespace Persistence

theorem Instant.compare_eq_eq_iff {s t : Instant} : s.compare t = .eq ↔ s = t := by
  cases s
  cases t
  rw [compare, Ordering.then_eq_eq, compare_eq_iff_eq, compare_eq_iff_eq, Instant.mk.injEq]

theorem Uuid.number_eq_iff {u v : Uuid} : u.number.val = v.number.val ↔ u = v := by
  cases u
  cases v
  rw [Fin.val_inj, Uuid.mk.injEq]

namespace Value

theorem compareTexts_eq_eq_iff {s t : String} : compareTexts s t = .eq ↔ s = t := by
  unfold compareTexts
  split
  next less => simp [show s ≠ t from fun same => String.lt_irrefl s (same ▸ less)]
  next => split <;> simp [*]

theorem compareBooleans_eq_eq_iff {p q : Bool} : compareBooleans p q = .eq ↔ p = q := by
  cases p <;> cases q <;> decide

/-- Order and likeness disagree about two values: numbers about which they clash, or lists or maps that are alike. -/
def clashes : Value → Value → Bool
  | .float x, .float y => x.clashes y
  | .integer n, .float x => (Binary64.ofInt n.toInt).clashes x
  | .float x, .integer n => x.clashes (Binary64.ofInt n.toInt)
  | .list xs, .list ys => alikeItems xs ys
  | .map xs, .map ys => alikeEntries xs ys
  | _, _ => false

/-- Values have the same place in the order just if they are alike, unless the two clash. -/
theorem order_agrees_iff (a b : Value) :
    (a.compare? b = some .eq ↔ a.alike b = true) ↔ a.clashes b = false := by
  cases a with
  | null => cases b <;> simp [compare?, alike, clashes]
  | integer m =>
    cases b with
    | integer n => simp [compare?, alike, clashes, Int64.toInt_inj]
    | float x => simpa only [compare?, alike_integer_float, clashes] using Binary64.compare?_iff_isNear_iff _ x
    | _ => simp [compare?, alike, clashes]
  | float x =>
    cases b with
    | integer n => simpa only [compare?, alike_float_integer, clashes] using Binary64.compare?_iff_isNear_iff x _
    | float y => simpa only [compare?, alike, clashes] using Binary64.compare?_iff_isNear_iff x y
    | _ => simp [compare?, alike, clashes]
  | text s => cases b <;> simp [compare?, alike, clashes, compareTexts_eq_eq_iff]
  | boolean p => cases b <;> simp [compare?, alike, clashes, compareBooleans_eq_eq_iff]
  | timestamp s => cases b <;> simp [compare?, alike, clashes, Instant.compare_eq_eq_iff]
  | uuid u => cases b <;> simp [compare?, alike, clashes, Uuid.number_eq_iff]
  | list xs => cases b <;> simp [compare?, alike, clashes]
  | map xs => cases b <;> simp [compare?, alike, clashes]

/-- The sum of a tenth and two tenths is like three tenths and comes after it all the same. -/
theorem not_order_agrees : ¬ ∀ a b : Value, a.compare? b = some .eq ↔ a.alike b = true := by
  intro agree
  have same := (agree (.float ⟨0x3fd3333333333334⟩) (.float ⟨0x3fd3333333333333⟩)).mpr (by decide +kernel)
  exact absurd same (by decide +kernel)

end Value
end Persistence
