import Persistence.Proofs.Number.Nearness
import Persistence.Value.Order

/-! The laws of likeness. It is symmetric throughout; a value is like itself unless there is an infinity in it; and what
    is like a third value is like one another unless, at some place of the two, numbers have drifted apart: integers
    that are near to the same number without being equal, or numbers whose exact values differ by the tolerance. -/

namespace Persistence.Value

/-! ### Numbers -/

@[simp]
theorem alike_integer_float (n : Int64) (x : Binary64) :
    alike (.integer n) (.float x) = (Binary64.ofInt n.toInt).isNear x := by
  rw [alike, Binary64.isLess_sub_epsilon, Binary64.isNear_of_isFinite (Binary64.isFinite_ofInt n)]

@[simp]
theorem alike_float_integer (x : Binary64) (n : Int64) :
    alike (.float x) (.integer n) = x.isNear (Binary64.ofInt n.toInt) := by
  rw [alike, Binary64.isLess_sub_epsilon, Binary64.isNear_comm, Binary64.isNear_of_isFinite (Binary64.isFinite_ofInt n)]

/-- What a number is like is a number, and the nearest numbers of the two are near. -/
theorem exists_near_of_alike {a b : Value} {x : Binary64} (number : a.asFloat? = some x) (h : a.alike b = true) :
    ∃ y, b.asFloat? = some y ∧ x.isNear y = true := by
  cases a with
  | integer m =>
    cases number
    cases b with
    | integer n =>
      rw [alike, beq_iff_eq] at h
      refine ⟨_, rfl, ?_⟩
      rw [h, Binary64.isNear_of_isFinite (Binary64.isFinite_ofInt n), Binary64.isClose_self, Binary64.isFinite_ofInt]
    | float y => exact ⟨y, rfl, by rwa [alike_integer_float] at h⟩
    | _ => cases h
  | float x =>
    cases number
    cases b with
    | integer n => exact ⟨_, rfl, by rwa [alike_float_integer] at h⟩
    | float y => exact ⟨y, rfl, h⟩
    | _ => cases h
  | _ => cases number

/-! ### Definite values -/

/-- The values of some kinds are like themselves only. -/
def isDefinite : Value → Bool
  | .null | .text _ | .boolean _ | .timestamp _ | .uuid _ => true
  | _ => false

theorem eq_of_alike {a b : Value} (definite : a.isDefinite = true) (h : a.alike b = true) : a = b := by
  cases a with
  | integer _ | float _ | list _ | map _ => cases definite
  | _ => cases b <;> simp_all [alike]

/-! ### Symmetry -/

mutual

theorem alike_comm : ∀ a b : Value, a.alike b = b.alike a
  | .null, b => by cases b <;> rfl
  | .integer m, b => by
    cases b with
    | integer n => rw [alike, alike, BEq.comm]
    | _ => rfl
  | .float x, b => by
    cases b with
    | float y => exact Binary64.isNear_comm x y
    | _ => rfl
  | .text s, b => by
    cases b with
    | text t => rw [alike, alike, BEq.comm]
    | _ => rfl
  | .boolean p, b => by
    cases b with
    | boolean q => rw [alike, alike, BEq.comm]
    | _ => rfl
  | .timestamp s, b => by
    cases b with
    | timestamp t => rw [alike, alike, BEq.comm]
    | _ => rfl
  | .uuid u, b => by
    cases b with
    | uuid v => rw [alike, alike, BEq.comm]
    | _ => rfl
  | .list xs, b => by
    cases b with
    | list ys => rw [alike, alike, alikeItems_comm xs ys]
    | _ => rfl
  | .map xs, b => by
    cases b with
    | map ys => rw [alike, alike, alikeEntries_comm xs ys]
    | _ => rfl

theorem alikeItems_comm : ∀ xs ys : List Value, alikeItems xs ys = alikeItems ys xs
  | [], ys => by cases ys <;> rfl
  | x :: xs, ys => by
    cases ys with
    | nil => rfl
    | cons y ys => rw [alikeItems, alikeItems, alike_comm x y, alikeItems_comm xs ys]

theorem alikeEntries_comm : ∀ xs ys : List (String × Value), alikeEntries xs ys = alikeEntries ys xs
  | [], ys => by cases ys <;> rfl
  | (k, x) :: xs, ys => by
    cases ys with
    | nil => rfl
    | cons entry ys => rw [alikeEntries, alikeEntries, alike_comm x entry.2, alikeEntries_comm xs ys, BEq.comm]

end

/-! ### Reflexivity -/

mutual

/-- There is no infinity anywhere in the value. -/
def isBounded : Value → Bool
  | .float x => !x.isInfinite
  | .list items => areBounded items
  | .map entries => holdBounded entries
  | _ => true

def areBounded : List Value → Bool
  | [] => true
  | item :: rest => item.isBounded && areBounded rest

def holdBounded : List (String × Value) → Bool
  | [] => true
  | (_, item) :: rest => item.isBounded && holdBounded rest

end

mutual

theorem alike_self : ∀ a : Value, a.alike a = a.isBounded
  | .null => rfl
  | .integer n => by simp [alike, isBounded]
  | .float x => Binary64.isNear_self x
  | .text s => by simp [alike, isBounded]
  | .boolean p => by simp [alike, isBounded]
  | .timestamp t => by simp [alike, isBounded]
  | .uuid u => by simp [alike, isBounded]
  | .list items => by rw [alike, isBounded, alikeItems_self items]
  | .map entries => by rw [alike, isBounded, alikeEntries_self entries]

theorem alikeItems_self : ∀ items : List Value, alikeItems items items = areBounded items
  | [] => rfl
  | item :: rest => by rw [alikeItems, areBounded, alike_self item, alikeItems_self rest]

theorem alikeEntries_self : ∀ entries : List (String × Value), alikeEntries entries entries = holdBounded entries
  | [] => rfl
  | (name, item) :: rest => by
    rw [alikeEntries, holdBounded, alike_self item, alikeEntries_self rest, beq_self_eq_true, Bool.true_and]

end

/-! ### Transitivity -/

mutual

/-- At some place of the two values stand different integers, or numbers that are apart. -/
def drifts : Value → Value → Bool
  | .integer m, .integer n => m != n
  | .float x, .float y => x.isApart y
  | .integer n, .float x => (Binary64.ofInt n.toInt).isApart x
  | .float x, .integer n => x.isApart (Binary64.ofInt n.toInt)
  | .list xs, .list ys => driftItems xs ys
  | .map xs, .map ys => driftEntries xs ys
  | _, _ => false

def driftItems : List Value → List Value → Bool
  | x :: xs, y :: ys => drifts x y || driftItems xs ys
  | _, _ => false

def driftEntries : List (String × Value) → List (String × Value) → Bool
  | (_, x) :: xs, (_, y) :: ys => drifts x y || driftEntries xs ys
  | _, _ => false

end

theorem alike_of_alike_definite {a b c : Value} (definite : a.isDefinite = true) (hab : a.alike b = true)
    (hbc : b.alike c = true) : a.alike c = !a.drifts c := by
  obtain rfl := eq_of_alike definite hab
  obtain rfl := eq_of_alike definite hbc
  rw [hbc]
  cases a with
  | integer _ | float _ | list _ | map _ => cases definite
  | _ => rfl

/-- Numbers that are like a third one are alike unless they have drifted apart. -/
theorem alike_of_alike_number {a b c : Value} {x : Binary64} (number : a.asFloat? = some x) (hab : a.alike b = true)
    (hbc : b.alike c = true) : a.alike c = !a.drifts c := by
  obtain ⟨y, hy, xy⟩ := exists_near_of_alike number hab
  obtain ⟨z, hz, yz⟩ := exists_near_of_alike hy hbc
  have near : x.isNear z = !x.isApart z := Binary64.isNear_of_near xy yz
  cases a with
  | integer m =>
    cases number
    cases c with
    | integer n => rw [alike, drifts, bne, Bool.not_not]
    | float z' => cases hz; rw [alike_integer_float, drifts, near]
    | _ => cases hz
  | float x' =>
    cases number
    cases c with
    | integer n => cases hz; rw [alike_float_integer, drifts, near]
    | float z' => cases hz; rw [alike, drifts, near]
    | _ => cases hz
  | _ => cases number

mutual

theorem alike_of_alike : ∀ {a b c : Value}, a.alike b = true → b.alike c = true → a.alike c = !a.drifts c
  | .null, _, _, hab, hbc => alike_of_alike_definite rfl hab hbc
  | .integer _, _, _, hab, hbc => alike_of_alike_number rfl hab hbc
  | .float _, _, _, hab, hbc => alike_of_alike_number rfl hab hbc
  | .text _, _, _, hab, hbc => alike_of_alike_definite rfl hab hbc
  | .boolean _, _, _, hab, hbc => alike_of_alike_definite rfl hab hbc
  | .timestamp _, _, _, hab, hbc => alike_of_alike_definite rfl hab hbc
  | .uuid _, _, _, hab, hbc => alike_of_alike_definite rfl hab hbc
  | .list xs, b, c, hab, hbc => by
    cases b with
    | list ys =>
      cases c with
      | list zs => exact alikeItems_of_alike hab hbc
      | _ => cases hbc
    | _ => cases hab
  | .map xs, b, c, hab, hbc => by
    cases b with
    | map ys =>
      cases c with
      | map zs => exact alikeEntries_of_alike hab hbc
      | _ => cases hbc
    | _ => cases hab

theorem alikeItems_of_alike : ∀ {xs ys zs : List Value}, alikeItems xs ys = true → alikeItems ys zs = true →
    alikeItems xs zs = !driftItems xs zs
  | [], [], [], _, _ => rfl
  | x :: xs, y :: ys, z :: zs, hxy, hyz => by
    rw [alikeItems, Bool.and_eq_true] at hxy hyz
    rw [alikeItems, driftItems, alike_of_alike hxy.1 hyz.1, alikeItems_of_alike hxy.2 hyz.2, Bool.not_or]

theorem alikeEntries_of_alike : ∀ {xs ys zs : List (String × Value)}, alikeEntries xs ys = true →
    alikeEntries ys zs = true → alikeEntries xs zs = !driftEntries xs zs
  | [], [], [], _, _ => rfl
  | (k, x) :: xs, (l, y) :: ys, (m, z) :: zs, hxy, hyz => by
    rw [alikeEntries, Bool.and_eq_true, Bool.and_eq_true, beq_iff_eq] at hxy hyz
    rw [alikeEntries, driftEntries, alike_of_alike hxy.1.2 hyz.1.2, alikeEntries_of_alike hxy.2 hyz.2, Bool.not_or,
      hxy.1.1, hyz.1.1, beq_self_eq_true, Bool.true_and]

end

/-! ### Equivalence -/

/-- A value is like itself just if there is no infinity in it, likeness goes both ways, and values that are like a third
one are alike just if no numbers in them have drifted apart. -/
theorem alike_laws (a b c : Value) : (a.alike a = true ↔ a.isBounded = true) ∧ a.alike b = b.alike a ∧
    (a.alike b = true → b.alike c = true → (a.alike c = true ↔ a.drifts c = false)) := by
  refine ⟨by rw [alike_self], alike_comm a b, fun hab hbc => ?_⟩
  rw [alike_of_alike hab hbc, Bool.not_eq_true']

/-- The integers 2^53 and 2^53 + 1 are both like the number 2^53, but not like each other. -/
theorem alike_laws_beyond_fraction :
    let a := Value.list [.integer 9007199254740992]
    let b := Value.list [.float ⟨0x4340000000000000⟩]
    let c := Value.list [.integer 9007199254740993]
    a.alike b = true ∧ b.alike c = true ∧ a.drifts c = true ∧ ¬ a.alike c = true := by
  intro a b c
  have hab : a.alike b = true := by decide +kernel
  have hbc : b.alike c = true := by decide +kernel
  have drifted : a.drifts c = true := by decide +kernel
  refine ⟨hab, hbc, drifted, fun hac => ?_⟩
  have steady := ((alike_laws a b c).2.2 hab hbc).mp hac
  rw [drifted] at steady
  cases steady

/-- Likeness is no equivalence: an infinity is not like itself. -/
theorem not_equivalence_alike : ¬ Equivalence fun a b : Value => a.alike b = true := by
  intro equivalence
  have same : (Value.float (Binary64.infinity false)).alike (.float (Binary64.infinity false)) = true := equivalence.refl _
  rw [alike_self] at same
  exact absurd same (by decide +kernel)

end Persistence.Value
