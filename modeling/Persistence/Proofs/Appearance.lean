import Mathlib.Data.List.Basic

/-! Lists that take each element once, in the order of its first appearance. Adding one list to another is associative,
    and of what is there already it adds nothing. -/

namespace Persistence

variable {α : Type} [BEq α] [LawfulBEq α] {x y : α} {seen more : List α}

/-- Adds an element to a list that does not have it yet. -/
def addOnce (seen : List α) (x : α) : List α := if seen.contains x then seen else seen ++ [x]

theorem addOnce_of_mem (h : x ∈ seen) : addOnce seen x = seen := if_pos (List.contains_iff_mem.mpr h)

theorem addOnce_of_not_mem (h : x ∉ seen) : addOnce seen x = seen ++ [x] :=
  if_neg fun mem => h (List.contains_iff_mem.mp mem)

theorem mem_addOnce : x ∈ addOnce seen y ↔ x ∈ seen ∨ x = y := by
  by_cases h : y ∈ seen
  · rw [addOnce_of_mem h]
    exact ⟨Or.inl, fun mem => mem.elim id fun same => same ▸ h⟩
  · rw [addOnce_of_not_mem h, List.mem_append, List.mem_singleton]

theorem nodup_addOnce (h : seen.Nodup) : (addOnce seen x).Nodup := by
  by_cases mem : x ∈ seen
  · rwa [addOnce_of_mem mem]
  · rw [addOnce_of_not_mem mem]
    refine List.nodup_append.mpr ⟨h, List.pairwise_singleton _ x, ?_⟩
    rintro y hy z hz rfl
    exact mem (List.mem_singleton.mp hz ▸ hy)

theorem mem_foldl_addOnce : x ∈ more.foldl addOnce seen ↔ x ∈ seen ∨ x ∈ more := by
  induction more generalizing seen with
  | nil => simp
  | cons y rest ih => rw [List.foldl_cons, ih, mem_addOnce, List.mem_cons, or_assoc]

theorem nodup_foldl_addOnce (h : seen.Nodup) : (more.foldl addOnce seen).Nodup := by
  induction more generalizing seen with
  | nil => exact h
  | cons y rest ih => exact ih (nodup_addOnce h)

theorem foldl_addOnce_of_subset (h : more ⊆ seen) : more.foldl addOnce seen = seen := by
  induction more with
  | nil => rfl
  | cons y rest ih =>
    obtain ⟨first, others⟩ := List.cons_subset.mp h
    rw [List.foldl_cons, addOnce_of_mem first, ih others]

/-- It does not matter to which of two lists a third one is added first. -/
theorem foldl_addOnce_assoc (first middle last : List α) :
    last.foldl addOnce (middle.foldl addOnce first) = (last.foldl addOnce middle).foldl addOnce first := by
  induction last generalizing middle with
  | nil => rfl
  | cons x rest ih =>
    have next : addOnce (middle.foldl addOnce first) x = (addOnce middle x).foldl addOnce first := by
      by_cases h : x ∈ middle
      · rw [addOnce_of_mem h, addOnce_of_mem (mem_foldl_addOnce.mpr (Or.inr h))]
      · rw [addOnce_of_not_mem h, List.foldl_append]
        rfl
    rw [List.foldl_cons, List.foldl_cons, next, ih]

theorem addOnce_eraseDups (seen : List α) (x : α) : addOnce seen.eraseDups x = (seen ++ [x]).eraseDups := by
  rw [List.eraseDups_append]
  by_cases h : x ∈ seen <;> simp [addOnce, List.removeAll, List.eraseDups_cons, h]

/-- Each once, in the order in which they came. -/
theorem foldl_addOnce_eraseDups (seen more : List α) :
    more.foldl addOnce seen.eraseDups = (seen ++ more).eraseDups := by
  induction more generalizing seen with
  | nil => rw [List.append_nil, List.foldl_nil]
  | cons x rest ih => rw [List.foldl_cons, addOnce_eraseDups, ih, List.append_assoc, List.singleton_append]

end Persistence
