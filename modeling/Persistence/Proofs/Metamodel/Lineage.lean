import Mathlib.Data.List.Nodup
import Mathlib.Data.List.Perm.Subperm
import Persistence.Proofs.Metamodel.Steady

/-! Lineages: the ancestors of an entity, each of them initialized, up to one without a parent. An entity has no more
    than one lineage, no entity comes twice in it, and so it is as long as it can be walked with as many steps as there
    are entities. -/

namespace Persistence.Context

variable {ctx old new : Context} {e : Entity} {line : List Entity}

/-- The parents of an entity, all of them initialized, up to the first one that has none. -/
inductive Lineage (ctx : Context) : Entity → List Entity → Prop where
  | root {e : Entity} (parentless : e.parent? = none) : Lineage ctx e []
  | child {e parent : Entity} {name : String} {line : List Entity} (named : e.parent? = some name)
      (found : ctx.entity? name = some parent) (ready : parent.isInitialized = true) (rest : Lineage ctx parent line) :
      Lineage ctx e (parent :: line)

theorem name_of_entity? {name : String} (h : ctx.entity? name = some e) : e.name = name := by
  simpa using List.find?_some h

theorem mem_of_entity? {name : String} (h : ctx.entity? name = some e) : e ∈ ctx.entities :=
  List.mem_of_find?_eq_some h

namespace Lineage

theorem unique {line' : List Entity} (h : ctx.Lineage e line) (h' : ctx.Lineage e line') : line = line' := by
  induction h generalizing line' with
  | root parentless =>
    cases h' with
    | root => rfl
    | child named => cases parentless.symm.trans named
  | child named found _ _ ih =>
    cases h' with
    | root parentless => cases parentless.symm.trans named
    | child named' found' _ rest' =>
      cases named.symm.trans named'
      cases found.symm.trans found'
      rw [ih rest']

/-- A lineage lasts as long as the initialized entities stay as they are. -/
theorem mono (kept : ∀ n x, old.entity? n = some x → x.isInitialized = true → new.entity? n = some x)
    (h : old.Lineage e line) : new.Lineage e line := by
  induction h with
  | root parentless => exact .root parentless
  | child named found ready _ ih => exact .child named (kept _ _ found ready) ready ih

theorem found_of_mem (h : ctx.Lineage e line) : ∀ x ∈ line, ctx.entity? x.name = some x := by
  induction h with
  | root => exact fun x hx => absurd hx List.not_mem_nil
  | child named found _ _ ih =>
    intro x hx
    rcases List.mem_cons.mp hx with rfl | hx
    · rw [name_of_entity? found]
      exact found
    · exact ih x hx

theorem ready_of_mem (h : ctx.Lineage e line) : ∀ x ∈ line, x.isInitialized = true := by
  induction h with
  | root => exact fun x hx => absurd hx List.not_mem_nil
  | child _ _ ready _ ih => exact List.forall_mem_cons.mpr ⟨ready, ih⟩

/-- Every ancestor has a shorter lineage of its own. -/
theorem of_mem (h : ctx.Lineage e line) : ∀ x ∈ line, ∃ line', ctx.Lineage x line' ∧ line'.length < line.length := by
  induction h with
  | root => exact fun x hx => absurd hx List.not_mem_nil
  | child _ _ _ rest ih =>
    intro x hx
    rcases List.mem_cons.mp hx with rfl | hx
    · exact ⟨_, rest, Nat.lt_succ_self _⟩
    · obtain ⟨line', lineage, shorter⟩ := ih x hx
      exact ⟨line', lineage, Nat.lt_succ_of_lt shorter⟩

/-- No entity is an ancestor of itself, so none comes twice among the ancestors of another. -/
theorem nodup (h : ctx.Lineage e line) : line.Nodup := by
  induction h with
  | root => exact List.nodup_nil
  | child _ _ _ rest ih =>
    refine List.nodup_cons.mpr ⟨fun again => ?_, ih⟩
    obtain ⟨line', lineage, shorter⟩ := rest.of_mem _ again
    rw [rest.unique lineage] at shorter
    exact Nat.lt_irrefl _ shorter

theorem length_le (h : ctx.Lineage e line) : line.length ≤ ctx.entities.length :=
  (List.subperm_of_subset h.nodup fun x hx => mem_of_entity? (h.found_of_mem x hx)).length_le

/-- The walk along the parents gives the lineage, however many more steps it may take. -/
theorem lineFrom_eq (h : ctx.Lineage e line) {levels : Nat} (enough : line.length ≤ levels) :
    ctx.lineFrom levels e.parent? = line := by
  induction h generalizing levels with
  | root parentless =>
    rw [parentless]
    cases levels <;> rfl
  | child named found _ _ ih =>
    obtain ⟨levels, rfl⟩ := Nat.exists_eq_add_of_le' (Nat.lt_of_lt_of_le (Nat.succ_pos _) enough)
    rw [named, lineFrom, found]
    exact congrArg _ (ih (by simpa using enough))

theorem ancestors_eq (h : ctx.Lineage e line) : ctx.ancestors e = line := h.lineFrom_eq h.length_le

/-- The last ancestor has no parent, nor has an entity without ancestors. -/
theorem isRoot_getLast? (h : ctx.Lineage e line) : (line.getLast?.getD e).isRoot = true := by
  induction h with
  | root parentless =>
    unfold Entity.isRoot
    rw [List.getLast?_nil, Option.getD_none, parentless]
    rfl
  | @child e parent name line named found ready rest ih =>
    rw [List.getLast?_cons, Option.getD_some]
    exact ih

theorem isRoot_root (h : ctx.Lineage e line) : (ctx.root e).isRoot = true := by
  unfold Context.root
  rw [h.ancestors_eq]
  exact h.isRoot_getLast?

end Lineage
end Persistence.Context
