import Persistence.Proofs.Metamodel.Lineage

/-! What the registration and initialization of entities keep of a context. In a sound context every entity is
    registered once, for a class that is known, and has a lineage. A context grows when idle entities come to the end
    of the order and idle ones are initialized; whatever is marked as being populated was so before. -/

namespace Persistence.Context

variable {ctx old mid new : Context} {name n : String} {cls : Class} {e : Entity} {phase : Phase}

theorem map_cls_setPhase (ctx : Context) (name : String) (phase : Phase) :
    (ctx.setPhase name phase).entities.map (·.cls) = ctx.entities.map (·.cls) := by
  unfold setPhase
  rw [List.map_map]
  refine List.map_congr_left fun e _ => ?_
  rw [Function.comp_apply]
  split <;> rfl

/-- Every entity is registered once, its class is known, and it has a lineage. -/
structure Sound (ctx : Context) : Prop where
  distinct : (ctx.entities.map (·.name)).Nodup
  keyed : ∀ n cls, ctx.classes.get? n = some cls → cls.name = n
  known : ∀ e ∈ ctx.entities, (ctx.classes.get? e.name).isSome = true
  descended : ∀ e ∈ ctx.entities, ∃ line, ctx.Lineage e line

/-- What becomes of a context while entities are added to it. -/
structure Grown (old new : Context) : Prop extends Steady old new where
  order : old.entities.map (·.cls) <+: new.entities.map (·.cls)
  marked : ∀ n e, new.entity? n = some e → e.phase = .populating → old.entity? n = some e

namespace Grown

theorem refl (ctx : Context) : Grown ctx ctx where
  toSteady := .refl ctx
  order := List.prefix_rfl
  marked _ _ he _ := he

theorem trans (h₁ : Grown old mid) (h₂ : Grown mid new) : Grown old new where
  toSteady := h₁.toSteady.trans h₂.toSteady
  order := h₁.order.trans h₂.order
  marked n e he hphase := h₁.marked n e (h₂.marked n e he hphase) hphase

/-- An entity that has its model keeps it. -/
theorem ready (h : Grown old new) (he : old.entity? n = some e) (hready : e.isInitialized = true) :
    new.entity? n = some e := by
  refine h.busy n e he ?_
  intro idle
  simp [Entity.isInitialized, Entity.model?, idle] at hready

theorem enroll (ctx : Context) (cls : Class) : Grown ctx (ctx.enroll cls) where
  toSteady := .enroll ctx cls
  order := ⟨[cls], by unfold Context.enroll; rw [List.map_append]; rfl⟩
  marked n e he hphase := by
    rw [entity?_enroll] at he
    cases hn : ctx.entity? n with
    | some x =>
      rw [hn, Option.some_or] at he
      exact he
    | none =>
      rw [hn, Option.none_or] at he
      split at he <;> cases he
      cases hphase

/-- The entity that is being populated has not changed otherwise. -/
theorem entity?_populated (h : (old.setPhase name .populating).Grown new) (he : old.entity? name = some e) :
    new.entity? name = some { e with phase := .populating } := by
  refine h.busy name _ ?_ (by simp)
  rw [entity?_setPhase, if_pos rfl, he]
  rfl

/-- All in all an entity that was idle has left that phase or come back to it. -/
theorem setPhase (h : (old.setPhase name .populating).Grown new)
    (idle : ∀ e, old.entity? name = some e → e.phase = .idle) (settled : phase ≠ .populating) :
    old.Grown (new.setPhase name phase) where
  toSteady := (((Steady.refl old).setPhase idle .populating).trans h.toSteady).setPhase idle phase
  order := by
    have order := h.order
    rw [map_cls_setPhase] at order ⊢
    exact order
  marked n x hx hphase := by
    rw [entity?_setPhase] at hx
    split at hx
    · obtain ⟨e, -, rfl⟩ := Option.map_eq_some_iff.mp hx
      exact absurd hphase settled
    next other =>
      have marked := h.marked n x hx hphase
      rw [entity?_setPhase, if_neg other] at marked
      exact marked

end Grown

/-! ### Entities by name -/

theorem entity?_of_mem (distinct : (ctx.entities.map (·.name)).Nodup) (he : e ∈ ctx.entities) :
    ctx.entity? e.name = some e := by
  have found : (ctx.entity? e.name).isSome = true := List.find?_isSome.mpr ⟨e, he, beq_self_eq_true _⟩
  obtain ⟨x, hx⟩ := Option.isSome_iff_exists.mp found
  rw [hx, List.inj_on_of_nodup_map distinct (mem_of_entity? hx) he (name_of_entity? hx)]

theorem isInitialized_of_idle (h : e.phase = .idle) : e.isInitialized = false := by
  simp [Entity.isInitialized, Entity.model?, h]

/-- The entities after a phase was set are the ones before, the named one with its new phase. -/
theorem mem_setPhase {x : Entity} : x ∈ (ctx.setPhase name phase).entities ↔
    ∃ e ∈ ctx.entities, (if e.name == name then { e with phase } else e) = x := List.mem_map

/-! ### Steps -/

/-- A class is registered under its own name. -/
theorem keyed_register (keyed : ∀ n cls, ctx.classes.get? n = some cls → cls.name = n) (cls : Class) :
    ∀ n found, (ctx.register cls).classes.get? n = some found → found.name = n := by
  intro n found hfound
  unfold Context.register at hfound
  rw [Keyed.get?_put] at hfound
  split at hfound
  next same =>
    cases hfound
    exact same.symm
  · exact keyed n found hfound

/-- Registering a class touches no entity. -/
theorem Sound.register (h : ctx.Sound) (cls : Class) : (ctx.register cls).Sound where
  distinct := h.distinct
  keyed := keyed_register h.keyed cls
  known e he := by
    unfold Context.register
    rw [Keyed.get?_put]
    split
    · rfl
    · exact h.known e he
  descended e he := by
    obtain ⟨line, lineage⟩ := h.descended e he
    have kept : ∀ n x, ctx.entity? n = some x → x.isInitialized = true → (ctx.register cls).entity? n = some x :=
      fun _ _ hx _ => hx
    exact ⟨line, lineage.mono kept⟩

theorem Sound.enroll (h : ctx.Sound) (known : ctx.classes.get? cls.name = some cls)
    (fresh : ctx.entity? cls.name = none) : (ctx.enroll cls).Sound where
  distinct := by
    unfold Context.enroll
    rw [List.map_append, List.nodup_append]
    refine ⟨h.distinct, List.nodup_singleton _, ?_⟩
    intro n hn n' hn' same
    obtain ⟨e, he, rfl⟩ := List.mem_map.mp hn
    obtain rfl := List.mem_singleton.mp hn'
    have found := entity?_of_mem h.distinct he
    rw [same] at found
    cases fresh.symm.trans found
  keyed := h.keyed
  known e he := by
    rcases List.mem_append.mp he with he | he
    · exact h.known e he
    · obtain rfl := List.mem_singleton.mp he
      exact Option.isSome_iff_exists.mpr ⟨cls, known⟩
  descended e he := by
    rcases List.mem_append.mp he with he | he
    · obtain ⟨line, lineage⟩ := h.descended e he
      exact ⟨line, lineage.mono fun n x hx hready => (Grown.enroll ctx cls).ready hx hready⟩
    · obtain rfl := List.mem_singleton.mp he
      exact ⟨[], .root rfl⟩

/-- The phase of an entity without a model may be set; if it gets one, the parent has its model already. -/
theorem Sound.setPhase (h : ctx.Sound) (unready : ∀ e, ctx.entity? name = some e → e.isInitialized = false)
    (parented : ∀ model p, phase = .ready model → model.parent = some p →
      ∃ parent, ctx.entity? p = some parent ∧ parent.isInitialized = true) : (ctx.setPhase name phase).Sound := by
  have kept : ∀ n x, ctx.entity? n = some x → x.isInitialized = true → (ctx.setPhase name phase).entity? n = some x := by
    intro n x hx hready
    rw [entity?_setPhase, if_neg, hx]
    rintro rfl
    rw [unready x hx] at hready
    cases hready
  have names : ∀ e : Entity, (if e.name == name then { e with phase } else e).name = e.name := by
    intro e
    split <;> rfl
  refine ⟨?_, h.keyed, ?_, ?_⟩
  · unfold Context.setPhase
    rw [List.map_map]
    exact (List.map_congr_left fun e _ => names e) ▸ h.distinct
  · intro x hx
    obtain ⟨e, he, rfl⟩ := mem_setPhase.mp hx
    rw [names]
    exact h.known e he
  · intro x hx
    obtain ⟨e, he, rfl⟩ := mem_setPhase.mp hx
    split
    · -- The entity whose phase is set: a new model has a parent with a lineage, any other phase has no parent.
      cases hphase : phase with
      | idle => exact ⟨[], .root rfl⟩
      | populating => exact ⟨[], .root rfl⟩
      | ready model =>
        cases hparent : model.parent with
        | none => exact ⟨[], .root hparent⟩
        | some p =>
          obtain ⟨parent, found, hready⟩ := parented model p hphase hparent
          obtain ⟨line, lineage⟩ := h.descended parent (mem_of_entity? found)
          rw [← hphase]
          exact ⟨parent :: line, .child (hphase ▸ hparent) (kept p parent found hready) hready (lineage.mono kept)⟩
    · obtain ⟨line, lineage⟩ := h.descended e he
      exact ⟨line, lineage.mono kept⟩

/-- A phase without a model asks for no parent. -/
theorem Sound.setModelless (h : ctx.Sound) (unready : ∀ e, ctx.entity? name = some e → e.isInitialized = false)
    (modelless : ∀ model, phase ≠ .ready model) : (ctx.setPhase name phase).Sound :=
  h.setPhase unready fun model _ built => absurd built (modelless model)

end Persistence.Context
