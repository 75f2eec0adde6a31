import Persistence.Proofs.Metamodel.Building

/-! Trying again after a failed initialization. A failed attempt leaves the entity that it made, with the description
    that it made it with, and the next attempt builds the model of that entity from what the name of the class stands
    for by then. So a second description of the name takes effect where classes are looked up by name, and the first
    one does everywhere else. -/

namespace Persistence

namespace Context

/-- The entity of a class: the one of its name, or else a new one if the class is an entity. -/
def enrolled? (ctx : Context) (cls : Class) : Option Entity :=
  (ctx.entity? cls.name).or (if ctx.strategy.isEntity cls then some { cls } else none)

/-- Two contexts agree in the settings, in the strategy and in what all names of classes but one stand for. -/
structure AgreesBeside (one other : Context) (name : String) : Prop where
  settings : one.settings = other.settings
  strategy : one.strategy = other.strategy
  classes : ∀ n, n ≠ name → one.classes.get? n = other.classes.get? n

variable {one other : Context} {name : String}

theorem AgreesBeside.register (h : one.AgreesBeside other name) (cls : Class) :
    (one.register cls).AgreesBeside (other.register cls) name where
  settings := h.settings
  strategy := h.strategy
  classes n ne := by
    unfold Context.register
    rw [Keyed.get?_put, Keyed.get?_put, h.classes n ne]

/-- Registering a class of the name makes up for what the contexts did not agree in. -/
theorem AgreesBeside.agrees {cls : Class} (h : one.AgreesBeside other cls.name) :
    (one.register cls).Agrees (other.register cls) where
  settings := h.settings
  strategy := h.strategy
  classes n := by
    unfold Context.register
    rw [Keyed.get?_put, Keyed.get?_put]
    split
    · rfl
    next ne => exact h.classes n ne

end Context

namespace Action

variable {σ ρ : Site} {add : String → Action Unit} {name : String} {cls : Class} {e : Entity} {fault : Fault}
  {levels : Nat}

/-! ### One attempt -/

theorem run_enroll (hcls : σ.context.classes.get? cls.name = some cls) : σ.run (enroll cls.name) =
    match σ.context.entity? cls.name with
    | some _ => (.ok (), σ)
    | none =>
      if σ.context.strategy.isEntity cls then (.ok (), { σ with context := σ.context.enroll cls })
      else (.error (.configuration (.notPersistent cls.name)), σ) := by
  have hrequire : σ.context.requireClass cls.name = .ok cls := by
    unfold Context.requireClass
    rw [hcls]
  unfold enroll
  rw [Site.run_bind, run_ask]
  dsimp only
  cases σ.context.entity? cls.name with
  | some e => rfl
  | none =>
    rw [Option.isNone_none, if_pos rfl, Site.run_bind, run_tryAsk, hrequire]
    dsimp only
    rw [Site.run_bind, run_ask]
    dsimp only
    by_cases entity : σ.context.strategy.isEntity cls
    · rw [if_pos entity, if_pos entity]
      rfl
    · rw [if_neg entity, if_neg entity]
      rfl

/-- An entity stays as it is while it is populated, with its phase alone changed. -/
theorem entity?_of_populate {answer : Except Fault EntityModel} (hadd : ∀ name, IsSteady (add name))
    (he : σ.context.entity? name = some e) (h : (populating σ name).run (populate add e.cls) = (answer, ρ)) :
    ρ.context.entity? name = some { e with phase := .populating } := by
  refine ((IsSteady.populate hadd e.cls).of_eq h).busy name { e with phase := .populating } ?_ (by simp)
  unfold populating
  rw [Context.entity?_setPhase, if_pos rfl, he]
  rfl

/-- A failed initialization leaves the entity as it was, and that is without a model. -/
theorem makeReady_eq_error (hadd : ∀ name, IsSteady (add name))
    (h : σ.run (makeReady add name) = (.error fault, ρ)) :
    ρ.context.entity? name = σ.context.entity? name ∧
      ∀ e, σ.context.entity? name = some e → e.isInitialized = false := by
  cases he : σ.context.entity? name with
  | none =>
    rw [run_makeReady_missing add he] at h
    cases h
    exact ⟨he, fun e found => by cases found⟩
  | some e =>
    rw [run_makeReady add he] at h
    cases hphase : e.phase with
    | ready model =>
      rw [hphase] at h
      cases h
    | populating =>
      rw [hphase] at h
      cases h
      refine ⟨he, fun e' found => ?_⟩
      cases found
      simp [Entity.isInitialized, Entity.model?, hphase]
    | idle =>
      rw [hphase] at h
      dsimp only at h
      rcases hrun : (populating σ name).run (populate add e.cls) with ⟨answer, τ⟩
      rw [hrun] at h
      cases answer with
      | ok model => cases h
      | error fault =>
        cases h
        dsimp only
        rw [Context.entity?_setPhase, if_pos rfl, entity?_of_populate hadd he hrun]
        refine ⟨?_, fun e' found => ?_⟩
        · rw [← hphase]
          rfl
        · cases found
          simp [Entity.isInitialized, Entity.model?, hphase]

/-- An initialization that succeeds gives an entity without a model the one that the context builds. -/
theorem makeReady_eq_ok (hadd : ∀ name, IsSteady (add name)) (he : σ.context.entity? name = some e)
    (unready : e.isInitialized = false) (h : σ.run (makeReady add name) = (.ok (), ρ)) :
    ∃ model, model.Built σ.context e.cls ∧ ρ.context.entity? name = some { e with phase := .ready model } := by
  rw [run_makeReady add he] at h
  cases hphase : e.phase with
  | ready model => simp [Entity.isInitialized, Entity.model?, hphase] at unready
  | populating =>
    rw [hphase] at h
    cases h
  | idle =>
    rw [hphase] at h
    dsimp only at h
    rcases hrun : (populating σ name).run (populate add e.cls) with ⟨answer, τ⟩
    rw [hrun] at h
    cases answer with
    | error fault => cases h
    | ok model =>
      cases h
      have agrees : (populating σ name).context.Agrees σ.context := ⟨rfl, rfl, fun _ => rfl⟩
      refine ⟨model, (populate_eq_ok hadd hrun).transport agrees (Nat.le_refl _), ?_⟩
      dsimp only
      rw [Context.entity?_setPhase, if_pos rfl, entity?_of_populate hadd he hrun]
      rfl

/-- The site at which an entity is added once its class is registered. -/
def registered (σ : Site) (cls : Class) : Site := { σ with context := σ.context.register cls }

theorem get?_registered : (registered σ cls).context.classes.get? cls.name = some cls := Keyed.get?_put_self _ _ _

theorem run_add : σ.run (Action.add cls) =
    match (registered σ cls).run (enroll cls.name) with
    | (.error fault, ρ) => (.error fault, ρ)
    | (.ok (), ρ) =>
      match ρ.run (makeReady (addWithin (registered σ cls).context.classes.length) cls.name) with
      | (.error fault, τ) => (.error fault, τ)
      | (.ok (), τ) => (τ.context.requireEntity cls.name, τ) := by
  have hlevels : (registered σ cls).run levels = (.ok ((registered σ cls).context.classes.length + 1), registered σ cls) :=
    rfl
  have first : σ.run (Action.add cls) = (registered σ cls).run (addNamed cls.name) := by
    unfold Action.add
    rw [Site.run_bind, run_change]
    rfl
  rw [first]
  unfold addNamed
  rw [Site.run_bind, hlevels]
  dsimp only
  rw [Site.run_bind]
  unfold addWithin
  rw [Site.run_bind]
  rcases (registered σ cls).run (enroll cls.name) with ⟨answer, ρ⟩
  cases answer with
  | error fault => rfl
  | ok =>
    dsimp only
    rcases ρ.run (makeReady (addWithin (registered σ cls).context.classes.length) cls.name) with ⟨answer, τ⟩
    cases answer with
    | error fault => rfl
    | ok => exact run_tryAsk _

/-- An attempt is refused where the class has no entity and is none; else its entity is made ready, at a site that is
steady from the registration on. -/
theorem add_cases (σ : Site) (cls : Class) :
    (σ.context.enrolled? cls = none ∧
      σ.run (Action.add cls) = (.error (.configuration (.notPersistent cls.name)), registered σ cls)) ∨
    ∃ (e : Entity) (τ : Site), σ.context.enrolled? cls = some e ∧ τ.context.entity? cls.name = some e ∧
      (registered σ cls).context.Steady τ.context ∧ σ.run (Action.add cls) =
        match τ.run (makeReady (addWithin (registered σ cls).context.classes.length) cls.name) with
        | (.error fault, ν) => (.error fault, ν)
        | (.ok (), ν) => (ν.context.requireEntity cls.name, ν) := by
  have henroll : (registered σ cls).run (enroll cls.name) = _ := run_enroll get?_registered
  have hentity : (registered σ cls).context.entity? cls.name = σ.context.entity? cls.name := rfl
  have hstrategy : (registered σ cls).context.strategy = σ.context.strategy := rfl
  rw [hentity, hstrategy] at henroll
  rw [run_add]
  unfold Context.enrolled?
  cases he : σ.context.entity? cls.name with
  | some e =>
    rw [he] at henroll
    rw [henroll]
    exact Or.inr ⟨e, registered σ cls, rfl, he, .refl _, rfl⟩
  | none =>
    rw [he] at henroll
    dsimp only at henroll
    by_cases entity : σ.context.strategy.isEntity cls
    · rw [if_pos entity] at henroll
      rw [henroll, if_pos entity]
      refine Or.inr ⟨_, _, rfl, ?_, .enroll _ _, rfl⟩
      rw [Context.entity?_enroll, hentity, he, if_pos rfl]
      rfl
    · rw [if_neg entity] at henroll
      rw [henroll, if_neg entity]
      exact Or.inl ⟨rfl, rfl⟩

/-- An attempt changes what its own name stands for, and not what any other name does, whether it fails or not. -/
theorem agreesBeside_add (σ : Site) (cls : Class) :
    (σ.run (Action.add cls)).2.context.AgreesBeside σ.context cls.name := by
  have steady : (registered σ cls).context.Steady (σ.run (Action.add cls)).2.context := by
    obtain ⟨-, h⟩ | ⟨e, τ, -, -, enrolled, h⟩ := add_cases σ cls
    · rw [h]
      exact .refl _
    · rw [h]
      rcases hready : τ.run (makeReady (addWithin (registered σ cls).context.classes.length) cls.name) with ⟨answer, ν⟩
      have ready := enrolled.trans ((IsSteady.makeReady (IsSteady.addWithin _) cls.name).of_eq hready)
      cases answer <;> exact ready
  refine ⟨steady.settings, steady.strategy, fun n ne => ?_⟩
  rw [steady.classes]
  exact Keyed.get?_put_of_ne _ _ ne

/-- A failed attempt leaves the entity of the class, as it was or newly made, without a model. -/
theorem add_eq_error (h : σ.run (Action.add cls) = (.error fault, ρ)) :
    ρ.context.entity? cls.name = σ.context.enrolled? cls ∧
      ∀ e, σ.context.enrolled? cls = some e → e.isInitialized = false := by
  obtain ⟨hnone, hrun⟩ | ⟨e, τ, hsome, he, -, hrun⟩ := add_cases σ cls
  · rw [hrun] at h
    cases h
    rw [hnone]
    refine ⟨?_, fun e found => by cases found⟩
    unfold Context.enrolled? at hnone
    exact (Option.or_eq_none_iff.mp hnone).1
  · rw [hrun] at h
    rcases hready : τ.run (makeReady (addWithin (registered σ cls).context.classes.length) cls.name) with ⟨answer, ν⟩
    rw [hready] at h
    cases answer with
    | error fault =>
      cases h
      obtain ⟨kept, unready⟩ := makeReady_eq_error (IsSteady.addWithin _) hready
      rw [he, ← hsome] at kept unready
      exact ⟨kept, unready⟩
    | ok =>
      -- The entity is there by now, so that asking for it cannot be what fails.
      have steady := (IsSteady.makeReady (IsSteady.addWithin _) cls.name).of_eq hready
      obtain ⟨e', he', -⟩ := steady.kept cls.name e he
      dsimp only at h
      unfold Context.requireEntity at h
      rw [he'] at h
      cases h

/-- An attempt that succeeds gives the entity of the class, unless it has its model already, the model that the context
builds for the description that the entity has. -/
theorem add_eq_ok (unready : ∀ e, σ.context.entity? cls.name = some e → e.isInitialized = false)
    (h : σ.run (Action.add cls) = (.ok e, ρ)) :
    ∃ e₀ model, σ.context.enrolled? cls = some e₀ ∧ model.Built (σ.context.register cls) e₀.cls ∧
      e = { e₀ with phase := .ready model } := by
  obtain ⟨-, hrun⟩ | ⟨e₀, τ, hsome, he₀, steady, hrun⟩ := add_cases σ cls
  · rw [hrun] at h
    cases h
  · rw [hrun] at h
    have hunready : e₀.isInitialized = false := by
      unfold Context.enrolled? at hsome
      rcases Option.or_eq_some_iff.mp hsome with found | ⟨-, made⟩
      · exact unready e₀ found
      · split at made
        · cases made
          rfl
        · cases made
    rcases hready : τ.run (makeReady (addWithin (registered σ cls).context.classes.length) cls.name) with ⟨answer, ν⟩
    rw [hready] at h
    cases answer with
    | error fault => cases h
    | ok =>
      obtain ⟨model, hbuilt, he⟩ := makeReady_eq_ok (IsSteady.addWithin _) he₀ hunready hready
      have hsize : τ.context.classes.length ≤ (registered σ cls).context.classes.length :=
        Nat.le_of_eq (congrArg List.length steady.classes)
      dsimp only at h
      unfold Context.requireEntity at h
      rw [he] at h
      cases h
      exact ⟨e₀, model, hsome, hbuilt.transport steady.agrees.symm hsize, rfl⟩

end Action

/-- What a second attempt makes of a name, beside what the same attempt makes of it where the first one never was. They
look the same just if the failed attempt left no entity, or one with a description that is like the second one in
everything but its stamp. -/
theorem Entity.view_retried_iff {σ σ₁ σ₂ σ₃ φ φ' : Site} {first second : Class} {fault : Fault} {retried fresh : Entity}
    (failed : σ.run (Action.add first) = (.error fault, σ₁)) (named : second.name = first.name)
    (left : σ₂.context.entity? first.name = σ₁.context.entity? first.name)
    (retry : σ₂.run (Action.add second) = (.ok retried, σ₃))
    (beside : σ₂.context.AgreesBeside φ.context second.name) (unknown : φ.context.entity? second.name = none)
    (once : φ.run (Action.add second) = (.ok fresh, φ')) :
    retried.view = fresh.view ↔ ∀ e, σ.context.enrolled? first = some e → e.cls.Alike second := by
  obtain ⟨hleft, unready⟩ := Action.add_eq_error failed
  rw [hleft, ← named] at left
  -- The second attempt is about the entity that the failed one left, if there is one.
  obtain ⟨e₀, model, henrolled, hbuilt, rfl⟩ := Action.add_eq_ok (by rwa [left]) retry
  obtain ⟨e₁, model', hfresh, hbuilt', rfl⟩ := Action.add_eq_ok (by rw [unknown]; intro e he; cases he) once
  have hnew : e₁ = { cls := second } := by
    unfold Context.enrolled? at hfresh
    rw [unknown, Option.none_or] at hfresh
    split at hfresh <;> cases hfresh
    rfl
  subst hnew
  constructor
  · intro same e he
    unfold Context.enrolled? at henrolled
    rw [left, he, Option.some_or] at henrolled
    cases henrolled
    exact congrArg EntityView.description same
  · intro alike
    refine EntityModel.Built.view_eq beside.agrees ?_ hbuilt hbuilt'
    unfold Context.enrolled? at henrolled
    rw [left] at henrolled
    cases he : σ.context.enrolled? first with
    | some e =>
      rw [he, Option.some_or] at henrolled
      cases henrolled
      exact alike _ he
    | none =>
      rw [he, Option.none_or] at henrolled
      split at henrolled <;> cases henrolled
      rfl

/-- A class that failed while its superclass was missing is built after it as if it had never failed. -/
theorem Entity.view_retried_orphan :
    let orphan : Class :=
      { stamp := 1, name := "A", superclass := some "P", isEntity := true, fields := [{ name := "id", type := .long }] }
    let parent : Class := { stamp := 2, name := "P" }
    ∃ (fault : Fault) (again fresh : Entity) (σ₁ σ₃ φ' : Site), Site.run {} (Action.add orphan) = (.error fault, σ₁) ∧
      (Action.registered σ₁ parent).run (Action.add orphan) = (.ok again, σ₃) ∧
      (Action.registered {} parent).run (Action.add orphan) = (.ok fresh, φ') ∧ again.view = fresh.view := by
  intro orphan parent
  obtain ⟨σ₁, hσ₁⟩ : ∃ σ₁, (Site.run {} (Action.add orphan)).2 = σ₁ := ⟨_, rfl⟩
  obtain ⟨fault, failed⟩ := Site.run_of_not_isOk (show (Site.run {} (Action.add orphan)).1.isOk = false by decide)
  have again : ((Action.registered (Site.run {} (Action.add orphan)).2 parent).run (Action.add orphan)).1.isOk = true := by
    decide
  have beside : (Action.registered (Site.run {} (Action.add orphan)).2 parent).context.AgreesBeside
      (Action.registered {} parent).context orphan.name := (Action.agreesBeside_add {} orphan).register parent
  rw [hσ₁] at failed again beside
  obtain ⟨retried, hretried⟩ := Site.run_of_isOk again
  obtain ⟨fresh, hfresh⟩ := Site.run_of_isOk
    (show ((Action.registered {} parent).run (Action.add orphan)).1.isOk = true by decide)
  refine ⟨fault, retried, fresh, σ₁, _, _, failed, hretried, hfresh, ?_⟩
  have left : (Action.registered σ₁ parent).context.entity? orphan.name = σ₁.context.entity? orphan.name := rfl
  have unknown : (Action.registered {} parent).context.entity? orphan.name = none := rfl
  have same := view_retried_iff failed rfl left hretried beside unknown hfresh
  refine same.mpr ?_
  intro e he
  cases he
  rfl

/-- A class that failed for want of an identity keeps what it said of its owners, whatever is said later. -/
theorem Entity.not_view_retried : ¬∀ (σ σ₁ σ₃ φ φ' : Site) (first second : Class) (cause : ConfigurationFault)
    (retried fresh : Entity), σ.run (Action.add first) = (.error (.configuration cause), σ₁) →
    second.name = first.name → σ₁.run (Action.add second) = (.ok retried, σ₃) →
    σ₁.context.AgreesBeside φ.context second.name → φ.context.entity? second.name = none →
    φ.run (Action.add second) = (.ok fresh, φ') → retried.view = fresh.view := by
  intro claim
  let first : Class := { stamp := 1, name := "A", isEntity := true, fields := [{ name := "title", type := .text }] }
  let second : Class :=
    { stamp := 2, name := "A", isEntity := true, fields := [{ name := "id", type := .long }], owners := ["B"] }
  obtain ⟨σ₁, hσ₁⟩ : ∃ σ₁, (Site.run {} (Action.add first)).2 = σ₁ := ⟨_, rfl⟩
  have failed : Site.run {} (Action.add first) =
      (.error (.configuration (.identifierMissing "A" "id")), (Site.run {} (Action.add first)).2) := rfl
  have again : ((Site.run {} (Action.add first)).2.run (Action.add second)).1.isOk = true := by decide
  have ownerless :
      ((Site.run {} (Action.add first)).2.run (Action.add second)).1.toOption.map Entity.owners = some [] := by
    decide
  have owned : (Site.run {} (Action.add second)).1.toOption.map Entity.owners = some ["B"] := by decide
  have beside := Action.agreesBeside_add {} first
  rw [hσ₁] at failed again ownerless beside
  obtain ⟨retried, hretried⟩ := Site.run_of_isOk again
  obtain ⟨fresh, hfresh⟩ := Site.run_of_isOk (show (Site.run {} (Action.add second)).1.isOk = true by decide)
  have same := claim {} σ₁ _ {} _ first second _ retried fresh failed rfl hretried beside rfl hfresh
  have hnone : retried.owners = [] := by
    rw [hretried] at ownerless
    exact Option.some.inj ownerless
  have howned : fresh.owners = ["B"] := by
    rw [hfresh] at owned
    exact Option.some.inj owned
  have contradiction : retried.owners = fresh.owners := congrArg EntityView.owners same
  rw [hnone, howned] at contradiction
  cases contradiction

end Persistence
