import Persistence.Proofs.Metamodel.Growth
import Persistence.Proofs.Metamodel.Retry
import Persistence.Proofs.Metamodel.Search

/-! Initialization within initialization. Whatever a search adds on the way, and whether it succeeds or not, a sound
    context grows and stays sound; an entity that is made ready has its model, and the parent that the model names has
    had its own model before. -/

namespace Persistence

/-- From a sound context to one that has grown from it and is sound again. -/
def Context.Evolves (old new : Context) : Prop := old.Sound → new.Sound ∧ old.Grown new

instance : IsPreorder Context Context.Evolves where
  refl ctx sound := ⟨sound, .refl ctx⟩
  trans old mid new h₁ h₂ sound := by
    obtain ⟨between, grown⟩ := h₁ sound
    obtain ⟨after, further⟩ := h₂ between
    exact ⟨after, grown.trans further⟩

namespace Action

variable {α : Type} {σ ρ τ : Site} {look : Look} {add : String → Action Unit} {cls : Class} {name : String}

/-- A way to add entities under which contexts evolve, and which gives every entity that it adds its model. -/
structure Adds (add : String → Action Unit) : Prop where
  evolves : ∀ name, Keeps Context.Evolves (add name)
  readies : ∀ {σ τ : Site} {name : String}, σ.context.Sound → σ.run (add name) = (.ok (), τ) →
    ∃ e, τ.context.entity? name = some e ∧ e.isInitialized = true

theorem ready_parentOf {p : String} (hadd : Adds add) (sound : σ.context.Sound)
    (h : σ.run (parentOf add cls) = (.ok (some p), ρ)) :
    ∃ parent, ρ.context.entity? p = some parent ∧ parent.isInitialized = true := by
  unfold parentOf at h
  cases hsuper : cls.superclass with
  | none =>
    rw [hsuper] at h
    cases h
  | some superclass =>
    rw [hsuper] at h
    obtain ⟨found, _, hfound, h⟩ := Site.run_bind_eq_ok.mp h
    rw [run_tryAsk] at hfound
    obtain ⟨-, rfl⟩ := Prod.mk.inj hfound
    obtain ⟨strategy, _, hstrategy, h⟩ := Site.run_bind_eq_ok.mp h
    cases hstrategy
    split at h
    · obtain ⟨_, _, added, h⟩ := Site.run_bind_eq_ok.mp h
      cases h
      exact hadd.readies sound added
    · cases h

/-- The parent that a populated model names has its model. -/
theorem ready_populateBy {model : EntityModel} {p : String} (hadd : Adds add) (sound : σ.context.Sound)
    (h : σ.run (populateBy look add cls) = (.ok model, ρ)) (hp : model.parent = some p) :
    ∃ parent, ρ.context.entity? p = some parent ∧ parent.isInitialized = true := by
  unfold populateBy at h
  obtain ⟨hierarchy, _, found, h⟩ := Site.run_bind_eq_ok.mp h
  rw [run_tryAsk] at found
  obtain ⟨-, rfl⟩ := Prod.mk.inj found
  obtain ⟨parent, σ₁, hparent, h⟩ := Site.run_bind_eq_ok.mp h
  have grown₁ := ((Keeps.parentOf hadd.evolves cls).of_eq hparent) sound
  obtain ⟨settings, _, hsettings, h⟩ := Site.run_bind_eq_ok.mp h
  cases hsettings
  obtain ⟨scanned, σ₂, hscanned, h⟩ := Site.run_bind_eq_ok.mp h
  have grown₂ := ((Keeps.scanBy hadd.evolves cls hierarchy _).of_eq hscanned) grown₁.1
  obtain ⟨layout, _, laid, h⟩ := Site.run_bind_eq_ok.mp h
  rw [run_ofExcept] at laid
  obtain ⟨-, rfl⟩ := Prod.mk.inj laid
  obtain ⟨_, _, reported, h⟩ := Site.run_bind_eq_ok.mp h
  cases reported
  obtain ⟨reflector, σ₄, hreflector, h⟩ := Site.run_bind_eq_ok.mp h
  have same : σ₄.context = σ₂.context := by
    rw [run_reflectorFor] at hreflector
    rw [← (Prod.mk.inj hreflector).2]
  obtain ⟨owners, _, howners, h⟩ := Site.run_bind_eq_ok.mp h
  cases howners
  cases h
  -- What the model names is what was added first, and that is as it was then.
  obtain rfl : parent = some p := hp
  obtain ⟨x, hx, ready⟩ := ready_parentOf hadd sound hparent
  refine ⟨x, ?_, ready⟩
  rw [same]
  exact grown₂.2.ready hx ready

/-! ### Initialization of one entity -/

variable {e : Entity}

/-- The site at which an idle entity is populated is sound, and what comes of populating has grown from there. -/
theorem evolves_populateBy {answer : Except Fault EntityModel} (hadd : Adds add) (sound : σ.context.Sound)
    (he : σ.context.entity? name = some e) (idle : e.phase = .idle)
    (h : (populating σ name).run (populateBy look add e.cls) = (answer, ρ)) :
    ρ.context.Sound ∧ (σ.context.setPhase name .populating).Grown ρ.context := by
  refine (Keeps.populateBy hadd.evolves e.cls).of_eq h (sound.setModelless ?_ (by simp))
  intro x hx
  cases he.symm.trans hx
  exact Context.isInitialized_of_idle idle

/-- Making an entity ready gives it a model, unless it fails; in any case it is settled what phase it is in. -/
theorem Keeps.makeReadyBy (hadd : Adds add) (name : String) :
    Keeps Context.Evolves (Action.makeReadyBy look add name) := by
  intro σ sound
  cases he : σ.context.entity? name with
  | none =>
    rw [run_makeReadyBy_missing he]
    exact ⟨sound, .refl _⟩
  | some e =>
    rw [run_makeReadyBy he]
    cases hphase : e.phase with
    | ready model => exact ⟨sound, .refl _⟩
    | populating => exact ⟨sound, .refl _⟩
    | idle =>
      have idle : ∀ x, σ.context.entity? name = some x → x.phase = .idle := by
        intro x hx
        cases he.symm.trans hx
        exact hphase
      rcases hrun : (populating σ name).run (Action.populateBy look add e.cls) with ⟨answer, ρ⟩
      obtain ⟨after, grown⟩ := evolves_populateBy hadd sound he hphase hrun
      have unready : ∀ x, ρ.context.entity? name = some x → x.isInitialized = false := by
        intro x hx
        cases (grown.entity?_populated he).symm.trans hx
        rfl
      dsimp only
      cases answer with
      | ok model =>
        have begun : (σ.context.setPhase name .populating).Sound :=
          sound.setModelless (fun x hx => Context.isInitialized_of_idle (idle x hx)) (by simp)
        refine ⟨after.setPhase unready ?_, grown.setPhase idle (by simp)⟩
        intro built p hbuilt hp
        cases hbuilt
        exact ready_populateBy hadd begun hrun hp
      | error fault => exact ⟨after.setModelless unready (by simp), grown.setPhase idle (by simp)⟩

/-- An entity that was made ready has its model. -/
theorem ready_makeReadyBy (hadd : Adds add) (sound : σ.context.Sound)
    (h : σ.run (makeReadyBy look add name) = (.ok (), τ)) :
    ∃ e, τ.context.entity? name = some e ∧ e.isInitialized = true := by
  cases he : σ.context.entity? name with
  | none =>
    rw [run_makeReadyBy_missing he] at h
    cases h
  | some e =>
    rw [run_makeReadyBy he] at h
    cases hphase : e.phase with
    | ready model =>
      rw [hphase] at h
      cases h
      exact ⟨e, he, by simp [Entity.isInitialized, Entity.model?, hphase]⟩
    | populating =>
      rw [hphase] at h
      cases h
    | idle =>
      rw [hphase] at h
      dsimp only at h
      rcases hrun : (populating σ name).run (populateBy look add e.cls) with ⟨answer, ρ⟩
      rw [hrun] at h
      cases answer with
      | error fault => cases h
      | ok model =>
        cases h
        obtain ⟨-, grown⟩ := evolves_populateBy hadd sound he hphase hrun
        refine ⟨{ e with phase := .ready model }, ?_, rfl⟩
        rw [Context.entity?_setPhase, if_pos rfl, grown.entity?_populated he]
        rfl

/-- An entity that could not be made ready is idle, unless it is being populated further out. -/
theorem idle_makeReadyBy {fault : Fault} (hadd : Adds add) (sound : σ.context.Sound)
    (h : σ.run (makeReadyBy look add name) = (.error fault, τ))
    (unmarked : ∀ e, σ.context.entity? name = some e → e.phase ≠ .populating) :
    ∀ e, τ.context.entity? name = some e → e.phase = .idle := by
  cases he : σ.context.entity? name with
  | none =>
    rw [run_makeReadyBy_missing he] at h
    cases h
    intro x hx
    cases he.symm.trans hx
  | some e =>
    rw [run_makeReadyBy he] at h
    cases hphase : e.phase with
    | ready model =>
      rw [hphase] at h
      cases h
    | populating => exact absurd hphase (unmarked e he)
    | idle =>
      rw [hphase] at h
      dsimp only at h
      rcases hrun : (populating σ name).run (populateBy look add e.cls) with ⟨answer, ρ⟩
      rw [hrun] at h
      cases answer with
      | ok model => cases h
      | error fault =>
        cases h
        obtain ⟨-, grown⟩ := evolves_populateBy hadd sound he hphase hrun
        intro x hx
        dsimp only at hx
        rw [Context.entity?_setPhase, if_pos rfl, grown.entity?_populated he] at hx
        cases hx
        rfl

/-! ### Adding -/

/-- A name is registered already, or it cannot be, or its class comes to the end of the order. -/
theorem enroll_cases (sound : σ.context.Sound) (name : String) :
    ((σ.context.entity? name).isSome = true ∧ σ.run (enroll name) = (.ok (), σ)) ∨
    (σ.context.entity? name = none ∧ ∃ fault, σ.run (enroll name) = (.error fault, σ)) ∨
    (σ.context.entity? name = none ∧ ∃ cls, cls.name = name ∧ σ.context.classes.get? name = some cls ∧
      σ.run (enroll name) = (.ok (), { σ with context := σ.context.enroll cls })) := by
  cases he : σ.context.entity? name with
  | some e =>
    refine Or.inl ⟨rfl, ?_⟩
    unfold enroll
    rw [Site.run_bind, run_ask, he]
    rfl
  | none =>
    cases hcls : σ.context.classes.get? name with
    | none =>
      have hrequire : σ.context.requireClass name = .error (.configuration (.unknownClass name)) := by
        unfold Context.requireClass
        rw [hcls]
      refine Or.inr (Or.inl ⟨rfl, .configuration (.unknownClass name), ?_⟩)
      unfold enroll
      rw [Site.run_bind, run_ask, he]
      dsimp only
      rw [Option.isNone_none, if_pos rfl, Site.run_bind, run_tryAsk, hrequire]
    | some cls =>
      obtain rfl := sound.keyed name cls hcls
      rw [run_enroll hcls, he]
      dsimp only
      split
      · exact Or.inr (Or.inr ⟨rfl, cls, rfl, rfl, rfl⟩)
      · exact Or.inr (Or.inl ⟨rfl, _, rfl⟩)

theorem Keeps.enroll (name : String) : Keeps Context.Evolves (Action.enroll name) := by
  intro σ sound
  obtain ⟨-, h⟩ | ⟨-, fault, h⟩ | ⟨fresh, cls, rfl, known, h⟩ := enroll_cases sound name
  · rw [h]
    exact ⟨sound, .refl _⟩
  · rw [h]
    exact ⟨sound, .refl _⟩
  · rw [h]
    exact ⟨sound.enroll known fresh, .enroll _ cls⟩

/-- Adding entities level by level, with a fault below the last one. -/
theorem adds_addFrom (levels : Nat) : Adds (addFrom look exhausted levels) := by
  induction levels with
  | zero => exact ⟨fun name => Keeps.throw _, fun _ h => by cases h⟩
  | succ levels ih =>
    refine ⟨fun name => (Keeps.enroll name).bind fun _ => Keeps.makeReadyBy ih name, fun {σ τ name} sound h => ?_⟩
    obtain ⟨_, ρ, enrolled, h⟩ := Site.run_bind_eq_ok.mp h
    exact ready_makeReadyBy ih ((Keeps.enroll name).of_eq enrolled sound).1 h

end Action
end Persistence
