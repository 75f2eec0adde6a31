import Persistence.Proofs.Metamodel.Keeping

/-! What the initialization of entities leaves alone. Whatever is added on the way, and whether it succeeds or not,
    the settings, the strategy and the classes stay; a registered entity stays registered for the class that it was
    registered with; and an entity that is being populated, or has its model, is not touched by anything else. -/

namespace Persistence

namespace Context

variable {ctx old mid new : Context} {name n : String} {cls : Class} {e : Entity} {phase : Phase}

theorem entity?_setPhase : (ctx.setPhase name phase).entity? n =
    if n = name then (ctx.entity? n).map fun e => { e with phase } else ctx.entity? n := by
  have same : ∀ e : Entity, (if e.name == name then { e with phase } else e).name = e.name := by
    intro e
    split <;> rfl
  unfold entity? setPhase
  rw [List.find?_map]
  have hcomp : ((fun e : Entity => e.name == n) ∘ fun e => if e.name == name then { e with phase } else e) =
      fun e => e.name == n := by
    funext e
    rw [Function.comp_apply, same]
  rw [hcomp]
  cases h : ctx.entities.find? fun e => e.name == n with
  | none => simp
  | some e =>
    have hname : e.name = n := by simpa using List.find?_some h
    by_cases hn : n = name <;> simp [hname, hn]

theorem entity?_enroll : (ctx.enroll cls).entity? n =
    (ctx.entity? n).or (if cls.name = n then some { cls } else none) := by
  unfold entity? enroll
  rw [List.find?_append]
  by_cases h : cls.name = n <;> simp [Entity.name, h]

/-- From `old` to `new` nothing changes but entities that were idle, and these keep their classes. -/
structure Steady (old new : Context) : Prop where
  settings : new.settings = old.settings
  strategy : new.strategy = old.strategy
  handling : new.handling = old.handling
  classes : new.classes = old.classes
  kept : ∀ n e, old.entity? n = some e → ∃ e', new.entity? n = some e' ∧ e'.cls = e.cls
  busy : ∀ n e, old.entity? n = some e → e.phase ≠ .idle → new.entity? n = some e

namespace Steady

theorem refl (ctx : Context) : Steady ctx ctx := ⟨rfl, rfl, rfl, rfl, fun _ e h => ⟨e, h, rfl⟩, fun _ _ h _ => h⟩

theorem trans (h₁ : Steady old mid) (h₂ : Steady mid new) : Steady old new where
  settings := h₂.settings.trans h₁.settings
  strategy := h₂.strategy.trans h₁.strategy
  handling := h₂.handling.trans h₁.handling
  classes := h₂.classes.trans h₁.classes
  kept n e h := by
    obtain ⟨e₁, he₁, hcls₁⟩ := h₁.kept n e h
    obtain ⟨e₂, he₂, hcls₂⟩ := h₂.kept n e₁ he₁
    exact ⟨e₂, he₂, hcls₂.trans hcls₁⟩
  busy n e h hphase := h₂.busy n e (h₁.busy n e h hphase) hphase

theorem enroll (ctx : Context) (cls : Class) : Steady ctx (ctx.enroll cls) where
  settings := rfl
  strategy := rfl
  handling := rfl
  classes := rfl
  kept n e he := ⟨e, by rw [entity?_enroll, he, Option.some_or], rfl⟩
  busy n e he _ := by rw [entity?_enroll, he, Option.some_or]

/-- A phase of an entity that was idle at first may be set. -/
theorem setPhase (h : Steady old new) (idle : ∀ e, old.entity? name = some e → e.phase = .idle) (phase : Phase) :
    Steady old (new.setPhase name phase) where
  settings := h.settings
  strategy := h.strategy
  handling := h.handling
  classes := h.classes
  kept n e he := by
    obtain ⟨e', he', hcls⟩ := h.kept n e he
    rw [entity?_setPhase, he']
    split
    · exact ⟨_, rfl, hcls⟩
    · exact ⟨e', rfl, hcls⟩
  busy n e he hphase := by
    rw [entity?_setPhase, if_neg, h.busy n e he hphase]
    rintro rfl
    exact hphase (idle e he)

end Steady
end Context

instance : IsPreorder Context Context.Steady where
  refl := Context.Steady.refl
  trans _ _ _ := Context.Steady.trans

namespace Action

variable {α β : Type}

/-- An action that leaves all but idle entities alone, whether it succeeds or not. -/
def IsSteady (x : Action α) : Prop := ∀ σ : Site, σ.context.Steady (σ.run x).2.context

namespace IsSteady

theorem of_eq {x : Action α} {answer : Except Fault α} {σ ρ : Site} (hx : IsSteady x) (h : σ.run x = (answer, ρ)) :
    σ.context.Steady ρ.context :=
  Keeps.of_eq hx h

theorem report (lines : List Diagnostic) : IsSteady (Action.report lines) := Keeps.report lines

theorem reflectorFor (hierarchy : List Class) (layout : Layout) : IsSteady (Action.reflectorFor hierarchy layout) :=
  Keeps.reflectorFor hierarchy layout

theorem bind {x : Action α} {f : α → Action β} (hx : IsSteady x) (hf : ∀ a, IsSteady (f a)) : IsSteady (x >>= f) :=
  Keeps.bind hx hf

section Add
variable {add : String → Action Unit}

theorem forM (hadd : ∀ name, IsSteady (add name)) (names : List String) : IsSteady (names.forM add) :=
  Keeps.forM hadd names

theorem parentOf (hadd : ∀ name, IsSteady (add name)) (cls : Class) : IsSteady (Action.parentOf add cls) :=
  Keeps.parentOf hadd cls

theorem scan (hadd : ∀ name, IsSteady (add name)) (cls : Class) (hierarchy : List Class) (mapping : EntityMapping) :
    IsSteady (Action.scan add cls hierarchy mapping) := by
  rw [← scanBy_own]
  exact Keeps.scanBy hadd cls hierarchy mapping

theorem populate (hadd : ∀ name, IsSteady (add name)) (cls : Class) : IsSteady (Action.populate add cls) := by
  rw [← populateBy_own]
  exact Keeps.populateBy hadd cls

end Add
end IsSteady

/-! ### Initialization of one entity -/

variable {σ : Site} {add : String → Action Unit} {name : String} {e : Entity}

theorem run_makeReady_missing (add : String → Action Unit) (h : σ.context.entity? name = none) :
    σ.run (makeReady add name) = (.error (.entityNotFound name), σ) := by
  rw [← makeReadyBy_own]
  exact run_makeReadyBy_missing h

theorem run_makeReady (add : String → Action Unit) (h : σ.context.entity? name = some e) :
    σ.run (makeReady add name) =
      match e.phase with
      | .ready _ => (.ok (), σ)
      | .populating => (.error (.configuration (.cyclicInitialization name)), σ)
      | .idle =>
        match (populating σ name).run (populate add e.cls) with
        | (.ok model, ρ) =>
          (.ok (), { ρ with
            context := ρ.context.setPhase name (.ready model), reports := ρ.reports ++ [.initialized name] })
        | (.error fault, ρ) => (.error fault, { ρ with context := ρ.context.setPhase name .idle }) := by
  rw [← makeReadyBy_own, ← populateBy_own]
  exact run_makeReadyBy h

theorem IsSteady.makeReady (hadd : ∀ name, IsSteady (add name)) (name : String) :
    IsSteady (Action.makeReady add name) := by
  intro σ
  cases h : σ.context.entity? name with
  | none =>
    rw [run_makeReady_missing add h]
    exact .refl _
  | some e =>
    rw [run_makeReady add h]
    cases hphase : e.phase with
    | ready model => exact .refl _
    | populating => exact .refl _
    | idle =>
      -- Whatever comes out, only the phase of this entity is set, and at first that was idle.
      have idle : ∀ e, σ.context.entity? name = some e → e.phase = .idle := by
        intro e' he'
        cases h.symm.trans he'
        exact hphase
      rcases hrun : (populating σ name).run (Action.populate add e.cls) with ⟨answer, ρ⟩
      have inner := (IsSteady.populate hadd e.cls).of_eq hrun
      have populated := ((Context.Steady.refl σ.context).setPhase idle .populating).trans inner
      dsimp only
      cases answer with
      | ok model => exact populated.setPhase idle (.ready model)
      | error fault => exact populated.setPhase idle .idle

theorem IsSteady.enroll (name : String) : IsSteady (Action.enroll name) := by
  unfold Action.enroll
  refine (Keeps.ask _).bind fun found => ?_
  split
  · refine (Keeps.tryAsk _).bind fun cls => (Keeps.ask _).bind fun strategy => ?_
    dsimp only
    split
    · exact fun σ => Context.Steady.enroll σ.context cls
    · exact (Keeps.throw _).bind fun _ σ => Context.Steady.enroll σ.context cls
  · exact Keeps.pure _

/-- Adding an entity leaves all that is not idle alone. -/
theorem IsSteady.addWithin (levels : Nat) (name : String) : IsSteady (Action.addWithin levels name) := by
  induction levels generalizing name with
  | zero => exact Keeps.throw _
  | succ levels ih => exact (IsSteady.enroll name).bind fun _ => IsSteady.makeReady ih name

end Action
end Persistence
