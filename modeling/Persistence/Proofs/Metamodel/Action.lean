import Persistence.Metamodel.Initialization

/-! What actions at a site answer and leave, step by step. A question leaves the site as it is, a change answers
    nothing, and what follows a step starts at the site that the step leaves, even where a fault is caught. -/

namespace Persistence

variable {α β : Type} {σ τ : Site}

namespace Site

theorem run_bind (x : Action α) (f : α → Action β) : σ.run (x >>= f) =
    match σ.run x with
    | (.ok a, ρ) => ρ.run (f a)
    | (.error fault, ρ) => (.error fault, ρ) := by
  have step : σ.run (x >>= f) = StateT.run (ExceptT.bindCont f (σ.run x).1) (σ.run x).2 := rfl
  rw [step]
  rcases σ.run x with ⟨answer, ρ⟩
  cases answer <;> rfl

theorem run_tryCatch (x : Action α) (handler : Fault → Action α) : σ.run (tryCatch x handler) =
    match σ.run x with
    | (.ok a, ρ) => (.ok a, ρ)
    | (.error fault, ρ) => ρ.run (handler fault) := by
  have step : σ.run (tryCatch x handler) = StateT.run (ExceptT.tryCatch x handler) σ := rfl
  have inner : σ.run x = StateT.run x σ := rfl
  rw [step, inner, ExceptT.tryCatch, ExceptT.mk, StateT.run_bind]
  rcases StateT.run x σ with ⟨answer, ρ⟩
  cases answer <;> rfl

/-- A sequence succeeds just if its steps do, one at the site that the other leaves. -/
theorem run_bind_eq_ok {x : Action α} {f : α → Action β} {b : β} : σ.run (x >>= f) = (.ok b, τ) ↔
    ∃ a ρ, σ.run x = (.ok a, ρ) ∧ ρ.run (f a) = (.ok b, τ) := by
  rw [run_bind]
  rcases σ.run x with ⟨answer, ρ⟩
  cases answer with
  | ok a =>
    constructor
    · exact fun h => ⟨a, ρ, rfl, h⟩
    · rintro ⟨a', ρ', h, h'⟩
      cases h
      exact h'
  | error fault =>
    constructor
    · exact fun h => by cases h
    · rintro ⟨a', ρ', h, -⟩
      cases h

theorem run_of_isOk {x : Action α} (h : (σ.run x).1.isOk = true) : ∃ a, σ.run x = (.ok a, (σ.run x).2) := by
  rcases hrun : σ.run x with ⟨answer, ρ⟩
  rw [hrun] at h
  cases answer with
  | ok a => exact ⟨a, rfl⟩
  | error fault => cases h

theorem run_of_not_isOk {x : Action α} (h : (σ.run x).1.isOk = false) :
    ∃ fault, σ.run x = (.error fault, (σ.run x).2) := by
  rcases hrun : σ.run x with ⟨answer, ρ⟩
  rw [hrun] at h
  cases answer with
  | ok a => cases h
  | error fault => exact ⟨fault, rfl⟩

end Site

namespace Action

@[simp]
theorem run_ask (question : Context → α) : σ.run (ask question) = (.ok (question σ.context), σ) := rfl

@[simp]
theorem run_ofExcept (found : Except Fault α) : σ.run (ofExcept found) = (found, σ) := by
  cases found <;> rfl

@[simp]
theorem run_tryAsk (question : Context → Except Fault α) : σ.run (tryAsk question) = (question σ.context, σ) := by
  have step : σ.run (tryAsk question) = σ.run (ofExcept (question σ.context)) := rfl
  rw [step, run_ofExcept]

@[simp]
theorem run_change (f : Context → Context) : σ.run (change f) = (.ok (), { σ with context := f σ.context }) := rfl

@[simp]
theorem run_report (lines : List Diagnostic) : σ.run (report lines) = (.ok (), { σ with reports := σ.reports ++ lines }) :=
  rfl

theorem run_reflectorFor (hierarchy : List Class) (layout : Layout) : σ.run (reflectorFor hierarchy layout) =
    ((σ.cache.getOrCompile hierarchy layout.properties layout.identity σ.context.handling).1,
      { σ with
        cache := (σ.cache.getOrCompile hierarchy layout.properties layout.identity σ.context.handling).2.1
        reports := σ.reports ++
          (σ.cache.getOrCompile hierarchy layout.properties layout.identity σ.context.handling).2.2 }) := by
  have step : σ.run (reflectorFor hierarchy layout) =
      Site.run { σ with
        cache := (σ.cache.getOrCompile hierarchy layout.properties layout.identity σ.context.handling).2.1
        reports := σ.reports ++
          (σ.cache.getOrCompile hierarchy layout.properties layout.identity σ.context.handling).2.2 }
        (ofExcept (σ.cache.getOrCompile hierarchy layout.properties layout.identity σ.context.handling).1) := rfl
  rw [step, run_ofExcept]

end Action
end Persistence
