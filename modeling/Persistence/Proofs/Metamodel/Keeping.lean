import Mathlib.Order.Defs.Unbundled
import Persistence.Proofs.Metamodel.Search

/-! Relations between the context that an action starts at and the one that it leaves. A preorder that every step of an
    action keeps is kept by the whole action, so what is to be shown of one relation or another is only that the
    steps which change the context keep it. -/

namespace Persistence.Action

variable {α β : Type} {R : Context → Context → Prop}

/-- The context that an action leaves is related to the one it starts at, whether the action succeeds or not. -/
def Keeps (R : Context → Context → Prop) (x : Action α) : Prop := ∀ σ : Site, R σ.context (σ.run x).2.context

namespace Keeps

theorem of_eq {x : Action α} {answer : Except Fault α} {σ ρ : Site} (hx : Keeps R x) (h : σ.run x = (answer, ρ)) :
    R σ.context ρ.context := by
  have kept := hx σ
  rw [h] at kept
  exact kept

variable [IsPreorder Context R]

theorem of_run {x : Action α} (h : ∀ σ : Site, (σ.run x).2.context = σ.context) : Keeps R x := by
  intro σ
  rw [h]
  exact refl_of R _

theorem pure (a : α) : Keeps R (Pure.pure a : Action α) := of_run fun _ => rfl

theorem throw (fault : Fault) : Keeps R (MonadExcept.throw fault : Action α) := of_run fun _ => rfl

theorem ask (question : Context → α) : Keeps R (Action.ask question) := of_run fun _ => rfl

theorem tryAsk (question : Context → Except Fault α) : Keeps R (Action.tryAsk question) :=
  of_run fun _ => by rw [run_tryAsk]

theorem ofExcept (found : Except Fault α) : Keeps R (Action.ofExcept found) := of_run fun _ => by rw [run_ofExcept]

theorem report (lines : List Diagnostic) : Keeps R (Action.report lines) := of_run fun _ => rfl

theorem reflectorFor (hierarchy : List Class) (layout : Layout) : Keeps R (Action.reflectorFor hierarchy layout) :=
  of_run fun _ => by rw [run_reflectorFor]

theorem bind {x : Action α} {f : α → Action β} (hx : Keeps R x) (hf : ∀ a, Keeps R (f a)) : Keeps R (x >>= f) := by
  intro σ
  have first := hx σ
  rw [Site.run_bind]
  rcases hrun : σ.run x with ⟨answer, ρ⟩
  rw [hrun] at first
  cases answer with
  | ok a => exact trans_of R first (hf a ρ)
  | error fault => exact first

theorem forM {f : String → Action Unit} (hf : ∀ name, Keeps R (f name)) (names : List String) :
    Keeps R (names.forM f) := by
  induction names with
  | nil => exact pure ()
  | cons name rest ih => exact (hf name).bind fun _ => ih

theorem parentOf {add : String → Action Unit} (hadd : ∀ name, Keeps R (add name)) (cls : Class) :
    Keeps R (Action.parentOf add cls) := by
  unfold Action.parentOf
  cases cls.superclass with
  | none => exact pure none
  | some superclass =>
    refine (tryAsk _).bind fun found => (ask _).bind fun strategy => ?_
    split
    · exact (hadd _).bind fun _ => pure _
    · exact pure none

/-! ### Searching -/

section Searching
variable {look : Look} {add : String → Action Unit}

theorem search (hadd : ∀ name, Keeps R (add name)) (found : Search) : Keeps R (found.run add) := by
  induction found with
  | settled found => exact ofExcept found
  | adding name next ih =>
    intro σ
    rw [Search.run_adding]
    exact trans_of R (hadd name σ) (ih _ _ _)

theorem scanBy (hadd : ∀ name, Keeps R (add name)) (cls : Class) (hierarchy : List Class) (mapping : EntityMapping) :
    Keeps R (Action.scanBy look add cls hierarchy mapping) :=
  fun σ => search hadd (look cls hierarchy mapping σ) σ

theorem populateBy (hadd : ∀ name, Keeps R (add name)) (cls : Class) : Keeps R (Action.populateBy look add cls) := by
  unfold Action.populateBy
  exact (tryAsk _).bind fun hierarchy => (parentOf hadd cls).bind fun parent => (ask _).bind fun settings =>
    (scanBy hadd cls hierarchy _).bind fun scanned => (ofExcept _).bind fun layout => (report _).bind fun _ =>
    (reflectorFor hierarchy layout).bind fun reflector => (ask _).bind fun owners => pure _

end Searching
end Keeps
end Persistence.Action
