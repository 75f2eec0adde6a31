import Persistence.Proofs.Session.Leaving

/-! The phases of a completion, as the calls that it makes. The callbacks are arbitrary: each may change the whole
    environment, and each may fail before a commit. A callback is called at most once in a phase, so that what it
    keeps to itself between the phases can be read off its place in the list, and needs no state of its own. -/

namespace Persistence

variable {κ : Type}

/-- A call of a callback in one of the phases. -/
inductive CallbackCall (κ : Type) where
  | beforeCommit (callback : Synchronization κ)
  | beforeCompletion (callback : Synchronization κ)
  | afterCompletion (status : CompletionStatus) (callback : Synchronization κ)

/-- What the callback answers to the call, and what it leaves. -/
def CallbackCall.perform (conduct : Conduct κ) :
    CallbackCall κ → Environment κ → Except Fault Unit × Environment κ
  | .beforeCommit callback, env => callback.beforeCommit conduct env
  | .beforeCompletion callback, env => (.ok (), callback.beforeCompletion conduct env)
  | .afterCompletion status callback, env => (.ok (), callback.afterCompletion conduct status env)

theorem Conduct.perform_beforeCompletion (conduct : Conduct κ) (callback : Synchronization κ) (env : Environment κ) :
    (CallbackCall.beforeCompletion callback).perform conduct env = (.ok (), callback.beforeCompletion conduct env) := rfl

theorem Conduct.perform_afterCompletion (conduct : Conduct κ) (status : CompletionStatus)
    (callback : Synchronization κ) (env : Environment κ) :
    (CallbackCall.afterCompletion status callback).perform conduct env =
      (.ok (), callback.afterCompletion conduct status env) := rfl

/-- A call that was made: where, with which answer, and what it left. -/
structure Invocation (κ : Type) where
  call : CallbackCall κ
  seen : Environment κ
  answer : Except Fault Unit
  left : Environment κ

/-- Where a completion goes on after a call: where the callback ended, with a failure noted. -/
def Invocation.resumed (made : Invocation κ) : Environment κ :=
  match made.answer with
  | .ok () => made.left
  | .error fault => made.left.note (.beforeCommitFailed fault)

theorem Invocation.isSynchronizing_resumed (made : Invocation κ) :
    made.resumed.isSynchronizing = made.left.isSynchronizing := by
  unfold resumed
  cases made.answer <;> rfl

/-- Calls that are made one after the other, each where the one before it ended. -/
inductive Invoked (conduct : Conduct κ) : Environment κ → List (Invocation κ) → Environment κ → Prop where
  | none (env : Environment κ) : Invoked conduct env [] env
  | call (made : Invocation κ) {rest : List (Invocation κ)} {env' : Environment κ}
      (performed : made.call.perform conduct made.seen = (made.answer, made.left))
      (next : Invoked conduct made.resumed rest env') : Invoked conduct made.seen (made :: rest) env'

namespace Invoked

variable {conduct : Conduct κ} {env mid env' : Environment κ} {first second : List (Invocation κ)}

theorem append (h₁ : Invoked conduct env first mid) (h₂ : Invoked conduct mid second env') :
    Invoked conduct env (first ++ second) env' := by
  induction h₁ with
  | none env => exact h₂
  | call made performed _ ih => exact .call made performed (ih h₂)

/-- While no call has started one, no synchronization is active. -/
theorem inactive (h : Invoked conduct env first env') (start : env.isSynchronizing = false)
    {before rest : List (Invocation κ)} {i : Invocation κ} (place : first = before ++ i :: rest)
    (active : i.seen.isSynchronizing = true) :
    ∃ j ∈ before, j.seen.isSynchronizing = false ∧ j.left.isSynchronizing = true := by
  induction h generalizing before with
  | none env => simp at place
  | call made performed _ ih =>
    cases before with
    | nil =>
      obtain ⟨rfl, -⟩ := List.cons_eq_cons.mp place
      rw [start] at active
      cases active
    | cons j before =>
      rw [List.cons_append] at place
      obtain ⟨rfl, tail⟩ := List.cons_eq_cons.mp place
      cases hleft : made.left.isSynchronizing with
      | true => exact ⟨made, List.mem_cons_self, start, hleft⟩
      | false =>
        obtain ⟨j, hj, hstarts⟩ := ih (made.isSynchronizing_resumed.trans hleft) tail
        exact ⟨j, List.mem_cons_of_mem _ hj, hstarts⟩

/-- A phase in which nothing fails calls each callback once, in order. -/
theorem phase {f : Environment κ → Synchronization κ → Environment κ} (call : Synchronization κ → CallbackCall κ)
    (calls : ∀ callback env, (call callback).perform conduct env = (.ok (), f env callback))
    (callbacks : List (Synchronization κ)) (env : Environment κ) :
    ∃ made, Invoked conduct env made (callbacks.foldl f env) ∧ made.map (·.call) = callbacks.map call := by
  induction callbacks generalizing env with
  | nil => exact ⟨[], .none env, rfl⟩
  | cons callback rest ih =>
    obtain ⟨made, invoked, hcalls⟩ := ih (f env callback)
    refine ⟨⟨call callback, env, .ok (), f env callback⟩ :: made, .call ⟨_, env, _, _⟩ (calls callback env) invoked, ?_⟩
    rw [List.map_cons, List.map_cons, hcalls]

end Invoked

/-! ### The phase before a commit -/

/-- How the first phase goes for a status: the calls that are made, what the completion will answer, and the status
that the last phase is told. -/
inductive Preparation (callbacks : List (Synchronization κ)) :
    CompletionStatus → List (Invocation κ) → Except Fault Unit → CompletionStatus → Prop where
  | skipped {status : CompletionStatus} (other : status ≠ .committed) :
      Preparation callbacks status [] (.ok ()) status
  | passed {made : List (Invocation κ)} (calls : made.map (·.call) = callbacks.map .beforeCommit)
      (answers : ∀ i ∈ made, i.answer = .ok ()) : Preparation callbacks .committed made (.ok ()) .committed
  | failed {before rest : List (Synchronization κ)} {callback : Synchronization κ} {made : List (Invocation κ)}
      {last : Invocation κ} {fault : Fault} (place : callbacks = before ++ callback :: rest)
      (calls : made.map (·.call) = before.map .beforeCommit) (answers : ∀ i ∈ made, i.answer = .ok ())
      (call : last.call = .beforeCommit callback) (answer : last.answer = .error fault) :
      Preparation callbacks .committed (made ++ [last]) (.error fault) .rolledBack

namespace Preparation

variable {callbacks : List (Synchronization κ)} {status settled : CompletionStatus} {made : List (Invocation κ)}
  {answer : Except Fault Unit}

/-- The phase goes on with the next callback after one that did not fail. -/
theorem cons {i : Invocation κ} {callback : Synchronization κ} (h : Preparation callbacks .committed made answer settled)
    (call : i.call = .beforeCommit callback) (ok : i.answer = .ok ()) :
    Preparation (callback :: callbacks) .committed (i :: made) answer settled := by
  cases h with
  | skipped other => exact absurd rfl other
  | passed calls answers =>
    refine .passed ?_ (List.forall_mem_cons.mpr ⟨ok, answers⟩)
    rw [List.map_cons, List.map_cons, call, calls]
  | @failed before rest other made last fault place calls answers lastCall answer =>
    have place' : callback :: callbacks = (callback :: before) ++ other :: rest := by rw [place, List.cons_append]
    have calls' : (i :: made).map (·.call) = (callback :: before).map .beforeCommit := by
      rw [List.map_cons, List.map_cons, call, calls]
    exact .failed place' calls' (List.forall_mem_cons.mpr ⟨ok, answers⟩) lastCall answer

/-- The answer is an error just if a callback gave this error. -/
theorem error_iff (h : Preparation callbacks status made answer settled) (fault : Fault) :
    answer = .error fault ↔ ∃ i ∈ made, i.answer = .error fault := by
  have free : ∀ {made : List (Invocation κ)}, (∀ i ∈ made, i.answer = .ok ()) →
      ¬∃ i ∈ made, i.answer = .error fault := by
    rintro made answers ⟨i, hi, failed⟩
    rw [answers i hi] at failed
    cases failed
  cases h with
  | skipped other => simp
  | passed calls answers => exact ⟨nofun, fun failed => absurd failed (free answers)⟩
  | failed place calls answers call answer =>
    constructor
    · intro same
      exact ⟨_, List.mem_append_right _ (List.mem_singleton_self _), answer.trans (congrArg _ (Except.error.inj same))⟩
    · rintro ⟨i, hi, failed⟩
      rcases List.mem_append.mp hi with hi | hi
      · exact absurd ⟨i, hi, failed⟩ (free answers)
      · rw [List.mem_singleton.mp hi, answer] at failed
        exact failed

end Preparation

namespace Environment

variable {conduct : Conduct κ} {status : CompletionStatus} {callbacks : List (Synchronization κ)}

/-- What a completion answers after a failure in the first phase, or without one. -/
def answerOf : Option Fault → Except Fault Unit
  | none => .ok ()
  | some fault => .error fault

/-- Before a commit the callbacks are called up to the first one that fails. -/
theorem preparation_beforeCommits (conduct : Conduct κ) (callbacks : List (Synchronization κ)) (env : Environment κ) :
    ∃ made, Invoked conduct env made (beforeCommits conduct callbacks env).2 ∧
      Preparation callbacks .committed made (answerOf (beforeCommits conduct callbacks env).1)
        (settledStatus .committed (beforeCommits conduct callbacks env).1) := by
  induction callbacks generalizing env with
  | nil => exact ⟨[], .none env, .passed rfl (List.forall_mem_nil _)⟩
  | cons callback rest ih =>
    rcases h : callback.beforeCommit conduct env with ⟨answer, after⟩
    have performed : (CallbackCall.beforeCommit callback).perform conduct env = (answer, after) := h
    cases answer with
    | ok done =>
      have heq : beforeCommits conduct (callback :: rest) env = beforeCommits conduct rest after := by
        rw [beforeCommits, h]
      obtain ⟨made, invoked, prepared⟩ := ih after
      rw [heq]
      exact ⟨⟨_, env, .ok (), after⟩ :: made, .call ⟨_, env, _, after⟩ performed invoked, prepared.cons rfl rfl⟩
    | error fault =>
      have heq : beforeCommits conduct (callback :: rest) env =
          (some fault, after.note (.beforeCommitFailed fault)) := by
        rw [beforeCommits, h]
      rw [heq]
      refine ⟨[] ++ [⟨_, env, .error fault, after⟩], .call ⟨_, env, _, after⟩ performed (.none _), ?_⟩
      exact .failed (List.nil_append _).symm rfl (List.forall_mem_nil _) rfl rfl

theorem preparation_prepareCommit (conduct : Conduct κ) (status : CompletionStatus)
    (callbacks : List (Synchronization κ)) (env : Environment κ) :
    ∃ made, Invoked conduct env made (prepareCommit conduct status callbacks env).2 ∧
      Preparation callbacks status made (answerOf (prepareCommit conduct status callbacks env).1)
        (settledStatus status (prepareCommit conduct status callbacks env).1) := by
  unfold prepareCommit
  split
  next committed =>
    subst committed
    exact preparation_beforeCommits conduct callbacks env
  next other => exact ⟨[], .none env, .skipped other⟩

/-! ### All phases -/

/-- A completion of `callbacks` makes the calls of three phases, the last one with the status `settled`. -/
structure Phases (conduct : Conduct κ) (status : CompletionStatus) (callbacks : List (Synchronization κ))
    (env : Environment κ) (prepared told concluded : List (Invocation κ)) (settled : CompletionStatus) : Prop where
  /-- It starts without a synchronization and does nothing but the calls. -/
  invoked : Invoked conduct env.clearSynchronization (prepared ++ told ++ concluded) (env.complete conduct status).2
  prepares : Preparation callbacks status prepared (env.complete conduct status).1 settled
  tells : told.map (·.call) = callbacks.map .beforeCompletion
  concludes : concluded.map (·.call) = callbacks.map (.afterCompletion settled)
  refused : ∀ fault, (env.complete conduct status).1 = .error fault ↔ ∃ i ∈ prepared, i.answer = .error fault
  /-- A callback finds a synchronization only if an earlier one started it. -/
  inactive : ∀ before i rest, prepared ++ told ++ concluded = before ++ i :: rest → i.seen.isSynchronizing = true →
    ∃ j ∈ before, j.seen.isSynchronizing = false ∧ j.left.isSynchronizing = true

/-- Whatever the callbacks do, a completion goes through its phases in the order of registration. Without a
synchronization it is refused and nothing happens. -/
theorem phases_complete (conduct : Conduct κ) (status : CompletionStatus) (env : Environment κ) :
    (env.registry.synchronizations = none →
      env.complete conduct status = (.error (.transaction .synchronizationInactive), env)) ∧
    ∀ callbacks, env.registry.synchronizations = some callbacks →
      ∃ prepared told concluded settled, Phases conduct status callbacks env prepared told concluded settled := by
  constructor
  · intro inactive
    unfold complete
    simp only [inactive]
  · intro callbacks active
    obtain ⟨prepared, invoked, preparation⟩ :=
      preparation_prepareCommit conduct status callbacks env.clearSynchronization
    have answer : (env.complete conduct status).1 =
        answerOf (prepareCommit conduct status callbacks env.clearSynchronization).1 := by
      rw [complete_eq conduct status active]
      cases (prepareCommit conduct status callbacks env.clearSynchronization).1 <;> rfl
    have left := congrArg Prod.snd (complete_eq conduct status active)
    rw [← answer] at preparation
    generalize settledStatus status _ = settled at preparation left
    obtain ⟨told, invoked₂, htold⟩ := Invoked.phase .beforeCompletion (conduct.perform_beforeCompletion) callbacks
      (prepareCommit conduct status callbacks env.clearSynchronization).2
    obtain ⟨concluded, invoked₃, hconcluded⟩ := Invoked.phase (.afterCompletion settled)
      (conduct.perform_afterCompletion settled) callbacks _
    have all := (invoked.append invoked₂).append invoked₃
    exact ⟨prepared, told, concluded, settled, left ▸ all, preparation, htold, hconcluded, preparation.error_iff,
      fun _ _ _ place active => all.inactive rfl place active⟩

/-- Of three callbacks the second fails before the commit and the third starts a synchronization of its own: the fault
is returned, the last phase is that of a rollback, and the new synchronization is there in the end. -/
theorem phases_of_failing :
    let fault : Fault := .session (.closed ⟨1⟩)
    let conduct : Conduct Nat :=
      { beforeCommit := fun callback env => (if callback = 2 then .error fault else .ok (), env)
        beforeCompletion := fun callback env => if callback = 3 then env.startSynchronization.2 else env
        afterCompletion := fun _ _ env => env }
    let callbacks : List (Synchronization Nat) := [.custom 1, .custom 2, .custom 3]
    let env : Environment Nat := { registry := { synchronizations := some callbacks } }
    (env.complete conduct .committed).1 = .error fault ∧ (env.complete conduct .committed).2.isSynchronizing = true ∧
      ∃ prepared told concluded, Phases conduct .committed callbacks env prepared told concluded .rolledBack := by
  intro fault conduct callbacks env
  refine ⟨rfl, rfl, ?_⟩
  obtain ⟨prepared, told, concluded, settled, phases⟩ := (phases_complete conduct .committed env).2 callbacks rfl
  have failed : (env.complete conduct .committed).1 = .error fault := rfl
  have settles : settled = .rolledBack := by
    have prepares := phases.prepares
    rw [failed] at prepares
    cases prepares
    rfl
  exact ⟨prepared, told, concluded, settles ▸ phases⟩

end Environment
end Persistence
