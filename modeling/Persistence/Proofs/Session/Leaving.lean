import Mathlib.Data.List.Basic
import Persistence.Session.Completion
import Persistence.Proofs.Session.Demand

/-! How sessions leave a transaction. A session that was opened for it is unbound, and so loses one entry in the
    stack of its own datastore; one that only joined keeps its place. When many leave in a row, each stack loses
    one entry for each new session of its datastore, whichever order they leave in. -/

namespace Persistence

variable {κ : Type}

/-- The part that a session has in the transaction of a datastore. -/
structure Enlistment where
  session : SessionId
  store : StoreId
  isNew : Bool

/-- The callback of an enlisted session. -/
def Enlistment.callback (e : Enlistment) : Synchronization κ := .session e.session e.store e.isNew

namespace Environment

variable {env : Environment κ} {s x : SessionId} {store d : StoreId} {isNew : Bool} {status : CompletionStatus}
  {leaving : List Enlistment}

/-- Sessions leave their transactions, one after the other. -/
def leaveAll (leaving : List Enlistment) (status : CompletionStatus) (env : Environment κ) : Environment κ :=
  leaving.foldl (fun env e => env.leaveTransaction e.session e.store e.isNew status) env

theorem leaveAll_cons (e : Enlistment) : env.leaveAll (e :: leaving) status =
    (env.leaveTransaction e.session e.store e.isNew status).leaveAll leaving status := rfl

/-! ### One session -/

/-- An environment that differs from another one at most in marks and counters. -/
structure SameStanding (old new : Environment κ) : Prop where
  bound : ∀ d, new.bound d = old.bound d
  deferred : new.registry.deferred = old.registry.deferred
  synchronizations : new.registry.synchronizations = old.registry.synchronizations
  sessions : Sessions.Closing [] old.sessions new.sessions

namespace SameStanding
variable {old mid new : Environment κ}

theorem refl (env : Environment κ) : SameStanding env env := ⟨fun _ => rfl, rfl, rfl, .refl _⟩

theorem trans (h₁ : SameStanding old mid) (h₂ : SameStanding mid new) : SameStanding old new :=
  ⟨fun d => (h₂.bound d).trans (h₁.bound d), h₂.deferred.trans h₁.deferred,
    h₂.synchronizations.trans h₁.synchronizations, h₁.sessions.trans h₂.sessions⟩

theorem storeOf? (h : SameStanding old new) (s : SessionId) : new.storeOf? s = old.storeOf? s := h.sessions.store s

theorem connected_iff (h : SameStanding old new) (s : SessionId) : new.Connected s ↔ old.Connected s := by
  unfold Connected
  rw [h.sessions.connected]
  simp

theorem pending? (h : SameStanding old new) (d : StoreId) : new.pending? d = old.pending? d := pending?_congr h.deferred

theorem closesUnbound (h : SameStanding old new) (s : SessionId) : new.closesUnbound s = old.closesUnbound s := by
  unfold Environment.closesUnbound isDeferring
  rw [h.storeOf?]
  cases old.storeOf? s with
  | none => rfl
  | some d => simp only [h.bound, h.pending?]

end SameStanding

/-- A session leaves the transaction without a mark; if it is new, it is then unbound. -/
theorem leaveTransaction_eq (s : SessionId) (store : StoreId) (isNew : Bool) (status : CompletionStatus)
    (env : Environment κ) : ∃ left, SameStanding env left ∧
      env.leaveTransaction s store isNew status = if isNew then left.unbindSession s else left := by
  obtain ⟨cleared, hreg, hsess, heq⟩ : ∃ cleared : Environment κ, cleared.registry = env.registry ∧
      Sessions.Closing [] env.sessions cleared.sessions ∧
      cleared = if status = .rolledBack then env.clear s else env := by
    refine ⟨_, ?_, ?_, rfl⟩
    · split <;> rfl
    · split
      · exact .update (fun _ h => h) (fun _ _ => rfl) (fun _ _ => rfl)
      · exact .refl _
  have hmark : Sessions.Closing [] env.sessions (cleared.synchronizeHolder store false).sessions :=
    hsess.trans (closing_synchronizeHolder store false cleared)
  have hflag : Sessions.Closing [] env.sessions
      ((cleared.synchronizeHolder store false).updateSession s (Session.setSynchronized false)).sessions :=
    hmark.trans (.update (fun _ h => h) (fun _ _ => rfl) (fun _ _ => rfl))
  refine ⟨if isNew then ((cleared.synchronizeHolder store false).updateSession s
      (Session.setSynchronized false)).note (.releasing s status)
    else (cleared.synchronizeHolder store false).updateSession s (Session.setSynchronized false), ?_, ?_⟩
  · have same : SameStanding env
        ((cleared.synchronizeHolder store false).updateSession s (Session.setSynchronized false)) := by
      refine ⟨fun d => ?_, ?_, ?_, hflag⟩
      · show (cleared.synchronizeHolder store false).bound d = env.bound d
        rw [bound_synchronizeHolder, bound_congr (congrArg Registry.holders hreg)]
      · show (cleared.synchronizeHolder store false).registry.deferred = env.registry.deferred
        rw [deferred_synchronizeHolder, hreg]
      · show (cleared.synchronizeHolder store false).registry.synchronizations = env.registry.synchronizations
        rw [synchronizations_synchronizeHolder, hreg]
    split
    · exact ⟨same.bound, same.deferred, same.synchronizations, same.sessions⟩
    · exact same
  · unfold leaveTransaction
    rw [← heq]
    cases isNew <;> rfl

theorem bound_leaveTransaction : (env.leaveTransaction s store isNew status).bound d =
    if isNew = true ∧ env.storeOf? s = some d then (env.bound d).erase s else env.bound d := by
  obtain ⟨left, same, h⟩ := leaveTransaction_eq s store isNew status env
  rw [h]
  cases isNew with
  | true => simp only [if_true, bound_unbindSession, same.bound, same.storeOf?, true_and]
  | false => simp [same.bound]

@[simp]
theorem synchronizations_leaveTransaction :
    (env.leaveTransaction s store isNew status).registry.synchronizations = env.registry.synchronizations := by
  obtain ⟨left, same, h⟩ := leaveTransaction_eq s store isNew status env
  rw [h, ← same.synchronizations]
  cases isNew with
  | true => exact synchronizations_unbindSession
  | false => rfl

theorem closing_leaveTransaction (s : SessionId) (store : StoreId) (isNew : Bool) (status : CompletionStatus)
    (env : Environment κ) : Sessions.Closing (if isNew && env.closesUnbound s then [s] else []) env.sessions
      (env.leaveTransaction s store isNew status).sessions := by
  obtain ⟨left, same, h⟩ := leaveTransaction_eq s store isNew status env
  rw [h, ← same.closesUnbound]
  cases isNew with
  | true => simpa using same.sessions.trans (closing_unbindSession s left)
  | false => exact same.sessions

theorem pending?_leaveTransaction : (env.leaveTransaction s store isNew status).pending? d =
    if isNew = true ∧ env.storeOf? s = some d ∧ s ∈ env.bound d then (env.pending? d).map (addPending · s)
    else env.pending? d := by
  obtain ⟨left, same, h⟩ := leaveTransaction_eq s store isNew status env
  rw [h]
  cases isNew with
  | true => simp only [if_true, pending?_unbindSession, same.bound, same.storeOf?, same.pending?, true_and]
  | false => simp [same.pending?]

/-- A session that leaves is changed, and others with it, in nothing but marks, counts and the connection. -/
theorem map_session?_leaveTransaction {β : Type} {g : Session → β} (clear : ∀ t : Session, g t.clear = g t)
    (mark : ∀ t : Session, g (t.setSynchronized false) = g t) (disconnect : ∀ t : Session, g t.disconnect = g t) :
    ((env.leaveTransaction s store isNew status).session? x).map g = (env.session? x).map g := by
  have hclear : ((if status = .rolledBack then env.clear s else env).session? x).map g = (env.session? x).map g := by
    split
    · exact Sessions.map_get?_update (fun _ h => h) (fun t _ => clear t)
    · rfl
  have hmark : ∀ at_ : Environment κ, ((at_.synchronizeHolder store false).session? x).map g =
      (at_.session? x).map g := by
    intro at_
    unfold synchronizeHolder
    cases at_.holder? store with
    | none => rfl
    | some holder => exact Sessions.map_get?_updateAll (fun _ => rfl) mark
  have hflag : ∀ at_ : Environment κ, ((at_.updateSession s (Session.setSynchronized false)).session? x).map g =
      (at_.session? x).map g := fun _ => Sessions.map_get?_update (fun _ h => h) (fun t _ => mark t)
  have hunbind : ∀ at_ : Environment κ, ((at_.unbindSession s).session? x).map g = (at_.session? x).map g := by
    intro at_
    obtain ⟨d, -, -, h⟩ | ⟨-, -, hsess⟩ := unbindSession_cases s at_
    · rw [h]
      show (((at_.removeBound s d).closeOrDefer s d).sessions.get? x).map g = (at_.sessions.get? x).map g
      rw [sessions_closeOrDefer, sessions_removeBound]
      split
      · rfl
      · exact Sessions.map_get?_update (fun _ h => h) (fun t _ => disconnect t)
    · simp only [session?, hsess]
  unfold leaveTransaction
  cases isNew with
  | true =>
    refine (hunbind (note (.releasing s status) _)).trans ?_
    exact (hflag _).trans ((hmark _).trans hclear)
  | false => exact (hflag _).trans ((hmark _).trans hclear)

/-! ### Many sessions -/

/-- The sessions among those that leave that were opened for a datastore. -/
def newcomers (env : Environment κ) (leaving : List Enlistment) (d : StoreId) : List SessionId :=
  (leaving.filter fun e => e.isNew && decide (env.storeOf? e.session = some d)).map (·.session)

theorem newcomers_congr {env' : Environment κ} (h : ∀ s, env'.storeOf? s = env.storeOf? s) :
    env'.newcomers leaving d = env.newcomers leaving d := by
  simp only [newcomers, h]

theorem mem_newcomers : s ∈ env.newcomers leaving d ↔
    env.storeOf? s = some d ∧ ∃ e ∈ leaving, e.session = s ∧ e.isNew = true := by
  simp only [newcomers, List.mem_map, List.mem_filter, Bool.and_eq_true, decide_eq_true_eq]
  constructor
  · rintro ⟨e, ⟨he, hnew, hstore⟩, rfl⟩
    exact ⟨hstore, e, he, rfl, hnew⟩
  · rintro ⟨hstore, e, he, rfl, hnew⟩
    exact ⟨e, ⟨he, hnew, hstore⟩, rfl⟩

theorem storeOf?_leaveTransaction (x : SessionId) :
    (env.leaveTransaction s store isNew status).storeOf? x = env.storeOf? x :=
  (closing_leaveTransaction s store isNew status env).store x

theorem bound_leaveAll (leaving : List Enlistment) (status : CompletionStatus) (env : Environment κ) :
    (env.leaveAll leaving status).bound d = (env.bound d).diff (env.newcomers leaving d) := by
  induction leaving generalizing env with
  | nil => rfl
  | cons e rest ih =>
    -- Leaving changes no datastore of a session, so that the newcomers are the same all along the way.
    rw [leaveAll_cons, ih, bound_leaveTransaction, newcomers_congr storeOf?_leaveTransaction]
    by_cases h : e.isNew = true ∧ env.storeOf? e.session = some d
    · rw [if_pos h]
      simp [newcomers, h]
    · rw [if_neg h]
      have : (e.isNew && decide (env.storeOf? e.session = some d)) = false := by simpa using h
      simp [newcomers, this]

theorem count_diff (l₁ l₂ : List SessionId) (x : SessionId) : (l₁.diff l₂).count x = l₁.count x - l₂.count x := by
  induction l₂ generalizing l₁ with
  | nil => rfl
  | cons y rest ih =>
    rw [List.diff_cons, ih, List.count_erase, List.count_cons]
    omega

@[simp]
theorem synchronizations_leaveAll :
    (env.leaveAll leaving status).registry.synchronizations = env.registry.synchronizations := by
  induction leaving generalizing env with
  | nil => rfl
  | cons e rest ih => rw [leaveAll_cons, ih, synchronizations_leaveTransaction]

theorem closing_leaveAll (leaving : List Enlistment) (status : CompletionStatus) (env : Environment κ) :
    ∃ closed, Sessions.Closing closed env.sessions (env.leaveAll leaving status).sessions := by
  induction leaving generalizing env with
  | nil => exact ⟨[], .refl _⟩
  | cons e rest ih =>
    obtain ⟨closed, h⟩ := ih (env.leaveTransaction e.session e.store e.isNew status)
    exact ⟨_, (closing_leaveTransaction e.session e.store e.isNew status env).trans h⟩

/-! ### Completions -/

section Complete
variable {conduct : Conduct κ} {callbacks : List (Synchronization κ)}

/-- The two phases of a completion that every callback goes through. -/
def conclude (conduct : Conduct κ) (status : CompletionStatus) (callbacks : List (Synchronization κ))
    (env : Environment κ) : Environment κ :=
  callbacks.foldl (fun env callback => callback.afterCompletion conduct status env)
    (callbacks.foldl (fun env callback => callback.beforeCompletion conduct env) env)

/-- A completion prepares the commit and then concludes, whether or not the preparation failed. -/
theorem complete_eq (conduct : Conduct κ) (status : CompletionStatus)
    (h : env.registry.synchronizations = some callbacks) : env.complete conduct status =
      ((match (prepareCommit conduct status callbacks env.clearSynchronization).1 with
        | none => .ok ()
        | some fault => .error fault),
      conclude conduct (settledStatus status (prepareCommit conduct status callbacks env.clearSynchronization).1)
        callbacks (prepareCommit conduct status callbacks env.clearSynchronization).2) := by
  unfold complete
  simp only [h]
  rcases prepareCommit conduct status callbacks env.clearSynchronization with ⟨failure, after⟩
  cases failure <;> rfl

end Complete
end Environment

/-- The steps of a completion of these callbacks, the custom ones included, keep a property. -/
structure Conduct.Keeps (conduct : Conduct κ) (callbacks : List (Synchronization κ)) (P : Environment κ → Prop) :
    Prop where
  flush : ∀ s store isNew, Synchronization.session s store isNew ∈ callbacks → ∀ env, P env →
    P ((env.note (.flushing s)).flush s).2
  failed : ∀ fault env, P env → P (env.note (.beforeCommitFailed fault))
  leave : ∀ s store isNew, Synchronization.session s store isNew ∈ callbacks → ∀ status env, P env →
    P (env.leaveTransaction s store isNew status)
  beforeCommit : ∀ callback env, P env → P (conduct.beforeCommit callback env).2
  beforeCompletion : ∀ callback env, P env → P (conduct.beforeCompletion callback env)
  afterCompletion : ∀ callback status env, P env → P (conduct.afterCompletion callback status env)

namespace Conduct.Keeps

variable {conduct : Conduct κ} {callbacks tried : List (Synchronization κ)} {P : Environment κ → Prop}
  {env : Environment κ} {status : CompletionStatus}

theorem beforeCommits (keeps : conduct.Keeps callbacks P) (among : ∀ callback ∈ tried, callback ∈ callbacks)
    (start : P env) : P (Environment.beforeCommits conduct tried env).2 := by
  induction tried generalizing env with
  | nil => exact start
  | cons callback rest ih =>
    have first : P (callback.beforeCommit conduct env).2 := by
      cases callback with
      | custom c => exact keeps.beforeCommit c env start
      | session s store isNew =>
        show P (if env.sessions.isConnected s then (env.note (.flushing s)).flush s else (.ok (), env)).2
        split
        · exact keeps.flush s store isNew (among _ List.mem_cons_self) env start
        · exact start
    unfold Environment.beforeCommits
    rcases hcall : callback.beforeCommit conduct env with ⟨outcome, after⟩
    rw [hcall] at first
    cases outcome with
    | ok done => exact ih (fun callback h => among callback (List.mem_cons_of_mem _ h)) first
    | error fault => exact keeps.failed fault after first

/-- What all steps of a completion keep, the completion keeps. -/
theorem complete (keeps : conduct.Keeps env.synchronizations P) (start : P env) (cleared : P env.clearSynchronization) :
    P (env.complete conduct status).2 := by
  cases hs : env.registry.synchronizations with
  | none =>
    unfold Environment.complete
    simp only [hs]
    exact start
  | some callbacks =>
    rw [Environment.synchronizations, hs, Option.getD_some] at keeps
    have prepared : P (Environment.prepareCommit conduct status callbacks env.clearSynchronization).2 := by
      unfold Environment.prepareCommit
      split
      · exact keeps.beforeCommits (fun _ h => h) cleared
      · exact cleared
    rw [Environment.complete_eq conduct status hs]
    refine List.foldlRecOn callbacks _ (List.foldlRecOn callbacks _ prepared ?_) ?_
    · intro at_ hat callback _
      cases callback with
      | custom c => exact keeps.beforeCompletion c at_ hat
      | session s store isNew => exact hat
    · intro at_ hat callback hmem
      cases callback with
      | custom c => exact keeps.afterCompletion c _ at_ hat
      | session s store isNew => exact keeps.leave s store isNew hmem _ at_ hat

end Conduct.Keeps
end Persistence
