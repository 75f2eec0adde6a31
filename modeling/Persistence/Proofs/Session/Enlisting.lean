import Persistence.Proofs.Session.Run

/-! How often a session that is handed out during a transaction is enlisted in it, and how often it is flushed when
    the transaction is committed. A commit flushes a connected session once for each of its callbacks. Asking for a
    session enlists it by the mark of its holder: it ends with exactly one callback if the mark agrees with the
    callbacks of the session that serves, and only then. The mark stays when the callbacks are dropped, and it
    covers sessions that are bound after it was made; so the two need not agree. -/

namespace Persistence

variable {κ : Type}

/-- Whether a callback is one of a session. -/
def Synchronization.isOf (s : SessionId) : Synchronization κ → Bool
  | .session x _ _ => x == s
  | .custom _ => false

namespace Environment

variable {env after : Environment κ} {s x : SessionId} {store d : StoreId} {allow isNew : Bool}
  {conduct : Conduct κ} {status : CompletionStatus} {callbacks : List (Synchronization κ)}

/-- How many callbacks of the running transaction are those of a session. -/
def registrations (env : Environment κ) (s : SessionId) : Nat := env.synchronizations.countP (·.isOf s)

/-- How often a session was flushed. -/
def flushes (env : Environment κ) (s : SessionId) : Nat := ((env.session? s).map (·.flushes)).getD 0

/-- The mark of the holder of a datastore says truly whether the session that serves is enlisted, which it then is
once. -/
def InStep (env : Environment κ) (store : StoreId) : Prop :=
  ∀ s, env.serving? store = some s → env.registrations s = if env.isMarked store then 1 else 0

/-! ### What a commit flushes -/

/-- The connection of a session and its flushes are left alone. -/
structure Spared (s : SessionId) (env after : Environment κ) : Prop where
  connected : after.Connected s ↔ env.Connected s
  flushes : after.flushes s = env.flushes s

theorem Spared.refl (s : SessionId) (env : Environment κ) : Spared s env env := ⟨Iff.rfl, rfl⟩

end Environment

open Environment in
/-- The custom callbacks neither close nor flush a session. -/
structure Conduct.Spares (conduct : Conduct κ) (s : SessionId) : Prop where
  beforeCommit : ∀ callback env, Spared s env (conduct.beforeCommit callback env).2
  beforeCompletion : ∀ callback env, Spared s env (conduct.beforeCompletion callback env)
  afterCompletion : ∀ callback status env, Spared s env (conduct.afterCompletion callback status env)

namespace Environment

variable {env after : Environment κ} {s x : SessionId} {store d : StoreId} {allow isNew : Bool}
  {conduct : Conduct κ} {status : CompletionStatus} {callbacks : List (Synchronization κ)}

theorem flushes_flush (h : env.Connected x) : ∃ after, env.flush x = (.ok (), after) ∧
    (∀ s, after.Connected s ↔ env.Connected s) ∧
    ∀ s, after.flushes s = env.flushes s + if x = s then 1 else 0 := by
  obtain ⟨t, ht, hconn⟩ := Sessions.isConnected_iff.mp h
  have found : env.session? x = some t := ht
  have hflush := flush_of_connected found hconn
  refine ⟨_, hflush, ?_, ?_⟩
  · intro s
    have hclosing := closing_flush x env
    rw [hflush] at hclosing
    unfold Connected
    rw [hclosing.connected]
    simp
  · intro s
    have replaced := Replaces.updateSession { t with flushes := t.flushes + 1 } found rfl
    unfold flushes
    rw [replaced s]
    by_cases hxs : s = x
    · subst hxs
      simp [found]
    · simp [hxs, Ne.symm hxs]

/-- Before a commit that does not fail, a connected session is flushed once for each of its callbacks. -/
theorem flushes_beforeCommits (spares : conduct.Spares s) (h : beforeCommits conduct callbacks env = (none, after))
    (hs : env.Connected s) : after.flushes s = env.flushes s + callbacks.countP (·.isOf s) := by
  induction callbacks generalizing env with
  | nil =>
    cases h
    rfl
  | cons callback rest ih =>
    rw [List.countP_cons]
    cases callback with
    | custom c =>
      have spared := spares.beforeCommit c env
      unfold beforeCommits at h
      rcases hc : conduct.beforeCommit c env with ⟨outcome, mid⟩
      rw [hc] at spared
      simp only [Synchronization.beforeCommit, hc] at h
      cases outcome with
      | error fault => cases h
      | ok done =>
        rw [ih h (spared.connected.mpr hs), spared.flushes]
        rfl
    | session x d isNew =>
      unfold beforeCommits at h
      cases hx : env.sessions.isConnected x with
      | false =>
        have hne : ¬x = s := by
          rintro rfl
          rw [Connected, hx] at hs
          cases hs
        simp only [Synchronization.beforeCommit, hx, Bool.false_eq_true, if_false] at h
        rw [ih h hs]
        simp [Synchronization.isOf, hne]
      | true =>
        -- A flush closes no session, so that `s` is still connected for the callbacks that follow.
        obtain ⟨mid, hflush, hconn, hcount⟩ :=
          (flushes_flush hx : ∃ mid, (env.note (.flushing x)).flush x = (.ok (), mid) ∧ _)
        simp only [Synchronization.beforeCommit, hx, if_true, hflush] at h
        rw [ih h ((hconn s).mpr hs), hcount]
        have : (env.note (.flushing x)).flushes s = env.flushes s := rfl
        rw [this, Synchronization.isOf]
        by_cases hxs : x = s
        · simp only [hxs, beq_self_eq_true, if_true]
          omega
        · simp [hxs]

theorem flushes_leaveTransaction : (env.leaveTransaction x d isNew status).flushes s = env.flushes s := by
  unfold flushes
  rw [map_session?_leaveTransaction (fun _ => rfl) (fun _ => rfl) (fun _ => rfl)]

theorem flushes_foldl {f : Environment κ → Synchronization κ → Environment κ}
    (keeps : ∀ callback at_, (f at_ callback).flushes s = at_.flushes s) :
    (callbacks.foldl f env).flushes s = env.flushes s := by
  induction callbacks generalizing env with
  | nil => rfl
  | cons callback rest ih => rw [List.foldl_cons, ih, keeps]

/-- After the preparation of a commit nothing is flushed. -/
theorem flushes_conclude (spares : conduct.Spares s) :
    (conclude conduct status callbacks env).flushes s = env.flushes s := by
  unfold conclude
  rw [flushes_foldl, flushes_foldl]
  · intro callback at_
    cases callback with
    | custom c => exact (spares.beforeCompletion c at_).flushes
    | session x d isNew => rfl
  · intro callback at_
    cases callback with
    | custom c => exact (spares.afterCompletion c status at_).flushes
    | session x d isNew => exact flushes_leaveTransaction

/-- A commit that does not fail flushes a connected session once for each of its callbacks. -/
theorem flushes_complete (spares : conduct.Spares s) (hs : env.Connected s)
    (h : env.complete conduct .committed = (.ok (), after)) :
    after.flushes s = env.flushes s + env.registrations s := by
  cases hsync : env.registry.synchronizations with
  | none =>
    unfold complete at h
    rw [hsync] at h
    cases h
  | some callbacks =>
    rw [complete_eq conduct .committed hsync] at h
    have hreg : env.registrations s = callbacks.countP (·.isOf s) := by simp [registrations, synchronizations, hsync]
    have hprep : prepareCommit conduct .committed callbacks env.clearSynchronization =
        beforeCommits conduct callbacks env.clearSynchronization := if_pos rfl
    rw [hprep] at h
    rcases hb : beforeCommits conduct callbacks env.clearSynchronization with ⟨failure, mid⟩
    rw [hb] at h
    cases failure with
    | some fault => cases h
    | none =>
      obtain rfl := (Prod.mk.inj h).2
      rw [flushes_conclude spares, flushes_beforeCommits spares hb hs, hreg]
      rfl

theorem spares_idle (s : SessionId) : (Conduct.idle : Conduct κ).Spares s :=
  ⟨fun _ env => .refl s env, fun _ env => .refl s env, fun _ _ env => .refl s env⟩

/-! ### How often a session is enlisted -/

/-- What asking for a session adds to its callbacks: a new one has one callback, and the one that serves gets
another one unless its holder is marked. -/
theorem registrations_getOrCreate (wf : env.WellFormed) (active : env.isSynchronizing = true)
    (h : env.getOrCreate store allow = (.ok s, after)) :
    (env.serving? store = some s ∧
      after.registrations s = env.registrations s + if env.isMarked store then 0 else 1) ∨
    (env.serving? store = none ∧ after.registrations s = 1) := by
  obtain ⟨callbacks, hsync⟩ : ∃ callbacks, env.registry.synchronizations = some callbacks :=
    Option.isSome_iff_exists.mp active
  have hjoin : (env.joinCurrent store).2.registry.synchronizations = some (callbacks ++ env.joining store) := by
    rw [synchronizations_joinCurrent, hsync, Option.map_some]
  have hreg : ∀ x, env.registrations x = callbacks.countP (·.isOf x) := by
    intro x
    simp [registrations, synchronizations, hsync]
  obtain ⟨t, hs, hg⟩ | ⟨-, fault, refused, hg, -, -⟩ | ⟨hs, opened, hregistry, -, hg⟩ :=
    getOrCreate_cases store allow env
  · left
    obtain ⟨rfl, rfl⟩ : s = t ∧ after = (env.joinCurrent store).2 := by
      rw [hg] at h
      cases h
      exact ⟨rfl, rfl⟩
    refine ⟨hs, ?_⟩
    rw [hreg, registrations, synchronizations, hjoin, Option.getD_some, List.countP_append, joining, hs]
    cases env.isMarked store <;> simp [Synchronization.isOf]
  · rw [hg] at h
    cases h
  · right
    rw [hg, active, if_pos rfl] at h
    cases h
    -- The identity of the new session is one that no callback can bear yet.
    have hfresh : env.registrations env.fresh = 0 := by
      rw [registrations, List.countP_eq_zero]
      intro callback hmem hof
      cases callback with
      | custom c => cases hof
      | session x d isNew =>
        obtain rfl : x = env.fresh := by simpa [Synchronization.isOf] using hof
        exact wf.numbered.not_opened_fresh (wf.enlisted _ d isNew hmem)
    have hnone : env.joining store = [] := by simp [joining, hs]
    refine ⟨hs, ?_⟩
    rw [registrations, synchronizations, synchronizations_enterTransaction, hregistry, hjoin, hnone, Option.map_some,
      Option.getD_some, List.append_nil, List.countP_append, ← hreg, hfresh]
    simp [Synchronization.isOf]

/-- A session that is handed out during a transaction has exactly one callback then if and only if the mark of the
holder was in step; and whatever happens from then on, a commit that does not fail flushes the session, if it is
connected, once for each callback that it has by then. -/
theorem registrations_getOrCreate_eq_one_iff (reachable : env.Reachable) (active : env.isSynchronizing = true)
    (h : env.getOrCreate store allow = (.ok s, after)) :
    (after.registrations s = 1 ↔ env.InStep store) ∧
    ∀ acts conduct done, conduct.Spares s → (after.performAll acts).Connected s →
      (after.performAll acts).complete conduct .committed = (.ok (), done) →
      done.flushes s = (after.performAll acts).flushes s + (after.performAll acts).registrations s := by
  refine ⟨?_, fun acts conduct done spares hs hdone => flushes_complete spares hs hdone⟩
  obtain ⟨hserving, hcount⟩ | ⟨hserving, hcount⟩ := registrations_getOrCreate reachable.wellFormed active h
  · have hstep : env.InStep store ↔ env.registrations s = if env.isMarked store then 1 else 0 := by
      constructor
      · exact fun hin => hin s hserving
      · intro heq t ht
        obtain rfl : s = t := Option.some.inj (hserving.symm.trans ht)
        exact heq
    rw [hstep, hcount]
    cases env.isMarked store <;> simp
  · refine iff_of_true hcount ?_
    intro t ht
    rw [hserving] at ht
    cases ht

/-- A session that was bound before the transaction began joins it once, and the commit flushes it once. -/
theorem registrations_of_joined :
    let env : Environment Unit := (withStores 1).performAll [.connect ⟨1⟩, .bind ⟨1⟩ ⟨1⟩, .startSynchronization]
    let after := (env.getOrCreate ⟨1⟩ false).2
    after.registrations ⟨1⟩ = 1 ∧ (after.complete .idle .committed).2.flushes ⟨1⟩ = 1 := by
  intro env after
  have reachable : env.Reachable := reachable_withStores 1 (by decide)
  have hget : env.getOrCreate ⟨1⟩ false = (.ok ⟨1⟩, after) := rfl
  have once := registrations_getOrCreate_eq_one_iff reachable (by decide) hget
  have instep : env.InStep ⟨1⟩ := by
    intro s hs
    obtain rfl : (⟨1⟩ : SessionId) = s := Option.some.inj ((by decide : env.serving? ⟨1⟩ = some ⟨1⟩).symm.trans hs)
    decide
  have connected : after.sessions.isConnected ⟨1⟩ = true := by decide
  have committed : after.complete .idle .committed = (.ok (), (after.complete .idle .committed).2) := rfl
  have flushed := once.2 [] .idle _ (spares_idle ⟨1⟩) connected committed
  exact ⟨once.1.mpr instep, flushed.trans (by decide)⟩

/-- After the callbacks of a transaction were dropped, the mark keeps the same session out of the next one. -/
theorem registrations_after_clear :
    ¬∀ (env after : Environment Unit) (store : StoreId) (allow : Bool) (s : SessionId), env.Reachable →
      env.isSynchronizing = true → env.getOrCreate store allow = (.ok s, after) → after.registrations s = 1 := by
  intro claim
  let env : Environment Unit := (withStores 1).performAll [.connect ⟨1⟩, .bind ⟨1⟩ ⟨1⟩, .startSynchronization,
    .getOrCreate ⟨1⟩ false, .clearSynchronization, .startSynchronization]
  have reachable : env.Reachable := reachable_withStores 1 (by decide)
  have once : (env.getOrCreate ⟨1⟩ false).2.registrations ⟨1⟩ = 1 :=
    claim env _ ⟨1⟩ false ⟨1⟩ reachable (by decide) rfl
  have never : (env.getOrCreate ⟨1⟩ false).2.registrations ⟨1⟩ = 0 := by decide
  rw [never] at once
  cases once

end Environment
end Persistence
