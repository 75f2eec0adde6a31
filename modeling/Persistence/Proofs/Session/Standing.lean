import Persistence.Proofs.Session.Lookup
import Persistence.Session.Registry

/-! The standing of sessions: which sessions there are, the datastore of each, and which of them are
    connected. Nothing but a request to close a session changes its standing, and a session that was
    opened keeps its identity and its datastore for good. -/

namespace Persistence
namespace Sessions

variable {closed closed' : List SessionId} {old mid new sessions : Sessions} {id x : SessionId} {f : Session → Session}

/-- From `old` to `new` the sessions of `closed` are closed, and the standing of all others is kept. -/
structure Closing (closed : List SessionId) (old new : Sessions) : Prop where
  ids : new.map (·.id) = old.map (·.id)
  store : ∀ x, (new.get? x).map (·.store) = (old.get? x).map (·.store)
  connected : ∀ x, new.isConnected x = (old.isConnected x && !closed.contains x)

namespace Closing

theorem refl (sessions : Sessions) : Closing [] sessions sessions := ⟨rfl, fun _ => rfl, by simp⟩

theorem trans (h₁ : Closing closed old mid) (h₂ : Closing closed' mid new) : Closing (closed ++ closed') old new where
  ids := h₂.ids.trans h₁.ids
  store x := (h₂.store x).trans (h₁.store x)
  connected x := by
    rw [h₂.connected, h₁.connected]
    simp [Bool.and_assoc]

theorem of_eq (h : new = old) : Closing [] old new := h ▸ refl old

theorem isSome (h : Closing closed old new) : (new.get? x).isSome = (old.get? x).isSome := by
  have := congrArg Option.isSome (h.store x)
  simpa using this

theorem update (ids : ∀ s, s.id = id → (f s).id = id)
    (store : ∀ s, sessions.get? id = some s → (f s).store = s.store)
    (connected : ∀ s, sessions.get? id = some s → (f s).isConnected = s.isConnected) :
    Closing [] sessions (sessions.update id f) where
  ids := by
    rw [Sessions.update, List.map_map]
    apply List.map_congr_left
    intro s _
    by_cases h : s.id = id <;> simp [h, ids]
  store y := map_get?_update ids store
  connected y := by
    rw [isConnected_eq, isConnected_eq, map_get?_update ids connected]
    simp

theorem updateAll {ids : List SessionId} (keeps : ∀ s, (f s).id = s.id) (store : ∀ s, (f s).store = s.store)
    (connected : ∀ s, (f s).isConnected = s.isConnected) : Closing [] sessions (sessions.updateAll ids f) where
  ids := by
    rw [Sessions.updateAll, List.map_map]
    apply List.map_congr_left
    intro s _
    by_cases h : s.id ∈ ids <;> simp [h, keeps]
  store y := map_get?_updateAll keeps store
  connected y := by
    rw [isConnected_eq, isConnected_eq, map_get?_updateAll keeps connected]
    simp

theorem disconnect (sessions : Sessions) (id : SessionId) :
    Closing [id] sessions (sessions.update id Session.disconnect) where
  ids := by
    rw [Sessions.update, List.map_map]
    apply List.map_congr_left
    intro s _
    by_cases h : s.id = id <;> simp [h, Session.disconnect]
  store y := map_get?_update (fun _ h => h) (fun _ _ => rfl)
  connected y := by
    rw [isConnected_eq, isConnected_eq, get?_update (by simp [Session.disconnect])]
    by_cases h : y = id
    · subst h
      cases sessions.get? y <;> simp [Session.disconnect]
    · simp [h]

end Closing
end Sessions

namespace Environment

variable {κ : Type} {env : Environment κ} {s x : SessionId} {store d : StoreId}

/-- Whether a session was ever opened. -/
def Opened (env : Environment κ) (s : SessionId) : Prop := (env.session? s).isSome = true

/-- Whether a session is open now. -/
def Connected (env : Environment κ) (s : SessionId) : Prop := env.sessions.isConnected s = true

/-- The datastore that a session was opened for. -/
def storeOf? (env : Environment κ) (s : SessionId) : Option StoreId := (env.session? s).map (·.store)

theorem Connected.opened (h : env.Connected s) : env.Opened s := by
  obtain ⟨t, ht, -⟩ := Sessions.isConnected_iff.mp h
  simp [Opened, session?, ht]

theorem opened_iff_storeOf? : env.Opened s ↔ ∃ d, env.storeOf? s = some d := by
  unfold Opened storeOf?
  cases env.session? s <;> simp

/-! ### A session that is replaced -/

section Replacing
variable {env' mid : Environment κ} {t t' : Session}

/-- From `env` to `env'` nothing but one session is replaced. -/
def Replaces (s : SessionId) (t : Session) (env env' : Environment κ) : Prop :=
  ∀ x, env'.session? x = if x = s then some t else env.session? x

namespace Replaces

theorem self (h : Replaces s t env env') : env'.session? s = some t := (h s).trans (if_pos rfl)

theorem other (h : Replaces s t env env') {x : SessionId} (hx : x ≠ s) : env'.session? x = env.session? x :=
  (h x).trans (if_neg hx)

theorem refl (ht : env.session? s = some t) : Replaces s t env env := by
  intro x
  split
  next here => rw [here, ht]
  · rfl

theorem trans (h₁ : Replaces s t env mid) (h₂ : Replaces s t' mid env') : Replaces s t' env env' := by
  intro x
  rw [h₂ x]
  split
  · rfl
  next hx => exact h₁.other hx

theorem updateSession (t' : Session) (ht : env.session? s = some t) (same : t'.id = t.id) :
    Replaces s t' env (env.updateSession s fun _ => t') := by
  intro x
  have found : env.sessions.get? s = some t := ht
  have named : t'.id = s := same.trans (Sessions.get?_id found)
  show (env.sessions.update s fun _ => t').get? x = _
  rw [Sessions.get?_update fun _ _ => named]
  split
  next here => rw [here, found, Option.map_some]
  · rfl

end Replaces

end Replacing

/-! ### Operations on sessions -/

theorem sessions_disconnect (env : Environment κ) (s : SessionId) :
    (env.disconnect s).sessions = env.sessions.update s Session.disconnect := by
  unfold disconnect
  cases h : env.session? s with
  | none => exact (Sessions.update_of_get?_eq_none h).symm
  | some t => rfl

@[simp]
theorem registry_disconnect (env : Environment κ) (s : SessionId) : (env.disconnect s).registry = env.registry := by
  unfold disconnect
  cases env.session? s <;> rfl

theorem sessions_closeSession (env : Environment κ) (s : SessionId) :
    (env.closeSession s).sessions = env.sessions.update s Session.disconnect :=
  sessions_disconnect _ s

theorem closing_disconnect (s : SessionId) (env : Environment κ) :
    Sessions.Closing [s] env.sessions (env.disconnect s).sessions := by
  rw [sessions_disconnect]
  exact .disconnect _ _

theorem closing_closeSession (s : SessionId) (env : Environment κ) :
    Sessions.Closing [s] env.sessions (env.closeSession s).sessions :=
  closing_disconnect s (env.note (.closing s))

@[simp]
theorem registry_closeSession (env : Environment κ) (s : SessionId) : (env.closeSession s).registry = env.registry :=
  registry_disconnect _ s

section OnSession
variable {α : Type} {f : Session → Except Fault (α × Session)}

theorem registry_onSession (s : SessionId) (f : Session → Except Fault (α × Session)) (env : Environment κ) :
    (env.onSession s f).2.registry = env.registry := by
  unfold onSession
  cases env.session? s with
  | none => rfl
  | some t => cases h : f t <;> simp [h, updateSession]

/-- An operation on a session that keeps its standing keeps the standing of all sessions. -/
theorem closing_onSession (keeps : ∀ t a t', f t = .ok (a, t') →
    t'.id = t.id ∧ t'.store = t.store ∧ t'.isConnected = t.isConnected) :
    Sessions.Closing [] env.sessions (env.onSession s f).2.sessions := by
  unfold onSession
  cases h : env.session? s with
  | none => exact .refl _
  | some t =>
    cases hf : f t with
    | error fault =>
      simp only [hf]
      exact .refl _
    | ok result =>
      obtain ⟨a, t'⟩ := result
      simp only [hf]
      obtain ⟨hid, hstore, hconn⟩ := keeps t a t' hf
      -- The session that is written back bears the identity that it was looked up by.
      have ht : t.id = s := Sessions.get?_id h
      refine .update (fun _ _ => hid.trans ht) ?_ ?_
      · intro u hu
        cases h.symm.trans hu
        exact hstore
      · intro u hu
        cases h.symm.trans hu
        exact hconn

end OnSession

@[simp]
theorem sessions_atSite (action : Action Unit) : (env.atSite s action).2.sessions = env.sessions := by
  unfold atSite
  cases (env.session? s).bind fun t => env.store? t.store <;> rfl

@[simp]
theorem registry_atSite (action : Action Unit) : (env.atSite s action).2.registry = env.registry := by
  unfold atSite
  cases (env.session? s).bind fun t => env.store? t.store <;> rfl

theorem closing_flush (s : SessionId) (env : Environment κ) :
    Sessions.Closing [] env.sessions (env.flush s).2.sessions := by
  apply closing_onSession
  intro t a t' h
  unfold Session.flush Session.ensureConnected at h
  cases hc : t.isConnected with
  | false => simp [hc, bind, Except.bind] at h
  | true =>
    simp [hc, bind, Except.bind, pure, Except.pure] at h
    obtain ⟨-, rfl⟩ := h
    exact ⟨rfl, rfl, rfl⟩

/-- A connected session can be flushed, a closed one cannot. -/
theorem flush_of_connected {t : Session} (ht : env.session? s = some t) (h : t.isConnected = true) :
    env.flush s = (.ok (), env.updateSession s fun _ => { t with flushes := t.flushes + 1 }) := by
  simp [flush, onSession, ht, Session.flush, Session.ensureConnected, h, bind, Except.bind, pure, Except.pure]

theorem flush_of_closed {t : Session} (ht : env.session? s = some t) (down : t.isConnected = false) :
    env.flush s = (.error (.session (.closed t.id)), env) := by
  simp [flush, onSession, ht, Session.flush, Session.ensureConnected, down, bind, Except.bind]

theorem closing_finishTransaction (finish : Transaction → Except Fault Transaction) (s : SessionId)
    (env : Environment κ) : Sessions.Closing [] env.sessions (env.finishTransaction finish s).2.sessions := by
  have inner : Sessions.Closing [] env.sessions
      (env.onSession s fun t => t.finishTransaction finish).2.sessions := by
    apply closing_onSession
    intro t a t' h
    unfold Session.finishTransaction at h
    cases ht : t.transaction with
    | none => simp [ht] at h
    | some u =>
      cases hu : finish u with
      | error fault => simp [ht, hu, bind, Except.bind] at h
      | ok v =>
        simp [ht, hu, bind, Except.bind, pure, Except.pure] at h
        obtain ⟨-, rfl⟩ := h
        exact ⟨rfl, rfl, rfl⟩
  unfold finishTransaction
  rcases hr : env.onSession s fun t => t.finishTransaction finish with ⟨answer, after⟩
  rw [hr] at inner
  cases answer <;> exact inner

/-- Beginning a transaction is an operation on the session, but for the next identity and a note. -/
theorem begin_eq (s : SessionId) (env : Environment κ) :
    (env.begin s).2.sessions =
      (env.onSession s fun t => do return ((), ← t.begin ⟨env.nextTransaction⟩)).2.sessions ∧
    (env.begin s).2.registry =
      (env.onSession s fun t => do return ((), ← t.begin ⟨env.nextTransaction⟩)).2.registry := by
  unfold begin
  cases h : env.onSession s fun t => do return ((), ← t.begin ⟨env.nextTransaction⟩) with
  | mk answer after =>
    simp only [h]
    cases answer <;> exact ⟨rfl, rfl⟩

theorem closing_begin (s : SessionId) (env : Environment κ) :
    Sessions.Closing [] env.sessions (env.begin s).2.sessions := by
  rw [(begin_eq s env).1]
  apply closing_onSession
  intro t a t' h
  unfold Session.begin Session.ensureConnected at h
  cases hc : t.isConnected with
  | false => simp [hc, bind, Except.bind] at h
  | true =>
    cases ha : t.activeTransaction? with
    | some active => simp [hc, ha, bind, Except.bind, throw, throwThe, MonadExceptOf.throw] at h
    | none =>
      simp [hc, ha, bind, Except.bind, pure, Except.pure] at h
      obtain ⟨-, rfl⟩ := h
      exact ⟨rfl, rfl, rfl⟩

theorem closing_commit (s : SessionId) (env : Environment κ) :
    Sessions.Closing [] env.sessions (env.commit s).2.sessions := by
  have inner := closing_flush s env
  unfold commit
  rcases hr : env.flush s with ⟨answer, after⟩
  rw [hr] at inner
  cases answer with
  | error fault => exact inner
  | ok done => exact inner.trans (closing_finishTransaction Transaction.commit s after)

theorem registry_finishTransaction (finish : Transaction → Except Fault Transaction) (s : SessionId)
    (env : Environment κ) : (env.finishTransaction finish s).2.registry = env.registry := by
  have inner := registry_onSession s (fun t => t.finishTransaction finish) env
  unfold finishTransaction
  rcases hr : env.onSession s fun t => t.finishTransaction finish with ⟨answer, after⟩
  rw [hr] at inner
  cases answer <;> exact inner

theorem registry_flush (s : SessionId) (env : Environment κ) : (env.flush s).2.registry = env.registry :=
  registry_onSession s _ env

theorem registry_begin (s : SessionId) (env : Environment κ) : (env.begin s).2.registry = env.registry :=
  (begin_eq s env).2.trans (registry_onSession s _ env)

theorem registry_commit (s : SessionId) (env : Environment κ) : (env.commit s).2.registry = env.registry := by
  have inner := registry_flush s env
  unfold commit
  rcases hr : env.flush s with ⟨answer, after⟩
  rw [hr] at inner
  cases answer with
  | error fault => exact inner
  | ok done => exact (registry_finishTransaction Transaction.commit s after).trans inner

end Environment
end Persistence
