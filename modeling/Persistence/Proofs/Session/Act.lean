import Persistence.Proofs.Session.Leaving

/-! Everything that can happen to the sessions and the registry of a thread, act by act. Each act is one public
    operation; scoped executions and completions are runs of acts, since what their bodies and callbacks do are
    acts again. An act names the sessions that it is about, and fits an environment in which they were opened. -/

namespace Persistence

/-- One thing that can happen. -/
inductive Act (κ : Type) where
  | addStore (name : String) (site : Site) (failure : Option Fault)
  | setAvailable (store : StoreId) (flag : Bool)
  | visit (session : SessionId) (action : Action Unit)
  /-- A session is made without its datastore. -/
  | make (store : StoreId)
  | connect (store : StoreId)
  | getOrCreate (store : StoreId) (allow : Bool)
  | bind (session : SessionId) (store : StoreId)
  | bindWithCreator (session : SessionId) (store : StoreId) (creator : String)
  | unbind (session : SessionId)
  | release (session : SessionId) (store : StoreId)
  | close (session : SessionId)
  | closeOrDefer (session : SessionId) (store : StoreId)
  | openDeferral (store : StoreId)
  | processDeferral (store : StoreId)
  /-- A scoped execution gives up the session that it opened. -/
  | leave (session : SessionId) (store : StoreId)
  | startSynchronization
  | clearSynchronization
  | register (callback : Synchronization κ)
  /-- Enlisted sessions leave their transactions at a completion, one after the other. -/
  | depart (leaving : List Enlistment) (status : CompletionStatus)
  | disconnect (session : SessionId)
  | flush (session : SessionId)
  | clear (session : SessionId)
  | begin (session : SessionId)
  | commit (session : SessionId)
  | rollback (session : SessionId)
  | setSynchronized (session : SessionId) (flag : Bool)
  | note (notice : Notice)
  | record (event : ScriptEvent)

variable {κ : Type}

namespace Act

/-- What an act makes of an environment. -/
def perform : Act κ → Environment κ → Environment κ
  | .addStore name site failure, env => env.addStore name site failure
  | .setAvailable store flag, env => env.setAvailable store flag
  | .visit session action, env => (env.atSite session action).2
  | .make store, env => env.addSession env.fresh store
  | .connect store, env => (env.connect store).2
  | .getOrCreate store allow, env => (env.getOrCreate store allow).2
  | .bind session store, env => env.bindSession session store
  | .bindWithCreator session store creator, env => env.bindWithCreator session store creator
  | .unbind session, env => env.unbindSession session
  | .release session store, env => env.releaseSession session store
  | .close session, env => env.closeSession session
  | .closeOrDefer session store, env => env.closeOrDefer session store
  | .openDeferral store, env => env.openDeferral store
  | .processDeferral store, env => (env.processDeferral store).2
  | .leave session store, env => (env.removeBound session store).closeOrDefer session store
  | .startSynchronization, env => env.startSynchronization.2
  | .clearSynchronization, env => env.clearSynchronization
  | .register callback, env => (env.registerSynchronization callback).2
  | .depart leaving status, env => env.leaveAll leaving status
  | .disconnect session, env => env.disconnect session
  | .flush session, env => (env.flush session).2
  | .clear session, env => env.clear session
  | .begin session, env => (env.begin session).2
  | .commit session, env => (env.commit session).2
  | .rollback session, env => (env.rollback session).2
  | .setSynchronized session flag, env => env.updateSession session (Session.setSynchronized flag)
  | .note notice, env => env.note notice
  | .record event, env => env.record event

/-- The sessions that an act is about. -/
def names : Act κ → List SessionId
  | .visit session _ | .bind session _ | .bindWithCreator session _ _ | .unbind session | .release session _
  | .close session | .closeOrDefer session _ | .leave session _ | .register (.session session _ _)
  | .disconnect session | .flush session | .clear session | .begin session | .commit session | .rollback session
  | .setSynchronized session _ => [session]
  | .depart leaving _ => leaving.map (·.session)
  | _ => []

/-- An act is possible only for sessions that were opened. -/
def Fits (act : Act κ) (env : Environment κ) : Prop := ∀ s ∈ act.names, env.Opened s

/-- Whether an act can close sessions at all. -/
def canClose : Act κ → Bool
  | .unbind _ | .release _ _ | .close _ | .closeOrDefer _ _ | .processDeferral _ | .leave _ _ | .depart _ _
  | .disconnect _ => true
  | _ => false

/-- Whether an act leaves every holder as it is. -/
def keepsHolders : Act κ → Bool
  | .getOrCreate _ _ | .bind _ _ | .bindWithCreator _ _ _ | .unbind _ | .leave _ _ | .depart _ _ => false
  | _ => true

/-- Whether an act leaves the windows as they are. -/
def keepsWindows : Act κ → Bool
  | .unbind _ | .release _ _ | .closeOrDefer _ _ | .openDeferral _ | .processDeferral _ | .leave _ _ | .depart _ _ =>
    false
  | _ => true

/-- Whether scoped executions and completions consist of such acts, but for what their bodies and callbacks do. -/
def isRoutine : Act κ → Bool
  | .connect _ | .bind _ _ | .leave _ _ | .clearSynchronization | .flush _ | .depart _ _ | .note _ => true
  | _ => false

/-- An act that puts a session into the stack of a datastore. -/
def Binds (act : Act κ) (s : SessionId) (store : StoreId) : Prop :=
  act = .bind s store ∨ ∃ creator, act = .bindWithCreator s store creator

/-- An act that makes a callback one of those that wait for the completion. -/
def Enlists (act : Act κ) (env : Environment κ) (callback : Synchronization κ) : Prop :=
  act = .register callback ∨ ∃ store allow s isNew, act = .getOrCreate store allow ∧
    callback = .session s store isNew ∧ (env.getOrCreate store allow).1 = .ok s

end Act

namespace Environment

variable {env env' : Environment κ} {s x : SessionId} {store d : StoreId} {closed : List SessionId}

/-! ### Standing -/

/-- From `env` to `env'` at most one session is opened, under the next identity, and those of `closed` are closed. -/
def Passes (closed : List SessionId) (env env' : Environment κ) : Prop :=
  ∃ opened : List Session, Sessions.Closing closed (env.sessions ++ opened) env'.sessions ∧
    (opened = [] ∨ ∃ store, opened = [{ id := env.fresh, store }])

/-- Identities are given out in order, so that the next one is new. -/
def Numbered (env : Environment κ) : Prop := ∀ s, env.Opened s → s.number ≤ env.sessions.length

theorem Numbered.not_opened_fresh (h : env.Numbered) : ¬env.Opened env.fresh := by
  intro hopen
  have := h _ hopen
  simp only [fresh] at this
  omega

namespace Passes

theorem of_closing (h : Sessions.Closing closed env.sessions env'.sessions) : Passes closed env env' :=
  ⟨[], by simpa using h, Or.inl rfl⟩

theorem of_eq (h : env'.sessions = env.sessions) : Passes [] env env' := of_closing (.of_eq h)

theorem of_opened (store : StoreId)
    (h : Sessions.Closing closed (env.sessions ++ [{ id := env.fresh, store }]) env'.sessions) :
    Passes closed env env' :=
  ⟨_, h, Or.inr ⟨store, rfl⟩⟩

theorem get?_opened {opened : List Session} (h : opened = [] ∨ ∃ store, opened = [{ id := env.fresh, store }])
    (hx : env.Opened x ∨ x ≠ env.fresh) : Sessions.get? (env.sessions ++ opened) x = env.sessions.get? x := by
  rcases h with rfl | ⟨store, rfl⟩
  · rw [List.append_nil]
  · rw [Sessions.get?_append]
    rcases hx with hx | hx
    · obtain ⟨t, ht⟩ := Option.isSome_iff_exists.mp hx
      change env.sessions.get? x = some t at ht
      rw [ht, Option.some_or]
    · rw [if_neg (Ne.symm hx), Option.or_none]

theorem storeOf? (h : Passes closed env env') (hx : env.Opened x) : env'.storeOf? x = env.storeOf? x := by
  obtain ⟨opened, hclosing, hopened⟩ := h
  show (env'.sessions.get? x).map (·.store) = (env.sessions.get? x).map (·.store)
  rw [hclosing.store, get?_opened hopened (Or.inl hx)]

theorem opened (h : Passes closed env env') (hx : env.Opened x) : env'.Opened x := by
  rw [opened_iff_storeOf?, h.storeOf? hx, ← opened_iff_storeOf?]
  exact hx

theorem opened_or_fresh (h : Passes closed env env') (hx : env'.Opened x) : env.Opened x ∨ x = env.fresh := by
  obtain ⟨opened, hclosing, hopened⟩ := h
  by_cases hf : x = env.fresh
  · exact Or.inr hf
  · left
    have := hclosing.isSome (x := x)
    rw [get?_opened hopened (Or.inr hf)] at this
    exact this.symm.trans hx

theorem numbered (h : Passes closed env env') (hn : env.Numbered) : env'.Numbered := by
  obtain ⟨opened, hclosing, hopened⟩ := h
  have hlen : env'.sessions.length = (env.sessions ++ opened).length := by
    simpa using congrArg List.length hclosing.ids
  intro x hx
  rw [hlen, List.length_append]
  rcases opened_or_fresh ⟨opened, hclosing, hopened⟩ hx with hx | rfl
  · exact Nat.le_add_right_of_le (hn x hx)
  · rcases hopened with rfl | ⟨store, rfl⟩
    · have := hclosing.isSome (x := env.fresh)
      rw [List.append_nil] at this
      exact absurd (this.symm.trans hx) hn.not_opened_fresh
    · simp [fresh]

/-- Of the sessions that were opened before, a connected one was connected then and was not closed. -/
theorem connected_iff (h : Passes closed env env') (hx : env.Opened x) :
    env'.Connected x ↔ env.Connected x ∧ x ∉ closed := by
  obtain ⟨opened, hclosing, hopened⟩ := h
  have hget := get?_opened hopened (Or.inl hx)
  unfold Connected
  rw [hclosing.connected, Sessions.isConnected_eq, hget, ← Sessions.isConnected_eq]
  simp

end Passes

end Environment
end Persistence
