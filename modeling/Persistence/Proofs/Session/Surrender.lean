import Persistence.Proofs.Session.Departure

/-! Sessions that are given up. Unbinding, releasing, the end of a scoped execution and the end of a transaction hand
    sessions over, each for one datastore. Where that datastore has an open window they wait there, each once and in
    the order in which they came; else they are closed. So a session is disconnected by an explicit request, or with
    the end of a window in which it waits, or because it is handed over for a datastore without a window. -/

namespace Persistence

variable {κ : Type}

namespace Environment

variable {env : Environment κ} {s x : SessionId} {store d e : StoreId} {isNew : Bool} {status : CompletionStatus}
  {pending : List SessionId}

/-! ### Handing over -/

/-- What is handed over for a datastore when a session is unbound: the session, if it is bound for that datastore and
belongs to it. -/
def givenUp (env : Environment κ) (d : StoreId) (s : SessionId) : List SessionId :=
  if env.storeOf? s = some d ∧ s ∈ env.bound d then [s] else []

/-- What is handed over for a datastore when sessions leave their transactions, one after the other. -/
def departing (d : StoreId) (status : CompletionStatus) : List Enlistment → Environment κ → List SessionId
  | [], _ => []
  | e :: rest, env => (if e.isNew then env.givenUp d e.session else []) ++
      departing d status rest (env.leaveTransaction e.session e.store e.isNew status)

theorem mem_givenUp : x ∈ env.givenUp d s ↔ x = s ∧ env.storeOf? s = some d ∧ s ∈ env.bound d := by
  unfold givenUp
  split
  next h => simp [h]
  next h => simp [h]

theorem mem_departing {leaving : List Enlistment} (h : s ∈ departing d status leaving env) :
    s ∈ leaving.map (·.session) := by
  induction leaving generalizing env with
  | nil => cases h
  | cons first rest ih =>
    rcases List.mem_append.mp h with h | h
    · split at h
      · rw [(mem_givenUp.mp h).1]
        exact List.mem_cons_self
      · cases h
    · exact List.mem_cons_of_mem _ (ih h)

/-! ### Windows -/

theorem pending?_openDeferral : (env.openDeferral store).pending? d =
    if d = store then some ((env.pending? d).getD []) else env.pending? d := by
  have before : ∀ d, env.pending? d = (env.registry.deferred.getD []).get? d := by
    intro d
    unfold pending?
    cases env.registry.deferred <;> rfl
  show ((env.registry.deferred.getD []).put store _).get? d = _
  rw [Keyed.get?_put, before]
  split
  next h => rw [h]
  · rfl

theorem pending?_withoutWindow {windows : Keyed (List SessionId) StoreId} :
    (env.setDeferred (withoutWindow windows store)).pending? d = if d = store then none else windows.get? d := by
  have after : (env.setDeferred (withoutWindow windows store)).pending? d = (windows.erase store).get? d := by
    show (withoutWindow windows store).bind (·.get? d) = _
    unfold withoutWindow
    cases windows.erase store <;> rfl
  rw [after, Keyed.get?_erase]

/-- Processing ends the window of the datastore and no other. -/
theorem pending?_processDeferral :
    (env.processDeferral store).2.pending? d = if d = store then none else env.pending? d := by
  obtain ⟨hnone, h⟩ | ⟨windows, pending, hd, -, h⟩ := processDeferral_cases store env
  · rw [h]
    split
    next hds => rw [hds, hnone]
    · rfl
  · have before : env.pending? d = windows.get? d := by simp [pending?, hd]
    rw [h, pending?_congr (congrArg Registry.deferred (registry_closeAll pending _)), before]
    exact pending?_withoutWindow

theorem pending?_releaseSession (h : env.pending? d = some pending) : (env.releaseSession s store).pending? d =
    some ((if store = d ∧ s ∉ env.bound d then [s] else []).foldl addPending pending) := by
  unfold releaseSession
  simp only [isBound_iff]
  by_cases hds : store = d
  · subst hds
    by_cases hmem : s ∈ env.bound store
    · simp [hmem, h]
    · simp [hmem, h, pending?_closeOrDefer]
  · by_cases hmem : s ∈ env.bound store
    · simp [hmem, hds, h]
    · simp [hmem, hds, Ne.symm hds, h, pending?_closeOrDefer]

theorem pending?_leaveAll (leaving : List Enlistment) (h : env.pending? d = some pending) :
    (env.leaveAll leaving status).pending? d = some ((departing d status leaving env).foldl addPending pending) := by
  induction leaving generalizing env pending with
  | nil => exact h
  | cons first rest ih =>
    have left : (env.leaveTransaction first.session first.store first.isNew status).pending? d =
        some ((if first.isNew then env.givenUp d first.session else []).foldl addPending pending) := by
      rw [pending?_leaveTransaction, h]
      unfold givenUp
      cases first.isNew with
      | false => rfl
      | true => by_cases hhome : env.storeOf? first.session = some d ∧ first.session ∈ env.bound d <;> simp [hhome]
    rw [leaveAll_cons, ih left, departing, List.foldl_append]

end Environment

namespace Act

open Environment

variable {act : Act κ} {env : Environment κ} {s : SessionId} {store d : StoreId} {pending : List SessionId}

/-- The sessions that an act hands over for a datastore, in order. -/
def handsOver (d : StoreId) : Act κ → Environment κ → List SessionId
  | .unbind s, env => env.givenUp d s
  | .release s store, env => if store = d ∧ s ∉ env.bound d then [s] else []
  | .closeOrDefer s store, _ => if store = d then [s] else []
  | .leave s store, _ => if store = d then [s] else []
  | .depart leaving status, env => departing d status leaving env
  | _, _ => []

theorem mem_names_of_handsOver (h : s ∈ act.handsOver d env) : s ∈ act.names := by
  cases act with
  | unbind t =>
    rw [(mem_givenUp.mp h).1]
    exact List.mem_singleton_self t
  | release t store => exact (List.mem_ite_nil_right.mp h).2
  | closeOrDefer t store => exact (List.mem_ite_nil_right.mp h).2
  | leave t store => exact (List.mem_ite_nil_right.mp h).2
  | depart leaving status => exact mem_departing h
  | _ => cases h

/-- What is handed over for a datastore with an open window waits there, each session once. -/
theorem pending?_perform (other : act ≠ .processDeferral d) (h : env.pending? d = some pending) :
    (act.perform env).pending? d = some ((act.handsOver d env).foldl addPending pending) := by
  cases act with
  | unbind s =>
    rw [perform, pending?_unbindSession, h, handsOver, givenUp]
    split <;> rfl
  | release s store => exact pending?_releaseSession h
  | closeOrDefer s store =>
    rw [perform, pending?_closeOrDefer, handsOver]
    by_cases hds : store = d
    · subst hds
      rw [if_pos rfl, if_pos rfl, h]
      rfl
    · rw [if_neg (Ne.symm hds), if_neg hds, h]
      rfl
  | leave s store =>
    have same : ∀ d, (env.removeBound s store).pending? d = env.pending? d := fun _ => pending?_congr deferred_removeBound
    rw [perform, pending?_closeOrDefer, same, same, handsOver]
    by_cases hds : store = d
    · subst hds
      rw [if_pos rfl, if_pos rfl, h]
      rfl
    · rw [if_neg (Ne.symm hds), if_neg hds, h]
      rfl
  | openDeferral store =>
    rw [perform, pending?_openDeferral, h]
    split <;> rfl
  | processDeferral store =>
    have hds : d ≠ store := fun hds => other (by rw [hds])
    rw [perform, pending?_processDeferral, if_neg hds]
    exact h
  | depart leaving status => exact pending?_leaveAll leaving h
  | _ =>
    rw [pending?_congr (deferred_perform rfl env)]
    exact h

/-! ### Disconnecting -/

/-- Whether an act disconnects a session. -/
def Disconnects (act : Act κ) (env : Environment κ) (s : SessionId) : Prop :=
  env.Connected s ∧ ¬(act.perform env).Connected s

theorem mem_of_closing {closed : List SessionId} {after : Environment κ}
    (h : Sessions.Closing closed env.sessions after.sessions) (hs : env.Connected s) (hnot : ¬after.Connected s) :
    s ∈ closed := by
  unfold Connected at hs hnot
  rw [h.connected, hs] at hnot
  simpa using hnot

theorem mem_closeOrDefer {t : SessionId} {before : Environment κ}
    (hs : before.Connected s) (hnot : ¬(before.closeOrDefer t store).Connected s) :
    s = t ∧ before.pending? store = none := by
  have hmem := mem_of_closing (closing_closeOrDefer t store before) hs hnot
  split at hmem
  · cases hmem
  next closed =>
    exact ⟨List.mem_singleton.mp hmem, by simpa [isDeferring] using closed⟩

/-- Of the sessions that leave, one is disconnected only if it is handed over for a datastore without a window. -/
theorem departing_of_disconnected {leaving : List Enlistment} {status : CompletionStatus} (hs : env.Connected s)
    (hnot : ¬(env.leaveAll leaving status).Connected s) :
    ∃ d, env.pending? d = none ∧ s ∈ departing d status leaving env := by
  induction leaving generalizing env with
  | nil => exact absurd hs hnot
  | cons first rest ih =>
    by_cases hleft : (env.leaveTransaction first.session first.store first.isNew status).Connected s
    · obtain ⟨d, hnone, hmem⟩ := ih hleft hnot
      refine ⟨d, ?_, List.mem_append_right _ hmem⟩
      rw [pending?_leaveTransaction] at hnone
      split at hnone
      · simpa using hnone
      · exact hnone
    · rw [connected_leaveTransaction, not_and, not_not] at hleft
      obtain ⟨hnew, rfl, hcloses⟩ := hleft hs
      obtain ⟨d, hown, hmem, hnone⟩ := closesUnbound_eq_true_iff.mp hcloses
      refine ⟨d, hnone, List.mem_append_left _ ?_⟩
      rw [if_pos hnew]
      exact mem_givenUp.mpr ⟨rfl, hown, hmem⟩

/-- A session is disconnected by an explicit request, with the window in which it waits, or when it is handed over for
a datastore that has no window. -/
theorem disconnects_cases (h : act.Disconnects env s) :
    act = .close s ∨ act = .disconnect s ∨
      (∃ d pending, act = .processDeferral d ∧ env.pending? d = some pending ∧ s ∈ pending) ∨
      ∃ d, env.pending? d = none ∧ s ∈ act.handsOver d env := by
  obtain ⟨hs, hnot⟩ := h
  cases act with
  | unbind t =>
    have hmem := mem_of_closing (closing_unbindSession t env) hs hnot
    split at hmem
    next hcloses =>
      obtain rfl := List.mem_singleton.mp hmem
      obtain ⟨d, hown, hbound, hnone⟩ := closesUnbound_eq_true_iff.mp hcloses
      exact Or.inr (Or.inr (Or.inr ⟨d, hnone, mem_givenUp.mpr ⟨rfl, hown, hbound⟩⟩))
    · cases hmem
  | release t store =>
    change ¬(env.releaseSession t store).Connected s at hnot
    unfold releaseSession at hnot
    split at hnot
    · exact absurd hs hnot
    next hfree =>
      rw [isBound_iff] at hfree
      obtain ⟨rfl, hnone⟩ := mem_closeOrDefer hs hnot
      exact Or.inr (Or.inr (Or.inr ⟨store, hnone, by simp [handsOver, hfree]⟩))
  | close t =>
    rw [List.mem_singleton.mp (mem_of_closing (closing_closeSession t env) hs hnot)]
    exact Or.inl rfl
  | closeOrDefer t store =>
    obtain ⟨rfl, hnone⟩ := mem_closeOrDefer hs hnot
    exact Or.inr (Or.inr (Or.inr ⟨store, hnone, by simp [handsOver]⟩))
  | processDeferral store =>
    have hmem := mem_of_closing closing_processDeferral hs hnot
    cases hp : env.pending? store with
    | none =>
      rw [hp] at hmem
      cases hmem
    | some pending =>
      rw [hp] at hmem
      exact Or.inr (Or.inr (Or.inl ⟨store, pending, rfl, hp, hmem⟩))
  | leave t store =>
    have hs : (env.removeBound t store).Connected s := by
      unfold Connected
      rwa [sessions_removeBound]
    obtain ⟨rfl, hnone⟩ := mem_closeOrDefer hs hnot
    rw [pending?_congr deferred_removeBound] at hnone
    exact Or.inr (Or.inr (Or.inr ⟨store, hnone, by simp [handsOver]⟩))
  | depart leaving status => exact Or.inr (Or.inr (Or.inr (departing_of_disconnected hs hnot)))
  | disconnect t =>
    rw [List.mem_singleton.mp (mem_of_closing (closing_disconnect t env) hs hnot)]
    exact Or.inr (Or.inl rfl)
  | _ => cases canClose_of_disconnected hs hnot

end Act
end Persistence
