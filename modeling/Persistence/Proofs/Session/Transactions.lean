import Persistence.Proofs.Session.Run

/-! Transactions of single sessions. Nothing but to begin, to commit or to roll back one changes the transaction of a
    session, so that every session has none or an active one. A commit flushes the session before it looks for the
    transaction; so it fails without a trace just if the session is closed, while the other two always do. -/

namespace Persistence

variable {κ : Type}

/-! ### Transactions that stay -/

namespace Sessions

variable {old mid new sessions : Sessions} {id : SessionId} {f : Session → Session}

/-- From `old` to `new` every session keeps its transaction, and new sessions have none. -/
def KeepTransactions (old new : Sessions) : Prop :=
  ∀ x, (new.get? x).bind (·.transaction) = (old.get? x).bind (·.transaction)

namespace KeepTransactions

theorem refl (sessions : Sessions) : KeepTransactions sessions sessions := fun _ => rfl

theorem trans (h₁ : KeepTransactions old mid) (h₂ : KeepTransactions mid new) : KeepTransactions old new :=
  fun x => (h₂ x).trans (h₁ x)

theorem of_eq (h : new = old) : KeepTransactions old new := h ▸ refl old

theorem of_map (h : ∀ x, (new.get? x).map (·.transaction) = (old.get? x).map (·.transaction)) :
    KeepTransactions old new := by
  intro x
  have same := congrArg (·.bind id) (h x)
  simpa only [Option.bind_map, Function.id_comp] using same

theorem update (ids : ∀ s, s.id = id → (f s).id = id)
    (same : ∀ s, sessions.get? id = some s → (f s).transaction = s.transaction) :
    KeepTransactions sessions (sessions.update id f) :=
  .of_map fun _ => map_get?_update ids same

theorem updateAll {ids : List SessionId} (keeps : ∀ s, (f s).id = s.id) (same : ∀ s, (f s).transaction = s.transaction) :
    KeepTransactions sessions (sessions.updateAll ids f) :=
  .of_map fun _ => map_get?_updateAll keeps same

theorem append {s : Session} (idle : s.transaction = none) : KeepTransactions sessions (sessions ++ [s]) := by
  intro x
  rw [get?_append]
  cases sessions.get? x with
  | some t => rfl
  | none => by_cases here : s.id = x <;> simp [here, idle]

theorem disconnect : KeepTransactions sessions (sessions.update id Session.disconnect) :=
  .update (fun _ h => h) fun _ _ => rfl

end KeepTransactions
end Sessions

namespace Environment

open Sessions (KeepTransactions)

variable {env : Environment κ} {s : SessionId} {store : StoreId} {allow : Bool} {t : Session}

theorem keep_closeOrDefer (s : SessionId) (store : StoreId) (env : Environment κ) :
    KeepTransactions env.sessions (env.closeOrDefer s store).sessions := by
  rw [sessions_closeOrDefer]
  split
  · exact .refl _
  · exact .disconnect

theorem keep_closeAll (ids : List SessionId) (env : Environment κ) :
    KeepTransactions env.sessions (ids.foldl (fun env session => env.closeSession session) env).sessions := by
  induction ids generalizing env with
  | nil => exact .refl _
  | cons s rest ih =>
    have first : KeepTransactions env.sessions (env.closeSession s).sessions := by
      rw [sessions_closeSession]
      exact .disconnect
    exact first.trans (ih _)

theorem keep_processDeferral : KeepTransactions env.sessions (env.processDeferral store).2.sessions := by
  obtain ⟨-, h⟩ | ⟨windows, pending, -, -, h⟩ := processDeferral_cases store env
  · rw [h]
    exact .refl _
  · rw [h]
    exact keep_closeAll pending ((env.setDeferred (withoutWindow windows store)).note _)

theorem keep_bindSession (s : SessionId) (store : StoreId) (env : Environment κ) :
    KeepTransactions env.sessions (env.bindSession s store).sessions := by
  unfold bindSession
  cases env.holder? store with
  | none => exact .refl _
  | some holder =>
    dsimp only [Holder.push, setHolder]
    split
    · exact .update (fun _ h => h) fun _ _ => rfl
    · exact .refl _

theorem keep_synchronizeHolder (store : StoreId) (flag : Bool) (env : Environment κ) :
    KeepTransactions env.sessions (env.synchronizeHolder store flag).sessions := by
  unfold synchronizeHolder
  cases env.holder? store with
  | none => exact .refl _
  | some holder => exact .updateAll (fun _ => rfl) fun _ => rfl

theorem keep_unbindSession : KeepTransactions env.sessions (env.unbindSession s).sessions := by
  obtain ⟨d, -, -, h⟩ | ⟨-, -, h⟩ := unbindSession_cases s env
  · have left := keep_closeOrDefer s d (env.removeBound s d)
    rw [sessions_removeBound] at left
    rwa [h]
  · exact .of_eq h

theorem keep_joinCurrent : KeepTransactions env.sessions (env.joinCurrent store).2.sessions := by
  obtain same | ⟨holder, marked⟩ := sessions_joinCurrent store env
  · exact .of_eq same
  · rw [marked]
    exact keep_synchronizeHolder store true (env.setHolder store holder)

theorem keep_connect : KeepTransactions env.sessions (env.connect store).2.sessions := by
  obtain ⟨fault, h⟩ | ⟨opened, h, -, sessions⟩ := connect_cases store env
  · rw [h]
    exact .refl _
  · rw [h, sessions]
    exact .append rfl

theorem keep_enterTransaction : KeepTransactions env.sessions (env.enterTransaction s store).sessions := by
  rw [enterTransaction, sessions_enlist]
  exact (keep_bindSession s store (env.note (.registeringNew s))).trans (keep_synchronizeHolder store true _)

theorem keep_getOrCreate : KeepTransactions env.sessions (env.getOrCreate store allow).2.sessions := by
  obtain ⟨s, -, h⟩ | ⟨-, fault, refused, h, -, sessions⟩ | ⟨-, opened, -, sessions, h⟩ :=
    getOrCreate_cases store allow env
  · rw [h]
    exact keep_joinCurrent
  · rw [h, sessions]
    exact keep_joinCurrent
  · have added : KeepTransactions env.sessions opened.sessions := by
      rw [sessions]
      exact .append rfl
    rw [h]
    dsimp only
    split
    · exact added.trans keep_enterTransaction
    · exact added

theorem keep_leaveAll (leaving : List Enlistment) (status : CompletionStatus) (env : Environment κ) :
    KeepTransactions env.sessions (env.leaveAll leaving status).sessions := by
  induction leaving generalizing env with
  | nil => exact .refl _
  | cons e rest ih =>
    have first : KeepTransactions env.sessions (env.leaveTransaction e.session e.store e.isNew status).sessions :=
      .of_map fun x => map_session?_leaveTransaction (fun _ => rfl) (fun _ => rfl) fun _ => rfl
    exact first.trans (ih _)

theorem keep_flush (s : SessionId) (env : Environment κ) : KeepTransactions env.sessions (env.flush s).2.sessions := by
  cases ht : env.session? s with
  | none => exact .of_eq (by simp [flush, onSession, ht])
  | some t =>
    cases up : t.isConnected with
    | false => exact .of_eq (by simp [flush_of_closed ht up])
    | true =>
      rw [flush_of_connected ht up]
      refine .update (fun _ _ => (Sessions.get?_id ht : t.id = s)) fun u hu => ?_
      cases ht.symm.trans hu
      rfl

end Environment

namespace Act

open Sessions (KeepTransactions)

/-- Whether an act is about the transaction of a session. -/
def isTransactional : Act κ → Bool
  | .begin _ | .commit _ | .rollback _ => true
  | _ => false

open Environment in
theorem keep_perform {act : Act κ} (h : act.isTransactional = false) (env : Environment κ) :
    KeepTransactions env.sessions (act.perform env).sessions := by
  cases act with
  | begin s => cases h
  | commit s => cases h
  | rollback s => cases h
  | visit s action => exact .of_eq (sessions_atSite action)
  | make store => exact .append rfl
  | connect store => exact keep_connect
  | getOrCreate store allow => exact keep_getOrCreate
  | bind s store => exact keep_bindSession s store env
  | bindWithCreator s store creator => exact .of_eq sessions_bindWithCreator
  | unbind s => exact keep_unbindSession
  | release s store =>
    show KeepTransactions env.sessions (env.releaseSession s store).sessions
    unfold releaseSession
    split
    · exact .refl _
    · exact keep_closeOrDefer s store env
  | close s => exact keep_closeAll [s] env
  | closeOrDefer s store => exact keep_closeOrDefer s store env
  | processDeferral store => exact keep_processDeferral
  | leave s store =>
    have left := keep_closeOrDefer s store (env.removeBound s store)
    rwa [sessions_removeBound] at left
  | startSynchronization =>
    show KeepTransactions env.sessions env.startSynchronization.2.sessions
    unfold Environment.startSynchronization
    split <;> exact .refl _
  | register callback =>
    show KeepTransactions env.sessions (env.registerSynchronization callback).2.sessions
    unfold registerSynchronization
    split
    · exact .of_eq (sessions_enlist callback)
    · exact .refl _
  | depart leaving status => exact keep_leaveAll leaving status env
  | disconnect s =>
    show KeepTransactions env.sessions (env.disconnect s).sessions
    rw [sessions_disconnect]
    exact .disconnect
  | flush s => exact keep_flush s env
  | clear s => exact .update (fun _ h => h) fun _ _ => rfl
  | setSynchronized s flag => exact .update (fun _ h => h) fun _ _ => rfl
  | addStore name site failure => exact .refl _
  | setAvailable store flag => exact .refl _
  | openDeferral store => exact .refl _
  | clearSynchronization => exact .refl _
  | note notice => exact .refl _
  | record event => exact .refl _

end Act

namespace Environment

variable {env env' : Environment κ} {s : SessionId} {t : Session}

/-! ### Transactions that begin or end -/

theorem activeTransaction?_eq (active : ∀ u, t.transaction = some u → u.isActive = true) :
    t.activeTransaction? = t.transaction.map (·.id) := by
  unfold Session.activeTransaction?
  cases held : t.transaction with
  | none => rfl
  | some u => rw [Option.filter_some, if_pos (active u held)]

section Operations
variable (ht : env.session? s = some t) (active : ∀ u, t.transaction = some u → u.isActive = true)

include ht active

theorem begin_cases :
    (t.isConnected = true ∧ t.transaction = none ∧ ∃ begun, env.begin s = (.ok ⟨env.nextTransaction⟩, begun) ∧
      Replaces s { t with transaction := some { id := ⟨env.nextTransaction⟩ } } env begun) ∨
    ¬(t.isConnected = true ∧ t.transaction = none) ∧ ∃ fault, env.begin s = (.error fault, env) := by
  have idle := activeTransaction?_eq active
  by_cases up : t.isConnected = true
  case neg =>
    refine Or.inr ⟨fun h => up h.1, .session (.closed t.id), ?_⟩
    simp [begin, onSession, ht, Session.begin, Session.ensureConnected, up, bind, Except.bind]
  case pos =>
    cases held : t.transaction with
    | some u =>
      refine Or.inr ⟨by simp, .transaction (.alreadyActive t.id u.id), ?_⟩
      simp [begin, onSession, ht, Session.begin, Session.ensureConnected, up, idle, held, bind, Except.bind, throw,
        throwThe, MonadExceptOf.throw]
    | none =>
      have replaced := Replaces.updateSession { t with transaction := some { id := ⟨env.nextTransaction⟩ } } ht rfl
      refine Or.inl ⟨up, rfl, note (.began ⟨env.nextTransaction⟩ s)
        { env.updateSession s fun _ => { t with transaction := some { id := ⟨env.nextTransaction⟩ } } with
          nextTransaction := env.nextTransaction + 1 }, ?_, replaced⟩
      simp [begin, onSession, ht, Session.begin, Session.ensureConnected, up, idle, held, bind, Except.bind, pure,
        Except.pure, updateSession]

theorem finishTransaction_cases (target : TransactionState) :
    (t.transaction.isSome = true ∧ ∃ ended, env.finishTransaction (·.finish target) s = (.ok (), ended) ∧
      Replaces s { t with transaction := none } env ended) ∨
    t.transaction = none ∧ ∃ fault, env.finishTransaction (·.finish target) s = (.error fault, env) := by
  cases held : t.transaction with
  | none =>
    refine Or.inr ⟨rfl, .transaction (.noTransaction t.id), ?_⟩
    simp [finishTransaction, onSession, ht, Session.finishTransaction, held]
  | some u =>
    have finished : u.finish target = .ok { u with state := target } := if_pos (active u held)
    have replaced := Replaces.updateSession { t with transaction := none } ht rfl
    refine Or.inl ⟨rfl, (env.updateSession s fun _ => { t with transaction := none }).note (.finished u.id target), ?_,
      replaced⟩
    simp [finishTransaction, onSession, ht, Session.finishTransaction, held, finished, bind, Except.bind, pure,
      Except.pure]

/-- Whatever becomes of a commit, a connected session has been flushed. -/
theorem commit_cases :
    (t.isConnected = true ∧ t.transaction.isSome = true ∧ ∃ ended, env.commit s = (.ok (), ended) ∧
      Replaces s { t with transaction := none, flushes := t.flushes + 1 } env ended) ∨
    (t.isConnected = true ∧ t.transaction = none ∧ ∃ fault flushed, env.commit s = (.error fault, flushed) ∧
      Replaces s { t with flushes := t.flushes + 1 } env flushed) ∨
    t.isConnected = false ∧ ∃ fault, env.commit s = (.error fault, env) := by
  by_cases up : t.isConnected = true
  case neg =>
    have down := Bool.eq_false_iff.mpr up
    exact .inr (.inr ⟨down, _, by rw [commit, flush_of_closed ht down]⟩)
  case pos =>
    have flush := flush_of_connected ht up
    have flushed := Replaces.updateSession { t with flushes := t.flushes + 1 } ht rfl
    -- The flush keeps the transaction, so that the rest is to finish it.
    have step : env.commit s = finishTransaction (·.finish .committed) s
        (env.updateSession s fun _ => { t with flushes := t.flushes + 1 }) := by
      rw [commit, flush]
      rfl
    obtain ⟨held, ended, h, replaced⟩ | ⟨idle, fault, h⟩ := finishTransaction_cases flushed.self active .committed
    · exact .inl ⟨up, held, ended, step.trans h, flushed.trans replaced⟩
    · exact .inr (.inl ⟨up, idle, fault, _, step.trans h, flushed⟩)

end Operations

/-! ### Runs -/

/-- Every transaction of a session is active. -/
def TransactionsActive (env : Environment κ) : Prop :=
  ∀ x t u, env.session? x = some t → t.transaction = some u → u.isActive = true

namespace TransactionsActive

theorem keep (h : env.TransactionsActive) (kept : Sessions.KeepTransactions env.sessions env'.sessions) :
    env'.TransactionsActive := by
  intro x t u ht hu
  have held : (env.session? x).bind (·.transaction) = some u := by
    refine (kept x).symm.trans ?_
    rw [show env'.sessions.get? x = some t from ht]
    exact hu
  obtain ⟨t', ht', hu'⟩ := Option.bind_eq_some_iff.mp held
  exact h x t' u ht' hu'

theorem replace (h : env.TransactionsActive) (replaced : Replaces s t env env')
    (active : ∀ u, t.transaction = some u → u.isActive = true) : env'.TransactionsActive := by
  intro x t' u ht hu
  by_cases hx : x = s
  · subst hx
    cases replaced.self.symm.trans ht
    exact active u hu
  · exact h x t' u ((replaced.other hx).symm.trans ht) hu

theorem perform (h : env.TransactionsActive) {act : Act κ} (fits : act.Fits env) :
    (act.perform env).TransactionsActive := by
  cases other : act.isTransactional with
  | false => exact h.keep (act.keep_perform other env)
  | true =>
    -- Each of the three is about an opened session, and replaces no other one.
    cases act with
    | begin s =>
      obtain ⟨t, ht⟩ := Option.isSome_iff_exists.mp (fits s (List.mem_singleton_self s))
      show TransactionsActive (env.begin s).2
      obtain ⟨-, -, begun, e, replaced⟩ | ⟨-, fault, e⟩ := begin_cases ht fun u => h s t u ht
      · rw [e]
        exact h.replace replaced fun u hu => by cases hu; rfl
      · rwa [e]
    | commit s =>
      obtain ⟨t, ht⟩ := Option.isSome_iff_exists.mp (fits s (List.mem_singleton_self s))
      show TransactionsActive (env.commit s).2
      obtain ⟨-, -, ended, e, replaced⟩ | ⟨-, -, fault, flushed, e, replaced⟩ | ⟨-, fault, e⟩ :=
        commit_cases ht fun u => h s t u ht
      · rw [e]
        exact h.replace replaced nofun
      · rw [e]
        exact h.replace replaced fun u => h s t u ht
      · rwa [e]
    | rollback s =>
      obtain ⟨t, ht⟩ := Option.isSome_iff_exists.mp (fits s (List.mem_singleton_self s))
      show TransactionsActive (env.finishTransaction (·.finish .rolledBack) s).2
      obtain ⟨-, ended, e, replaced⟩ | ⟨-, fault, e⟩ :=
        finishTransaction_cases ht (fun u => h s t u ht) .rolledBack
      · rw [e]
        exact h.replace replaced nofun
      · rwa [e]
    | _ => cases other

end TransactionsActive

theorem Reachable.transactionsActive (h : env.Reachable) : env.TransactionsActive := by
  induction h with
  | blank h =>
    intro x t u ht
    simp [session?, Sessions.get?, h.sessions] at ht
  | step act _ fits ih => exact ih.perform fits

/-! ### Success and failure -/

/-- A result is a success just if `may` holds; the session has become `done` then, and `failed` otherwise, and no other
session is touched. -/
structure Settles {α : Type} (env : Environment κ) (s : SessionId) (result : Except Fault α × Environment κ) (may : Prop)
    (done : α → Session) (failed : Session) : Prop where
  succeeds : (∃ a, result.1 = .ok a) ↔ may
  done : ∀ a, result.1 = .ok a → Replaces s (done a) env result.2
  failed : ∀ fault, result.1 = .error fault → Replaces s failed env result.2

namespace Settles

variable {α : Type} {result : Except Fault α × Environment κ} {may : Prop} {done : α → Session} {failed : Session}

theorem of_ok {a : α} (ok : result = (.ok a, env')) (holds : may) (replaced : Replaces s (done a) env env') :
    Settles env s result may done failed := by
  subst ok
  refine ⟨iff_of_true ⟨a, rfl⟩ holds, ?_, nofun⟩
  rintro _ ⟨⟩
  exact replaced

theorem of_error {fault : Fault} (refused : result = (.error fault, env')) (fails : ¬may)
    (replaced : Replaces s failed env env') : Settles env s result may done failed := by
  subst refused
  exact ⟨iff_of_false nofun fails, nofun, fun _ _ => replaced⟩

end Settles

section Settling
variable (h : env.Reachable) (ht : env.session? s = some t)

include h ht

theorem settles_begin : Settles env s (env.begin s) (t.isConnected = true ∧ t.transaction = none)
    (fun id => { t with transaction := some { id } }) t := by
  obtain ⟨up, free, begun, ok, replaced⟩ | ⟨fails, fault, refused⟩ := begin_cases ht fun u => h.transactionsActive s t u ht
  · exact .of_ok ok ⟨up, free⟩ replaced
  · exact .of_error refused fails (.refl ht)

theorem settles_commit : Settles env s (env.commit s) (t.isConnected = true ∧ t.transaction.isSome = true)
    (fun _ => { t with transaction := none, flushes := t.flushes + 1 })
    (if t.isConnected = true then { t with flushes := t.flushes + 1 } else t) := by
  obtain ⟨up, held, ended, ok, replaced⟩ | ⟨up, free, fault, flushed, refused, replaced⟩ | ⟨down, fault, refused⟩ :=
    commit_cases ht fun u => h.transactionsActive s t u ht
  · exact .of_ok ok ⟨up, held⟩ replaced
  · refine .of_error refused (fun may => ?_) ?_
    · rw [free] at may
      exact Bool.false_ne_true may.2
    · rwa [if_pos up]
  · refine .of_error refused (fun may => Bool.eq_false_iff.mp down may.1) ?_
    rw [if_neg (Bool.eq_false_iff.mp down)]
    exact .refl ht

theorem settles_rollback : Settles env s (env.rollback s) (t.transaction.isSome = true)
    (fun _ => { t with transaction := none }) t := by
  obtain ⟨held, ended, ok, replaced⟩ | ⟨free, fault, refused⟩ :=
    finishTransaction_cases ht (fun u => h.transactionsActive s t u ht) .rolledBack
  · exact .of_ok ok held replaced
  · refine .of_error refused ?_ (.refl ht)
    rw [free]
    exact Bool.false_ne_true

/-- A commit that fails leaves no trace just if the session is closed or has a transaction. -/
theorem commit_traceless_iff :
    (∀ fault, (env.commit s).1 = .error fault → (env.commit s).2.session? s = some t) ↔
      (t.isConnected = true → t.transaction.isSome = true) := by
  obtain ⟨up, held, ended, ok, -⟩ | ⟨up, free, fault, flushed, refused, replaced⟩ | ⟨down, fault, refused⟩ :=
    commit_cases ht fun u => h.transactionsActive s t u ht
  · rw [ok]
    exact iff_of_true nofun fun _ => held
  · rw [refused, free]
    refine iff_of_false (fun kept => ?_) fun all => Bool.false_ne_true (all up)
    have flushes := congrArg Session.flushes (Option.some.inj (replaced.self.symm.trans (kept fault rfl)))
    exact Nat.succ_ne_self _ flushes
  · rw [refused, down]
    exact iff_of_true (fun _ _ => ht) nofun

/-- What the operations on transactions make of a session, on every run. -/
theorem transacts :
    (∀ u, t.transaction = some u → u.isActive = true) ∧
    Settles env s (env.begin s) (t.isConnected = true ∧ t.transaction = none)
      (fun id => { t with transaction := some { id } }) t ∧
    Settles env s (env.commit s) (t.isConnected = true ∧ t.transaction.isSome = true)
      (fun _ => { t with transaction := none, flushes := t.flushes + 1 })
      (if t.isConnected = true then { t with flushes := t.flushes + 1 } else t) ∧
    Settles env s (env.rollback s) (t.transaction.isSome = true) (fun _ => { t with transaction := none }) t ∧
    ((∀ fault, (env.commit s).1 = .error fault → (env.commit s).2.session? s = some t) ↔
      (t.isConnected = true → t.transaction.isSome = true)) :=
  ⟨fun u => h.transactionsActive s t u ht, settles_begin h ht, settles_commit h ht, settles_rollback h ht,
    commit_traceless_iff h ht⟩

end Settling

/-- A flushed session has a transaction, and is committed. -/
theorem transacts_after_flush :
    let env : Environment Unit := (withStores 1).performAll [.connect ⟨1⟩, .begin ⟨1⟩, .flush ⟨1⟩]
    (∃ t, env.session? ⟨1⟩ = some t ∧ t.isConnected = true ∧ t.transaction.isSome = true ∧ t.flushes = 1) ∧
      (env.commit ⟨1⟩).1 = .ok () ∧
      ∃ t, (env.commit ⟨1⟩).2.session? ⟨1⟩ = some t ∧ t.transaction = none ∧ t.flushes = 2 := by
  intro env
  have reachable : env.Reachable := reachable_withStores 1 (by decide)
  obtain ⟨-, -, commit, -⟩ := transacts reachable (s := ⟨1⟩) rfl
  have ok : (env.commit ⟨1⟩).1 = .ok () := by
    obtain ⟨_, ok⟩ := commit.succeeds.mpr ⟨rfl, rfl⟩
    exact ok
  exact ⟨⟨_, rfl, rfl, rfl, rfl⟩, ok, _, (commit.done () ok).self, rfl, rfl⟩

/-- A session without a transaction cannot be committed, and is flushed all the same. -/
theorem not_commit_traceless : ¬∀ (env : Environment Unit) (s : SessionId) (t : Session) (fault : Fault), env.Reachable →
    env.session? s = some t → (env.commit s).1 = .error fault →
    ∃ t', (env.commit s).2.session? s = some t' ∧ t'.transaction = t.transaction ∧ t'.isConnected = t.isConnected ∧
      t'.flushes = t.flushes ∧ t'.clears = t.clears := by
  intro always
  have reachable : ((withStores 1).performAll [.connect ⟨1⟩] : Environment Unit).Reachable :=
    reachable_withStores 1 (by decide)
  obtain ⟨t', ht', -, -, flushes, -⟩ := always _ ⟨1⟩ _ _ reachable rfl rfl
  cases ht'
  exact Nat.one_ne_zero flushes

end Environment
end Persistence
