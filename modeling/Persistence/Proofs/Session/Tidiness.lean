import Persistence.Proofs.Session.Run

/-! What the registry keeps in order, whatever is done with it. A holder goes with its last session, a session
    waits only once in a window, and the table of windows goes with its last window. Programs of public operations
    are followed through the bodies of their scoped executions and the callbacks of their completions, which are
    such programs again. -/

namespace Persistence

variable {κ : Type}

/-! ### Order in the registry -/

/-- No holder is empty, no session waits twice in a window, and no table of windows is empty. -/
structure Registry.Tidy (registry : Registry κ) : Prop where
  occupied : ∀ entry ∈ registry.holders, entry.2.sessions ≠ []
  once : ∀ windows, registry.deferred = some windows → ∀ entry ∈ windows, entry.2.Nodup
  windowed : registry.deferred ≠ some []

namespace Environment

variable {env env' : Environment κ} {s : SessionId} {store : StoreId} {holder : Holder}

/-- The registry of the environment is in order. -/
def Tidy (env : Environment κ) : Prop := env.registry.Tidy

theorem nodup_addPending {pending : List SessionId} (h : pending.Nodup) : (addPending pending s).Nodup :=
  nodup_addOnce h

theorem validated_sessions_ne_nil {p : SessionId → Bool} (h : (holder.validated p).current? = some s) :
    (holder.validated p).sessions ≠ [] := by
  intro empty
  unfold Holder.current? at h
  rw [empty] at h
  cases h

namespace Tidy

theorem congr (h : env.Tidy) (holders : env'.registry.holders = env.registry.holders)
    (deferred : env'.registry.deferred = env.registry.deferred) : env'.Tidy where
  occupied := holders ▸ h.occupied
  once := deferred ▸ h.once
  windowed := deferred ▸ h.windowed

theorem of_registry (h : env.Tidy) (same : env'.registry = env.registry) : env'.Tidy :=
  h.congr (congrArg Registry.holders same) (congrArg Registry.deferred same)

/-- A holder with a session may be stored. -/
theorem setHolder (h : env.Tidy) (ne : holder.sessions ≠ []) : (env.setHolder store holder).Tidy where
  occupied entry hentry := by
    rcases Keyed.mem_put hentry with rfl | hentry
    · exact ne
    · exact h.occupied entry hentry
  once := h.once
  windowed := h.windowed

theorem dropHolder (h : env.Tidy) : (env.dropHolder store).Tidy where
  occupied entry hentry := h.occupied entry (List.mem_of_mem_filter hentry)
  once := h.once
  windowed := h.windowed

theorem settleHolder (h : env.Tidy) : (env.settleHolder store holder).Tidy := by
  unfold Environment.settleHolder Holder.isEmpty
  split
  · exact h.dropHolder
  next occupied => exact h.setHolder fun empty => occupied (by rw [empty]; rfl)

/-- A table of windows may be stored if it has some and each holds its sessions once. -/
theorem setDeferred (h : env.Tidy) {windows : Keyed (List SessionId) StoreId} (ne : windows ≠ [])
    (once : ∀ entry ∈ windows, entry.2.Nodup) : (env.setDeferred (some windows)).Tidy where
  occupied := h.occupied
  once table htable := by
    cases htable
    exact once
  windowed empty := ne (Option.some.inj empty)

theorem dropDeferred (h : env.Tidy) : (env.setDeferred none).Tidy where
  occupied := h.occupied
  once table htable := by cases htable
  windowed := nofun

/-- A window may be written over if it holds its sessions once. -/
theorem putWindow (h : env.Tidy) {pending : List SessionId} (hpending : pending.Nodup) :
    (env.setDeferred (some ((env.registry.deferred.getD []).put store pending))).Tidy := by
  refine h.setDeferred Keyed.put_ne_nil fun entry hentry => ?_
  rcases Keyed.mem_put hentry with rfl | hentry
  · exact hpending
  · cases hd : env.registry.deferred with
    | none =>
      rw [hd] at hentry
      cases hentry
    | some windows =>
      rw [hd] at hentry
      exact h.once windows hd entry hentry

/-- The sessions that wait in a window wait there once. -/
theorem nodup_window (h : env.Tidy) {pending : List SessionId}
    (hget : (env.registry.deferred.getD []).get? store = some pending) : pending.Nodup := by
  cases hd : env.registry.deferred with
  | none =>
    rw [hd] at hget
    cases hget
  | some windows =>
    rw [hd] at hget
    exact h.once windows hd _ (Keyed.mem_of_get? hget)

/-! ### Operations -/

theorem closeOrDefer (h : env.Tidy) : (env.closeOrDefer s store).Tidy := by
  obtain ⟨windows, pending, hd, hw, heq⟩ | ⟨-, heq⟩ := closeOrDefer_cases s store env
  · have table : env.registry.deferred.getD [] = windows := by rw [hd, Option.getD_some]
    rw [heq, ← table]
    exact putWindow h (nodup_addPending (h.nodup_window (table ▸ hw)))
  · rw [heq]
    exact h.of_registry (registry_closeSession env s)

theorem openDeferral (h : env.Tidy) : (env.openDeferral store).Tidy := by
  refine putWindow h ?_
  cases hw : (env.registry.deferred.getD []).get? store with
  | none => exact List.nodup_nil
  | some pending => exact h.nodup_window hw

theorem processDeferral (h : env.Tidy) : (env.processDeferral store).2.Tidy := by
  obtain ⟨-, heq⟩ | ⟨windows, pending, hd, -, heq⟩ := processDeferral_cases store env
  · rw [heq]
    exact h
  · rw [heq]
    refine of_registry ?_ (registry_closeAll pending _)
    -- What is left of the table are windows that were there, and a table without any is dropped.
    show (env.setDeferred (withoutWindow windows store)).Tidy
    unfold withoutWindow
    split
    · exact h.dropDeferred
    next left => exact h.setDeferred left fun entry hentry => h.once windows hd entry (List.mem_of_mem_filter hentry)

theorem bindSession (h : env.Tidy) : (env.bindSession s store).Tidy := by
  unfold Environment.bindSession
  cases env.holder? store with
  | none => exact h.setHolder (List.cons_ne_nil _ _)
  | some holder => exact setHolder (h.of_registry rfl) (List.append_ne_nil_of_right_ne_nil _ (List.cons_ne_nil _ _))

theorem bindWithCreator {creator : String} (h : env.Tidy) : (env.bindWithCreator s store creator).Tidy := by
  have bound : (env.setHolder store { sessions := [s], creator := some creator }).Tidy :=
    h.setHolder (List.cons_ne_nil _ _)
  unfold Environment.bindWithCreator
  cases env.holder? store with
  | none => exact bound
  | some previous => exact bound.of_registry rfl

theorem removeBound (h : env.Tidy) : (env.removeBound s store).Tidy := by
  unfold Environment.removeBound
  cases env.holder? store with
  | none => exact h
  | some holder => exact h.settleHolder

theorem unbindSession (h : env.Tidy) : (env.unbindSession s).Tidy := by
  obtain ⟨d, -, -, heq⟩ | ⟨-, same, -⟩ := unbindSession_cases s env
  · rw [heq]
    exact h.removeBound.closeOrDefer
  · exact h.of_registry same

theorem synchronizeHolder {flag : Bool} (h : env.Tidy) : (env.synchronizeHolder store flag).Tidy := by
  unfold Environment.synchronizeHolder
  cases hh : env.holder? store with
  | none => exact h
  | some holder => exact setHolder (h.of_registry rfl) (h.occupied _ (Keyed.mem_of_get? hh))

theorem setSynchronizations {callbacks : Option (List (Synchronization κ))} (h : env.Tidy) :
    (env.setSynchronizations callbacks).Tidy :=
  h.congr rfl rfl

theorem enlist {callback : Synchronization κ} (h : env.Tidy) : (env.enlist callback).Tidy := by
  unfold Environment.enlist
  cases env.registry.synchronizations with
  | none => exact h
  | some callbacks => exact h.setSynchronizations

theorem joinCurrent (h : env.Tidy) : (env.joinCurrent store).2.Tidy := by
  unfold Environment.joinCurrent
  cases env.holder? store with
  | none => exact h
  | some holder =>
    dsimp only
    cases hcurrent : (holder.validated env.sessions.isConnected).current? with
    | none => exact h.dropHolder
    | some session =>
      have kept : (env.setHolder store (holder.validated env.sessions.isConnected)).Tidy :=
        h.setHolder (validated_sessions_ne_nil hcurrent)
      dsimp only
      split
      · exact enlist (of_registry kept.synchronizeHolder rfl)
      · exact kept

theorem connect (h : env.Tidy) : (env.connect store).2.Tidy := by
  obtain ⟨fault, heq⟩ | ⟨opened, heq, same, -⟩ := connect_cases store env
  · rw [heq]
    exact h
  · rw [heq]
    exact h.of_registry same

theorem enterTransaction (h : env.Tidy) : (env.enterTransaction s store).Tidy :=
  (of_registry h (registry_note _)).bindSession.synchronizeHolder.enlist

theorem openSession (h : env.Tidy) : (env.openSession store).2.Tidy := by
  obtain ⟨fault, notices, -, heq⟩ | ⟨opened, -, same, -, heq⟩ := openSession_cases store env
  · rw [heq]
    exact h.of_registry rfl
  · rw [heq]
    have hopened : opened.Tidy := h.of_registry same
    dsimp only
    split
    · exact hopened.enterTransaction
    · exact hopened

theorem getOrCreate {allow : Bool} (h : env.Tidy) : (env.getOrCreate store allow).2.Tidy := by
  have joined : (env.joinCurrent store).2.Tidy := h.joinCurrent
  unfold Environment.getOrCreate
  rcases hjoin : env.joinCurrent store with ⟨found, after⟩
  rw [hjoin] at joined
  cases found with
  | some session => exact joined
  | none =>
    dsimp only
    split
    · exact joined.openSession
    · exact joined

theorem leaveTransaction {isNew : Bool} {status : CompletionStatus} (h : env.Tidy) :
    (env.leaveTransaction s store isNew status).Tidy := by
  have cleared : (if status = .rolledBack then env.clear s else env).Tidy := by
    split
    · exact h.of_registry rfl
    · exact h
  have unmarked : ((if status = .rolledBack then env.clear s else env).synchronizeHolder store false).Tidy :=
    cleared.synchronizeHolder
  unfold Environment.leaveTransaction
  dsimp only
  split
  · exact unbindSession (unmarked.of_registry rfl)
  · exact unmarked.of_registry rfl

theorem leaveAll {leaving : List Enlistment} {status : CompletionStatus} (h : env.Tidy) :
    (env.leaveAll leaving status).Tidy := by
  induction leaving generalizing env with
  | nil => exact h
  | cons e rest ih => exact ih h.leaveTransaction

/-- Whatever one act does, the registry stays in order. -/
theorem perform (h : env.Tidy) (act : Act κ) : (act.perform env).Tidy := by
  cases act with
  | addStore name site failure => exact h.of_registry rfl
  | setAvailable store flag => exact h.of_registry rfl
  | visit s action => exact h.of_registry (registry_atSite action)
  | make store => exact h.of_registry rfl
  | connect store => exact h.connect
  | getOrCreate store allow => exact h.getOrCreate
  | bind s store => exact h.bindSession
  | bindWithCreator s store creator => exact h.bindWithCreator
  | unbind s => exact h.unbindSession
  | release s store =>
    show (env.releaseSession s store).Tidy
    unfold releaseSession
    split
    · exact h
    · exact h.closeOrDefer
  | close s => exact h.of_registry (registry_closeSession env s)
  | closeOrDefer s store => exact h.closeOrDefer
  | openDeferral store => exact h.openDeferral
  | processDeferral store => exact h.processDeferral
  | leave s store => exact h.removeBound.closeOrDefer
  | startSynchronization =>
    show env.startSynchronization.2.Tidy
    unfold Environment.startSynchronization
    split
    · exact h
    · exact h.setSynchronizations
  | clearSynchronization => exact h.setSynchronizations
  | register callback =>
    show (env.registerSynchronization callback).2.Tidy
    unfold registerSynchronization
    split
    · exact h.enlist
    · exact h
  | depart leaving status => exact h.leaveAll
  | disconnect s => exact h.of_registry (registry_disconnect env s)
  | flush s => exact h.of_registry (registry_flush s env)
  | clear s => exact h.of_registry rfl
  | begin s => exact h.of_registry (registry_begin s env)
  | commit s => exact h.of_registry (registry_commit s env)
  | rollback s => exact h.of_registry (registry_finishTransaction Transaction.rollback s env)
  | setSynchronized s flag => exact h.of_registry rfl
  | note notice => exact h.of_registry rfl
  | record event => exact h.of_registry rfl

/-! ### Bodies and callbacks -/

/-- A scoped execution keeps the order that its body keeps. -/
theorem execute {α : Type} {body : SessionId → Environment κ → Except Fault α × Environment κ} (h : env.Tidy)
    (keeps : ∀ s at_, at_.Tidy → (body s at_).2.Tidy) : (env.execute store body).2.Tidy := by
  have connected : (env.connect store).2.Tidy := h.connect
  cases hcur : env.current? store with
  | some session =>
    rw [execute_of_current hcur]
    exact keeps session env h
  | none =>
    rcases hconnect : env.connect store with ⟨answer, opened⟩
    rw [hconnect] at connected
    cases answer with
    | error fault =>
      rw [execute_of_refused hcur hconnect]
      exact connected
    | ok session =>
      rw [execute_of_connected hcur hconnect]
      exact (keeps session _ connected.bindSession).removeBound.closeOrDefer

/-- A completion keeps the order that the custom callbacks keep in each phase. -/
theorem complete {conduct : Conduct κ} {status : CompletionStatus} (h : env.Tidy)
    (first : ∀ callback at_, at_.Tidy → (conduct.beforeCommit callback at_).2.Tidy)
    (second : ∀ callback at_, at_.Tidy → (conduct.beforeCompletion callback at_).Tidy)
    (third : ∀ callback status at_, at_.Tidy → (conduct.afterCompletion callback status at_).Tidy) :
    (env.complete conduct status).2.Tidy := by
  have keeps : conduct.Keeps env.synchronizations Environment.Tidy :=
    { flush := fun s _ _ _ at_ hat => hat.of_registry (registry_flush s (at_.note (.flushing s)))
      failed := fun _ _ hat => hat.of_registry rfl
      leave := fun _ _ _ _ _ _ hat => hat.leaveTransaction
      beforeCommit := first
      beforeCompletion := second
      afterCompletion := third }
  exact keeps.complete h h.setSynchronizations

end Tidy

/-! ### Programs -/

/-- Some program of public operations leads from `env` to `env'`. The bodies of its scoped executions and the
callbacks of its completions are programs again, whatever they are called with. -/
inductive Programmed : Environment κ → Environment κ → Prop where
  | start (env : Environment κ) : Programmed env env
  | act {env mid : Environment κ} (before : Programmed env mid) (act : Act κ) : Programmed env (act.perform mid)
  | execute {env mid : Environment κ} {α : Type} (before : Programmed env mid) (store : StoreId)
      (body : SessionId → Environment κ → Except Fault α × Environment κ)
      (inner : ∀ s at_, Programmed at_ (body s at_).2) : Programmed env (mid.execute store body).2
  | complete {env mid : Environment κ} (before : Programmed env mid) (conduct : Conduct κ) (status : CompletionStatus)
      (first : ∀ callback at_, Programmed at_ (conduct.beforeCommit callback at_).2)
      (second : ∀ callback at_, Programmed at_ (conduct.beforeCompletion callback at_))
      (third : ∀ callback status at_, Programmed at_ (conduct.afterCompletion callback status at_)) :
      Programmed env (mid.complete conduct status).2

/-- A program keeps the registry in order. -/
theorem Programmed.keeps_tidy (run : Programmed env env') (h : env.Tidy) : env'.Tidy := by
  induction run with
  | start env => exact h
  | act before act ih => exact (ih h).perform act
  | execute before store body inner ih ihbody => exact (ih h).execute ihbody
  | complete before conduct status first second third ih ihfirst ihsecond ihthird =>
    exact (ih h).complete ihfirst ihsecond ihthird

theorem IsBlank.tidy (h : env.IsBlank) : env.Tidy := by
  have registry := h.registry
  unfold Tidy
  rw [registry]
  exact ⟨nofun, nofun, nofun⟩

theorem Reachable.tidy (h : env.Reachable) : env.Tidy := by
  induction h with
  | blank h => exact h.tidy
  | step act _ _ ih => exact ih.perform act

theorem Tidy.performAll (h : env.Tidy) (acts : List (Act κ)) : (env.performAll acts).Tidy := by
  induction acts generalizing env with
  | nil => exact h
  | cons act rest ih => exact ih (h.perform act)

/-- A holder goes with its last session. -/
theorem Tidy.holder?_eq_none_iff (h : env.Tidy) : env.holder? store = none ↔ env.bound store = [] := by
  unfold bound
  cases hh : env.holder? store with
  | none => simp
  | some holder => simpa using h.occupied _ (Keyed.mem_of_get? hh)

theorem Tidy.nodup_pending (h : env.Tidy) {pending : List SessionId} (waiting : env.pending? store = some pending) :
    pending.Nodup := by
  obtain ⟨windows, hd, hw⟩ := Option.bind_eq_some_iff.mp waiting
  exact h.once windows hd _ (Keyed.mem_of_get? hw)

/-- Whatever a program does, a datastore has a holder just as long as a session is bound for it, no session waits
twice in a window, and a table of windows has a window. -/
theorem Programmed.orderly (blank : env.IsBlank) (run : Programmed env env') :
    (∀ d, (env'.holder? d).isSome = true ↔ env'.bound d ≠ []) ∧
    (∀ d pending, env'.pending? d = some pending → pending.Nodup) ∧
    (env'.registry.deferred = none ∨ ∃ d, env'.isDeferring d = true) := by
  have tidy := run.keeps_tidy blank.tidy
  refine ⟨fun d => ?_, fun d pending hpending => ?_, ?_⟩
  · unfold bound
    cases hh : env'.holder? d with
    | none => simp
    | some holder => simpa using tidy.occupied _ (Keyed.mem_of_get? hh)
  · obtain ⟨windows, hd, hw⟩ := Option.bind_eq_some_iff.mp hpending
    exact tidy.once windows hd _ (Keyed.mem_of_get? hw)
  · cases hd : env'.registry.deferred with
    | none => exact Or.inl rfl
    | some windows =>
      cases windows with
      | nil => exact absurd hd tidy.windowed
      | cons window rest =>
        refine Or.inr ⟨window.1, ?_⟩
        unfold isDeferring pending?
        rw [hd, Option.bind_some]
        exact Keyed.isSome_get?_of_mem (List.mem_cons_self ..)

/-- The body of an execution opens the window in which its own session then waits; a callback binds that session
again after the completion and gives it back twice. -/
theorem orderly_of_reentrance :
    let body : SessionId → Environment Unit → Except Fault Unit × Environment Unit :=
      fun _ at_ => (.ok (), at_.openDeferral ⟨1⟩)
    let conduct : Conduct Unit := { Conduct.idle with
      afterCompletion := fun _ _ at_ => ((at_.bindSession ⟨1⟩ ⟨1⟩).closeOrDefer ⟨1⟩ ⟨1⟩).closeOrDefer ⟨1⟩ ⟨1⟩ }
    let begun := ((withStores 1).execute ⟨1⟩ body).2.startSynchronization.2
    let after := ((begun.registerSynchronization (.custom ())).2.complete conduct .committed).2
    Programmed (withStores 1) after ∧ after.pending? ⟨1⟩ = some [⟨1⟩] ∧ [(⟨1⟩ : SessionId)].Nodup ∧
      (after.holder? ⟨1⟩).isSome = true ∧ after.bound ⟨1⟩ ≠ [] := by
  intro body conduct begun after
  have executed : Programmed (withStores 1) ((withStores 1).execute ⟨1⟩ body).2 :=
    .execute (.start _) ⟨1⟩ body fun _ at_ => .act (.start at_) (.openDeferral ⟨1⟩)
  have registered : Programmed (withStores 1) (begun.registerSynchronization (.custom ())).2 :=
    (executed.act .startSynchronization).act (.register (.custom ()))
  have completed : Programmed (withStores 1) after := by
    refine .complete registered conduct .committed (fun _ at_ => .start at_) (fun _ at_ => .start at_) ?_
    intro _ _ at_
    exact (((Programmed.start at_).act (.bind ⟨1⟩ ⟨1⟩)).act (.closeOrDefer ⟨1⟩ ⟨1⟩)).act (.closeOrDefer ⟨1⟩ ⟨1⟩)
  have order := Programmed.orderly (⟨rfl, rfl⟩ : (withStores 1 : Environment Unit).IsBlank) completed
  have waiting : after.pending? ⟨1⟩ = some [⟨1⟩] := by decide
  have held : (after.holder? ⟨1⟩).isSome = true := by decide
  exact ⟨completed, waiting, order.2.1 _ _ waiting, held, (order.1 _).mp held⟩

end Environment
end Persistence
