import Persistence.Proofs.Session.Surrender
import Persistence.Proofs.Session.Tidiness

/-! Deferred closes. From the opening of a window to its end no operation that acts for the datastore disconnects a
    session: what is handed over waits, whichever operation hands it over and however often. At the end of the window
    each session that was handed over is sent one close, in the order in which they first came, and nothing else is
    touched. -/

namespace Persistence

variable {κ : Type}

/-- The session that a note says is being closed by the registry. -/
def Notice.closing? : Notice → Option SessionId
  | .closing s => some s
  | _ => none

namespace Environment

variable {env env' mid after : Environment κ} {s x : SessionId} {store d e : StoreId} {pending : List SessionId}

/-! ### Closes -/

/-- The sessions that the registry has sent a close, in order. -/
def closings (env : Environment κ) : List SessionId := env.notices.filterMap Notice.closing?

/-- How many requests to close a session has received. -/
def closes (env : Environment κ) (s : SessionId) : Nat := ((env.session? s).map (·.closes)).getD 0

theorem closings_note (notice : Notice) : (env.note notice).closings = env.closings ++ notice.closing?.toList := by
  unfold closings note
  rw [List.filterMap_append]
  cases h : notice.closing? <;> simp [h]

theorem closings_closeSession : (env.closeSession s).closings = env.closings ++ [s] := by
  have told : (env.note (.closing s)).closings = env.closings ++ [s] := closings_note _
  unfold closeSession disconnect
  cases (env.note (.closing s)).session? s with
  | none => exact told
  | some t =>
    have quiet : t.disconnectNotice.closing? = none := by
      unfold Session.disconnectNotice
      split <;> rfl
    refine (closings_note _).trans ?_
    rw [quiet, Option.toList_none, List.append_nil]
    exact told

theorem closes_update {f : Session → Session} (keeps : ∀ t, (f t).id = t.id)
    (more : ∀ t, (f t).closes = t.closes + 1) (h : env.Opened s) :
    (env.updateSession s f).closes x = env.closes x + if x = s then 1 else 0 := by
  have hget : (env.updateSession s f).session? x = if x = s then (env.session? x).map f else env.session? x :=
    Sessions.get?_update fun t ht => (keeps t).trans ht
  unfold closes
  rw [hget]
  by_cases hx : x = s
  · subst hx
    obtain ⟨t, ht⟩ := Option.isSome_iff_exists.mp h
    simp [ht, more]
  · simp [hx]

theorem closes_closeSession (h : env.Opened s) :
    (env.closeSession s).closes x = env.closes x + if x = s then 1 else 0 := by
  have same : (env.closeSession s).closes x = (env.updateSession s Session.disconnect).closes x := by
    unfold closes session?
    rw [sessions_closeSession]
    rfl
  rw [same]
  exact closes_update (fun _ => rfl) (fun _ => rfl) h

theorem closings_closeAll (ids : List SessionId) :
    (ids.foldl (fun env session => env.closeSession session) env).closings = env.closings ++ ids := by
  induction ids generalizing env with
  | nil => exact (List.append_nil _).symm
  | cons s rest ih => rw [List.foldl_cons, ih, closings_closeSession, List.append_assoc, List.singleton_append]

theorem closes_closeAll (ids : List SessionId) (opened : ∀ s ∈ ids, env.Opened s) :
    (ids.foldl (fun env session => env.closeSession session) env).closes x = env.closes x + ids.count x := by
  induction ids generalizing env with
  | nil => rfl
  | cons s rest ih =>
    have still : ∀ y ∈ rest, (env.closeSession s).Opened y := fun y hy =>
      (Passes.of_closing (closing_closeSession s env)).opened (opened y (List.mem_cons_of_mem _ hy))
    rw [List.foldl_cons, ih still, closes_closeSession (opened s List.mem_cons_self), List.count_cons]
    by_cases hx : x = s
    · simp only [hx, if_true, beq_self_eq_true]
      omega
    · simp [hx, Ne.symm hx]

/-! ### The end of a window -/

/-- From `now` to `after` the window of `d` is ended and each session of `ids` is sent one close, in this order; all
other windows and all holders are left alone. -/
structure Processed (d : StoreId) (ids : List SessionId) (now after : Environment κ) : Prop where
  order : after.closings = now.closings ++ ids
  once : ∀ s, after.closes s = now.closes s + if s ∈ ids then 1 else 0
  ended : after.pending? d = none
  windows : ∀ e, e ≠ d → after.pending? e = now.pending? e
  holders : after.registry.holders = now.registry.holders

theorem processed_processDeferral (h : env.pending? d = some pending) (nodup : pending.Nodup)
    (opened : ∀ s ∈ pending, env.Opened s) :
    ∃ after, env.processDeferral d = (.ok (), after) ∧ Processed d pending env after := by
  obtain ⟨hnone, -⟩ | ⟨windows, waiting, hd, hw, heq⟩ := processDeferral_cases d env
  · rw [h] at hnone
    cases hnone
  · have same : env.pending? d = some waiting := by simp [pending?, hd, hw]
    obtain rfl : pending = waiting := Option.some.inj (h.symm.trans same)
    refine ⟨(env.processDeferral d).2, by rw [heq], ?_, fun s => ?_, ?_, fun e hne => ?_, holders_processDeferral⟩
    · rw [heq, closings_closeAll, closings_note]
      exact congrArg (· ++ pending) (List.append_nil _)
    · rw [heq, ← nodup.count]
      exact closes_closeAll pending opened
    · rw [pending?_processDeferral, if_pos rfl]
    · rw [pending?_processDeferral, if_neg hne]

/-- Without a window there is nothing to process. -/
theorem processDeferral_of_shut (h : env.pending? d = none) :
    env.processDeferral d = (.error (.session (.noDeferredClose d)), env) := by
  obtain ⟨-, heq⟩ | ⟨windows, waiting, hd, hw, -⟩ := processDeferral_cases d env
  · exact heq
  · rw [pending?, hd, Option.bind_some, hw] at h
    cases h

/-! ### While the window is open -/

/-- From `env` to `env'` no session is disconnected, and the window of `d` is open in the end. -/
structure Withheld (d : StoreId) (env env' : Environment κ) : Prop where
  window : env'.isDeferring d = true
  stores : ∀ s e, env.storeOf? s = some e → env'.storeOf? s = some e
  connected : ∀ s, env.Connected s → env'.Connected s

namespace Withheld

theorem refl (h : env.isDeferring d = true) : Withheld d env env := ⟨h, fun _ _ hs => hs, fun _ hs => hs⟩

theorem trans (h₁ : Withheld d env mid) (h₂ : Withheld d mid env') : Withheld d env env' :=
  ⟨h₂.window, fun s e hs => h₂.stores s e (h₁.stores s e hs), fun s hs => h₂.connected s (h₁.connected s hs)⟩

theorem of_passes (h : Passes [] env env') (window : env'.isDeferring d = true) : Withheld d env env' where
  window := window
  stores s e hs := by rw [h.storeOf? (opened_iff_storeOf?.mpr ⟨e, hs⟩), hs]
  connected s hs := (h.connected_iff hs.opened).mpr ⟨hs, List.not_mem_nil⟩

theorem isDeferring_congr (h : env'.registry.deferred = env.registry.deferred) :
    env'.isDeferring d = env.isDeferring d := by
  simp only [isDeferring, pending?, h]

theorem closeOrDefer (h : env.isDeferring d = true) : Withheld d env (env.closeOrDefer s d) := by
  refine of_passes (.of_eq ?_) ?_
  · rw [sessions_closeOrDefer, if_pos h]
  · unfold isDeferring at h ⊢
    rwa [pending?_closeOrDefer, if_pos rfl, Option.isSome_map]

/-- A scoped execution for the datastore disconnects nothing but what its body does. -/
theorem execute {α : Type} {body : SessionId → Environment κ → Except Fault α × Environment κ}
    (h : env.isDeferring d = true) (keeps : ∀ s at_, at_.isDeferring d = true → Withheld d at_ (body s at_).2) :
    Withheld d env (env.execute d body).2 := by
  cases hcur : env.current? d with
  | some s =>
    rw [execute_of_current hcur]
    exact keeps s env h
  | none =>
    obtain ⟨fault, hc⟩ | ⟨opened, hc, hreg, hsess⟩ := connect_cases d env
    · rw [execute_of_refused hcur hc]
      exact refl h
    · rw [execute_of_connected hcur hc]
      have connected : Withheld d env opened := by
        refine of_passes (.of_opened d (.of_eq hsess)) ?_
        rw [isDeferring_congr (congrArg Registry.deferred hreg), h]
      have bound : Withheld d opened (opened.bindSession env.fresh d) := by
        refine of_passes (.of_closing (closing_bindSession _ _ _)) ?_
        rw [isDeferring_congr deferred_bindSession, connected.window]
      have ran := keeps env.fresh _ bound.window
      -- The session that was opened is handed over at the end, and so waits.
      have left : Withheld d (body env.fresh (opened.bindSession env.fresh d)).2
          ((body env.fresh (opened.bindSession env.fresh d)).2.removeBound env.fresh d) := by
        refine of_passes (.of_eq sessions_removeBound) ?_
        rw [isDeferring_congr deferred_removeBound, ran.window]
      exact ((connected.trans bound).trans ran).trans (left.trans (closeOrDefer left.window))

end Withheld
end Environment

open Environment in
/-- In each phase the custom callbacks disconnect nothing and leave the window of `d` open. -/
structure Conduct.Withholds (conduct : Conduct κ) (d : StoreId) : Prop where
  beforeCommit : ∀ callback env, env.isDeferring d = true → Withheld d env (conduct.beforeCommit callback env).2
  beforeCompletion : ∀ callback env, env.isDeferring d = true → Withheld d env (conduct.beforeCompletion callback env)
  afterCompletion : ∀ callback status env, env.isDeferring d = true →
    Withheld d env (conduct.afterCompletion callback status env)

namespace Environment

variable {env env' mid after : Environment κ} {s x : SessionId} {store d e : StoreId} {pending : List SessionId}
  {conduct : Conduct κ} {status : CompletionStatus} {callbacks : List (Synchronization κ)}

/-- The sessions that callbacks close at the end of their transaction belong to one datastore. -/
def Owned (d : StoreId) (callbacks : List (Synchronization κ)) (env : Environment κ) : Prop :=
  ∀ s store, Synchronization.session s store true ∈ callbacks → env.storeOf? s = some d

namespace Withheld

theorem leaveTransaction {isNew : Bool} (h : env.isDeferring d = true)
    (own : isNew = true → env.storeOf? s = some d) :
    Withheld d env (env.leaveTransaction s store isNew status) where
  window := by
    unfold isDeferring at h ⊢
    rw [pending?_leaveTransaction]
    split
    · rwa [Option.isSome_map]
    · exact h
  stores x e hx := by rw [storeOf?_leaveTransaction, hx]
  connected x hx := by
    refine connected_leaveTransaction.mpr ⟨hx, ?_⟩
    rintro ⟨hnew, rfl, hcloses⟩
    obtain ⟨e, hown, -, hnone⟩ := closesUnbound_eq_true_iff.mp hcloses
    cases (own hnew).symm.trans hown
    rw [isDeferring, hnone] at h
    cases h

/-- A completion disconnects nothing but what its custom callbacks do, if the sessions that were opened for the
transaction belong to the datastore. -/
theorem complete (h : env.isDeferring d = true) (withholds : conduct.Withholds d)
    (hown : Owned d env.synchronizations env) : Withheld d env (env.complete conduct status).2 := by
  have keeps : conduct.Keeps env.synchronizations (Withheld d env) :=
    { flush := fun s _ _ _ at_ hat => by
        refine hat.trans (of_passes (.of_closing (closing_flush s (at_.note (.flushing s)))) ?_)
        rw [isDeferring_congr (congrArg Registry.deferred (registry_flush s _))]
        exact hat.window
      failed := fun _ _ hat => hat.trans (of_passes (.of_eq rfl) hat.window)
      leave := fun s store isNew hmem _ at_ hat => by
        refine hat.trans (leaveTransaction hat.window ?_)
        rintro rfl
        exact hat.stores s d (hown s store hmem)
      beforeCommit := fun callback at_ hat => hat.trans (withholds.beforeCommit callback at_ hat.window)
      beforeCompletion := fun callback at_ hat => hat.trans (withholds.beforeCompletion callback at_ hat.window)
      afterCompletion := fun callback _ at_ hat => hat.trans (withholds.afterCompletion callback _ at_ hat.window) }
  exact keeps.complete (refl h) (of_passes (.of_eq rfl) h)

end Withheld

/-! ### Runs within a window -/

/-- Waiting each once, in the order in which they came. -/
theorem foldl_addPending (seen more : List SessionId) :
    more.foldl addPending seen.eraseDups = (seen ++ more).eraseDups :=
  foldl_addOnce_eraseDups seen more

theorem nodup_foldl_addPending (more : List SessionId) (h : pending.Nodup) : (more.foldl addPending pending).Nodup :=
  nodup_foldl_addOnce h

/-- The sessions that the acts of a run hand over for a datastore, in order and with repetitions. -/
def handedOver (d : StoreId) : List (Act κ) → Environment κ → List SessionId
  | [], _ => []
  | act :: rest, env => act.handsOver d env ++ handedOver d rest (act.perform env)

variable {acts : List (Act κ)}

theorem opened_of_handedOver (fits : env.AllFit acts) (h : s ∈ handedOver d acts env) :
    (env.performAll acts).Opened s := by
  induction acts generalizing env with
  | nil => cases h
  | cons act rest ih =>
    rcases List.mem_append.mp h with h | h
    · exact opened_performAll (act :: rest) (fits.1 s (Act.mem_names_of_handsOver h))
    · exact ih fits.2 h

/-- As long as its window is not processed, what is handed over for the datastore waits there. -/
theorem pending?_performAll (h : env.pending? d = some pending) (within : ∀ act ∈ acts, act ≠ .processDeferral d) :
    (env.performAll acts).pending? d = some ((handedOver d acts env).foldl addPending pending) := by
  induction acts generalizing env pending with
  | nil => exact h
  | cons act rest ih =>
    have first := act.pending?_perform (within act List.mem_cons_self) h
    rw [handedOver, List.foldl_append]
    exact ih first fun other hother => within other (List.mem_cons_of_mem _ hother)

/-- What holds within a window of `d` for which the sessions of `handed` were handed over. -/
structure Deferral (d : StoreId) (handed : List SessionId) (now : Environment κ) : Prop where
  waiting : now.pending? d = some handed.eraseDups
  /-- No operation for the datastore disconnects a session, but for what is done inside of it. -/
  unbind : ∀ s, now.storeOf? s = some d → Withheld d now (now.unbindSession s)
  release : ∀ s, Withheld d now (now.releaseSession s d)
  closeOrDefer : ∀ s, Withheld d now (now.closeOrDefer s d)
  execute : ∀ (α : Type) (body : SessionId → Environment κ → Except Fault α × Environment κ),
    (∀ s at_, at_.isDeferring d = true → Withheld d at_ (body s at_).2) → Withheld d now (now.execute d body).2
  complete : ∀ (conduct : Conduct κ) (status : CompletionStatus), conduct.Withholds d →
    Owned d now.synchronizations now → Withheld d now (now.complete conduct status).2
  /-- Whatever does disconnect a session is an explicit request, or is for another datastore. -/
  explicit : ∀ (act : Act κ) (s : SessionId), act ≠ .processDeferral d → act.Disconnects now s →
    act = .close s ∨ act = .disconnect s ∨
      ∃ e, e ≠ d ∧ (act = .processDeferral e ∨ now.pending? e = none ∧ s ∈ act.handsOver e now)
  processed : ∃ after, now.processDeferral d = (.ok (), after) ∧ Processed d handed.eraseDups now after

theorem Deferral.of_pending {handed : List SessionId} (waiting : env.pending? d = some handed.eraseDups)
    (opened : ∀ s ∈ handed, env.Opened s) : Deferral d handed env := by
  have window : env.isDeferring d = true := by rw [isDeferring, waiting, Option.isSome_some]
  refine ⟨waiting, fun s hs => ?_, fun s => ?_, fun s => .closeOrDefer window, fun α body => .execute window,
    fun conduct status => .complete window, fun act s other h => ?_, ?_⟩
  · have closes : env.closesUnbound s = false := by
      unfold closesUnbound
      simp [hs, window]
    have closing := closing_unbindSession s env
    rw [closes] at closing
    refine .of_passes (.of_closing closing) ?_
    unfold isDeferring at window ⊢
    rw [pending?_unbindSession]
    split
    · rwa [Option.isSome_map]
    · exact window
  · unfold releaseSession
    split
    · exact .refl window
    · exact .closeOrDefer window
  · obtain h | h | ⟨e, pending, rfl, -, -⟩ | ⟨e, shut, hmem⟩ := Act.disconnects_cases h
    · exact Or.inl h
    · exact Or.inr (Or.inl h)
    · exact Or.inr (Or.inr ⟨e, fun he => other (by rw [he]), Or.inl rfl⟩)
    · refine Or.inr (Or.inr ⟨e, ?_, Or.inr ⟨shut, hmem⟩⟩)
      rintro rfl
      rw [waiting] at shut
      cases shut
  · refine processed_processDeferral waiting ?_ fun s hs => opened s (List.mem_eraseDups.mp hs)
    have fold := foldl_addPending [] handed
    rw [List.nil_append, List.eraseDups_nil] at fold
    exact fold ▸ nodup_foldl_addPending handed List.nodup_nil

/-- Without a window of a datastore there is nothing to process. From the opening of one, whatever is done but to
process it, the sessions that are handed over for the datastore wait, and to process it then closes each of them
once. Executions and completions may be among what is done, as runs of acts (`Leads.execute`, `Leads.complete`). -/
theorem deferral_performAll (shut : env.pending? d = none) (fits : (env.openDeferral d).AllFit acts)
    (within : ∀ act ∈ acts, act ≠ .processDeferral d) :
    env.processDeferral d = (.error (.session (.noDeferredClose d)), env) ∧
      Deferral d (handedOver d acts (env.openDeferral d)) ((env.openDeferral d).performAll acts) := by
  have start : (env.openDeferral d).pending? d = some [] := by rw [pending?_openDeferral, if_pos rfl, shut]; rfl
  refine ⟨processDeferral_of_shut shut, .of_pending ?_ fun s hs => opened_of_handedOver fits hs⟩
  rw [pending?_performAll start within]
  exact congrArg some (foldl_addPending [] _)

/-- Of two sessions of one datastore the second is handed over first: at the end of its execution, then twice more
with the first one in between. Each gets one close, and the empty window of the other datastore stays. -/
theorem deferral_of_repeated :
    let env : Environment Unit := (withStores 2).performAll [.connect ⟨1⟩, .connect ⟨1⟩, .openDeferral ⟨2⟩]
    let acts : List (Act Unit) :=
      [.bind ⟨1⟩ ⟨1⟩, .bind ⟨2⟩ ⟨1⟩, .leave ⟨2⟩ ⟨1⟩, .closeOrDefer ⟨2⟩ ⟨1⟩, .openDeferral ⟨1⟩, .unbind ⟨1⟩,
        .release ⟨2⟩ ⟨1⟩]
    let now := (env.openDeferral ⟨1⟩).performAll acts
    now.pending? ⟨1⟩ = some [⟨2⟩, ⟨1⟩] ∧ (now.processDeferral ⟨1⟩).2.closings = now.closings ++ [⟨2⟩, ⟨1⟩] ∧
      (now.processDeferral ⟨1⟩).2.pending? ⟨2⟩ = some [] := by
  intro env acts now
  have shut : env.pending? ⟨1⟩ = none := rfl
  have fits : (env.openDeferral ⟨1⟩).AllFit acts := by decide
  have within : ∀ act ∈ acts, act ≠ .processDeferral ⟨1⟩ := by simp [acts]
  have deferral := (deferral_performAll shut fits within).2
  have handed : (handedOver ⟨1⟩ acts (env.openDeferral ⟨1⟩)).eraseDups = [⟨2⟩, ⟨1⟩] := by decide
  obtain ⟨after, heq, processed⟩ := deferral.processed
  rw [handed] at processed
  refine ⟨deferral.waiting.trans (congrArg some handed), ?_, ?_⟩
  · rw [heq]
    exact processed.order
  · rw [heq]
    exact (processed.windows ⟨2⟩ (by decide)).trans (by decide)

end Environment
end Persistence
