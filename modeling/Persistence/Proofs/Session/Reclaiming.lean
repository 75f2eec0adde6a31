import Persistence.Proofs.Session.Departure

/-! What a completion does to the sessions of a transaction when it has no other callbacks. A session that was opened
    for the transaction ends in no stack, and closed or waiting to be closed, if it has no entries but those that are
    taken out, and if it was in the stack of its own datastore or was settled before. Where something else took the
    session out of that stack meanwhile, the completion passes it over and nobody closes it. A session that only
    joined keeps its place and its connection, and loses its mark. -/

namespace Persistence

variable {κ : Type}

/-- The part of a session in the transaction, if the callback is that of a session. -/
def Synchronization.enlistment? : Synchronization κ → Option Enlistment
  | .session s store isNew => some ⟨s, store, isNew⟩
  | .custom _ => none

namespace Environment

variable {env after : Environment κ} {s x : SessionId} {store d : StoreId} {status : CompletionStatus}
  {leaving : List Enlistment} {callbacks : List (Synchronization κ)} {acts : List (Act κ)}

/-- The parts of sessions in the running transaction. -/
def enlistments (env : Environment κ) : List Enlistment := env.synchronizations.filterMap (·.enlistment?)

/-- Whether a session takes part in the running transaction as one that was opened for it. -/
def isNewcomer (env : Environment κ) (s : SessionId) : Bool := env.enlistments.any fun e => e.isNew && e.session == s

theorem mem_enlistments {e : Enlistment} : e ∈ env.enlistments ↔ e.callback ∈ env.synchronizations := by
  unfold enlistments
  rw [List.mem_filterMap]
  constructor
  · rintro ⟨callback, hmem, he⟩
    cases callback with
    | custom c => cases he
    | session s store isNew =>
      cases he
      exact hmem
  · exact fun hmem => ⟨e.callback, hmem, rfl⟩

/-! ### A completion of sessions alone -/

theorem eq_map_callback (only : ∀ callback ∈ callbacks, ∃ e : Enlistment, callback = e.callback) :
    callbacks = (callbacks.filterMap (·.enlistment?)).map Enlistment.callback := by
  induction callbacks with
  | nil => rfl
  | cons callback rest ih =>
    obtain ⟨e, rfl⟩ := only callback List.mem_cons_self
    have hrest := ih fun other hmem => only other (List.mem_cons_of_mem _ hmem)
    show e.callback :: rest = e.callback :: (rest.filterMap (·.enlistment?)).map Enlistment.callback
    rw [← hrest]

/-- Before a commit the sessions are flushed, which never fails. -/
theorem beforeCommits_sessions (conduct : Conduct κ) (leaving : List Enlistment) (env : Environment κ) :
    ∃ prepared, SameStanding env prepared ∧
      beforeCommits conduct (leaving.map Enlistment.callback) env = (none, prepared) := by
  induction leaving generalizing env with
  | nil => exact ⟨env, .refl env, rfl⟩
  | cons e rest ih =>
    have hcallback : (e.callback : Synchronization κ).beforeCommit conduct env =
        if env.sessions.isConnected e.session then (env.note (.flushing e.session)).flush e.session
        else (.ok (), env) := rfl
    rw [List.map_cons, beforeCommits, hcallback]
    cases hconn : env.sessions.isConnected e.session with
    | false => exact ih env
    | true =>
      obtain ⟨t, ht, hopen⟩ := Sessions.isConnected_iff.mp hconn
      have hflush : (env.note (.flushing e.session)).flush e.session = _ := flush_of_connected ht hopen
      have same : SameStanding env ((env.note (.flushing e.session)).flush e.session).2 := by
        have hreg := registry_flush e.session (env.note (.flushing e.session))
        exact ⟨fun d => bound_congr (congrArg Registry.holders hreg), congrArg Registry.deferred hreg,
          congrArg Registry.synchronizations hreg, closing_flush e.session (env.note (.flushing e.session))⟩
      rw [hflush] at same
      obtain ⟨prepared, hprepared, hrest⟩ := ih _
      exact ⟨prepared, same.trans hprepared, by rw [if_pos rfl, hflush]; exact hrest⟩

/-- A completion that has only the callbacks of sessions lets them leave, after flushes at most. -/
theorem complete_sessions (conduct : Conduct κ) (status : CompletionStatus) (active : env.isSynchronizing = true)
    (only : ∀ callback ∈ env.synchronizations, ∃ e : Enlistment, callback = e.callback) :
    ∃ prepared, SameStanding env.clearSynchronization prepared ∧
      env.complete conduct status = (.ok (), prepared.leaveAll env.enlistments status) := by
  obtain ⟨callbacks, hsync⟩ : ∃ callbacks, env.registry.synchronizations = some callbacks :=
    Option.isSome_iff_exists.mp active
  have hcallbacks : callbacks = env.enlistments.map Enlistment.callback := by
    have hall : env.synchronizations = callbacks := by simp [synchronizations, hsync]
    rw [← hall]
    exact eq_map_callback only
  have conclusion : ∀ at_ : Environment κ, conclude conduct status (env.enlistments.map Enlistment.callback) at_ =
      at_.leaveAll env.enlistments status := by
    intro at_
    -- The callback of a session does nothing in the first of the two phases.
    have told : (env.enlistments.map Enlistment.callback).foldl
        (fun env callback => callback.beforeCompletion conduct env) at_ = at_ := by
      rw [List.foldl_map]
      exact List.foldl_fixed env.enlistments
    unfold conclude leaveAll
    rw [told, List.foldl_map]
    rfl
  obtain ⟨prepared, same, hprep⟩ : ∃ prepared, SameStanding env.clearSynchronization prepared ∧
      prepareCommit conduct status callbacks env.clearSynchronization = (none, prepared) := by
    unfold prepareCommit
    split
    · rw [hcallbacks]
      exact beforeCommits_sessions conduct env.enlistments env.clearSynchronization
    · exact ⟨_, .refl _, rfl⟩
  refine ⟨prepared, same, ?_⟩
  rw [complete_eq conduct status hsync, hprep]
  show (Except.ok (), conclude conduct status callbacks prepared) = _
  rw [hcallbacks, conclusion]

/-! ### Sessions that were opened for the transaction -/

theorem SameStanding.settled_iff (h : SameStanding env after) (s : SessionId) : after.Settled s ↔ env.Settled s := by
  unfold Settled Waits
  simp only [h.connected_iff, h.storeOf?, h.pending?]

theorem SameStanding.atHome_iff (h : SameStanding env after) (s : SessionId) : after.AtHome s ↔ env.AtHome s := by
  unfold AtHome
  simp only [h.storeOf?, h.bound]

/-- The completion gets a session back: it has no entries but those that are taken out, and is within reach or
settled. -/
structure Reclaimed (env : Environment κ) (s : SessionId) : Prop where
  entries : ∀ d, (env.bound d).count s ≤ (env.newcomers env.enlistments d).count s
  reach : env.AtHome s ∨ env.Settled s

/-- A session that only joined is where it was, and nothing of the transaction is left on it. -/
structure Stays (env after : Environment κ) (s : SessionId) (store : StoreId) : Prop where
  place : ∀ d, (after.bound d).filter (fun x => !env.isNewcomer x) = (env.bound d).filter fun x => !env.isNewcomer x
  connected : after.Connected s ↔ env.Connected s
  unmarked : after.takesPart s = false
  holder : after.isMarked store = false
  neighbours : ∀ x ∈ after.bound store, after.takesPart x = false

theorem filter_diff {p : SessionId → Bool} (l gone : List SessionId) (h : ∀ x ∈ gone, p x = false) :
    (l.diff gone).filter p = l.filter p := by
  induction gone generalizing l with
  | nil => rfl
  | cons x rest ih =>
    rw [List.diff_cons, ih (l.erase x) fun y hy => h y (List.mem_cons_of_mem _ hy), ← List.erase_filter,
      List.erase_of_not_mem]
    intro hx
    have := (List.mem_filter.mp hx).2
    rw [h x List.mem_cons_self] at this
    cases this

theorem isNewcomer_eq_true_iff : env.isNewcomer s = true ↔ ∃ e ∈ env.enlistments, e.isNew = true ∧ e.session = s := by
  simp [isNewcomer]

section Completed
variable {conduct : Conduct κ}

/-- A new session ends in no stack, and closed or waiting to be closed, just if the completion gets it back. -/
theorem complete_newcomer (active : env.isSynchronizing = true)
    (only : ∀ callback ∈ env.synchronizations, ∃ e : Enlistment, callback = e.callback)
    (hs : env.isNewcomer s = true) : (¬(env.complete conduct status).2.Held s ∧ (env.complete conduct status).2.Settled s) ↔
      env.Reclaimed s := by
  obtain ⟨prepared, same, hcomplete⟩ := complete_sessions conduct status active only
  have hstore : ∀ x, prepared.storeOf? x = env.storeOf? x := same.storeOf?
  have hbound : ∀ d, prepared.bound d = env.bound d := same.bound
  have hheld : ¬(prepared.leaveAll env.enlistments status).Held s ↔
      ∀ d, (env.bound d).count s ≤ (env.newcomers env.enlistments d).count s := by
    unfold Held
    rw [not_exists]
    apply forall_congr'
    intro d
    rw [bound_leaveAll, ← List.count_eq_zero, count_diff, hbound, newcomers_congr hstore]
    omega
  have hsettled : (prepared.leaveAll env.enlistments status).Settled s ↔ env.AtHome s ∨ env.Settled s := by
    have hsame : prepared.Settled s ↔ env.Settled s := same.settled_iff s
    have hhome : prepared.AtHome s ↔ env.AtHome s := same.atHome_iff s
    rw [settled_leaveAll, hsame, hhome, and_iff_left (isNewcomer_eq_true_iff.mp hs), or_comm]
  rw [hcomplete]
  show ¬(prepared.leaveAll env.enlistments status).Held s ∧ (prepared.leaveAll env.enlistments status).Settled s ↔ _
  rw [hheld, hsettled]
  exact ⟨fun h => ⟨h.1, h.2⟩, fun h => ⟨h.entries, h.reach⟩⟩

/-- A session that only joined stays. -/
theorem complete_joined (active : env.isSynchronizing = true)
    (only : ∀ callback ∈ env.synchronizations, ∃ e : Enlistment, callback = e.callback)
    (joined : Synchronization.session s store false ∈ env.synchronizations) (old : env.isNewcomer s = false) :
    env.Stays (env.complete conduct status).2 s store := by
  obtain ⟨prepared, same, hcomplete⟩ := complete_sessions conduct status active only
  have he : (⟨s, store, false⟩ : Enlistment) ∈ env.enlistments := mem_enlistments.mpr joined
  obtain ⟨hpart, hmark, hothers⟩ := unmarked_leaveAll he status prepared
  rw [hcomplete]
  refine ⟨fun d => ?_, ?_, hpart, hmark, hothers⟩
  · rw [bound_leaveAll, same.bound]
    apply filter_diff
    intro x hx
    obtain ⟨-, e, he, rfl, hnew⟩ := mem_newcomers.mp hx
    rw [isNewcomer_eq_true_iff.mpr ⟨e, he, hnew, rfl⟩]
    rfl
  · have hconn : prepared.Connected s ↔ env.Connected s := same.connected_iff s
    show (prepared.leaveAll env.enlistments status).Connected s ↔ env.Connected s
    rw [connected_leaveAll, hconn]
    intro e he hnew hes
    rw [← Bool.not_eq_true] at old
    exact old (isNewcomer_eq_true_iff.mpr ⟨e, he, hnew, hes⟩)

end Completed

/-! ### The time of a transaction -/

/-- A run asks for a session of a datastore and gets one that is opened then. -/
def Opens : List (Act κ) → Environment κ → SessionId → StoreId → Prop
  | [], _, _, _ => False
  | act :: rest, env, s, store =>
    (∃ allow, act = .getOrCreate store allow ∧ ¬env.Opened s ∧ (env.getOrCreate store allow).1 = .ok s) ∨
      Opens rest (act.perform env) s store

theorem isSynchronizing_performAll (active : env.isSynchronizing = true) (kept : Act.clearSynchronization ∉ acts) :
    (env.performAll acts).isSynchronizing = true := by
  induction acts generalizing env with
  | nil => exact active
  | cons act rest ih =>
    have hne : act ≠ .clearSynchronization := by
      rintro rfl
      exact kept List.mem_cons_self
    exact ih (act.isSynchronizing_perform hne active) fun h => kept (List.mem_cons_of_mem _ h)

theorem mem_synchronizations_performAll {callback : Synchronization κ} (hmem : callback ∈ env.synchronizations)
    (kept : Act.clearSynchronization ∉ acts) : callback ∈ (env.performAll acts).synchronizations := by
  induction acts generalizing env with
  | nil => exact hmem
  | cons act rest ih =>
    refine ih ?_ fun h => kept (List.mem_cons_of_mem _ h)
    rcases act.synchronizations_perform env with rfl | ⟨added, hsync, -⟩
    · exact absurd List.mem_cons_self kept
    · rw [hsync]
      exact List.mem_append_left added hmem

/-- A session that is opened while a transaction is running is enlisted as new in the same step. -/
theorem enlisted_of_opened {allow : Bool} (active : env.isSynchronizing = true) (unopened : ¬env.Opened s)
    (h : (env.getOrCreate store allow).1 = .ok s) :
    .session s store true ∈ (env.getOrCreate store allow).2.synchronizations := by
  obtain ⟨t, hs, hg⟩ | ⟨-, fault, refused, hg, -, -⟩ | ⟨-, opened, hreg, -, hg⟩ := getOrCreate_cases store allow env
  · rw [hg] at h
    cases h
    exact absurd (connected_of_serving? hs).opened unopened
  · rw [hg] at h
    cases h
  · rw [hg] at h ⊢
    cases h
    obtain ⟨callbacks, hsync⟩ : ∃ callbacks, env.registry.synchronizations = some callbacks :=
      Option.isSome_iff_exists.mp active
    show .session env.fresh store true ∈
      (if env.isSynchronizing then opened.enterTransaction env.fresh store else opened).synchronizations
    rw [active, if_pos rfl, synchronizations, synchronizations_enterTransaction, hreg, synchronizations_joinCurrent, hsync]
    simp

/-- A session that is opened in the course of a transaction is still enlisted as new at its end. -/
theorem Opens.isNewcomer (active : env.isSynchronizing = true) (kept : Act.clearSynchronization ∉ acts)
    (h : Opens acts env s store) : (env.performAll acts).isNewcomer s = true := by
  induction acts generalizing env with
  | nil => exact h.elim
  | cons act rest ih =>
    have kept' : Act.clearSynchronization ∉ rest := fun h => kept (List.mem_cons_of_mem _ h)
    rcases h with ⟨allow, rfl, unopened, hok⟩ | h
    -- Nothing but dropping all callbacks takes the one away that the opening made.
    · have henlisted := enlisted_of_opened active unopened hok
      have hmem := mem_synchronizations_performAll henlisted kept'
      exact isNewcomer_eq_true_iff.mpr ⟨⟨s, store, true⟩, mem_enlistments.mpr hmem, rfl, rfl⟩
    · have hne : act ≠ .clearSynchronization := by
        rintro rfl
        exact kept List.mem_cons_self
      exact ih (act.isSynchronizing_perform hne active) kept' h

/-- At the end of a transaction that has only the callbacks of sessions, each session that was opened in its course
is in no stack, and closed or waiting to be closed, if and only if the completion gets it back; and each that only
joined stays. -/
theorem complete_reclaims_iff {begun start : Environment κ} (begin : start.startSynchronization = (.ok (), begun))
    (kept : Act.clearSynchronization ∉ acts)
    (only : ∀ callback ∈ (begun.performAll acts).synchronizations, ∃ e : Enlistment, callback = e.callback)
    (conduct : Conduct κ) (status : CompletionStatus)
    (completed : ((begun.performAll acts).complete conduct status).2 = after) :
    (∀ s store, Opens acts begun s store → (¬after.Held s ∧ after.Settled s ↔ (begun.performAll acts).Reclaimed s)) ∧
    ∀ s store, .session s store false ∈ (begun.performAll acts).synchronizations →
      (begun.performAll acts).isNewcomer s = false → (begun.performAll acts).Stays after s store := by
  have hbegun : begun.isSynchronizing = true := by
    unfold startSynchronization at begin
    split at begin
    · cases begin
    · cases begin
      rfl
  have active := isSynchronizing_performAll hbegun kept
  subst completed
  refine ⟨?_, ?_⟩
  · intro s store opens
    exact complete_newcomer active only (opens.isNewcomer hbegun kept)
  · intro s store joined old
    exact complete_joined active only joined old

/-- A session that is opened for a transaction is closed at its end, and one that joined is current as before. -/
theorem complete_reclaims_opened :
    let start : Environment Unit := (withStores 2).performAll [.connect ⟨2⟩, .bind ⟨1⟩ ⟨2⟩]
    let ended := start.startSynchronization.2.performAll [.getOrCreate ⟨1⟩ true, .getOrCreate ⟨2⟩ false]
    let after := (ended.complete .idle .committed).2
    (¬after.Held ⟨2⟩ ∧ after.Settled ⟨2⟩) ∧ ended.Stays after ⟨1⟩ ⟨2⟩ := by
  intro start ended after
  have only : ∀ callback ∈ ended.synchronizations, ∃ e : Enlistment, callback = e.callback := by
    intro callback hmem
    have hlist : ended.synchronizations = [.session ⟨2⟩ ⟨1⟩ true, .session ⟨1⟩ ⟨2⟩ false] := rfl
    rw [hlist] at hmem
    rcases List.mem_cons.mp hmem with rfl | hmem
    · exact ⟨⟨⟨2⟩, ⟨1⟩, true⟩, rfl⟩
    · obtain rfl := List.mem_singleton.mp hmem
      exact ⟨⟨⟨1⟩, ⟨2⟩, false⟩, rfl⟩
  have both := complete_reclaims_iff (rfl : start.startSynchronization = (.ok (), _)) (by simp) only .idle .committed
    (rfl : (ended.complete .idle .committed).2 = after)
  refine ⟨(both.1 ⟨2⟩ ⟨1⟩ ?_).mpr ⟨?_, Or.inl ⟨⟨1⟩, rfl, by decide⟩⟩, both.2 ⟨1⟩ ⟨2⟩ ?_ (by decide)⟩
  · exact Or.inl ⟨true, rfl, show ¬_ = true by decide, rfl⟩
  · intro d
    by_cases h₁ : d = ⟨1⟩
    · subst h₁
      decide
    by_cases h₂ : d = ⟨2⟩
    · subst h₂
      decide
    have hholders : ended.registry.holders = [(⟨1⟩, { sessions := [⟨2⟩], isSynchronized := true }),
      (⟨2⟩, { sessions := [⟨1⟩], isSynchronized := true })] := rfl
    have hbound : ended.bound d = [] := by
      simp only [bound, holder?, hholders, Keyed.get?, if_neg (Ne.symm h₁), if_neg (Ne.symm h₂)]
    show (ended.bound d).count ⟨2⟩ ≤ _
    rw [hbound]
    exact Nat.zero_le _
  · exact List.mem_cons_of_mem _ List.mem_cons_self

/-- A session that was opened for a transaction and whose holder is replaced is left open, in no stack and in no
window. -/
theorem not_complete_reclaims : ¬∀ (start begun : Environment Unit) (acts : List (Act Unit)), start.Reachable →
    start.startSynchronization = (.ok (), begun) → begun.AllFit acts → Act.clearSynchronization ∉ acts →
    (∀ callback ∈ (begun.performAll acts).synchronizations, ∃ e : Enlistment, callback = e.callback) →
    ∀ s store, Opens acts begun s store → ¬((begun.performAll acts).complete .idle .committed).2.Held s ∧
      ((begun.performAll acts).complete .idle .committed).2.Settled s := by
  intro claim
  have settled := (claim (withStores 1) _ [.getOrCreate ⟨1⟩ true, .connect ⟨1⟩, .bindWithCreator ⟨2⟩ ⟨1⟩ "x"]
    (.blank ⟨rfl, rfl⟩) rfl (by decide) (by simp) ?_ ⟨1⟩ ⟨1⟩ ?_).2
  · rcases settled with closed | ⟨d, pending, -, hpending, -⟩
    · exact closed (show _ = true by decide)
    · cases hpending
  · intro callback hmem
    obtain rfl := List.mem_singleton.mp hmem
    exact ⟨⟨⟨1⟩, ⟨1⟩, true⟩, rfl⟩
  · exact Or.inl ⟨true, rfl, show ¬_ = true by decide, rfl⟩

end Environment
end Persistence
