import Persistence.Proofs.Appearance
import Persistence.Proofs.Session.Standing

/-! What the operations of the registry do to its parts. The holders are read as one stack of
    sessions for each datastore: binding adds one entry on top of one stack, leaving takes one entry
    out, and every other stack stays as it is. Closing reads the windows and changes no stack. -/

namespace Persistence.Environment

variable {κ : Type} {env : Environment κ} {s x : SessionId} {store d : StoreId} {holder : Holder}

/-- The sessions that are bound for a datastore, the one bound last at the end. -/
def bound (env : Environment κ) (store : StoreId) : List SessionId :=
  match env.holder? store with
  | some holder => holder.sessions
  | none => []

/-- Whether the holder of a datastore is marked as part of the transaction. -/
def isMarked (env : Environment κ) (store : StoreId) : Bool :=
  match env.holder? store with
  | some holder => holder.isSynchronized
  | none => false

/-- Whether a session is in the stack of some datastore. -/
def Held (env : Environment κ) (s : SessionId) : Prop := ∃ d, s ∈ env.bound d

/-- Whether a session waits to be closed in the window of its own datastore. -/
def Waits (env : Environment κ) (s : SessionId) : Prop :=
  ∃ d pending, env.storeOf? s = some d ∧ env.pending? d = some pending ∧ s ∈ pending

/-- Whether a session is in the stack of its own datastore. -/
def AtHome (env : Environment κ) (s : SessionId) : Prop := ∃ d, env.storeOf? s = some d ∧ s ∈ env.bound d

theorem holder?_congr {env' : Environment κ} (h : env'.registry.holders = env.registry.holders) :
    env'.holder? store = env.holder? store := by
  simp only [holder?, h]

theorem bound_congr {env' : Environment κ} (h : env'.registry.holders = env.registry.holders) :
    env'.bound store = env.bound store := by
  simp only [bound, holder?, h]

theorem isMarked_congr {env' : Environment κ} (h : env'.registry.holders = env.registry.holders) :
    env'.isMarked store = env.isMarked store := by
  simp only [isMarked, holder?, h]

theorem pending?_congr {env' : Environment κ} (h : env'.registry.deferred = env.registry.deferred) :
    env'.pending? store = env.pending? store := by
  simp only [pending?, h]

theorem current?_eq : env.current? store = (env.bound store).getLast? := by
  unfold current? bound Holder.current?
  cases env.holder? store <;> rfl

theorem isBound_iff : env.isBound s store = true ↔ s ∈ env.bound store := by
  unfold isBound bound Holder.contains
  cases env.holder? store <;> simp

/-! ### Notes -/

@[simp]
theorem registry_note (notice : Notice) : (env.note notice).registry = env.registry := rfl

@[simp]
theorem holder?_note (notice : Notice) : (env.note notice).holder? store = env.holder? store := rfl

@[simp]
theorem bound_note (notice : Notice) : (env.note notice).bound store = env.bound store := rfl

/-! ### Holders -/

theorem holder?_setHolder : (env.setHolder store holder).holder? d = if d = store then some holder else env.holder? d :=
  Keyed.get?_put _ _ _ _

theorem holder?_dropHolder : (env.dropHolder store).holder? d = if d = store then none else env.holder? d :=
  Keyed.get?_erase _ _ _

theorem bound_setHolder :
    (env.setHolder store holder).bound d = if d = store then holder.sessions else env.bound d := by
  unfold bound
  rw [holder?_setHolder]
  by_cases h : d = store <;> simp [h]

theorem isMarked_setHolder :
    (env.setHolder store holder).isMarked d = if d = store then holder.isSynchronized else env.isMarked d := by
  unfold isMarked
  rw [holder?_setHolder]
  by_cases h : d = store <;> simp [h]

theorem bound_dropHolder : (env.dropHolder store).bound d = if d = store then [] else env.bound d := by
  unfold bound
  rw [holder?_dropHolder]
  by_cases h : d = store <;> simp [h]

theorem bound_settleHolder :
    (env.settleHolder store holder).bound d = if d = store then holder.sessions else env.bound d := by
  unfold settleHolder Holder.isEmpty
  cases h : holder.sessions with
  | nil =>
    rw [List.isEmpty_nil, if_pos rfl, bound_dropHolder]
  | cons s rest =>
    rw [List.isEmpty_cons, if_neg (by simp), bound_setHolder, h]

@[simp]
theorem sessions_settleHolder : (env.settleHolder store holder).sessions = env.sessions := by
  unfold settleHolder
  split <;> rfl

@[simp]
theorem deferred_settleHolder : (env.settleHolder store holder).registry.deferred = env.registry.deferred := by
  unfold settleHolder
  split <;> rfl

@[simp]
theorem synchronizations_settleHolder :
    (env.settleHolder store holder).registry.synchronizations = env.registry.synchronizations := by
  unfold settleHolder
  split <;> rfl

/-! ### Closing now or later -/

/-- The two ways in which a session can be closed: it waits in the open window, or it is closed at once. -/
theorem closeOrDefer_cases (s : SessionId) (store : StoreId) (env : Environment κ) :
    (∃ windows pending, env.registry.deferred = some windows ∧ windows.get? store = some pending ∧
      env.closeOrDefer s store =
        (env.note (.deferring s)).setDeferred (some (windows.put store (addPending pending s)))) ∨
    (env.pending? store = none ∧ env.closeOrDefer s store = env.closeSession s) := by
  unfold closeOrDefer pending?
  cases hd : env.registry.deferred with
  | none => exact Or.inr ⟨rfl, rfl⟩
  | some windows =>
    cases hw : windows.get? store with
    | none => exact Or.inr ⟨by simp [hw], by simp [hw]⟩
    | some pending => exact Or.inl ⟨windows, pending, rfl, hw, by simp [hw]⟩

@[simp]
theorem holders_closeOrDefer : (env.closeOrDefer s store).registry.holders = env.registry.holders := by
  obtain ⟨_, _, -, -, h⟩ | ⟨-, h⟩ := closeOrDefer_cases s store env <;> rw [h]
  · rfl
  · rw [registry_closeSession]

@[simp]
theorem synchronizations_closeOrDefer :
    (env.closeOrDefer s store).registry.synchronizations = env.registry.synchronizations := by
  obtain ⟨_, _, -, -, h⟩ | ⟨-, h⟩ := closeOrDefer_cases s store env <;> rw [h]
  · rfl
  · rw [registry_closeSession]

theorem pending?_closeOrDefer : (env.closeOrDefer s store).pending? d =
    if d = store then (env.pending? store).map (addPending · s) else env.pending? d := by
  obtain ⟨windows, pending, hd, hw, h⟩ | ⟨hnone, h⟩ := closeOrDefer_cases s store env
  · have before : ∀ d, env.pending? d = windows.get? d := fun d => by simp [pending?, hd]
    rw [h, before, before, hw]
    show (windows.put store (addPending pending s)).get? d = _
    rw [Keyed.get?_put]
    rfl
  · have after : (env.closeOrDefer s store).pending? d = env.pending? d := by
      rw [h]
      exact pending?_congr (by rw [registry_closeSession])
    rw [after]
    by_cases hds : d = store
    · rw [if_pos hds, hds, hnone, Option.map_none]
    · rw [if_neg hds]

theorem sessions_closeOrDefer : (env.closeOrDefer s store).sessions =
    if env.isDeferring store then env.sessions else env.sessions.update s Session.disconnect := by
  obtain ⟨windows, pending, hd, hw, h⟩ | ⟨hnone, h⟩ := closeOrDefer_cases s store env
  · have : env.isDeferring store = true := by simp [isDeferring, pending?, hd, hw]
    rw [h, if_pos this]
    rfl
  · have : env.isDeferring store = false := by simp [isDeferring, hnone]
    rw [h, this, sessions_closeSession]
    rfl

theorem closing_closeOrDefer (s : SessionId) (store : StoreId) (env : Environment κ) :
    Sessions.Closing (if env.isDeferring store then [] else [s]) env.sessions
      (env.closeOrDefer s store).sessions := by
  rw [sessions_closeOrDefer]
  split
  · exact .refl _
  · exact .disconnect _ _

theorem mem_addPending {pending : List SessionId} : x ∈ addPending pending s ↔ x ∈ pending ∨ x = s :=
  mem_addOnce

/-! ### Windows -/

section CloseAll

theorem registry_closeAll (ids : List SessionId) (env : Environment κ) :
    (ids.foldl (fun env session => env.closeSession session) env).registry = env.registry := by
  induction ids generalizing env with
  | nil => rfl
  | cons s rest ih => rw [List.foldl_cons, ih, registry_closeSession]

theorem closing_closeAll (ids : List SessionId) (env : Environment κ) : Sessions.Closing ids env.sessions
    (ids.foldl (fun env session => env.closeSession session) env).sessions := by
  induction ids generalizing env with
  | nil => exact .refl _
  | cons s rest ih =>
    rw [List.foldl_cons]
    exact (closing_closeSession s env).trans (ih _)

end CloseAll

/-- Without a window nothing happens; else the window is gone and all that waited in it are closed. -/
theorem processDeferral_cases (store : StoreId) (env : Environment κ) :
    (env.pending? store = none ∧
      env.processDeferral store = (.error (.session (.noDeferredClose store)), env)) ∨
    ∃ windows pending, env.registry.deferred = some windows ∧ windows.get? store = some pending ∧
      env.processDeferral store = (.ok (), pending.foldl (fun env session => env.closeSession session)
        ((env.setDeferred (withoutWindow windows store)).note (.deferredCloseProcessed store pending.length))) := by
  unfold processDeferral pending?
  cases hd : env.registry.deferred with
  | none => exact Or.inl ⟨rfl, rfl⟩
  | some windows =>
    cases hw : windows.get? store with
    | none => exact Or.inl ⟨by simp [hw], by simp [hw]⟩
    | some pending => exact Or.inr ⟨windows, pending, rfl, hw, by simp [hw]⟩

@[simp]
theorem holders_processDeferral : (env.processDeferral store).2.registry.holders = env.registry.holders := by
  obtain ⟨-, h⟩ | ⟨_, _, -, -, h⟩ := processDeferral_cases store env
  · rw [h]
  · rw [h, registry_closeAll]
    rfl

@[simp]
theorem synchronizations_processDeferral :
    (env.processDeferral store).2.registry.synchronizations = env.registry.synchronizations := by
  obtain ⟨-, h⟩ | ⟨_, _, -, -, h⟩ := processDeferral_cases store env
  · rw [h]
  · rw [h, registry_closeAll]
    rfl

theorem closing_processDeferral : Sessions.Closing ((env.pending? store).getD []) env.sessions
    (env.processDeferral store).2.sessions := by
  obtain ⟨hnone, h⟩ | ⟨windows, pending, hd, hw, h⟩ := processDeferral_cases store env
  · rw [h, hnone]
    exact .refl _
  · have : env.pending? store = some pending := by simp [pending?, hd, hw]
    rw [h, this, Option.getD_some]
    exact closing_closeAll pending ((env.setDeferred (withoutWindow windows store)).note _)

/-! ### Binding and leaving -/

theorem bindSession_of_free (free : env.holder? store = none) :
    env.bindSession s store = env.setHolder store (Holder.ofSession s) := by
  simp [bindSession, free]

theorem bound_bindSession : (env.bindSession s store).bound d =
    if d = store then env.bound store ++ [s] else env.bound d := by
  unfold bindSession
  cases h : env.holder? store with
  | none =>
    have : env.bound store = [] := by simp [bound, h]
    simp only [bound_setHolder, this]
    rfl
  | some holder =>
    have : env.bound store = holder.sessions := by simp [bound, h]
    simp only [bound_setHolder, this]
    rfl

theorem closing_push (holder : Holder) (s : SessionId) (sessions : Sessions) :
    Sessions.Closing [] sessions (holder.push s sessions).2 := by
  unfold Holder.push
  split
  · exact .update (by simp [Session.setSynchronized]) (by simp [Session.setSynchronized])
      (by simp [Session.setSynchronized])
  · exact .refl _

theorem closing_bindSession (s : SessionId) (store : StoreId) (env : Environment κ) :
    Sessions.Closing [] env.sessions (env.bindSession s store).sessions := by
  unfold bindSession
  cases env.holder? store with
  | none => exact .refl _
  | some holder => exact closing_push holder s env.sessions

@[simp]
theorem synchronizations_bindSession :
    (env.bindSession s store).registry.synchronizations = env.registry.synchronizations := by
  unfold bindSession
  cases env.holder? store <;> rfl

@[simp]
theorem deferred_bindSession : (env.bindSession s store).registry.deferred = env.registry.deferred := by
  unfold bindSession
  cases env.holder? store <;> rfl

section Creator
variable {creator : String}

theorem bound_bindWithCreator : (env.bindWithCreator s store creator).bound d =
    if d = store then [s] else env.bound d := by
  unfold bindWithCreator
  cases env.holder? store <;> exact bound_setHolder

@[simp]
theorem sessions_bindWithCreator : (env.bindWithCreator s store creator).sessions = env.sessions := by
  unfold bindWithCreator
  cases env.holder? store <;> rfl

@[simp]
theorem synchronizations_bindWithCreator :
    (env.bindWithCreator s store creator).registry.synchronizations = env.registry.synchronizations := by
  unfold bindWithCreator
  cases env.holder? store <;> rfl

@[simp]
theorem deferred_bindWithCreator :
    (env.bindWithCreator s store creator).registry.deferred = env.registry.deferred := by
  unfold bindWithCreator
  cases env.holder? store <;> rfl

end Creator

theorem bound_removeBound : (env.removeBound s store).bound d =
    if d = store then (env.bound store).erase s else env.bound d := by
  unfold removeBound
  cases h : env.holder? store with
  | none =>
    have : env.bound store = [] := by simp [bound, h]
    by_cases hd : d = store <;> simp [hd, this]
  | some holder =>
    have : env.bound store = holder.sessions := by simp [bound, h]
    simp only [bound_settleHolder, this]
    rfl

@[simp]
theorem sessions_removeBound : (env.removeBound s store).sessions = env.sessions := by
  unfold removeBound
  cases env.holder? store <;> simp

@[simp]
theorem deferred_removeBound : (env.removeBound s store).registry.deferred = env.registry.deferred := by
  unfold removeBound
  cases env.holder? store <;> simp

@[simp]
theorem synchronizations_removeBound :
    (env.removeBound s store).registry.synchronizations = env.registry.synchronizations := by
  unfold removeBound
  cases env.holder? store <;> simp

/-- A session that is bound for its datastore is taken out of that holder and closed, now or later; with any other
session nothing happens but a note. -/
theorem unbindSession_cases (s : SessionId) (env : Environment κ) :
    (∃ d, env.storeOf? s = some d ∧ s ∈ env.bound d ∧
      env.unbindSession s = (env.removeBound s d).closeOrDefer s d) ∨
    ((∀ d, env.storeOf? s = some d → s ∉ env.bound d) ∧
      (env.unbindSession s).registry = env.registry ∧ (env.unbindSession s).sessions = env.sessions) := by
  unfold unbindSession storeOf?
  cases hs : env.session? s with
  | none => exact Or.inr ⟨by simp, rfl, rfl⟩
  | some t =>
    -- The holder that is asked is that of the session's own datastore, whatever other stacks it is in.
    cases hh : env.holder? t.store with
    | none => exact Or.inr ⟨by simp [bound, hh], by simp only [hh]; rfl, by simp only [hh]; rfl⟩
    | some holder =>
      have hb : env.bound t.store = holder.sessions := by simp [bound, hh]
      by_cases hmem : s ∈ holder.sessions
      · refine Or.inl ⟨t.store, rfl, hb ▸ hmem, ?_⟩
        simp [hh, Holder.contains, hmem, removeBound]
      · refine Or.inr ⟨by simp [hb, hmem], ?_, ?_⟩ <;>
        · simp only [hh, Holder.contains, List.contains_iff_mem, hmem, if_false]
          rfl

/-- An unbound session loses one entry, the lowest one, in the stack of its own datastore. -/
theorem bound_unbindSession : (env.unbindSession s).bound d =
    if env.storeOf? s = some d then (env.bound d).erase s else env.bound d := by
  obtain ⟨own, hown, hmem, h⟩ | ⟨hnot, hreg, -⟩ := unbindSession_cases s env
  · rw [h, bound_congr holders_closeOrDefer, bound_removeBound, hown]
    by_cases hd : d = own
    · simp [hd]
    · simp [hd, Ne.symm hd]
  · rw [bound_congr (congrArg Registry.holders hreg)]
    split
    · next hd => rw [List.erase_of_not_mem (hnot d hd)]
    · rfl

theorem isMarked_settleHolder (h : (env.settleHolder store holder).isMarked d = true) :
    if d = store then holder.isSynchronized = true else env.isMarked d = true := by
  unfold settleHolder at h
  split at h
  · have hdrop : (env.dropHolder store).isMarked d = if d = store then false else env.isMarked d := by
      unfold isMarked
      rw [holder?_dropHolder]
      by_cases hd : d = store <;> simp [hd]
    rw [hdrop] at h
    split at h
    · cases h
    · next hd => rwa [if_neg hd]
  · rw [isMarked_setHolder] at h
    split at h
    · next hd => rwa [if_pos hd]
    · next hd => rwa [if_neg hd]

theorem isMarked_unbindSession (h : (env.unbindSession s).isMarked d = true) : env.isMarked d = true := by
  obtain ⟨own, -, -, hunbind⟩ | ⟨-, hreg, -⟩ := unbindSession_cases s env
  · rw [hunbind, isMarked_congr holders_closeOrDefer] at h
    unfold removeBound at h
    cases hh : env.holder? own with
    | none => simpa [hh] using h
    | some holder =>
      simp only [hh] at h
      -- Leaving can only drop the holder, and with it the mark, or leave the mark as it is.
      have := isMarked_settleHolder h
      split at this
      · next hd =>
        subst hd
        simpa [isMarked, hh, Holder.remove] using this
      · exact this
  · rwa [isMarked_congr (congrArg Registry.holders hreg)] at h

@[simp]
theorem synchronizations_unbindSession :
    (env.unbindSession s).registry.synchronizations = env.registry.synchronizations := by
  obtain ⟨own, -, -, h⟩ | ⟨-, hreg, -⟩ := unbindSession_cases s env
  · rw [h, synchronizations_closeOrDefer, synchronizations_removeBound]
  · rw [hreg]

theorem pending?_unbindSession : (env.unbindSession s).pending? d =
    if env.storeOf? s = some d ∧ s ∈ env.bound d then (env.pending? d).map (addPending · s) else env.pending? d := by
  obtain ⟨own, hown, hmem, h⟩ | ⟨hnot, hreg, -⟩ := unbindSession_cases s env
  · have hsame : ∀ d, (env.removeBound s own).pending? d = env.pending? d := fun _ => pending?_congr deferred_removeBound
    rw [h, pending?_closeOrDefer, hsame, hsame, hown]
    by_cases hd : d = own
    · subst hd
      rw [if_pos rfl, if_pos ⟨rfl, hmem⟩]
    · rw [if_neg hd, if_neg]
      rintro ⟨hsome, -⟩
      cases hsome
      exact hd rfl
  · rw [pending?_congr (congrArg Registry.deferred hreg), if_neg]
    rintro ⟨hsome, hmem⟩
    exact hnot d hsome hmem

/-- Whether the registry closes a session at once when it is unbound. -/
def closesUnbound (env : Environment κ) (s : SessionId) : Bool :=
  match env.storeOf? s with
  | some d => (env.bound d).contains s && !env.isDeferring d
  | none => false

theorem closing_unbindSession (s : SessionId) (env : Environment κ) :
    Sessions.Closing (if env.closesUnbound s then [s] else []) env.sessions (env.unbindSession s).sessions := by
  obtain ⟨own, hown, hmem, h⟩ | ⟨hnot, -, hsess⟩ := unbindSession_cases s env
  · have hcond : env.closesUnbound s = !env.isDeferring own := by simp [closesUnbound, hown, hmem]
    have hdef : (env.removeBound s own).isDeferring own = env.isDeferring own := by
      unfold isDeferring
      rw [pending?_congr deferred_removeBound]
    have := closing_closeOrDefer s own (env.removeBound s own)
    rw [hdef, sessions_removeBound] at this
    rw [h, hcond]
    cases hd : env.isDeferring own <;> simpa [hd] using this
  · have hcond : env.closesUnbound s = false := by
      unfold closesUnbound
      cases hown : env.storeOf? s with
      | none => rfl
      | some d => simp [hnot d hown]
    rw [hcond, hsess]
    exact .refl _

/-! ### Marks -/

theorem bound_synchronizeHolder {flag : Bool} : (env.synchronizeHolder store flag).bound d = env.bound d := by
  unfold synchronizeHolder
  cases h : env.holder? store with
  | none => rfl
  | some holder =>
    simp only [bound_setHolder]
    split
    · next hd => simp [hd, bound, h, Holder.synchronize]
    · rfl

theorem closing_synchronizeHolder (store : StoreId) (flag : Bool) (env : Environment κ) :
    Sessions.Closing [] env.sessions (env.synchronizeHolder store flag).sessions := by
  unfold synchronizeHolder
  cases env.holder? store with
  | none => exact .refl _
  | some holder => exact .updateAll (fun _ => rfl) (fun _ => rfl) (fun _ => rfl)

@[simp]
theorem deferred_synchronizeHolder {flag : Bool} :
    (env.synchronizeHolder store flag).registry.deferred = env.registry.deferred := by
  unfold synchronizeHolder
  cases env.holder? store <;> rfl

@[simp]
theorem synchronizations_synchronizeHolder {flag : Bool} :
    (env.synchronizeHolder store flag).registry.synchronizations = env.registry.synchronizations := by
  unfold synchronizeHolder
  cases env.holder? store <;> rfl

end Persistence.Environment
