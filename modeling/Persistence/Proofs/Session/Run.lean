import Persistence.Proofs.Session.Act

/-! Runs of acts. What one act can do is said once for the sessions, once for the stacks and once for the callbacks;
    from this follows what every reachable environment keeps: identities are given out in order, and whatever is
    bound or enlisted was opened. Scoped executions and completions lead from one reachable environment to another
    one, whatever their bodies and callbacks do. -/

namespace Persistence

variable {κ : Type}

namespace Act

variable {env : Environment κ} {s x : SessionId} {store d : StoreId}

/-! ### What one act does -/

open Environment in
/-- An act opens at most one session, and only some acts close any. -/
theorem passes_perform (act : Act κ) (env : Environment κ) :
    ∃ closed, Passes closed env (act.perform env) ∧ (act.canClose = false → closed = []) := by
  have quiet : ∀ {after : Environment κ}, Sessions.Closing [] env.sessions after.sessions →
      ∃ closed, Passes closed env after ∧ (act.canClose = false → closed = []) :=
    fun h => ⟨[], .of_closing h, fun _ => rfl⟩
  have loud : ∀ (closed : List SessionId) {after : Environment κ}, act.canClose = true →
      Sessions.Closing closed env.sessions after.sessions →
      ∃ closed, Passes closed env after ∧ (act.canClose = false → closed = []) :=
    fun _ _ hc h => ⟨_, .of_closing h, fun hc' => by simp [hc] at hc'⟩
  cases act with
  | addStore name site failure => exact quiet (.refl _)
  | setAvailable store flag => exact quiet (.refl _)
  | visit s action => exact quiet (.of_eq (sessions_atSite action))
  | make store => exact ⟨[], .of_opened store (.refl _), fun _ => rfl⟩
  | connect store =>
    show ∃ closed, Passes closed env (env.connect store).2 ∧ _
    obtain ⟨fault, h⟩ | ⟨opened, h, -, hsess⟩ := connect_cases store env
    · rw [h]
      exact quiet (.refl _)
    · rw [h]
      exact ⟨[], .of_opened store (.of_eq hsess), fun _ => rfl⟩
  | getOrCreate store allow =>
    show ∃ closed, Passes closed env (env.getOrCreate store allow).2 ∧ _
    obtain ⟨s, -, h⟩ | ⟨-, fault, refused, h, -, hsess⟩ | ⟨-, opened, -, hsess, h⟩ :=
      getOrCreate_cases store allow env
    · rw [h]
      exact quiet closing_joinCurrent
    · rw [h]
      exact quiet (closing_joinCurrent.trans (.of_eq hsess))
    · rw [h]
      refine ⟨[], .of_opened store ?_, fun _ => rfl⟩
      rw [← hsess]
      cases env.isSynchronizing with
      | true => exact closing_enterTransaction
      | false => exact .refl _
  | bind s store => exact quiet (closing_bindSession s store env)
  | bindWithCreator s store creator => exact quiet (.of_eq sessions_bindWithCreator)
  | unbind s => exact loud _ rfl (closing_unbindSession s env)
  | release s store =>
    show ∃ closed, Passes closed env (env.releaseSession s store) ∧ _
    unfold releaseSession
    split
    · exact quiet (.refl _)
    · exact loud _ rfl (closing_closeOrDefer s store env)
  | close s => exact loud [s] rfl (closing_closeSession s env)
  | closeOrDefer s store => exact loud _ rfl (closing_closeOrDefer s store env)
  | openDeferral store => exact quiet (.refl _)
  | processDeferral store => exact loud _ rfl closing_processDeferral
  | leave s store =>
    have closing := closing_closeOrDefer s store (env.removeBound s store)
    rw [sessions_removeBound] at closing
    exact loud _ rfl closing
  | startSynchronization =>
    show ∃ closed, Passes closed env env.startSynchronization.2 ∧ _
    unfold Environment.startSynchronization
    split <;> exact quiet (.refl _)
  | clearSynchronization => exact quiet (.refl _)
  | register callback =>
    show ∃ closed, Passes closed env (env.registerSynchronization callback).2 ∧ _
    unfold registerSynchronization
    split
    · exact quiet (.of_eq (sessions_enlist callback))
    · exact quiet (.refl _)
  | depart leaving status =>
    obtain ⟨closed, h⟩ := closing_leaveAll leaving status env
    exact loud _ rfl h
  | disconnect s => exact loud [s] rfl (closing_disconnect s env)
  | flush s => exact quiet (closing_flush s env)
  | clear s => exact quiet (.update (fun _ h => h) (fun _ _ => rfl) (fun _ _ => rfl))
  | begin s => exact quiet (closing_begin s env)
  | commit s => exact quiet (closing_commit s env)
  | rollback s => exact quiet (closing_finishTransaction Transaction.rollback s env)
  | setSynchronized s flag => exact quiet (.update (fun _ h => h) (fun _ _ => rfl) (fun _ _ => rfl))
  | note notice => exact quiet (.refl _)
  | record event => exact quiet (.refl _)

open Environment in
/-- An act that disconnects a session is one that can close sessions. -/
theorem canClose_of_disconnected {act : Act κ} (hs : env.Connected s) (hnot : ¬(act.perform env).Connected s) :
    act.canClose = true := by
  obtain ⟨closed, hpass, hquiet⟩ := act.passes_perform env
  by_contra hcan
  obtain rfl := hquiet (by simpa using hcan)
  exact hnot ((hpass.connected_iff hs.opened).mpr ⟨hs, List.not_mem_nil⟩)

open Environment in
theorem holders_perform {act : Act κ} (h : act.keepsHolders = true) (env : Environment κ) :
    (act.perform env).registry.holders = env.registry.holders := by
  cases act with
  | addStore name site failure => rfl
  | setAvailable store flag => rfl
  | visit s action => exact congrArg Registry.holders (registry_atSite action)
  | make store => rfl
  | connect store =>
    show (env.connect store).2.registry.holders = env.registry.holders
    obtain ⟨fault, hc⟩ | ⟨opened, hc, hreg, -⟩ := connect_cases store env
    · rw [hc]
    · rw [hc]
      exact congrArg Registry.holders hreg
  | getOrCreate store allow => cases h
  | bind s store => cases h
  | bindWithCreator s store creator => cases h
  | unbind s => cases h
  | release s store =>
    show (env.releaseSession s store).registry.holders = env.registry.holders
    unfold releaseSession
    split
    · rfl
    · exact holders_closeOrDefer
  | close s => exact congrArg Registry.holders (registry_closeSession env s)
  | closeOrDefer s store => exact holders_closeOrDefer
  | openDeferral store => rfl
  | processDeferral store => exact holders_processDeferral
  | leave s store => cases h
  | startSynchronization =>
    show env.startSynchronization.2.registry.holders = env.registry.holders
    unfold Environment.startSynchronization
    split <;> rfl
  | clearSynchronization => rfl
  | register callback =>
    show (env.registerSynchronization callback).2.registry.holders = env.registry.holders
    unfold registerSynchronization
    split
    · exact holders_enlist callback
    · rfl
  | depart leaving status => cases h
  | disconnect s => exact congrArg Registry.holders (registry_disconnect env s)
  | flush s => exact congrArg Registry.holders (registry_flush s env)
  | clear s => rfl
  | begin s => exact congrArg Registry.holders (registry_begin s env)
  | commit s => exact congrArg Registry.holders (registry_commit s env)
  | rollback s => exact congrArg Registry.holders (registry_finishTransaction Transaction.rollback s env)
  | setSynchronized s flag => rfl
  | note notice => rfl
  | record event => rfl

open Environment in
theorem deferred_perform {act : Act κ} (h : act.keepsWindows = true) (env : Environment κ) :
    (act.perform env).registry.deferred = env.registry.deferred := by
  cases act with
  | addStore name site failure => rfl
  | setAvailable store flag => rfl
  | visit s action => exact congrArg Registry.deferred (registry_atSite action)
  | make store => rfl
  | connect store =>
    show (env.connect store).2.registry.deferred = env.registry.deferred
    obtain ⟨fault, hc⟩ | ⟨opened, hc, hreg, -⟩ := connect_cases store env
    · rw [hc]
    · rw [hc]
      exact congrArg Registry.deferred hreg
  | getOrCreate store allow => exact deferred_getOrCreate
  | bind s store => exact deferred_bindSession
  | bindWithCreator s store creator => exact deferred_bindWithCreator
  | unbind s => cases h
  | release s store => cases h
  | close s => exact congrArg Registry.deferred (registry_closeSession env s)
  | closeOrDefer s store => cases h
  | openDeferral store => cases h
  | processDeferral store => cases h
  | leave s store => cases h
  | startSynchronization =>
    show env.startSynchronization.2.registry.deferred = env.registry.deferred
    unfold Environment.startSynchronization
    split <;> rfl
  | clearSynchronization => rfl
  | register callback =>
    show (env.registerSynchronization callback).2.registry.deferred = env.registry.deferred
    unfold registerSynchronization
    split
    · exact deferred_enlist callback
    · rfl
  | depart leaving status => cases h
  | disconnect s => exact congrArg Registry.deferred (registry_disconnect env s)
  | flush s => exact congrArg Registry.deferred (registry_flush s env)
  | clear s => rfl
  | begin s => exact congrArg Registry.deferred (registry_begin s env)
  | commit s => exact congrArg Registry.deferred (registry_commit s env)
  | rollback s => exact congrArg Registry.deferred (registry_finishTransaction Transaction.rollback s env)
  | setSynchronized s flag => rfl
  | note notice => rfl
  | record event => rfl

open Environment in
/-- A session in a stack was there before, or was just bound, or was opened by the act. -/
theorem mem_bound_perform (act : Act κ) (h : x ∈ (act.perform env).bound d) :
    x ∈ env.bound d ∨ act.Binds x d ∨
      ∃ store allow, act = .getOrCreate store allow ∧ x = env.fresh ∧ (env.getOrCreate store allow).1 = .ok x := by
  cases act with
  | getOrCreate store allow =>
    rcases mem_bound_getOrCreate h with h | ⟨hx, hok⟩
    · exact Or.inl h
    · exact Or.inr (Or.inr ⟨store, allow, rfl, hx, hok⟩)
  | bind s store =>
    rw [perform, bound_bindSession] at h
    split at h
    · next hd =>
      subst hd
      rcases List.mem_append.mp h with h | h
      · exact Or.inl h
      · obtain rfl := List.mem_singleton.mp h
        exact Or.inr (Or.inl (Or.inl rfl))
    · exact Or.inl h
  | bindWithCreator s store creator =>
    rw [perform, bound_bindWithCreator] at h
    split at h
    · next hd =>
      subst hd
      obtain rfl := List.mem_singleton.mp h
      exact Or.inr (Or.inl (Or.inr ⟨creator, rfl⟩))
    · exact Or.inl h
  | unbind s =>
    rw [perform, bound_unbindSession] at h
    split at h
    · exact Or.inl (List.mem_of_mem_erase h)
    · exact Or.inl h
  | leave s store =>
    rw [perform, bound_congr holders_closeOrDefer, bound_removeBound] at h
    split at h
    · next hd =>
      subst hd
      exact Or.inl (List.mem_of_mem_erase h)
    · exact Or.inl h
  | depart leaving status =>
    rw [perform, bound_leaveAll] at h
    exact Or.inl (List.diff_subset _ _ h)
  | _ =>
    rw [bound_congr (holders_perform rfl env)] at h
    exact Or.inl h

open Environment in
/-- Callbacks are only added, those that the act enlists, until they are dropped together. -/
theorem callbacks_perform (act : Act κ) (env : Environment κ) :
    act = .clearSynchronization ∨
    (env.registry.synchronizations = none ∧ (act.perform env).registry.synchronizations = some []) ∨
    ∃ added, (act.perform env).registry.synchronizations = env.registry.synchronizations.map (· ++ added) ∧
      ∀ callback ∈ added, act.Enlists env callback := by
  have same : (act.perform env).registry.synchronizations = env.registry.synchronizations →
      act = .clearSynchronization ∨
      (env.registry.synchronizations = none ∧ (act.perform env).registry.synchronizations = some []) ∨
      ∃ added, (act.perform env).registry.synchronizations = env.registry.synchronizations.map (· ++ added) ∧
        ∀ callback ∈ added, act.Enlists env callback := by
    intro h
    refine Or.inr (Or.inr ⟨[], ?_, by simp⟩)
    rw [h]
    simp
  cases act with
  | addStore name site failure => exact same rfl
  | setAvailable store flag => exact same rfl
  | visit s action => exact same (congrArg Registry.synchronizations (registry_atSite action))
  | make store => exact same rfl
  | connect store =>
    refine same ?_
    show (env.connect store).2.registry.synchronizations = env.registry.synchronizations
    obtain ⟨fault, hc⟩ | ⟨opened, hc, hreg, -⟩ := connect_cases store env
    · rw [hc]
    · rw [hc]
      exact congrArg Registry.synchronizations hreg
  | getOrCreate store allow =>
    obtain ⟨added, hsync, hadded⟩ := synchronizations_getOrCreate store allow env
    refine Or.inr (Or.inr ⟨added, hsync, ?_⟩)
    intro callback hmem
    rcases hadded with rfl | ⟨s, isNew, rfl, hok⟩
    · cases hmem
    · obtain rfl := List.mem_singleton.mp hmem
      exact Or.inr ⟨store, allow, s, isNew, rfl, rfl, hok⟩
  | bind s store => exact same synchronizations_bindSession
  | bindWithCreator s store creator => exact same synchronizations_bindWithCreator
  | unbind s => exact same synchronizations_unbindSession
  | release s store =>
    refine same ?_
    show (env.releaseSession s store).registry.synchronizations = env.registry.synchronizations
    unfold releaseSession
    split
    · rfl
    · exact synchronizations_closeOrDefer
  | close s => exact same (congrArg Registry.synchronizations (registry_closeSession env s))
  | closeOrDefer s store => exact same synchronizations_closeOrDefer
  | openDeferral store => exact same rfl
  | processDeferral store => exact same synchronizations_processDeferral
  | leave s store => exact same (synchronizations_closeOrDefer.trans synchronizations_removeBound)
  | startSynchronization =>
    cases h : env.registry.synchronizations with
    | none =>
      refine Or.inr (Or.inl ⟨rfl, ?_⟩)
      simp [perform, Environment.startSynchronization, isSynchronizing, setSynchronizations, h]
    | some callbacks =>
      refine h ▸ same ?_
      simp [perform, Environment.startSynchronization, isSynchronizing, h]
  | clearSynchronization => exact Or.inl rfl
  | register callback =>
    refine Or.inr (Or.inr ⟨[callback], ?_, fun other hmem => Or.inl ?_⟩)
    · cases h : env.registry.synchronizations <;> simp [perform, registerSynchronization, isSynchronizing, h]
    · rw [List.mem_singleton.mp hmem]
  | depart leaving status => exact same synchronizations_leaveAll
  | disconnect s => exact same (congrArg Registry.synchronizations (registry_disconnect env s))
  | flush s => exact same (congrArg Registry.synchronizations (registry_flush s env))
  | clear s => exact same rfl
  | begin s => exact same (congrArg Registry.synchronizations (registry_begin s env))
  | commit s => exact same (congrArg Registry.synchronizations (registry_commit s env))
  | rollback s =>
    exact same (congrArg Registry.synchronizations (registry_finishTransaction Transaction.rollback s env))
  | setSynchronized s flag => exact same rfl
  | note notice => exact same rfl
  | record event => exact same rfl

open Environment in
theorem synchronizations_perform (act : Act κ) (env : Environment κ) :
    act = .clearSynchronization ∨ ∃ added, (act.perform env).synchronizations = env.synchronizations ++ added ∧
      ∀ callback ∈ added, act.Enlists env callback := by
  rcases act.callbacks_perform env with rfl | ⟨hnone, hstart⟩ | ⟨added, hsync, hadded⟩
  · exact Or.inl rfl
  · exact Or.inr ⟨[], by simp [synchronizations, hnone, hstart], by simp⟩
  · right
    cases h : env.registry.synchronizations with
    | none => exact ⟨[], by simp [synchronizations, hsync, h], by simp⟩
    | some callbacks => exact ⟨added, by simp [synchronizations, hsync, h], hadded⟩

open Environment in
theorem isSynchronizing_perform (act : Act κ) (hne : act ≠ .clearSynchronization) (h : env.isSynchronizing = true) :
    (act.perform env).isSynchronizing = true := by
  rcases act.callbacks_perform env with rfl | ⟨-, hstart⟩ | ⟨added, hsync, -⟩
  · exact absurd rfl hne
  · simp [isSynchronizing, hstart]
  · rw [isSynchronizing, hsync, Option.isSome_map]
    exact h

end Act

namespace Environment

variable {env env' : Environment κ} {s x : SessionId} {store d : StoreId} {acts : List (Act κ)}

/-! ### What is reachable -/

/-- Nothing was opened yet and nothing is registered; there may be datastores. -/
structure IsBlank (env : Environment κ) : Prop where
  sessions : env.sessions = []
  registry : env.registry = {}

/-- The environments that runs of fitting acts lead to. -/
inductive Reachable : Environment κ → Prop where
  | blank {env : Environment κ} (h : env.IsBlank) : Reachable env
  | step {env : Environment κ} (act : Act κ) (h : Reachable env) (fits : act.Fits env) : Reachable (act.perform env)

/-- Identities are given out in order, and all that is bound or enlisted was opened. -/
structure WellFormed (env : Environment κ) : Prop where
  numbered : env.Numbered
  held : ∀ d, ∀ s ∈ env.bound d, env.Opened s
  enlisted : ∀ s d isNew, Synchronization.session s d isNew ∈ env.synchronizations → env.Opened s

theorem IsBlank.numbered (h : env.IsBlank) : env.Numbered := by
  intro s hs
  simp [Opened, session?, Sessions.get?, h.sessions] at hs

theorem IsBlank.bound (h : env.IsBlank) (d : StoreId) : env.bound d = [] := by
  simp [Environment.bound, holder?, h.registry]

theorem IsBlank.wellFormed (h : env.IsBlank) : env.WellFormed where
  numbered := h.numbered
  held d s hs := by
    rw [h.bound] at hs
    cases hs
  enlisted s d isNew hs := by simp [synchronizations, h.registry] at hs

theorem opened_of_sessions (h : env'.sessions = env.sessions ++ [{ id := env.fresh, store }]) :
    env'.Opened env.fresh := by
  unfold Opened session?
  rw [h, Sessions.get?_append, if_pos rfl]
  simp

theorem opened_getOrCreate {allow : Bool} (h : (env.getOrCreate store allow).1 = .ok s) :
    (env.getOrCreate store allow).2.Opened s := by
  obtain ⟨closed, hpass, -⟩ := Act.passes_perform (.getOrCreate store allow) env
  rcases serving?_or_fresh h with hs | ⟨hnone, rfl⟩
  · exact hpass.opened (connected_of_serving? hs).opened
  · obtain ⟨t, hs, -⟩ | ⟨-, fault, refused, hg, -, -⟩ | ⟨-, opened, -, hsess, hg⟩ := getOrCreate_cases store allow env
    · rw [hnone] at hs
      cases hs
    · rw [hg] at h
      cases h
    · have hopen : opened.Opened env.fresh := opened_of_sessions hsess
      rw [hg]
      cases env.isSynchronizing with
      | true => exact (Passes.of_closing closing_enterTransaction).opened hopen
      | false => exact hopen

/-- A fitting act keeps an environment well formed. -/
theorem WellFormed.perform (h : env.WellFormed) {act : Act κ} (fits : act.Fits env) : (act.perform env).WellFormed := by
  obtain ⟨closed, hpass, -⟩ := act.passes_perform env
  refine ⟨hpass.numbered h.numbered, ?_, ?_⟩
  · intro d x hx
    -- What is in a stack was there before, or is named by the act, or is what the act hands out.
    rcases act.mem_bound_perform hx with hx | hbinds | ⟨store, allow, rfl, -, hok⟩
    · exact hpass.opened (h.held d x hx)
    · refine hpass.opened (fits x ?_)
      rcases hbinds with rfl | ⟨creator, rfl⟩ <;> exact List.mem_singleton_self x
    · exact opened_getOrCreate hok
  · intro x d isNew hx
    rcases act.synchronizations_perform env with rfl | ⟨added, hsync, hadded⟩
    · cases hx
    · rw [hsync] at hx
      rcases List.mem_append.mp hx with hx | hx
      · exact hpass.opened (h.enlisted x d isNew hx)
      · rcases hadded _ hx with rfl | ⟨store, allow, t, isNew', rfl, heq, hok⟩
        · exact hpass.opened (fits x (List.mem_singleton_self x))
        · cases heq
          exact opened_getOrCreate hok

theorem Reachable.wellFormed (h : env.Reachable) : env.WellFormed := by
  induction h with
  | blank h => exact h.wellFormed
  | step act _ fits ih => exact ih.perform fits

/-! ### Runs -/

/-- What a run of acts makes of an environment. -/
def performAll (acts : List (Act κ)) (env : Environment κ) : Environment κ :=
  acts.foldl (fun env act => act.perform env) env

/-- Each act of a run fits the environment in which it comes. -/
def AllFit : List (Act κ) → Environment κ → Prop
  | [], _ => True
  | act :: rest, env => act.Fits env ∧ AllFit rest (act.perform env)

theorem performAll_append (more : List (Act κ)) :
    env.performAll (acts ++ more) = (env.performAll acts).performAll more :=
  List.foldl_append ..

theorem AllFit.append {more : List (Act κ)} (h : env.AllFit acts) (h' : (env.performAll acts).AllFit more) :
    env.AllFit (acts ++ more) := by
  induction acts generalizing env with
  | nil => exact h'
  | cons act rest ih => exact ⟨h.1, ih h.2 h'⟩

theorem Reachable.performAll (h : env.Reachable) (fits : env.AllFit acts) : (env.performAll acts).Reachable := by
  induction acts generalizing env with
  | nil => exact h
  | cons act rest ih => exact ih (.step act h fits.1) fits.2

/-- An act that is about no session fits everywhere. -/
theorem fits_of_names {act : Act κ} (h : act.names = []) : act.Fits env := by
  intro s hs
  rw [h] at hs
  cases hs

instance (act : Act κ) : Decidable (act.Fits env) := inferInstanceAs (Decidable (∀ s ∈ act.names, _ = true))

instance decidableAllFit : (acts : List (Act κ)) → (env : Environment κ) → Decidable (env.AllFit acts)
  | [], _ => inferInstanceAs (Decidable True)
  | act :: rest, env => @instDecidableAnd _ _ _ (decidableAllFit rest (act.perform env))

/-- A blank environment with so many datastores. -/
def withStores (count : Nat) : Environment κ :=
  { stores := (List.range count).map fun i => { id := ⟨i + 1⟩, name := "" } }

theorem reachable_withStores (count : Nat) (fits : (withStores count).AllFit acts) :
    ((withStores count).performAll acts).Reachable :=
  (Reachable.blank ⟨rfl, rfl⟩).performAll fits

theorem opened_performAll (acts : List (Act κ)) (hs : env.Opened s) : (env.performAll acts).Opened s := by
  induction acts generalizing env with
  | nil => exact hs
  | cons act rest ih =>
    obtain ⟨closed, hpass, -⟩ := act.passes_perform env
    exact ih (hpass.opened hs)

/-- Some run of fitting acts, each of them allowed, leads from `env` to `env'`. -/
def Leads (allowed : Act κ → Prop) (env env' : Environment κ) : Prop :=
  ∃ acts, env.AllFit acts ∧ (∀ act ∈ acts, allowed act) ∧ env.performAll acts = env'

end Environment

open Environment in
/-- In each phase the custom callbacks do nothing but fitting and allowed acts. -/
structure Conduct.Acts (conduct : Conduct κ) (allowed : Act κ → Prop) : Prop where
  beforeCommit : ∀ callback (env : Environment κ), env.Reachable →
    Leads allowed env (conduct.beforeCommit callback env).2
  beforeCompletion : ∀ callback (env : Environment κ), env.Reachable →
    Leads allowed env (conduct.beforeCompletion callback env)
  afterCompletion : ∀ callback status (env : Environment κ), env.Reachable →
    Leads allowed env (conduct.afterCompletion callback status env)

/-- Custom callbacks that do nothing. -/
def Conduct.idle : Conduct κ where
  beforeCommit _ env := (.ok (), env)
  beforeCompletion _ env := env
  afterCompletion _ _ env := env

namespace Environment.Leads
variable {allowed : Act κ → Prop} {env env' mid : Environment κ} {s x : SessionId} {store d : StoreId}
  {acts : List (Act κ)}

theorem refl (env : Environment κ) : Leads allowed env env := ⟨[], trivial, List.forall_mem_nil _, rfl⟩

theorem trans (h₁ : Leads allowed env mid) (h₂ : Leads allowed mid env') : Leads allowed env env' := by
  obtain ⟨acts, hfit, hall, rfl⟩ := h₁
  obtain ⟨more, hfit', hall', rfl⟩ := h₂
  refine ⟨acts ++ more, hfit.append hfit', fun act hact => ?_, performAll_append more⟩
  rcases List.mem_append.mp hact with hact | hact
  · exact hall act hact
  · exact hall' act hact

theorem act (act : Act κ) (fits : act.Fits env) (hallowed : allowed act) : Leads allowed env (act.perform env) := by
  refine ⟨[act], ⟨fits, trivial⟩, fun other hother => ?_, rfl⟩
  rwa [List.mem_singleton.mp hother]

theorem reachable (h : Leads allowed env env') (hr : env.Reachable) : env'.Reachable := by
  obtain ⟨acts, hfit, -, rfl⟩ := h
  exact hr.performAll hfit

theorem opened (h : Leads allowed env env') (hs : env.Opened s) : env'.Opened s := by
  obtain ⟨acts, -, -, rfl⟩ := h
  exact opened_performAll acts hs

section Composite

-- The acts of which executions and completions consist by themselves are allowed.
variable (routine : ∀ act : Act κ, act.isRoutine = true → allowed act)
include routine

/-- A scoped execution is a run of acts if its body is one. -/
theorem execute {α : Type} {body : SessionId → Environment κ → Except Fault α × Environment κ} (hr : env.Reachable)
    (acting : ∀ s at_, at_.Reachable → at_.Opened s → Leads allowed at_ (body s at_).2) :
    Leads allowed env (env.execute store body).2 := by
  cases hcur : env.current? store with
  | some s =>
    rw [execute_of_current hcur]
    refine acting s env hr (hr.wellFormed.held store s ?_)
    rw [current?_eq] at hcur
    exact List.mem_of_getLast? hcur
  | none =>
    have connected : Leads allowed env (env.connect store).2 :=
      act (.connect store) (fits_of_names rfl) (routine _ rfl)
    obtain ⟨fault, h⟩ | ⟨opened, h, -, hsess⟩ := connect_cases store env
    · rw [execute_of_refused hcur h]
      exact refl env
    · rw [h] at connected
      rw [execute_of_connected hcur h]
      have hopen : opened.Opened env.fresh := opened_of_sessions hsess
      -- The session that is opened goes through three acts: it is connected, bound, and given up after the body.
      have bound : Leads allowed env (opened.bindSession env.fresh store) :=
        connected.trans
          (act (.bind env.fresh store) (by simpa [Act.Fits, Act.names] using hopen) (routine _ rfl))
      have hopen' : (opened.bindSession env.fresh store).Opened env.fresh :=
        (Passes.of_closing (closing_bindSession env.fresh store opened)).opened hopen
      have ran := acting env.fresh _ (bound.reachable hr) hopen'
      refine (bound.trans ran).trans (act (.leave env.fresh store) ?_ (routine _ rfl))
      simpa [Act.Fits, Act.names] using ran.opened hopen'

/-- The sessions of callbacks were opened. -/
def Known (callbacks : List (Synchronization κ)) (env : Environment κ) : Prop :=
  ∀ s d isNew, Synchronization.session s d isNew ∈ callbacks → env.Opened s

/-- A completion is a run of acts if what the custom callbacks do are such runs. -/
theorem complete {conduct : Conduct κ} (acting : conduct.Acts allowed) (status : CompletionStatus)
    (hr : env.Reachable) : Leads allowed env (env.complete conduct status).2 := by
  have known : Known env.synchronizations env := hr.wellFormed.enlisted
  have keeps : conduct.Keeps env.synchronizations (Leads allowed env) :=
    { flush := fun s store isNew hmem at_ hat => by
        have noted : Leads allowed env (at_.note (.flushing s)) :=
          hat.trans (act (.note (.flushing s)) (fits_of_names rfl) (routine _ rfl))
        refine noted.trans (act (.flush s) ?_ (routine _ rfl))
        simpa [Act.Fits, Act.names] using noted.opened (known s store isNew hmem)
      failed := fun fault at_ hat =>
        hat.trans (act (.note (.beforeCommitFailed fault)) (fits_of_names rfl) (routine _ rfl))
      leave := fun s store isNew hmem status at_ hat => by
        refine hat.trans (act (.depart [⟨s, store, isNew⟩] status) ?_ (routine _ rfl))
        simpa [Act.Fits, Act.names] using hat.opened (known s store isNew hmem)
      beforeCommit := fun callback at_ hat => hat.trans (acting.beforeCommit callback at_ (hat.reachable hr))
      beforeCompletion := fun callback at_ hat => hat.trans (acting.beforeCompletion callback at_ (hat.reachable hr))
      afterCompletion := fun callback status at_ hat =>
        hat.trans (acting.afterCompletion callback status at_ (hat.reachable hr)) }
  exact keeps.complete (refl env) (act .clearSynchronization (fits_of_names rfl) (routine _ rfl))

end Composite

end Environment.Leads
end Persistence
