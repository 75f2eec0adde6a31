import Mathlib.Data.List.TakeWhile
import Persistence.Proofs.Session.Binding

/-! Sessions on demand. The stack of a datastore is cut off above the connected session that was bound last, and
    that session is handed out. Where no session is connected the stack is dropped and a session is opened, under
    an identity that no session has had; while a transaction is running it is bound and enlisted in the same
    step. -/

namespace Persistence.Environment

variable {κ : Type} {env : Environment κ} {s x : SessionId} {store d : StoreId} {allow : Bool}

/-! ### Callbacks -/

theorem registry_enlist (callback : Synchronization κ) : (env.enlist callback).registry =
    { env.registry with synchronizations := env.registry.synchronizations.map (· ++ [callback]) } := by
  unfold enlist
  cases h : env.registry.synchronizations with
  | none =>
    rw [Option.map_none]
    show env.registry = _
    rw [← h]
  | some callbacks => rfl

@[simp]
theorem sessions_enlist (callback : Synchronization κ) : (env.enlist callback).sessions = env.sessions := by
  unfold enlist
  cases env.registry.synchronizations <;> rfl

@[simp]
theorem holders_enlist (callback : Synchronization κ) :
    (env.enlist callback).registry.holders = env.registry.holders := by
  rw [registry_enlist]

@[simp]
theorem deferred_enlist (callback : Synchronization κ) :
    (env.enlist callback).registry.deferred = env.registry.deferred := by
  rw [registry_enlist]

@[simp]
theorem synchronizations_enlist (callback : Synchronization κ) :
    (env.enlist callback).registry.synchronizations =
      env.registry.synchronizations.map (· ++ [callback]) := by
  rw [registry_enlist]

/-! ### The session that serves -/

/-- The connected session that was bound last for a datastore. -/
def serving? (env : Environment κ) (store : StoreId) : Option SessionId :=
  (env.bound store).reverse.find? env.sessions.isConnected

/-- What is left of the stack of a datastore without the closed sessions on top. -/
def upright (env : Environment κ) (store : StoreId) : List SessionId :=
  ((env.bound store).reverse.dropWhile fun s => !env.sessions.isConnected s).reverse

theorem getLast?_upright : (env.upright store).getLast? = env.serving? store := by
  unfold upright serving?
  rw [List.getLast?_reverse, List.find?_eq_head?_dropWhile_not]

theorem upright_prefix : env.upright store <+: env.bound store := by
  unfold upright
  rw [← List.reverse_suffix, List.reverse_reverse]
  exact List.dropWhile_suffix _

theorem upright_eq_nil (h : env.serving? store = none) : env.upright store = [] := by
  rw [← getLast?_upright] at h
  exact List.getLast?_eq_none_iff.mp h

theorem connected_of_serving? (h : env.serving? store = some s) : env.Connected s := List.find?_some h

/-! ### Joining the transaction -/

/-- The callback with which the holder of a datastore joins the running transaction when its session is asked for. -/
def joining (env : Environment κ) (store : StoreId) : List (Synchronization κ) :=
  match env.serving? store with
  | some s => if env.isMarked store then [] else [.session s store false]
  | none => []

theorem current?_validated (holder : Holder) (p : SessionId → Bool) :
    (holder.validated p).current? = holder.sessions.reverse.find? p := by
  unfold Holder.validated Holder.current?
  rw [List.getLast?_reverse, List.find?_eq_head?_dropWhile_not]

/-- Without a connected session the holder is gone; else it is cut off above that session, and joins the running
transaction unless it is marked already. -/
theorem joinCurrent_cases (store : StoreId) (env : Environment κ) :
    (env.serving? store = none ∧
      (env.joinCurrent store = (none, env) ∧ env.holder? store = none ∨
        env.joinCurrent store = (none, env.dropHolder store))) ∨
    ∃ holder s, env.holder? store = some holder ∧ env.serving? store = some s ∧
      env.joinCurrent store = (some s,
        if env.isSynchronizing && !holder.isSynchronized then
          (((env.setHolder store { holder with sessions := env.upright store }).synchronizeHolder store true).note
            (.registeringExisting s)).enlist (.session s store false)
        else env.setHolder store { holder with sessions := env.upright store }) := by
  unfold joinCurrent
  cases hh : env.holder? store with
  | none => exact Or.inl ⟨by simp [serving?, bound, hh], Or.inl ⟨rfl, rfl⟩⟩
  | some holder =>
    have hb : env.bound store = holder.sessions := by simp [bound, hh]
    have hcut : holder.validated env.sessions.isConnected = { holder with sessions := env.upright store } := by
      simp [Holder.validated, upright, hb]
    -- What is on top after the cut is what is found from the top before it.
    have hcur := current?_validated holder env.sessions.isConnected
    rw [← hb] at hcur
    change _ = env.serving? store at hcur
    cases hs : env.serving? store with
    | none =>
      rw [hs] at hcur
      exact Or.inl ⟨rfl, Or.inr (by simp only [hcur])⟩
    | some s =>
      rw [hs] at hcur
      refine Or.inr ⟨holder, s, rfl, rfl, ?_⟩
      simp only [hcur]
      rw [hcut]
      split <;> rfl

theorem fst_joinCurrent (store : StoreId) (env : Environment κ) : (env.joinCurrent store).1 = env.serving? store := by
  obtain ⟨hnone, ⟨h, -⟩ | h⟩ | ⟨_, _, -, hs, h⟩ := joinCurrent_cases store env
  · rw [h, hnone]
  · rw [h, hnone]
  · rw [h, hs]

theorem bound_joinCurrent :
    (env.joinCurrent store).2.bound d = if d = store then env.upright store else env.bound d := by
  obtain ⟨hnone, ⟨h, hh⟩ | h⟩ | ⟨holder, s, hh, hs, h⟩ := joinCurrent_cases store env
  · have hb : env.bound store = [] := by simp [bound, hh]
    rw [h, upright_eq_nil hnone]
    split
    · next hd => rw [hd, hb]
    · rfl
  · rw [h, upright_eq_nil hnone]
    exact bound_dropHolder
  · rw [h]
    split
    · rw [bound_congr (holders_enlist _), bound_note, bound_synchronizeHolder, bound_setHolder]
    · rw [bound_setHolder]

theorem synchronizations_joinCurrent (store : StoreId) (env : Environment κ) :
    (env.joinCurrent store).2.registry.synchronizations =
      env.registry.synchronizations.map (· ++ env.joining store) := by
  unfold joining
  obtain ⟨hnone, ⟨h, -⟩ | h⟩ | ⟨holder, s, hh, hs, h⟩ := joinCurrent_cases store env
  · simp [h, hnone]
  · simp [h, hnone, dropHolder]
  · have hm : env.isMarked store = holder.isSynchronized := by simp [isMarked, hh]
    have hkept : ∀ kept : Holder, (env.setHolder store kept).registry.synchronizations =
        env.registry.synchronizations := fun _ => rfl
    rw [h, hs, hm]
    cases hmark : holder.isSynchronized with
    | true => simp [hkept]
    | false =>
      cases hsync : env.isSynchronizing with
      | true =>
        simp only [Bool.not_false, Bool.and_self, if_true, synchronizations_enlist]
        rw [registry_note, synchronizations_synchronizeHolder, hkept]
        simp
      | false =>
        have hsync : env.registry.synchronizations = none := by simpa [isSynchronizing] using hsync
        simp [hkept, hsync]

@[simp]
theorem deferred_joinCurrent : (env.joinCurrent store).2.registry.deferred = env.registry.deferred := by
  obtain ⟨-, ⟨h, -⟩ | h⟩ | ⟨holder, s, -, -, h⟩ := joinCurrent_cases store env
  · rw [h]
  · rw [h]
    rfl
  · rw [h]
    split
    · rw [deferred_enlist, registry_note, deferred_synchronizeHolder]
      rfl
    · rfl

/-- The sessions stay as they are, unless those of a holder that joins are marked. -/
theorem sessions_joinCurrent (store : StoreId) (env : Environment κ) :
    (env.joinCurrent store).2.sessions = env.sessions ∨ ∃ holder, (env.joinCurrent store).2.sessions =
      ((env.setHolder store holder).synchronizeHolder store true).sessions := by
  obtain ⟨-, ⟨h, -⟩ | h⟩ | ⟨holder, _, -, -, h⟩ := joinCurrent_cases store env
  · exact Or.inl (by rw [h])
  · exact Or.inl (by rw [h]; rfl)
  · rw [h]
    split
    · rw [sessions_enlist]
      exact Or.inr ⟨_, rfl⟩
    · exact Or.inl rfl

theorem closing_joinCurrent : Sessions.Closing [] env.sessions (env.joinCurrent store).2.sessions := by
  obtain same | ⟨holder, marked⟩ := sessions_joinCurrent store env
  · exact .of_eq same
  · rw [marked]
    exact closing_synchronizeHolder store true (env.setHolder store holder)

/-! ### Opening -/

/-- The identity of the session that is opened next. -/
def fresh (env : Environment κ) : SessionId := ⟨env.sessions.length + 1⟩

/-- A connection opens a new session or changes nothing. -/
theorem connect_cases (store : StoreId) (env : Environment κ) :
    (∃ fault, env.connect store = (.error fault, env)) ∨
    ∃ opened, env.connect store = (.ok env.fresh, opened) ∧ opened.registry = env.registry ∧
      opened.sessions = env.sessions ++ [{ id := env.fresh, store }] := by
  unfold connect
  cases env.store? store with
  | none => exact Or.inl ⟨_, rfl⟩
  | some found =>
    cases h : found.refusal? with
    | some fault => exact Or.inl ⟨fault, by simp only [h]⟩
    | none =>
      simp only [h]
      exact Or.inr ⟨_, rfl, rfl, rfl⟩

theorem fst_connect_congr {env' : Environment κ} (stores : env'.stores = env.stores)
    (sessions : env'.sessions = env.sessions) : (env'.connect store).1 = (env.connect store).1 := by
  unfold connect store?
  rw [stores, sessions]
  cases env.stores.find? (·.id == store) with
  | none => rfl
  | some found =>
    dsimp only
    cases found.refusal? <;> rfl

section Execute

variable {α : Type} {body : SessionId → Environment κ → Except Fault α × Environment κ} {opened : Environment κ}
  {fault : Fault}

theorem execute_of_current (h : env.current? store = some s) : env.execute store body = body s env := by
  simp [execute, h]

theorem execute_of_refused (h : env.current? store = none) (hc : env.connect store = (.error fault, opened)) :
    env.execute store body = (.error fault, opened) := by
  simp [execute, h, hc]

/-- A session that an execution opens is bound for the time of the body and given up after it. -/
theorem execute_of_connected (h : env.current? store = none) (hc : env.connect store = (.ok s, opened)) :
    env.execute store body = ((body s (opened.bindSession s store)).1,
      ((body s (opened.bindSession s store)).2.removeBound s store).closeOrDefer s store) := by
  simp [execute, h, hc]

end Execute

/-- Opening a session is a connection that was announced before. -/
theorem openSession_eq (store : StoreId) (env : Environment κ) :
    ∃ notices, env.openSession store =
      match ({ env with notices } : Environment κ).connect store with
      | (.error fault, after) => (.error (openingFault fault), after)
      | (.ok s, after) => (.ok s, if after.isSynchronizing then after.enterTransaction s store else after) := by
  unfold openSession
  cases env.store? store with
  | none => exact ⟨env.notices, rfl⟩
  | some found => exact ⟨env.notices ++ [.opening found.name], rfl⟩

/-- Opening a session comes to what the connection comes to; a session that is opened while a transaction is running is
bound and enlisted as new. -/
theorem openSession_cases (store : StoreId) (env : Environment κ) :
    (∃ fault notices, (env.connect store).1 = .error fault ∧
      env.openSession store = (.error (openingFault fault), { env with notices })) ∨
    ∃ opened, (env.connect store).1 = .ok env.fresh ∧ opened.registry = env.registry ∧
      opened.sessions = env.sessions ++ [{ id := env.fresh, store }] ∧
      env.openSession store =
        (.ok env.fresh, if env.isSynchronizing then opened.enterTransaction env.fresh store else opened) := by
  obtain ⟨notices, opening⟩ := openSession_eq store env
  have told : (({ env with notices } : Environment κ).connect store).1 = (env.connect store).1 :=
    fst_connect_congr rfl rfl
  obtain ⟨fault, refused⟩ | ⟨opened, connected, registry, sessions⟩ := connect_cases store { env with notices }
  · rw [refused] at told opening
    exact Or.inl ⟨fault, notices, told.symm, opening⟩
  · rw [connected] at told opening
    refine Or.inr ⟨opened, told.symm, registry, sessions, opening.trans ?_⟩
    have same : opened.isSynchronizing = env.isSynchronizing := by simp only [isSynchronizing, registry]
    simp only [same]
    rfl

section EnterTransaction

theorem bound_enterTransaction : (env.enterTransaction s store).bound d =
    if d = store then env.bound store ++ [s] else env.bound d := by
  unfold enterTransaction
  rw [bound_congr (holders_enlist _), bound_synchronizeHolder, bound_bindSession]
  rfl

theorem synchronizations_enterTransaction : (env.enterTransaction s store).registry.synchronizations =
    env.registry.synchronizations.map (· ++ [.session s store true]) := by
  unfold enterTransaction
  rw [synchronizations_enlist, synchronizations_synchronizeHolder, synchronizations_bindSession]
  rfl

@[simp]
theorem deferred_enterTransaction : (env.enterTransaction s store).registry.deferred = env.registry.deferred := by
  unfold enterTransaction
  rw [deferred_enlist, deferred_synchronizeHolder, deferred_bindSession]
  rfl

theorem closing_enterTransaction :
    Sessions.Closing [] env.sessions (env.enterTransaction s store).sessions := by
  unfold enterTransaction
  rw [sessions_enlist]
  have first : Sessions.Closing [] env.sessions ((env.note (.registeringNew s)).bindSession s store).sessions :=
    closing_bindSession s store (env.note (.registeringNew s))
  exact first.trans (closing_synchronizeHolder store true _)

end EnterTransaction

/-- Asking for a session gives the one that serves, or fails, or opens one. -/
theorem getOrCreate_cases (store : StoreId) (allow : Bool) (env : Environment κ) :
    (∃ s, env.serving? store = some s ∧ env.getOrCreate store allow = (.ok s, (env.joinCurrent store).2)) ∨
    (env.serving? store = none ∧ ∃ fault refused, env.getOrCreate store allow = (.error fault, refused) ∧
      refused.registry = (env.joinCurrent store).2.registry ∧
      refused.sessions = (env.joinCurrent store).2.sessions) ∨
    (env.serving? store = none ∧ ∃ opened, opened.registry = (env.joinCurrent store).2.registry ∧
      opened.sessions = env.sessions ++ [{ id := env.fresh, store }] ∧
      env.getOrCreate store allow =
        (.ok env.fresh, if env.isSynchronizing then opened.enterTransaction env.fresh store else opened)) := by
  have hfst := fst_joinCurrent store env
  unfold getOrCreate
  cases hs : env.serving? store with
  | some s =>
    refine Or.inl ⟨s, rfl, ?_⟩
    rw [hs] at hfst
    rcases hj : env.joinCurrent store with ⟨found, joined⟩
    rw [hj] at hfst
    cases hfst
    rfl
  | none =>
    rw [hs] at hfst
    obtain ⟨-, hj⟩ | ⟨_, _, -, hs', -⟩ := joinCurrent_cases store env
    swap
    · rw [hs] at hs'
      cases hs'
    -- Nothing serves, so that the holder is dropped at most and a session is opened among those of `env`.
    have hsess : (env.joinCurrent store).2.sessions = env.sessions := by
      obtain ⟨hj, -⟩ | hj := hj
      · rw [hj]
      · rw [hj]
        rfl
    have hsync : (env.joinCurrent store).2.isSynchronizing = env.isSynchronizing := by
      obtain ⟨hj, -⟩ | hj := hj
      · rw [hj]
      · rw [hj]
        rfl
    rcases hjj : env.joinCurrent store with ⟨found, joined⟩
    rw [hjj] at hfst hsess hsync
    cases hfst
    change joined.sessions = env.sessions at hsess
    change joined.isSynchronizing = env.isSynchronizing at hsync
    by_cases hopen : allow || joined.isSynchronizing
    · have hfresh : joined.fresh = env.fresh := by simp only [fresh, hsess]
      obtain ⟨fault, notices, -, h⟩ | ⟨opened, -, hreg, hsess', h⟩ := openSession_cases store joined
      · refine Or.inr (Or.inl ⟨rfl, openingFault fault, { joined with notices }, ?_, rfl, rfl⟩)
        simp only [hopen, if_true, h]
      · refine Or.inr (Or.inr ⟨rfl, opened, hreg, by rw [hsess', hfresh, hsess], ?_⟩)
        simp only [hopen, if_true, h]
        rw [hfresh, hsync]
    · refine Or.inr (Or.inl ⟨rfl, .session (.noneBound store), joined, ?_, rfl, rfl⟩)
      simp only [hopen]
      rfl

@[simp]
theorem deferred_getOrCreate : (env.getOrCreate store allow).2.registry.deferred = env.registry.deferred := by
  have joined : (env.joinCurrent store).2.registry.deferred = env.registry.deferred := deferred_joinCurrent
  rw [← joined]
  obtain ⟨s, -, h⟩ | ⟨-, fault, refused, h, hreg, -⟩ | ⟨-, opened, hreg, -, h⟩ := getOrCreate_cases store allow env
  · rw [h]
  · rw [h, hreg]
  · rw [h, ← hreg]
    split
    · exact deferred_enterTransaction
    · rfl

/-- A session that is handed out was connected already, or is new. -/
theorem serving?_or_fresh (h : (env.getOrCreate store allow).1 = .ok s) :
    env.serving? store = some s ∨ env.serving? store = none ∧ s = env.fresh := by
  obtain ⟨t, hs, hg⟩ | ⟨-, fault, refused, hg, -, -⟩ | ⟨hs, opened, -, -, hg⟩ := getOrCreate_cases store allow env
  · rw [hg] at h
    cases h
    exact Or.inl hs
  · rw [hg] at h
    cases h
  · rw [hg] at h
    cases h
    exact Or.inr ⟨hs, rfl⟩

/-- A stack holds afterwards what it held before, and at most the session that is handed out besides. -/
theorem mem_bound_getOrCreate (h : x ∈ (env.getOrCreate store allow).2.bound d) :
    x ∈ env.bound d ∨ x = env.fresh ∧ (env.getOrCreate store allow).1 = .ok x := by
  have hjoin : ∀ y, y ∈ (env.joinCurrent store).2.bound d → y ∈ env.bound d := by
    intro y hy
    rw [bound_joinCurrent] at hy
    split at hy
    · next hd => exact hd ▸ upright_prefix.subset hy
    · exact hy
  obtain ⟨s, -, hg⟩ | ⟨-, fault, refused, hg, hreg, -⟩ | ⟨-, opened, hreg, -, hg⟩ := getOrCreate_cases store allow env
  · rw [hg] at h
    exact Or.inl (hjoin x h)
  · rw [hg] at h
    refine Or.inl (hjoin x ?_)
    rwa [← bound_congr (congrArg Registry.holders hreg)]
  · have hopened : ∀ d, opened.bound d = (env.joinCurrent store).2.bound d :=
      fun d => bound_congr (congrArg Registry.holders hreg)
    rw [hg] at h ⊢
    change x ∈ (if env.isSynchronizing then opened.enterTransaction env.fresh store else opened).bound d at h
    split at h
    · rw [bound_enterTransaction, hopened, hopened] at h
      split at h
      · next hd =>
        rcases List.mem_append.mp h with h | h
        · exact Or.inl (hjoin x (hd ▸ h))
        · obtain rfl := List.mem_singleton.mp h
          exact Or.inr ⟨rfl, rfl⟩
      · exact Or.inl (hjoin x h)
    · rw [hopened] at h
      exact Or.inl (hjoin x h)

/-- At most one callback is added, that of the session that is handed out. -/
theorem synchronizations_getOrCreate (store : StoreId) (allow : Bool) (env : Environment κ) : ∃ added,
    (env.getOrCreate store allow).2.registry.synchronizations = env.registry.synchronizations.map (· ++ added) ∧
    (added = [] ∨ ∃ s isNew, added = [.session s store isNew] ∧ (env.getOrCreate store allow).1 = .ok s) := by
  have hjoin := synchronizations_joinCurrent store env
  have hnil : env.registry.synchronizations = env.registry.synchronizations.map (· ++ []) := by simp
  obtain ⟨s, hs, hg⟩ | ⟨hs, fault, refused, hg, hreg, -⟩ | ⟨hs, opened, hreg, -, hg⟩ :=
    getOrCreate_cases store allow env
  · refine ⟨env.joining store, by rw [hg, hjoin], ?_⟩
    rw [hg]
    unfold joining
    rw [hs]
    cases env.isMarked store with
    | true => exact Or.inl rfl
    | false => exact Or.inr ⟨s, false, rfl, rfl⟩
  · have hj : env.joining store = [] := by simp [joining, hs]
    refine ⟨[], ?_, Or.inl rfl⟩
    rw [hg, hreg, hjoin, hj]
  · have hj : env.joining store = [] := by simp [joining, hs]
    rw [hg]
    rw [hj, ← hnil] at hjoin
    cases hsync : env.isSynchronizing with
    | true =>
      refine ⟨[.session env.fresh store true], ?_, Or.inr ⟨env.fresh, true, rfl, rfl⟩⟩
      rw [if_pos rfl, synchronizations_enterTransaction, hreg, hjoin]
    | false =>
      refine ⟨[], ?_, Or.inl rfl⟩
      show opened.registry.synchronizations = _
      rw [hreg, hjoin, ← hnil]

end Persistence.Environment
