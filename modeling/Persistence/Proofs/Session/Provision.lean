import Persistence.Proofs.Session.Tidiness

/-! How a datastore is provided with a session. If one of its sessions is still connected, the stack is cut off above
    the last of those, and nothing is opened. Otherwise the stack is dropped, and whether a session is opened depends on
    what is allowed, on a running transaction and on the connection; where none is opened, nothing else changes. -/

namespace Persistence

variable {κ : Type}

namespace Environment

variable {env env' : Environment κ} {s x : SessionId} {store d : StoreId} {allow : Bool} {fault : Fault}

/-! ### The stack of a datastore -/

theorem serving?_eq_none : env.serving? store = none ↔ ∀ s ∈ env.bound store, ¬env.Connected s := by
  simp [serving?, Connected]

/-- Above the session that serves there are closed ones only, and they are cut off. -/
theorem exists_stack (h : env.serving? store = some s) : ∃ below above, env.bound store = below ++ s :: above ∧
    (∀ t ∈ above, ¬env.Connected t) ∧ env.upright store = below ++ [s] := by
  obtain ⟨connected, upper, lower, split, shut⟩ := List.find?_eq_some_iff_append.mp h
  refine ⟨lower.reverse, upper.reverse, ?_, fun t ht => ?_, ?_⟩
  · rw [← List.reverse_reverse (env.bound store), split]
    simp
  · simpa [Connected] using shut t (List.mem_reverse.mp ht)
  · have dropped : (upper ++ s :: lower).dropWhile (fun s => !env.sessions.isConnected s) = s :: lower := by
      rw [List.dropWhile_append_of_pos shut, List.dropWhile_cons_of_neg (by simp [connected])]
    rw [upright, split, dropped, List.reverse_cons]

theorem dropHolder_eq_self (free : env.holder? store = none) : env.dropHolder store = env := by
  rw [dropHolder, Keyed.erase_of_get?_eq_none free]

theorem joinCurrent_of_unserved (h : env.serving? store = none) :
    env.joinCurrent store = (none, env.dropHolder store) := by
  obtain ⟨-, ⟨same, free⟩ | same⟩ | ⟨-, s, -, serving, -⟩ := joinCurrent_cases store env
  · rw [same, dropHolder_eq_self free]
  · exact same
  · cases h.symm.trans serving

/-! ### Holders that join -/

theorem holder?_synchronizeHolder {holder : Holder} {flag : Bool} (h : env.holder? store = some holder) :
    (env.synchronizeHolder store flag).holder? d =
      if d = store then some { holder with isSynchronized := flag } else env.holder? d := by
  rw [synchronizeHolder, h]
  exact holder?_setHolder

@[simp]
theorem stores_enlist (callback : Synchronization κ) : (env.enlist callback).stores = env.stores := by
  unfold enlist
  cases env.registry.synchronizations <;> rfl

@[simp]
theorem stores_synchronizeHolder {flag : Bool} : (env.synchronizeHolder store flag).stores = env.stores := by
  unfold synchronizeHolder
  cases env.holder? store <;> rfl

/-- A holder with a connected session is kept up to that, and takes part in the running transaction from then on. -/
theorem holder?_joinCurrent {holder : Holder} (found : env.holder? store = some holder)
    (h : env.serving? store = some s) : (env.joinCurrent store).2.holder? d = if d = store then
      some { holder with
        sessions := env.upright store, isSynchronized := holder.isSynchronized || env.isSynchronizing }
      else env.holder? d := by
  obtain ⟨unserved, -⟩ | ⟨holder', t, found', -, joined⟩ := joinCurrent_cases store env
  · cases h.symm.trans unserved
  cases found.symm.trans found'
  rw [joined]
  dsimp only
  split
  next joins =>
    obtain ⟨running, unmarked⟩ := by simpa using joins
    rw [holder?_congr (holders_enlist _), holder?_note, holder?_synchronizeHolder
      (holder?_setHolder.trans (if_pos rfl)), holder?_setHolder, running, Bool.or_true]
    split <;> rfl
  next stays =>
    have same : (holder.isSynchronized || env.isSynchronizing) = holder.isSynchronized := by simpa using stays
    rw [holder?_setHolder, same]

theorem stores_joinCurrent : (env.joinCurrent store).2.stores = env.stores := by
  obtain ⟨-, ⟨h, -⟩ | h⟩ | ⟨_, _, -, -, h⟩ := joinCurrent_cases store env
  · rw [h]
  · rw [h]
    rfl
  · rw [h]
    dsimp only
    split
    · rw [stores_enlist]
      exact stores_synchronizeHolder
    · rfl

/-! ### Sessions that are opened -/

theorem getOrCreate_of_serving (allow : Bool) (h : env.serving? store = some s) :
    env.getOrCreate store allow = (.ok s, (env.joinCurrent store).2) := by
  obtain ⟨t, serving, asked⟩ | ⟨unserved, -⟩ | ⟨unserved, -⟩ := getOrCreate_cases store allow env
  · cases h.symm.trans serving
    exact asked
  · cases h.symm.trans unserved
  · cases h.symm.trans unserved

/-- Where no session serves, the stack is dropped, and a session is opened if that is allowed or a transaction is
running. -/
theorem getOrCreate_of_unserved (allow : Bool) (h : env.serving? store = none) :
    (allow = false ∧ env.isSynchronizing = false ∧
      env.getOrCreate store allow = (.error (.session (.noneBound store)), env.dropHolder store)) ∨
    (allow = true ∨ env.isSynchronizing = true) ∧
      ((∃ fault notices, (env.connect store).1 = .error fault ∧
        env.getOrCreate store allow = (.error (openingFault fault), { env.dropHolder store with notices })) ∨
      ∃ opened, (env.connect store).1 = .ok env.fresh ∧ opened.registry = (env.dropHolder store).registry ∧
        opened.sessions = env.sessions ++ [{ id := env.fresh, store }] ∧
        env.getOrCreate store allow =
          (.ok env.fresh, if env.isSynchronizing then opened.enterTransaction env.fresh store else opened)) := by
  have asked : env.getOrCreate store allow = if allow || env.isSynchronizing then (env.dropHolder store).openSession store
      else (.error (.session (.noneBound store)), env.dropHolder store) := by
    rw [getOrCreate, joinCurrent_of_unserved h]
    rfl
  -- What is bound makes no difference to the connection.
  have dropped : ((env.dropHolder store).connect store).1 = (env.connect store).1 := fst_connect_congr rfl rfl
  rw [asked]
  cases wanted : allow || env.isSynchronizing with
  | false =>
    obtain ⟨refused, idle⟩ := Bool.or_eq_false_iff.mp wanted
    exact Or.inl ⟨refused, idle, rfl⟩
  | true =>
    refine Or.inr ⟨by simpa using wanted, ?_⟩
    rw [if_pos rfl, ← dropped]
    exact openSession_cases store (env.dropHolder store)

/-! ### A session for a running transaction -/

theorem sessions_synchronizeHolder {holder : Holder} {flag : Bool} (h : env.holder? store = some holder) :
    (env.synchronizeHolder store flag).sessions =
      env.sessions.updateAll holder.sessions (Session.setSynchronized flag) := by
  rw [synchronizeHolder, h]
  rfl

section Free
variable (free : env.holder? store = none)

include free

theorem holder?_enterTransaction : (env.enterTransaction s store).holder? d =
    if d = store then some { sessions := [s], isSynchronized := true } else env.holder? d := by
  rw [enterTransaction, bindSession_of_free ((holder?_note _).trans free), holder?_congr (holders_enlist _),
    holder?_synchronizeHolder (holder?_setHolder.trans (if_pos rfl)), holder?_setHolder, holder?_note]
  split <;> rfl

theorem sessions_enterTransaction : (env.enterTransaction s store).sessions =
    env.sessions.update s (Session.setSynchronized true) := by
  rw [enterTransaction, bindSession_of_free ((holder?_note _).trans free), sessions_enlist,
    sessions_synchronizeHolder (holder?_setHolder.trans (if_pos rfl))]
  simp [Holder.ofSession, Sessions.updateAll, Sessions.update, setHolder, note]

end Free

theorem holder?_getOrCreate_of_ne (other : d ≠ store) : (env.getOrCreate store allow).2.holder? d = env.holder? d := by
  cases serving : env.serving? store with
  | some s =>
    obtain ⟨unserved, -⟩ | ⟨holder, -, found, -, -⟩ := joinCurrent_cases store env
    · cases serving.symm.trans unserved
    rw [getOrCreate_of_serving allow serving]
    exact (holder?_joinCurrent found serving).trans (if_neg other)
  | none =>
    have dropped : (env.dropHolder store).holder? d = env.holder? d := holder?_dropHolder.trans (if_neg other)
    obtain ⟨-, -, asked⟩ | ⟨-, ⟨_, notices, -, asked⟩ | ⟨opened, -, registry, -, asked⟩⟩ :=
      getOrCreate_of_unserved allow serving
    · rw [asked, dropped]
    · rw [asked]
      exact dropped
    · have same (d : StoreId) : opened.holder? d = (env.dropHolder store).holder? d :=
        holder?_congr (congrArg Registry.holders registry)
      have free : opened.holder? store = none := (same store).trans (holder?_dropHolder.trans (if_pos rfl))
      rw [asked, ← dropped, ← same]
      dsimp only
      split
      · exact (holder?_enterTransaction free).trans (if_neg other)
      · rfl

/-! ### What a datastore is provided with -/

/-- The last connected session of a stack is handed out, and the stack is cut off above it. -/
structure Resumes (env : Environment κ) (store : StoreId) (answer : Except Fault SessionId) (after : Environment κ) :
    Prop where
  stack : ∃ holder below s above, env.holder? store = some holder ∧ holder.sessions = below ++ s :: above ∧
    env.Connected s ∧ (∀ t ∈ above, ¬env.Connected t) ∧ answer = .ok s ∧ after.holder? store = some { holder with
      sessions := below ++ [s], isSynchronized := holder.isSynchronized || env.isSynchronizing } ∧
    after.current? store = some s
  sessions : Sessions.Closing [] env.sessions after.sessions
  stores : after.stores = env.stores

/-- Without a connected session one is opened if it may be and can be. -/
structure Supplies (env : Environment κ) (store : StoreId) (allow : Bool) (answer : Except Fault SessionId)
    (after : Environment κ) : Prop where
  refused : ∀ cause, answer = .error (.session cause) ↔
    cause = .noneBound store ∧ allow = false ∧ env.isSynchronizing = false
  failed : (∃ cause, answer = .error (.resource cause)) ↔
    (allow = true ∨ env.isSynchronizing = true) ∧ ∃ fault, (env.connect store).1 = .error fault
  opened : (∃ s, answer = .ok s) ↔
    (allow = true ∨ env.isSynchronizing = true) ∧ ∃ s, (env.connect store).1 = .ok s
  new : ∀ s, answer = .ok s → ¬env.Opened s ∧
    after.sessions = env.sessions ++ [{ id := s, store, isSynchronized := env.isSynchronizing }]
  bound : ∀ s, answer = .ok s → after.holder? store =
    if env.isSynchronizing then some { sessions := [s], isSynchronized := true } else none
  held : ∀ s, answer = .ok s → ∀ d, s ∈ after.bound d ↔ d = store ∧ env.isSynchronizing = true

/-- What asking for a session comes to. -/
structure Provides (env : Environment κ) (store : StoreId) (allow : Bool) (answer : Except Fault SessionId)
    (after : Environment κ) : Prop where
  resumes : (∃ s ∈ env.bound store, env.Connected s) → env.Resumes store answer after
  supplies : (∀ s ∈ env.bound store, ¬env.Connected s) → env.Supplies store allow answer after
  spared : ∀ fault, answer = .error fault → after.holder? store = none ∧ after.sessions = env.sessions ∧
    after.stores = env.stores ∧ after.registry.synchronizations = env.registry.synchronizations
  beside : ∀ d, d ≠ store → after.holder? d = env.holder? d
  deferred : after.registry.deferred = env.registry.deferred

theorem Resumes.of_serving (h : env.serving? store = some s) :
    env.Resumes store (.ok s) (env.joinCurrent store).2 := by
  obtain ⟨unserved, -⟩ | ⟨holder, -, found, -, -⟩ := joinCurrent_cases store env
  · cases h.symm.trans unserved
  obtain ⟨below, above, split, shut, cut⟩ := exists_stack h
  have stack : env.bound store = holder.sessions := by rw [Environment.bound, found]
  have after := holder?_joinCurrent (d := store) found h
  rw [if_pos rfl, cut] at after
  refine ⟨⟨holder, below, s, above, found, stack.symm.trans split, connected_of_serving? h, shut, rfl, after, ?_⟩,
    closing_joinCurrent, stores_joinCurrent⟩
  rw [Environment.current?, after]
  exact List.getLast?_concat

theorem exists_openingFault (fault : Fault) : ∃ cause, openingFault fault = .resource cause := by
  cases fault <;> exact ⟨_, rfl⟩

theorem Supplies.of_barred (barred : allow = false) (idle : env.isSynchronizing = false) :
    env.Supplies store allow (.error (.session (.noneBound store))) env' where
  refused cause := by
    constructor
    · rintro ⟨⟩
      exact ⟨rfl, barred, idle⟩
    · rintro ⟨rfl, -⟩
      rfl
  failed := by simp [barred, idle]
  opened := by simp [barred, idle]
  new := nofun
  bound := nofun
  held := nofun

theorem Supplies.of_failing (wanted : allow = true ∨ env.isSynchronizing = true)
    (failing : (env.connect store).1 = .error fault) : env.Supplies store allow (.error (openingFault fault)) env' := by
  obtain ⟨cause, resource⟩ := exists_openingFault fault
  rw [resource]
  refine ⟨fun other => ⟨nofun, ?_⟩, ⟨fun _ => ⟨wanted, fault, failing⟩, fun _ => ⟨cause, rfl⟩⟩, ⟨nofun, ?_⟩, nofun,
    nofun, nofun⟩
  · rintro ⟨-, barred, idle⟩
    simp [barred, idle] at wanted
  · rintro ⟨-, s, connecting⟩
    cases failing.symm.trans connecting

/-- The new session is the last of all, and only a running transaction gets hold of it. -/
theorem Supplies.of_connecting {opened : Environment κ} (wellFormed : env.WellFormed)
    (wanted : allow = true ∨ env.isSynchronizing = true) (connecting : (env.connect store).1 = .ok env.fresh)
    (registry : opened.registry = (env.dropHolder store).registry)
    (sessions : opened.sessions = env.sessions ++ [{ id := env.fresh, store }]) :
    env.Supplies store allow (.ok env.fresh)
      (if env.isSynchronizing then opened.enterTransaction env.fresh store else opened) := by
  have new : ¬env.Opened env.fresh := wellFormed.numbered.not_opened_fresh
  have others (d : StoreId) : opened.holder? d = if d = store then none else env.holder? d :=
    (holder?_congr (congrArg Registry.holders registry)).trans holder?_dropHolder
  have free : opened.holder? store = none := (others store).trans (if_pos rfl)
  have unheld (d : StoreId) : env.fresh ∉ env.bound d := fun held => new (wellFormed.held d _ held)
  refine ⟨fun cause => ⟨nofun, ?_⟩, ⟨nofun, ?_⟩, ⟨fun _ => ⟨wanted, _, connecting⟩, fun _ => ⟨_, rfl⟩⟩, ?_, ?_, ?_⟩
  · rintro ⟨-, barred, idle⟩
    simp [barred, idle] at wanted
  · rintro ⟨-, fault, failing⟩
    cases failing.symm.trans connecting
  · rintro _ ⟨⟩
    refine ⟨new, ?_⟩
    cases env.isSynchronizing with
    | false => exact sessions
    | true =>
      have kept : env.sessions.update env.fresh (Session.setSynchronized true) = env.sessions :=
        Sessions.update_of_get?_eq_none (Option.not_isSome_iff_eq_none.mp new)
      rw [if_pos rfl, sessions_enterTransaction free, sessions, Sessions.update, List.map_append]
      exact congrArg₂ _ kept (by simp [Session.setSynchronized])
  · rintro _ ⟨⟩
    cases env.isSynchronizing with
    | false => exact free
    | true => exact (holder?_enterTransaction free).trans (if_pos rfl)
  · rintro _ ⟨⟩ d
    have apart : env.fresh ∉ opened.bound d := by
      rw [bound_congr (congrArg Registry.holders registry), bound_dropHolder]
      split
      · exact List.not_mem_nil
      · exact unheld d
    cases env.isSynchronizing with
    | false => simpa using apart
    | true =>
      have bare : opened.bound store = [] := by rw [Environment.bound, free]
      rw [if_pos rfl, bound_enterTransaction]
      by_cases here : d = store
      · simp [here, bare]
      · simpa [here] using apart

/-- Whatever has been done before, whatever is connected and whatever is allowed. -/
theorem provides_getOrCreate (h : env.Reachable) (store : StoreId) (allow : Bool) :
    env.Provides store allow (env.getOrCreate store allow).1 (env.getOrCreate store allow).2 where
  resumes connected := by
    cases serving : env.serving? store with
    | some s =>
      rw [getOrCreate_of_serving allow serving]
      exact .of_serving serving
    | none =>
      obtain ⟨s, held, up⟩ := connected
      exact absurd up (serving?_eq_none.mp serving s held)
  supplies shut := by
    obtain ⟨barred, idle, asked⟩ | ⟨wanted, ⟨fault, notices, failing, asked⟩ |
        ⟨opened, connecting, registry, sessions, asked⟩⟩ := getOrCreate_of_unserved allow (serving?_eq_none.mpr shut)
    · rw [asked]
      exact .of_barred barred idle
    · rw [asked]
      exact .of_failing wanted failing
    · rw [asked]
      exact .of_connecting h.wellFormed wanted connecting registry sessions
  spared fault failed := by
    cases serving : env.serving? store with
    | some s =>
      rw [getOrCreate_of_serving allow serving] at failed
      cases failed
    | none =>
      have free : (env.dropHolder store).holder? store = none := holder?_dropHolder.trans (if_pos rfl)
      obtain ⟨-, -, asked⟩ | ⟨-, ⟨_, notices, -, asked⟩ | ⟨opened, -, -, -, asked⟩⟩ :=
        getOrCreate_of_unserved allow serving
      · rw [asked]
        exact ⟨free, rfl, rfl, rfl⟩
      · rw [asked]
        exact ⟨free, rfl, rfl, rfl⟩
      · rw [asked] at failed
        cases failed
  beside d other := holder?_getOrCreate_of_ne other
  deferred := deferred_getOrCreate

/-- Of two bound sessions the upper one is closed, so that the lower one is handed out; once that is closed, too, there is
none, and none may be opened. -/
theorem provides_getOrCreate_over_closed :
    let env : Environment Unit := (withStores 1).performAll
      [.connect ⟨1⟩, .connect ⟨1⟩, .bind ⟨1⟩ ⟨1⟩, .bind ⟨2⟩ ⟨1⟩, .disconnect ⟨2⟩]
    (env.getOrCreate ⟨1⟩ false).1 = .ok ⟨1⟩ ∧
      (env.getOrCreate ⟨1⟩ false).2.holder? ⟨1⟩ = some (Holder.ofSession ⟨1⟩) ∧
      ((env.disconnect ⟨1⟩).getOrCreate ⟨1⟩ false).1 = .error (.session (.noneBound ⟨1⟩)) := by
  intro env
  have reachable : env.Reachable := reachable_withStores 1 (by decide)
  have bound : env.bound ⟨1⟩ = [⟨1⟩, ⟨2⟩] := rfl
  have closed : ¬env.Connected ⟨2⟩ := by
    unfold Connected
    decide
  obtain ⟨holder, below, s, above, found, split, up, -, answer, left, -⟩ :=
    ((provides_getOrCreate reachable ⟨1⟩ false).resumes
      ⟨⟨1⟩, bound ▸ List.mem_cons_self, rfl⟩).stack
  cases (rfl : env.holder? ⟨1⟩ = some { sessions := [⟨1⟩, ⟨2⟩] }).symm.trans found
  obtain ⟨rfl, rfl⟩ : below = [] ∧ s = ⟨1⟩ := by
    rcases below with - | ⟨t, - | ⟨u, below⟩⟩
    · cases split
      exact ⟨rfl, rfl⟩
    · cases split
      exact absurd up closed
    · have lengths := congrArg List.length split
      simp [Holder.ofSession] at lengths
  have fits : env.AllFit [.disconnect ⟨1⟩] := by decide
  have shut := (provides_getOrCreate (reachable.performAll fits) ⟨1⟩ false).supplies (by
    unfold Connected
    decide)
  exact ⟨answer, left, (shut.refused _).mpr ⟨rfl, rfl, rfl⟩⟩

end Environment
end Persistence
