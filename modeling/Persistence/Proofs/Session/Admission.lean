import Persistence.Proofs.Session.Executions
import Persistence.Proofs.Session.Provision

/-! Which session a body is let into. An execution takes the current session as it is, while a session on demand is
    looked for below the closed ones; so the two agree, and the body gets a connected session, just if no closed session
    is current. -/

namespace Persistence.Environment

variable {κ : Type} {env start : Environment κ} {s t : SessionId} {store : StoreId} {allow : Bool}

/-! ### Connected sessions -/

theorem connected_congr (h : Sessions.Closing [] env.sessions start.sessions) : start.Connected s ↔ env.Connected s := by
  rw [Connected, Connected, h.connected]
  simp

/-- A session that was just opened is connected. -/
theorem connected_fresh {opened : Environment κ} (numbered : env.Numbered)
    (sessions : opened.sessions = env.sessions ++ [{ id := env.fresh, store }]) : opened.Connected env.fresh := by
  have new : env.sessions.get? env.fresh = none := Option.not_isSome_iff_eq_none.mp numbered.not_opened_fresh
  refine Sessions.isConnected_iff.mpr ⟨{ id := env.fresh, store }, ?_, rfl⟩
  rw [sessions, Sessions.get?_append, new, if_pos rfl, Option.none_or]

/-- Once a session has been asked for, no closed one is current. -/
theorem connected_of_current?_getOrCreate (numbered : env.Numbered)
    (current : (env.getOrCreate store allow).2.current? store = some s) :
    (env.getOrCreate store allow).2.Connected s := by
  cases serving : env.serving? store with
  | some t =>
    -- The stack is cut off above the session that serves, which therefore is current.
    rw [getOrCreate_of_serving allow serving] at current ⊢
    rw [current?_eq, bound_joinCurrent, if_pos rfl, getLast?_upright, serving] at current
    cases current
    exact (connected_congr closing_joinCurrent).mpr (connected_of_serving? serving)
  | none =>
    have bare : (env.dropHolder store).bound store = [] := bound_dropHolder.trans (if_pos rfl)
    rw [current?_eq] at current
    obtain ⟨-, -, asked⟩ | ⟨-, ⟨_, notices, -, asked⟩ | ⟨opened, -, registry, sessions, asked⟩⟩ :=
      getOrCreate_of_unserved allow serving
    · rw [asked, bare] at current
      cases current
    · have same : ({ env.dropHolder store with notices } : Environment κ).bound store = [] := bare
      rw [asked, same] at current
      cases current
    · have same : opened.bound store = [] := (bound_congr (congrArg Registry.holders registry)).trans bare
      rw [asked] at current ⊢
      dsimp only at current ⊢
      cases running : env.isSynchronizing with
      | false =>
        rw [running, if_neg Bool.false_ne_true, same] at current
        cases current
      | true =>
        rw [running, if_pos rfl, bound_enterTransaction, if_pos rfl, same] at current
        cases current
        exact (connected_congr closing_enterTransaction).mpr (connected_fresh numbered sessions)

/-! ### Bodies -/

theorem connected_entry_iff (h : env.Reachable) (entered : env.entry store = .ok (s, start)) :
    start.Connected s ↔ ∀ t, env.current? store = some t → env.Connected t := by
  obtain ⟨current, rfl⟩ | ⟨unbound, -⟩ := entry_cases entered
  · rw [current]
    exact ⟨fun up _ same => Option.some.inj same ▸ up, fun all => all s rfl⟩
  · obtain ⟨rfl, -, sessions⟩ := Within.of_entry h unbound entered
    refine iff_of_true (connected_fresh h.wellFormed.numbered sessions) ?_
    rw [unbound]
    nofun

theorem serving?_of_current (current : env.current? store = some s) (up : env.Connected s) :
    env.serving? store = some s := by
  rw [current?_eq] at current
  obtain ⟨below, split⟩ := List.getLast?_eq_some_iff.mp current
  rw [serving?, split, List.reverse_concat]
  exact List.find?_cons_of_pos up

/-- Both ways lead to the same session just if no closed session is current. -/
theorem getOrCreate_eq_entry_iff (h : env.Reachable) (entered : env.entry store = .ok (s, start)) :
    (env.getOrCreate store true).1 = .ok s ↔ ∀ t, env.current? store = some t → env.Connected t := by
  obtain ⟨current, rfl⟩ | ⟨unbound, rfl, opened, connecting, -⟩ := entry_cases entered
  · have bound : s ∈ start.bound store := List.mem_of_getLast? (current?_eq.symm.trans current)
    rw [current]
    constructor
    · rintro asked _ ⟨⟩
      rcases serving?_or_fresh asked with serving | ⟨-, rfl⟩
      · exact connected_of_serving? serving
      · exact absurd (h.wellFormed.held store _ bound) h.wellFormed.numbered.not_opened_fresh
    · intro up
      rw [getOrCreate_of_serving true (serving?_of_current current (up s rfl))]
  · refine iff_of_true ?_ (by rw [unbound]; nofun)
    have bare : env.bound store = [] := List.getLast?_eq_none_iff.mp (current?_eq.symm.trans unbound)
    have unserved : env.serving? store = none := by rw [serving?, bare]; rfl
    obtain ⟨⟨⟩, -⟩ | ⟨-, ⟨fault, _, failing, -⟩ | ⟨_, -, -, -, asked⟩⟩ := getOrCreate_of_unserved true unserved
    · rw [connecting] at failing
      cases failing
    · rw [asked]

/-! ### Executions -/

/-- Either an execution fails without running its body, or the body is run in a session that is connected just if no
closed session is current; so it is whenever a session has been asked for before. -/
theorem execute_connected_iff (h : env.Reachable) (store : StoreId) :
    (∀ fault, env.entry store = .error fault → ∀ (α : Type)
      (body : SessionId → Environment κ → Except Fault α × Environment κ), env.execute store body = (.error fault, env)) ∧
    (∀ s start, env.entry store = .ok (s, start) →
      (∀ (α : Type) (body : SessionId → Environment κ → Except Fault α × Environment κ),
        (env.execute store body).1 = (body s start).1) ∧
      (start.Connected s ↔ ∀ t, env.current? store = some t → env.Connected t) ∧
      (start.Connected s ↔ (env.getOrCreate store true).1 = .ok s)) ∧
    ∀ allow s start, (env.getOrCreate store allow).2.entry store = .ok (s, start) → start.Connected s := by
  refine ⟨fun fault refused α body => execute_of_not_entered refused, fun s start entered => ?_,
    fun allow s start entered => ?_⟩
  · refine ⟨fun α body => (execute_eq entered).1, connected_entry_iff h entered, ?_⟩
    rw [connected_entry_iff h entered, getOrCreate_eq_entry_iff h entered]
  · have after : (env.getOrCreate store allow).2.Reachable := h.step (.getOrCreate store allow) (fits_of_names rfl)
    exact (connected_entry_iff after entered).mpr fun t current =>
      connected_of_current?_getOrCreate h.wellFormed.numbered current

/-- The lower one of two bound sessions is closed, and the upper one is closed later. -/
theorem execute_connected_over_closed :
    let env : Environment Unit := (withStores 1).performAll
      [.connect ⟨1⟩, .connect ⟨1⟩, .bind ⟨1⟩ ⟨1⟩, .bind ⟨2⟩ ⟨1⟩, .disconnect ⟨1⟩]
    let shut := env.performAll [.disconnect ⟨2⟩]
    (env.execute ⟨1⟩ fun s at_ => (.ok (s, at_.sessions.isConnected s), at_)).1 = .ok (⟨2⟩, true) ∧
      (shut.execute ⟨1⟩ fun s at_ => (.ok (s, at_.sessions.isConnected s), at_)).1 = .ok (⟨2⟩, false) ∧
      (shut.getOrCreate ⟨1⟩ true).1 ≠ .ok ⟨2⟩ := by
  intro env shut
  have reachable : env.Reachable := reachable_withStores 1 (by decide)
  have closing : env.AllFit [.disconnect ⟨2⟩] := by decide
  obtain ⟨ran, admitted, -⟩ := (execute_connected_iff reachable ⟨1⟩).2.1 ⟨2⟩ env rfl
  obtain ⟨ran', admitted', agrees⟩ := (execute_connected_iff (reachable.performAll closing) ⟨1⟩).2.1 ⟨2⟩ shut rfl
  have up : env.Connected ⟨2⟩ := admitted.mpr (by rintro _ ⟨⟩; rfl)
  have down : ¬shut.Connected ⟨2⟩ := fun connected => absurd (admitted'.mp connected ⟨2⟩ rfl) (by unfold Connected; decide)
  refine ⟨?_, ?_, fun asked => down (agrees.mpr asked)⟩
  · rw [ran]
    exact congrArg (fun connected => Except.ok (_, connected)) up
  · rw [ran']
    exact congrArg (fun connected => Except.ok (_, connected)) (Bool.eq_false_iff.mpr down)

/-- The only session that is bound is closed, and a body is run in it. -/
theorem not_execute_connected : ¬∀ (env : Environment Unit) (store : StoreId) (s : SessionId) (start : Environment Unit),
    env.Reachable → env.entry store = .ok (s, start) → start.Connected s := by
  intro always
  have reachable : ((withStores 1).performAll
    [.connect ⟨1⟩, .bind ⟨1⟩ ⟨1⟩, .disconnect ⟨1⟩] : Environment Unit).Reachable := reachable_withStores 1 (by decide)
  have connected := always _ ⟨1⟩ ⟨1⟩ _ reachable rfl
  exact absurd connected (by unfold Connected; decide)

end Persistence.Environment
