import Persistence.Proofs.Session.Run

/-! Whether a session that the registry closes is still held. An operation that closes a session takes out as many
    entries as it was asked to, which is one for an unbound session, and looks for no others; so a session that is
    bound twice, or for two datastores, or while it waits to be closed, stays in a stack when it is closed. A run
    never leaves a closed session behind, and never shows one as current, just if it never closes a session with
    more entries than it takes out, and binds no session again that the registry has closed. -/

namespace Persistence

variable {κ : Type}

namespace Act

open Environment

variable {act : Act κ} {acts : List (Act κ)} {env : Environment κ} {s x : SessionId} {store d : StoreId}
  {closed : SessionId → Prop}

/-- Whether an act is an operation of the registry, and not a request of someone else to a session. -/
def isOfRegistry : Act κ → Bool
  | .disconnect _ => false
  | _ => true

/-- The registry closes a session that was connected. -/
def Closes (act : Act κ) (env : Environment κ) (s : SessionId) : Prop :=
  act.isOfRegistry = true ∧ env.Connected s ∧ ¬(act.perform env).Connected s

/-- How many entries of a session an act takes out of the stack of a datastore, if there are so many. -/
def taken : Act κ → Environment κ → SessionId → StoreId → Nat
  | .unbind t, env, s, d => if t = s ∧ env.storeOf? s = some d then 1 else 0
  | .leave t store, _, s, d => if t = s ∧ store = d then 1 else 0
  | .depart leaving _, env, s, d => (env.newcomers leaving d).count s
  | _, _, _, _ => 0

/-! ### One act -/

theorem Closes.canClose (h : act.Closes env s) : act.canClose = true := canClose_of_disconnected h.2.1 h.2.2

theorem count_erase_eq (l : List SessionId) (t s : SessionId) {p : Prop} [Decidable p] :
    (if p then l.erase t else l).count s = l.count s - if t = s ∧ p then 1 else 0 := by
  by_cases hp : p
  · simp [hp, List.count_erase]
  · simp [hp]

/-- An act that closes a session takes the entries out that it takes, and no others. -/
theorem count_perform (h : act.Closes env s) (d : StoreId) :
    ((act.perform env).bound d).count s = (env.bound d).count s - act.taken env s d := by
  have hcan := h.canClose
  have same : act.keepsHolders = true → ((act.perform env).bound d).count s = (env.bound d).count s :=
    fun keeps => congrArg (List.count s) (bound_congr (holders_perform keeps env))
  cases act with
  | unbind t =>
    rw [perform, bound_unbindSession, count_erase_eq, taken]
    by_cases ht : t = s
    · subst ht
      rfl
    · simp [ht]
  | release t store => exact same rfl
  | close t => exact same rfl
  | closeOrDefer t store => exact same rfl
  | processDeferral store => exact same rfl
  | leave t store =>
    rw [perform, bound_congr holders_closeOrDefer, bound_removeBound, taken]
    by_cases hd : d = store
    · subst hd
      simp [List.count_erase]
    · simp [hd, Ne.symm hd]
  | depart leaving status => rw [perform, bound_leaveAll, count_diff, taken]
  | disconnect t => cases h.1
  | _ => cases hcan

theorem not_held_iff (h : act.Closes env s) :
    ¬(act.perform env).Held s ↔ ∀ d, (env.bound d).count s ≤ act.taken env s d := by
  unfold Held
  rw [not_exists]
  apply forall_congr'
  intro d
  rw [← List.count_eq_zero, count_perform h]
  omega

theorem Binds.current? (h : act.Binds s d) (env : Environment κ) : (act.perform env).current? d = some s := by
  rw [current?_eq]
  rcases h with rfl | ⟨creator, rfl⟩
  · rw [perform, bound_bindSession, if_pos rfl, List.getLast?_concat]
  · rw [perform, bound_bindWithCreator, if_pos rfl]
    rfl

/-! ### Runs -/

/-- Each act of a run satisfies `P`, of the sessions that the registry has closed so far and the environment. -/
def Along (P : (SessionId → Prop) → Environment κ → Act κ → Prop) :
    List (Act κ) → (SessionId → Prop) → Environment κ → Prop
  | [], _, _ => True
  | act :: rest, closed, env =>
    P closed env act ∧ Along P rest (fun s => closed s ∨ act.Closes env s) (act.perform env)

/-- No session that the act closes is held afterwards, and none that the registry ever closed is current. -/
def Upheld (closed : SessionId → Prop) (env : Environment κ) (act : Act κ) : Prop :=
  (∀ s, act.Closes env s → ¬(act.perform env).Held s) ∧
  ∀ d s, (act.perform env).current? d = some s → ¬(closed s ∨ act.Closes env s)

/-- No session is bound that the registry has closed, and none is closed that has more entries than are taken out. -/
def Clean (closed : SessionId → Prop) (env : Environment κ) (act : Act κ) : Prop :=
  (∀ s d, act.Binds s d → ¬closed s) ∧
  ∀ s, act.Closes env s → ∀ d, (env.bound d).count s ≤ act.taken env s d

/-- The sessions that the registry has closed are held no longer. -/
structure Released (closed : SessionId → Prop) (env : Environment κ) : Prop where
  numbered : env.Numbered
  opened : ∀ s, closed s → env.Opened s
  unheld : ∀ s, closed s → ¬env.Held s

/-- A closed session does not come back into a stack without being bound again. -/
theorem Released.unheld_perform (h : Released closed env) (clean : ∀ s d, act.Binds s d → ¬closed s)
    (hs : closed s) : ¬(act.perform env).Held s := by
  rintro ⟨d, hmem⟩
  rcases act.mem_bound_perform hmem with hmem | hbinds | ⟨store, allow, -, rfl, -⟩
  · exact h.unheld s hs ⟨d, hmem⟩
  · exact clean s d hbinds hs
  · exact h.numbered.not_opened_fresh (h.opened _ hs)

theorem Released.perform (h : Released closed env) (clean : Clean closed env act) :
    Released (fun s => closed s ∨ act.Closes env s) (act.perform env) := by
  obtain ⟨_, hpass, -⟩ := act.passes_perform env
  refine ⟨hpass.numbered h.numbered, ?_, ?_⟩
  · rintro s (hs | hs)
    · exact hpass.opened (h.opened s hs)
    · exact hpass.opened hs.2.1.opened
  · rintro s (hs | hs)
    · exact h.unheld_perform clean.1 hs
    · exact (not_held_iff hs).mpr (clean.2 s hs)

theorem Released.upheld_iff_clean (h : Released closed env) : Upheld closed env act ↔ Clean closed env act := by
  constructor
  · rintro ⟨hheld, hcurrent⟩
    refine ⟨?_, fun s hs => (not_held_iff hs).mp (hheld s hs)⟩
    intro s d hbinds hs
    -- A session that is bound is current at once, so that binding a closed one shows.
    exact hcurrent d s (hbinds.current? env) (Or.inl hs)
  · intro clean
    refine ⟨fun s hs => (not_held_iff hs).mpr (clean.2 s hs), ?_⟩
    intro d s hcur hs
    have hmem : s ∈ (act.perform env).bound d := by
      rw [current?_eq] at hcur
      exact List.mem_of_getLast? hcur
    exact (h.perform clean).unheld s hs ⟨d, hmem⟩

theorem Released.along_iff (h : Released closed env) : Along Upheld acts closed env ↔ Along Clean acts closed env := by
  induction acts generalizing closed env with
  | nil => exact Iff.rfl
  | cons act rest ih =>
    unfold Along
    -- The closed sessions are held no longer as long as the run is clean, and so long the two agree act by act.
    rw [h.upheld_iff_clean]
    constructor
    · rintro ⟨clean, hrest⟩
      exact ⟨clean, (ih (h.perform clean)).mp hrest⟩
    · rintro ⟨clean, hrest⟩
      exact ⟨clean, (ih (h.perform clean)).mpr hrest⟩

/-- Whatever a run does, it leaves no session in a stack that the registry closes, and shows none as current, if and
only if each session that is closed has no more entries than are taken out with it, and no closed one is bound
again. -/
theorem along_upheld_iff (blank : env.IsBlank) (acts : List (Act κ)) :
    Along Upheld acts (fun _ => False) env ↔ Along Clean acts (fun _ => False) env :=
  Released.along_iff ⟨blank.numbered, fun _ h => h.elim, fun _ h => h.elim⟩

/-- A session that is bound once and unbound leaves no trace. -/
theorem along_upheld_unbind : Along Upheld [.connect ⟨1⟩, .bind ⟨1⟩ ⟨1⟩, .unbind ⟨1⟩] (fun _ => False)
    (withStores 1 : Environment Unit) := by
  refine (along_upheld_iff ⟨rfl, rfl⟩ _).mpr ⟨?_, ?_, ?_, trivial⟩
  · refine ⟨fun _ _ _ h => h, fun s hs => ?_⟩
    cases hs.canClose
  · refine ⟨?_, fun s hs => ?_⟩
    · rintro s d - (h | h)
      · exact h
      · cases h.canClose
    · cases hs.canClose
  · refine ⟨?_, fun s hs d => ?_⟩
    · rintro s d (h | ⟨creator, h⟩) <;> cases h
    · have hbound : ∀ d, ((withStores 1 : Environment Unit).performAll [.connect ⟨1⟩, .bind ⟨1⟩ ⟨1⟩]).bound d =
          if d = ⟨1⟩ then [⟨1⟩] else [] := by
        intro d
        show (((withStores 1 : Environment Unit).connect ⟨1⟩).2.bindSession ⟨1⟩ ⟨1⟩).bound d = _
        rw [bound_bindSession]
        rfl
      show (((withStores 1 : Environment Unit).performAll [.connect ⟨1⟩, .bind ⟨1⟩ ⟨1⟩]).bound d).count s ≤ _
      rw [hbound]
      by_cases hd : d = ⟨1⟩
      · subst hd
        by_cases hx : (⟨1⟩ : SessionId) = s
        · subst hx
          decide
        · simp [hx]
      · simp [hd]

/-- A session that is bound twice and unbound once is closed and still current. -/
theorem not_along_upheld : ¬∀ (acts : List (Act Unit)) (env : Environment Unit), env.IsBlank → env.AllFit acts →
    Along Upheld acts (fun _ => False) env := by
  intro claim
  have upheld := claim [.connect ⟨1⟩, .bind ⟨1⟩ ⟨1⟩, .bind ⟨1⟩ ⟨1⟩, .unbind ⟨1⟩] (withStores 1) ⟨rfl, rfl⟩ (by decide)
  obtain ⟨-, -, -, ⟨unheld, -⟩, -⟩ := upheld
  refine unheld ⟨1⟩ ⟨rfl, show _ = true by decide, ?_⟩ ⟨⟨1⟩, by decide⟩
  show ¬_ = true
  decide

end Act
end Persistence
