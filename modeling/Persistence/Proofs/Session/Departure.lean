import Persistence.Proofs.Session.Run

/-! What is left of sessions that leave their transactions. A new session is closed or waits to be closed if it is
    still in the stack of its own datastore; where something else took it out meanwhile, it is passed over. Whoever
    leaves takes the mark off the holder of the transaction, and off all sessions that are in it. -/

namespace Persistence

variable {κ : Type}

namespace Environment

variable {env after : Environment κ} {s x : SessionId} {store d : StoreId} {isNew : Bool} {status : CompletionStatus}
  {leaving : List Enlistment}

/-! ### Closed or waiting -/

/-- A session that nobody has to close any more. -/
def Settled (env : Environment κ) (s : SessionId) : Prop := ¬env.Connected s ∨ env.Waits s

theorem waits_iff (h : env.storeOf? s = some d) :
    env.Waits s ↔ ∃ pending, env.pending? d = some pending ∧ s ∈ pending := by
  constructor
  · rintro ⟨d', pending, hd, hp, hmem⟩
    cases h.symm.trans hd
    exact ⟨pending, hp, hmem⟩
  · rintro ⟨pending, hp, hmem⟩
    exact ⟨d, pending, h, hp, hmem⟩

theorem atHome_iff (h : env.storeOf? s = some d) : env.AtHome s ↔ s ∈ env.bound d := by
  constructor
  · rintro ⟨d', hd, hmem⟩
    cases h.symm.trans hd
    exact hmem
  · exact fun hmem => ⟨d, h, hmem⟩

theorem closesUnbound_eq_true_iff : env.closesUnbound s = true ↔
    ∃ d, env.storeOf? s = some d ∧ s ∈ env.bound d ∧ env.pending? d = none := by
  unfold closesUnbound isDeferring
  cases env.storeOf? s with
  | none => simp
  | some d => simp

theorem connected_leaveTransaction : (env.leaveTransaction x store isNew status).Connected s ↔
    env.Connected s ∧ ¬(isNew = true ∧ x = s ∧ env.closesUnbound s = true) := by
  unfold Connected
  rw [(closing_leaveTransaction x store isNew status env).connected]
  by_cases hx : x = s
  · subst hx
    cases isNew <;> cases env.closesUnbound x <;> simp
  · cases isNew <;> cases env.closesUnbound x <;> simp [hx, Ne.symm hx]

theorem waits_leaveTransaction (hopen : env.storeOf? s = some d) :
    (env.leaveTransaction x store isNew status).Waits s ↔
      env.Waits s ∨ (isNew = true ∧ x = s ∧ s ∈ env.bound d ∧ env.pending? d ≠ none) := by
  have hopen' : (env.leaveTransaction x store isNew status).storeOf? s = some d := by
    rw [storeOf?_leaveTransaction, hopen]
  rw [waits_iff hopen, waits_iff hopen', pending?_leaveTransaction]
  by_cases hx : isNew = true ∧ env.storeOf? x = some d ∧ x ∈ env.bound d
  · rw [if_pos hx]
    obtain ⟨hnew, hstore, hmem⟩ := hx
    cases hp : env.pending? d with
    | none => simp
    | some pending =>
      simp only [Option.map_some, Option.some.injEq, exists_eq_left', mem_addPending, hnew, true_and, ne_eq,
        reduceCtorEq, not_false_eq_true, and_true]
      constructor
      · rintro (hs | rfl)
        · exact Or.inl hs
        · exact Or.inr ⟨rfl, hmem⟩
      · rintro (hs | ⟨rfl, -⟩)
        · exact Or.inl hs
        · exact Or.inr rfl
  · rw [if_neg hx]
    refine (or_iff_left ?_).symm
    rintro ⟨hnew, rfl, hmem, -⟩
    exact hx ⟨hnew, hopen, hmem⟩

/-- A session that leaves as a new one is settled just if it was so before or is in the stack of its datastore. -/
theorem settled_leaveTransaction : (env.leaveTransaction x store isNew status).Settled s ↔
    env.Settled s ∨ (isNew = true ∧ x = s ∧ env.AtHome s) := by
  unfold Settled
  rw [connected_leaveTransaction]
  cases hopen : env.storeOf? s with
  | none =>
    have hnot : ¬env.Connected s := by
      intro hconn
      obtain ⟨d, hd⟩ := opened_iff_storeOf?.mp hconn.opened
      rw [hopen] at hd
      cases hd
    simp [hnot]
  | some d =>
    rw [waits_leaveTransaction hopen, atHome_iff hopen, closesUnbound_eq_true_iff]
    simp only [hopen, Option.some.injEq, exists_eq_left']
    -- With a window of its datastore open it waits from then on, and else it is closed.
    by_cases hp : env.pending? d = none <;> by_cases hmem : s ∈ env.bound d <;> simp [hp, hmem] <;> tauto

theorem atHome_leaveTransaction (h : ¬(isNew = true ∧ x = s)) :
    (env.leaveTransaction x store isNew status).AtHome s ↔ env.AtHome s := by
  unfold AtHome
  apply exists_congr
  intro d
  rw [storeOf?_leaveTransaction, bound_leaveTransaction]
  apply and_congr_right
  intro _
  split
  · next hx => exact List.mem_erase_of_ne fun hs => h ⟨hx.1, hs.symm⟩
  · exact Iff.rfl

theorem atHome_of_leaveTransaction (h : (env.leaveTransaction x store isNew status).AtHome s) : env.AtHome s := by
  obtain ⟨d, hd, hmem⟩ := h
  rw [storeOf?_leaveTransaction] at hd
  rw [bound_leaveTransaction] at hmem
  refine ⟨d, hd, ?_⟩
  split at hmem
  · exact List.mem_of_mem_erase hmem
  · exact hmem

/-- When many leave, the ones that are settled are those that were so before, and the new ones that were in the stack
of their datastore. -/
theorem settled_leaveAll (leaving : List Enlistment) (status : CompletionStatus) (env : Environment κ) :
    (env.leaveAll leaving status).Settled s ↔
      env.Settled s ∨ (env.AtHome s ∧ ∃ e ∈ leaving, e.isNew = true ∧ e.session = s) := by
  induction leaving generalizing env with
  | nil =>
    rw [leaveAll, List.foldl_nil]
    simp
  | cons e rest ih =>
    rw [leaveAll_cons, ih, settled_leaveTransaction]
    by_cases he : e.isNew = true ∧ e.session = s
    · obtain ⟨hnew, rfl⟩ := he
      constructor
      · rintro ((h | ⟨-, -, h⟩) | ⟨h, -⟩)
        · exact Or.inl h
        · exact Or.inr ⟨h, e, List.mem_cons_self, hnew, rfl⟩
        · exact Or.inr ⟨atHome_of_leaveTransaction h, e, List.mem_cons_self, hnew, rfl⟩
      · rintro (h | ⟨h, -⟩)
        · exact Or.inl (Or.inl h)
        · exact Or.inl (Or.inr ⟨hnew, rfl, h⟩)
    · rw [atHome_leaveTransaction he]
      constructor
      · rintro ((h | ⟨hnew, hs, -⟩) | ⟨h, e', he', hs⟩)
        · exact Or.inl h
        · exact absurd ⟨hnew, hs⟩ he
        · exact Or.inr ⟨h, e', List.mem_cons_of_mem _ he', hs⟩
      · rintro (h | ⟨h, e', he', hs⟩)
        · exact Or.inl (Or.inl h)
        · rcases List.mem_cons.mp he' with rfl | he'
          · exact absurd hs he
          · exact Or.inr ⟨h, e', he', hs⟩

/-- A session that does not leave as a new one keeps its connection. -/
theorem connected_leaveAll (old : ∀ e ∈ leaving, e.isNew = true → e.session ≠ s) :
    (env.leaveAll leaving status).Connected s ↔ env.Connected s := by
  induction leaving generalizing env with
  | nil => exact Iff.rfl
  | cons e rest ih =>
    rw [leaveAll_cons, ih fun f hf => old f (List.mem_cons_of_mem _ hf), connected_leaveTransaction]
    refine and_iff_left ?_
    rintro ⟨hnew, hs, -⟩
    exact old e List.mem_cons_self hnew hs

/-! ### Marks -/

/-- Whether a session is marked as part of the transaction. -/
def takesPart (env : Environment κ) (s : SessionId) : Bool := ((env.session? s).map (·.isSynchronized)).getD false

theorem takesPart_congr (h : after.sessions = env.sessions) : after.takesPart s = env.takesPart s := by
  simp only [takesPart, session?, h]

theorem takesPart_clear : (env.clear x).takesPart s = env.takesPart s := by
  unfold takesPart
  exact congrArg (Option.getD · false) (Sessions.map_get?_update (fun _ h => h) fun _ _ => rfl)

theorem takesPart_unmark (h : (env.updateSession x (Session.setSynchronized false)).takesPart s = true) :
    env.takesPart s = true ∧ s ≠ x := by
  have hget : (env.updateSession x (Session.setSynchronized false)).session? s =
      if s = x then (env.session? s).map (Session.setSynchronized false) else env.session? s :=
    Sessions.get?_update fun _ h => h
  unfold takesPart at h ⊢
  rw [hget] at h
  by_cases hs : s = x
  · rw [if_pos hs, Option.map_map] at h
    cases henv : env.session? s <;> simp [henv, Session.setSynchronized] at h
  · rw [if_neg hs] at h
    exact ⟨h, hs⟩

theorem takesPart_synchronizeHolder (h : (env.synchronizeHolder store false).takesPart s = true) :
    env.takesPart s = true ∧ s ∉ env.bound store := by
  unfold synchronizeHolder at h
  cases hh : env.holder? store with
  | none =>
    rw [hh] at h
    exact ⟨h, by simp [bound, hh]⟩
  | some holder =>
    have hb : env.bound store = holder.sessions := by simp [bound, hh]
    have hget : (env.sessions.updateAll holder.sessions (Session.setSynchronized false)).get? s =
        if s ∈ holder.sessions then (env.sessions.get? s).map (Session.setSynchronized false)
        else env.sessions.get? s := Sessions.get?_updateAll fun _ => rfl
    rw [hh] at h
    simp only [Holder.synchronize] at h
    change (((env.sessions.updateAll holder.sessions (Session.setSynchronized false)).get? s).map
      (·.isSynchronized)).getD false = true at h
    rw [hget] at h
    rw [hb]
    split at h
    · rw [Option.map_map] at h
      cases henv : env.sessions.get? s <;> simp [henv, Session.setSynchronized] at h
    · next hs => exact ⟨h, hs⟩

theorem takesPart_unbindSession : (env.unbindSession x).takesPart s = env.takesPart s := by
  obtain ⟨own, -, -, h⟩ | ⟨-, -, hsess⟩ := unbindSession_cases x env
  · have hsess : ((env.removeBound x own).closeOrDefer x own).sessions =
        if (env.removeBound x own).isDeferring own then env.sessions else env.sessions.update x Session.disconnect :=
      sessions_closeOrDefer.trans (by rw [sessions_removeBound])
    rw [h]
    unfold takesPart session?
    rw [hsess]
    split
    · rfl
    · exact congrArg (Option.getD · false) (Sessions.map_get?_update (fun _ h => h) fun _ _ => rfl)
  · exact takesPart_congr hsess

/-- A session that leaves takes its mark off, and the marks of all that are in the stack of its transaction. -/
theorem takesPart_leaveTransaction (h : (env.leaveTransaction x store isNew status).takesPart s = true) :
    env.takesPart s = true ∧ s ≠ x ∧ s ∉ env.bound store := by
  obtain ⟨cleared, hreg, hpart, heq⟩ : ∃ cleared : Environment κ, cleared.registry = env.registry ∧
      cleared.takesPart s = env.takesPart s ∧ cleared = if status = .rolledBack then env.clear x else env := by
    refine ⟨_, ?_, ?_, rfl⟩
    · split <;> rfl
    · split
      · exact takesPart_clear
      · rfl
  have left : ((cleared.synchronizeHolder store false).updateSession x (Session.setSynchronized false)).takesPart s =
      true := by
    unfold leaveTransaction at h
    rw [← heq] at h
    cases isNew with
    | true =>
      change ((note (.releasing x status) _).unbindSession x).takesPart s = true at h
      rw [takesPart_unbindSession] at h
      exact h
    | false => exact h
  obtain ⟨hmarked, hne⟩ := takesPart_unmark left
  obtain ⟨hclear, hnot⟩ := takesPart_synchronizeHolder hmarked
  rw [hpart] at hclear
  rw [bound_congr (congrArg Registry.holders hreg)] at hnot
  exact ⟨hclear, hne, hnot⟩

theorem isMarked_synchronizeHolder (h : (env.synchronizeHolder store false).isMarked d = true) :
    env.isMarked d = true ∧ d ≠ store := by
  unfold synchronizeHolder at h
  cases hh : env.holder? store with
  | none =>
    rw [hh] at h
    refine ⟨h, ?_⟩
    rintro rfl
    simp [isMarked, hh] at h
  | some holder =>
    rw [hh] at h
    simp only [Holder.synchronize, isMarked_setHolder] at h
    split at h
    · cases h
    · next hd => exact ⟨h, hd⟩

theorem isMarked_leaveTransaction (h : (env.leaveTransaction x store isNew status).isMarked d = true) :
    env.isMarked d = true ∧ d ≠ store := by
  have hclear : (if status = .rolledBack then env.clear x else env).isMarked d = env.isMarked d := by
    split <;> rfl
  rw [← hclear]
  unfold leaveTransaction at h
  cases isNew with
  | true =>
    change ((note (.releasing x status) _).unbindSession x).isMarked d = true at h
    have h := isMarked_unbindSession h
    exact isMarked_synchronizeHolder h
  | false => exact isMarked_synchronizeHolder h

/-- When many leave, no mark is made. -/
theorem marks_leaveAll (leaving : List Enlistment) (status : CompletionStatus) (env : Environment κ) :
    (∀ s, (env.leaveAll leaving status).takesPart s = true → env.takesPart s = true) ∧
    ∀ d, (env.leaveAll leaving status).isMarked d = true → env.isMarked d = true := by
  induction leaving generalizing env with
  | nil => exact ⟨fun _ h => h, fun _ h => h⟩
  | cons e rest ih =>
    obtain ⟨hpart, hmark⟩ := ih (env.leaveTransaction e.session e.store e.isNew status)
    exact ⟨fun s h => (takesPart_leaveTransaction (hpart s h)).1, fun d h => (isMarked_leaveTransaction (hmark d h)).1⟩

/-- When many leave, each loses its mark, and so do the holders of their transactions and all that are left there. -/
theorem unmarked_leaveAll {e : Enlistment} (he : e ∈ leaving) (status : CompletionStatus) (env : Environment κ) :
    (env.leaveAll leaving status).takesPart e.session = false ∧ (env.leaveAll leaving status).isMarked e.store = false ∧
    ∀ x ∈ (env.leaveAll leaving status).bound e.store, (env.leaveAll leaving status).takesPart x = false := by
  induction leaving generalizing env with
  | nil => cases he
  | cons f rest ih =>
    rcases List.mem_cons.mp he with rfl | he
    · obtain ⟨hpart, hmark⟩ := marks_leaveAll rest status (env.leaveTransaction e.session e.store e.isNew status)
      rw [leaveAll_cons]
      refine ⟨?_, ?_, ?_⟩
      · rw [← Bool.not_eq_true]
        exact fun h => (takesPart_leaveTransaction (hpart _ h)).2.1 rfl
      · rw [← Bool.not_eq_true]
        exact fun h => (isMarked_leaveTransaction (hmark _ h)).2 rfl
      · intro x hx
        rw [← Bool.not_eq_true]
        intro h
        refine (takesPart_leaveTransaction (hpart x h)).2.2 ?_
        rw [← leaveAll_cons, bound_leaveAll] at hx
        exact List.diff_subset _ _ hx
    · exact ih he (env.leaveTransaction f.session f.store f.isNew status)

end Environment
end Persistence
