import Persistence.Proofs.Session.Tidiness

/-! Stacks of sessions. While sessions are only bound, each for its own datastore and not again as long as it is
    bound, and unbound, the registry is one list for each datastore: the sessions that a run binds for it and does
    not unbind later, in the order in which they are bound. Unbinding takes a session out of the list wherever it
    stands; one that stands in no list is passed over. -/

namespace Persistence

variable {κ : Type}

namespace Act

variable {act : Act κ} {past acts : List (Act κ)} {env : Environment κ} {s : SessionId} {store d : StoreId}

/-! ### What a run leaves bound -/

/-- The session that an act binds for a datastore. -/
def binds? (d : StoreId) : Act κ → Option SessionId
  | .bind s store => if store = d then some s else none
  | _ => none

/-- Whether an act unbinds a session. -/
def unbinds (s : SessionId) : Act κ → Bool
  | .unbind t => t == s
  | _ => false

/-- The sessions that a run binds for a datastore and does not unbind later, in the order in which it binds them. -/
def standing (d : StoreId) : List (Act κ) → List SessionId
  | [] => []
  | act :: rest =>
    match act.binds? d with
    | some s => if rest.any (·.unbinds s) then standing d rest else s :: standing d rest
    | none => standing d rest

/-- One more act takes out the session that it unbinds, wherever it stands, and adds the one that it binds. -/
theorem standing_concat (d : StoreId) (acts : List (Act κ)) (act : Act κ) :
    standing d (acts ++ [act]) = (standing d acts).filter (fun s => !act.unbinds s) ++ (act.binds? d).toList := by
  induction acts with
  | nil => cases h : act.binds? d <;> simp [standing, h]
  | cons first rest ih =>
    rw [List.cons_append, standing, standing, ih]
    cases first.binds? d with
    | none => rfl
    | some s =>
      simp only [List.any_append]
      cases hlater : rest.any (·.unbinds s) with
      | true => simp
      | false => cases hnow : act.unbinds s <;> simp [hnow]

theorem standing_bind :
    standing d (past ++ [.bind s store]) = standing d past ++ if store = d then [s] else [] := by
  rw [standing_concat]
  by_cases h : store = d <;> simp [unbinds, binds?, h]

theorem standing_unbind : standing d (past ++ [.unbind s]) = (standing d past).filter (· != s) := by
  have nothing : binds? d (.unbind s : Act κ) = none := rfl
  rw [standing_concat, nothing, Option.toList_none, List.append_nil]
  congr 1
  funext x
  exact congrArg (!·) Bool.beq_comm

theorem standing_of_keepsHolders (h : act.keepsHolders = true) : standing d (past ++ [act]) = standing d past := by
  rw [standing_concat]
  cases act with
  | bind s store => cases h
  | unbind s => cases h
  | _ => simp [unbinds, binds?]

/-! ### Runs that bind and unbind -/

/-- After the acts of `past`, a session is bound if that is for its own datastore and no bind of it stands; and no
holder is changed but by binding and unbinding. -/
def Proper (past : List (Act κ)) (env : Environment κ) : Act κ → Prop
  | .bind s store => env.storeOf? s = some store ∧ s ∉ standing store past
  | .unbind _ => True
  | act => act.keepsHolders = true

/-- Each act of a run is proper when it comes. -/
def Disciplined : List (Act κ) → List (Act κ) → Environment κ → Prop
  | _, [], _ => True
  | past, act :: rest, env => Proper past env act ∧ Disciplined (past ++ [act]) rest (act.perform env)

theorem proper_cases (h : Proper past env act) :
    (∃ s store, act = .bind s store ∧ env.storeOf? s = some store ∧ s ∉ standing store past) ∨
      (∃ s, act = .unbind s) ∨ act.keepsHolders = true := by
  cases act with
  | bind s store => exact Or.inl ⟨s, store, rfl, h⟩
  | unbind s => exact Or.inr (Or.inl ⟨s, rfl⟩)
  | _ => exact Or.inr (Or.inr h)

end Act

namespace Environment

variable {env : Environment κ} {act : Act κ} {past acts : List (Act κ)} {s : SessionId} {store d e : StoreId}

open Act (standing Proper Disciplined)

/-- The stacks hold what stands after the acts of `past`: sessions of their own datastore, and none twice. -/
structure Stacked (past : List (Act κ)) (env : Environment κ) : Prop where
  bound : ∀ d, env.bound d = standing d past
  home : ∀ d, ∀ s ∈ env.bound d, env.storeOf? s = some d
  once : ∀ d, (env.bound d).Nodup

theorem Stacked.bind (h : Stacked past env) (home : env.storeOf? s = some store) (new : s ∉ standing store past) :
    Stacked (past ++ [.bind s store]) (env.bindSession s store) := by
  have same : ∀ x, (env.bindSession s store).storeOf? x = env.storeOf? x := (closing_bindSession s store env).store
  refine ⟨fun d => ?_, fun d x hx => ?_, fun d => ?_⟩
  · rw [bound_bindSession, Act.standing_bind, h.bound, h.bound]
    by_cases hd : store = d
    · simp [hd]
    · simp [hd, Ne.symm hd]
  · rw [same]
    rw [bound_bindSession] at hx
    split at hx
    next hd =>
      subst hd
      rcases List.mem_append.mp hx with hx | hx
      · exact h.home d x hx
      · rw [List.mem_singleton.mp hx]
        exact home
    · exact h.home d x hx
  · rw [bound_bindSession]
    split
    · refine List.nodup_append.mpr ⟨h.once store, List.pairwise_singleton _ s, ?_⟩
      rintro x hx y hy rfl
      rw [h.bound, List.mem_singleton.mp hy] at hx
      exact new hx
    · exact h.once d

theorem Stacked.unbind (h : Stacked past env) (s : SessionId) :
    Stacked (past ++ [.unbind s]) (env.unbindSession s) := by
  have same : ∀ x, (env.unbindSession s).storeOf? x = env.storeOf? x := (closing_unbindSession s env).store
  refine ⟨fun d => ?_, fun d x hx => ?_, fun d => ?_⟩
  · rw [Act.standing_unbind, bound_unbindSession, ← h.bound]
    split
    · exact (h.once d).erase_eq_filter s
    next away =>
      -- A session of another datastore is not in this stack, so that taking it out changes nothing.
      refine (List.filter_eq_self.mpr fun x hx => ?_).symm
      rw [bne_iff_ne]
      rintro rfl
      exact away (h.home d x hx)
  · rw [same]
    rw [bound_unbindSession] at hx
    split at hx
    · exact h.home d x (List.mem_of_mem_erase hx)
    · exact h.home d x hx
  · rw [bound_unbindSession]
    split
    · exact (h.once d).erase s
    · exact h.once d

/-- One proper act on the registry is the same act on the lists. -/
theorem Stacked.perform (h : Stacked past env) (proper : Proper past env act) :
    Stacked (past ++ [act]) (act.perform env) := by
  obtain ⟨s, store, rfl, home, new⟩ | ⟨s, rfl⟩ | keeps := Act.proper_cases proper
  · exact h.bind home new
  · exact h.unbind s
  · obtain ⟨closed, hpass, -⟩ := act.passes_perform env
    have same : ∀ d, (act.perform env).bound d = env.bound d := fun d => bound_congr (Act.holders_perform keeps env)
    refine ⟨fun d => ?_, fun d x hx => ?_, fun d => ?_⟩
    · rw [same, h.bound, Act.standing_of_keepsHolders keeps]
    · rw [same] at hx
      have home := h.home d x hx
      rw [hpass.storeOf? (opened_iff_storeOf?.mpr ⟨d, home⟩), home]
    · rw [same]
      exact h.once d

theorem Stacked.performAll (h : Stacked past env) (disciplined : Disciplined past acts env) :
    Stacked (past ++ acts) (env.performAll acts) := by
  induction acts generalizing past env with
  | nil =>
    rw [List.append_nil]
    exact h
  | cons act rest ih =>
    have := ih (h.perform disciplined.1) disciplined.2
    rwa [List.append_assoc, List.singleton_append] at this

/-! ### Holders -/

theorem holder?_bindSession_of_ne (h : e ≠ d) : (env.bindSession s d).holder? e = env.holder? e := by
  unfold bindSession
  cases env.holder? d with
  | none => rw [holder?_setHolder, if_neg h]
  | some holder =>
    dsimp only
    rw [holder?_setHolder, if_neg h]
    rfl

theorem holder?_removeBound_of_ne (h : e ≠ d) : (env.removeBound s d).holder? e = env.holder? e := by
  unfold removeBound
  cases env.holder? d with
  | none => rfl
  | some holder =>
    dsimp only
    unfold settleHolder
    split
    · rw [holder?_dropHolder, if_neg h]
    · rw [holder?_setHolder, if_neg h]

theorem holder?_unbindSession_of_ne (own : env.storeOf? s = some d) (h : e ≠ d) :
    (env.unbindSession s).holder? e = env.holder? e := by
  obtain ⟨d', hd', -, heq⟩ | ⟨-, same, -⟩ := unbindSession_cases s env
  · cases own.symm.trans hd'
    rw [heq, holder?_congr holders_closeOrDefer, holder?_removeBound_of_ne h]
  · exact holder?_congr (congrArg Registry.holders same)

/-! ### One list for each datastore -/

/-- The registry behaves as one list of sessions for each datastore, whose last session is the current one. -/
structure StackLaws (env : Environment κ) (lists : StoreId → List SessionId) : Prop where
  stack : ∀ d, env.bound d = lists d
  current : ∀ d, env.current? d = (lists d).getLast?
  holder : ∀ d, (env.holder? d).isSome = true ↔ lists d ≠ []
  /-- Unbinding the current session brings back the one below it. -/
  restored : ∀ d rest s, lists d = rest ++ [s] → (env.unbindSession s).current? d = rest.getLast?
  /-- Unbinding any other session leaves the current one. -/
  kept : ∀ d s t, env.current? d = some t → s ≠ t → (env.unbindSession s).current? d = some t
  /-- Unbinding a session that stands in no list changes no holder and closes nothing, now or later. -/
  passed : ∀ s, (∀ d, s ∉ lists d) →
    (env.unbindSession s).registry = env.registry ∧ (env.unbindSession s).sessions = env.sessions
  /-- A holder disappears just when the only session of its list is unbound. -/
  vanished : ∀ d s, (env.holder? d).isSome = true → ((env.unbindSession s).holder? d = none ↔ lists d = [s])
  bindElsewhere : ∀ s d e, e ≠ d → (env.bindSession s d).holder? e = env.holder? e
  unbindElsewhere : ∀ s d e, env.storeOf? s = some d → e ≠ d → (env.unbindSession s).holder? e = env.holder? e

theorem Stacked.laws (h : Stacked past env) (tidy : env.Tidy) : StackLaws env fun d => standing d past where
  stack := h.bound
  current d := by rw [current?_eq, h.bound]
  holder d := by
    rw [Option.isSome_iff_ne_none, ne_eq, tidy.holder?_eq_none_iff, h.bound]
  restored d rest s hlist := by
    have once := h.once d
    rw [h.bound, hlist, List.nodup_append] at once
    rw [current?_eq, (h.unbind s).bound, Act.standing_unbind, hlist, List.filter_append, List.filter_eq_self.mpr]
    · simp
    · intro x hx
      rw [bne_iff_ne]
      exact once.2.2 x hx s (List.mem_singleton_self s)
  kept d s t hcurrent hne := by
    rw [current?_eq, h.bound] at hcurrent
    obtain ⟨rest, hlist⟩ := List.getLast?_eq_some_iff.mp hcurrent
    rw [current?_eq, (h.unbind s).bound, Act.standing_unbind, hlist, List.filter_append]
    simp [Ne.symm hne]
  passed s hs := by
    obtain ⟨d, -, hmem, -⟩ | ⟨-, registry, sessions⟩ := unbindSession_cases s env
    · rw [h.bound] at hmem
      exact absurd hmem (hs d)
    · exact ⟨registry, sessions⟩
  vanished d s hsome := by
    have occupied : standing d past ≠ [] := by
      rwa [Option.isSome_iff_ne_none, ne_eq, tidy.holder?_eq_none_iff, h.bound] at hsome
    have once := h.once d
    rw [h.bound] at once
    rw [tidy.unbindSession.holder?_eq_none_iff, (h.unbind s).bound, Act.standing_unbind, List.filter_eq_nil_iff]
    constructor
    · intro all
      have only : ∀ x ∈ standing d past, x = s := fun x hx => by simpa using all x hx
      obtain ⟨x, rest, hlist⟩ := List.exists_cons_of_ne_nil occupied
      rw [hlist] at only once ⊢
      obtain rfl := only x List.mem_cons_self
      have last : rest = [] := by
        refine List.eq_nil_iff_forall_not_mem.mpr fun y hy => ?_
        have := only y (List.mem_cons_of_mem _ hy)
        exact (List.nodup_cons.mp once).1 (this ▸ hy)
      rw [last]
    · intro hlist
      simp [hlist]
  bindElsewhere s d e hne := holder?_bindSession_of_ne hne
  unbindElsewhere s d e own hne := holder?_unbindSession_of_ne own hne

/-- However sessions of any datastores are bound and unbound, as long as each is bound for its own datastore and not
again while it is bound, the registry behaves as the lists of the sessions that were bound and not unbound since. -/
theorem stackLaws_performAll (reachable : env.Reachable) (empty : ∀ d, env.bound d = [])
    (disciplined : Disciplined [] acts env) : StackLaws (env.performAll acts) fun d => standing d acts := by
  have start : Stacked [] env := by
    refine ⟨empty, fun d s hs => ?_, fun d => ?_⟩
    · rw [empty] at hs
      cases hs
    · rw [empty]
      exact List.nodup_nil
  exact (start.performAll disciplined).laws (reachable.tidy.performAll acts)

/-- Two sessions of one datastore and one of another: unbinding the lower one leaves the upper one current, whose
unbinding then takes the holder away, as it has the holder of the other datastore. -/
theorem stackLaws_of_interleaved :
    let env : Environment Unit := (withStores 2).performAll [.connect ⟨1⟩, .connect ⟨1⟩, .connect ⟨2⟩]
    let acts : List (Act Unit) := [.bind ⟨1⟩ ⟨1⟩, .bind ⟨3⟩ ⟨2⟩, .bind ⟨2⟩ ⟨1⟩, .unbind ⟨1⟩, .unbind ⟨3⟩]
    (env.performAll acts).current? ⟨1⟩ = some ⟨2⟩ ∧ ((env.performAll acts).unbindSession ⟨2⟩).holder? ⟨1⟩ = none ∧
      ¬((env.performAll acts).holder? ⟨2⟩).isSome = true := by
  intro env acts
  have disciplined : Disciplined [] acts env :=
    ⟨⟨rfl, by decide⟩, ⟨rfl, by decide⟩, ⟨rfl, by decide⟩, trivial, trivial, trivial⟩
  have laws := stackLaws_performAll (reachable_withStores 2 (by decide)) (fun d => rfl) disciplined
  exact ⟨(laws.current ⟨1⟩).trans (by decide), (laws.vanished ⟨1⟩ ⟨2⟩ (by decide)).mpr (by decide),
    fun h => (laws.holder ⟨2⟩).mp h (by decide)⟩

end Environment
end Persistence
