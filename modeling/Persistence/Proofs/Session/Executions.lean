import Persistence.Proofs.Session.Deferral

/-! Scoped executions within each other. A body that does nothing but look around and start further executions is a
    tree, in which every call has the trees of its body and of what comes after it. A run of such a tree leaves all
    holders as they were, whichever of its bodies fail, and gives up just the sessions that it opened. -/

namespace Persistence

variable {κ : Type}

/-- A computation that does nothing but scoped executions. It ends with an answer or with a fault, and may go on
after executions that failed. -/
inductive Nest (κ : Type) : Type → Type 1 where
  | done {α : Type} (answer : Except Fault α) : Nest κ α
  | inspect {α : Type} (next : Environment κ → Nest κ α) : Nest κ α
  | execute {α β : Type} (store : StoreId) (body : SessionId → Nest κ β) (next : Except Fault β → Nest κ α) : Nest κ α

namespace Environment

variable {env env' mid after start : Environment κ} {s x : SessionId} {store d : StoreId} {α : Type}
  {body : SessionId → Environment κ → Except Fault α × Environment κ} {fault : Fault} {pending : List SessionId}

/-! ### One execution -/

/-- Where an execution runs its body: in which session, and what the body finds. -/
def entry (store : StoreId) (env : Environment κ) : Except Fault (SessionId × Environment κ) :=
  (env.execute store fun session at_ => (.ok (session, at_), at_)).1

theorem entry_cases (h : env.entry store = .ok (s, start)) :
    (env.current? store = some s ∧ start = env) ∨
      (env.current? store = none ∧ s = env.fresh ∧ ∃ opened, env.connect store = (.ok env.fresh, opened) ∧
        start = opened.bindSession env.fresh store) := by
  unfold entry at h
  cases hcur : env.current? store with
  | some t =>
    rw [execute_of_current hcur] at h
    cases h
    exact Or.inl ⟨rfl, rfl⟩
  | none =>
    obtain ⟨fault, hc⟩ | ⟨opened, hc, -, -⟩ := connect_cases store env
    · rw [execute_of_refused hcur hc] at h
      cases h
    · rw [execute_of_connected hcur hc] at h
      cases h
      exact Or.inr ⟨rfl, rfl, opened, hc, rfl⟩

/-! ### Windows -/

/-- From `env` to `env'` the same windows are open, and nothing leaves them. -/
structure Waiting (env env' : Environment κ) : Prop where
  shut : ∀ d, env.pending? d = none → env'.pending? d = none
  kept : ∀ d pending, env.pending? d = some pending → ∃ more, env'.pending? d = some (pending ++ more)

namespace Waiting

theorem of_eq (h : env'.registry.deferred = env.registry.deferred) : Waiting env env' where
  shut d hd := (pending?_congr h).trans hd
  kept d pending hd := ⟨[], by rw [pending?_congr h, hd, List.append_nil]⟩

theorem trans (h₁ : Waiting env mid) (h₂ : Waiting mid env') : Waiting env env' where
  shut d hd := h₂.shut d (h₁.shut d hd)
  kept d pending hd := by
    obtain ⟨more, hmore⟩ := h₁.kept d pending hd
    obtain ⟨more', hmore'⟩ := h₂.kept d _ hmore
    exact ⟨more ++ more', by rw [hmore', List.append_assoc]⟩

theorem closeOrDefer (s : SessionId) (store : StoreId) (env : Environment κ) :
    Waiting env (env.closeOrDefer s store) where
  shut d hd := by
    rw [pending?_closeOrDefer]
    split
    next here => rw [← here, hd, Option.map_none]
    · exact hd
  kept d pending hd := by
    rw [pending?_closeOrDefer]
    split
    next here =>
      rw [← here, hd, Option.map_some]
      unfold addPending
      split
      · exact ⟨[], by rw [List.append_nil]⟩
      · exact ⟨[s], rfl⟩
    · exact ⟨[], by rw [hd, List.append_nil]⟩

theorem isDeferring (h : Waiting env env') (d : StoreId) : env'.isDeferring d = env.isDeferring d := by
  unfold Environment.isDeferring
  cases hd : env.pending? d with
  | none => rw [h.shut d hd]
  | some pending =>
    obtain ⟨more, hmore⟩ := h.kept d pending hd
    rw [hmore]
    rfl

end Waiting

/-- A session that was given up: closed once, or waiting in the window of its datastore. -/
def GivenUp (env : Environment κ) (s : SessionId) : Prop :=
  ∃ d, env.storeOf? s = some d ∧
    ((env.pending? d = none ∧ env.closes s = 1) ∨
      ∃ pending, env.pending? d = some pending ∧ s ∈ pending ∧ env.closes s = 0)

theorem GivenUp.mono (h : env.GivenUp s) (same : env'.session? s = env.session? s) (waiting : Waiting env env') :
    env'.GivenUp s := by
  obtain ⟨d, hstore, hgiven⟩ := h
  have closes : env'.closes s = env.closes s := by rw [closes, closes, same]
  refine ⟨d, by rw [storeOf?, same]; exact hstore, ?_⟩
  rcases hgiven with ⟨shut, once⟩ | ⟨pending, waits, hmem, none⟩
  · exact Or.inl ⟨waiting.shut d shut, closes.trans once⟩
  · obtain ⟨more, waits'⟩ := waiting.kept d pending waits
    exact Or.inr ⟨pending ++ more, waits', List.mem_append_left _ hmem, closes.trans none⟩

/-! ### Scopes -/

/-- From `env` to `env'` all holders and all sessions are kept, and what was opened was given up. -/
structure Scoped (env env' : Environment κ) : Prop where
  holders : env'.registry.holders = env.registry.holders
  kept : ∀ s, env.Opened s → env'.session? s = env.session? s
  waiting : Waiting env env'
  settled : ∀ s, ¬env.Opened s → env'.Opened s → env'.GivenUp s

/-- From `env` to `env'` the next session was opened for a datastore and is the only one bound for it; apart from
that all is as after executions that have returned. -/
structure Within (store : StoreId) (env env' : Environment κ) : Prop where
  holders : env'.registry.holders = env.registry.holders.put store (Holder.ofSession env.fresh)
  own : env'.session? env.fresh = some { id := env.fresh, store }
  kept : ∀ s, env.Opened s → env'.session? s = env.session? s
  waiting : Waiting env env'
  settled : ∀ s, s ≠ env.fresh → ¬env.Opened s → env'.Opened s → env'.GivenUp s

namespace Scoped

theorem refl (env : Environment κ) : Scoped env env where
  holders := rfl
  kept _ _ := rfl
  waiting := .of_eq rfl
  settled _ hnot h := absurd h hnot

theorem opened (h : Scoped env env') (hs : env.Opened s) : env'.Opened s := by
  unfold Opened
  rw [h.kept s hs]
  exact hs

theorem current? (h : Scoped env env') : env'.current? d = env.current? d := by
  rw [current?_eq, current?_eq, bound_congr h.holders]

/-- A session that was opened and given up before stays given up. -/
theorem settled_trans (h : Scoped mid env') (settled : mid.Opened s → mid.GivenUp s) (hs : env'.Opened s) :
    env'.GivenUp s := by
  by_cases hmid : mid.Opened s
  · exact (settled hmid).mono (h.kept s hmid) h.waiting
  · exact h.settled s hmid hs

theorem trans (h₁ : Scoped env mid) (h₂ : Scoped mid env') : Scoped env env' where
  holders := h₂.holders.trans h₁.holders
  kept s hs := (h₂.kept s (h₁.opened hs)).trans (h₁.kept s hs)
  waiting := h₁.waiting.trans h₂.waiting
  settled s hnot := h₂.settled_trans (h₁.settled s hnot)

end Scoped

namespace Within

/-- An execution that opens a session starts its body with it. -/
theorem of_opened {opened : Environment κ} (numbered : env.Numbered) (free : env.holder? store = none)
    (registry : opened.registry = env.registry)
    (sessions : opened.sessions = env.sessions ++ [{ id := env.fresh, store }]) :
    Within store env (opened.bindSession env.fresh store) := by
  have bound : opened.bindSession env.fresh store = opened.setHolder store (Holder.ofSession env.fresh) :=
    bindSession_of_free (by rwa [Environment.holder?, registry])
  have found : ∀ x, (opened.bindSession env.fresh store).session? x =
      (env.session? x).or (if env.fresh = x then some { id := env.fresh, store } else none) := by
    intro x
    rw [bound]
    show opened.sessions.get? x = _
    rw [sessions, Sessions.get?_append]
    rfl
  refine ⟨?_, ?_, fun s hs => ?_, .of_eq ?_, fun s hne hnot hs => ?_⟩
  · rw [bound, ← registry]
    rfl
  · have new : env.session? env.fresh = none := Option.not_isSome_iff_eq_none.mp numbered.not_opened_fresh
    rw [found, new, Option.none_or, if_pos rfl]
  · obtain ⟨t, ht⟩ := Option.isSome_iff_exists.mp hs
    rw [found, ht, Option.some_or]
  · rw [deferred_bindSession, registry]
  · unfold Opened at hs hnot
    rw [found, if_neg (Ne.symm hne), Option.or_none] at hs
    exact absurd hs hnot

theorem holder? (h : Within store env env') : env'.holder? store = some (Holder.ofSession env.fresh) := by
  unfold Environment.holder?
  rw [h.holders, Keyed.get?_put, if_pos rfl]

theorem current? (h : Within store env env') : env'.current? store = some env.fresh := by
  unfold Environment.current?
  rw [h.holder?]
  rfl

theorem current?_of_ne (h : Within store env env') (hne : d ≠ store) : env'.current? d = env.current? d := by
  unfold Environment.current? Environment.holder?
  rw [h.holders, Keyed.get?_put, if_neg hne]

/-- What keeps its own scope may go on within. -/
theorem trans (h₁ : Within store env mid) (h₂ : Scoped mid env') : Within store env env' where
  holders := h₂.holders.trans h₁.holders
  own := by
    have first : mid.Opened env.fresh := by
      unfold Opened
      rw [h₁.own]
      rfl
    rw [h₂.kept _ first, h₁.own]
  kept s hs := by
    have still : mid.Opened s := by
      unfold Opened
      rw [h₁.kept s hs]
      exact hs
    exact (h₂.kept s still).trans (h₁.kept s hs)
  waiting := h₁.waiting.trans h₂.waiting
  settled s hne hnot := h₂.settled_trans (h₁.settled s hne hnot)

/-- The only session of a holder takes the holder with it. -/
theorem holders_removeBound (h : Within store env env') (free : env.holder? store = none) :
    (env'.removeBound env.fresh store).registry.holders = env.registry.holders := by
  have empty : ((Holder.ofSession env.fresh).remove env.fresh).isEmpty = true := by
    simp [Holder.ofSession, Holder.remove, Holder.isEmpty]
  unfold removeBound
  rw [h.holder?]
  show (env'.settleHolder store ((Holder.ofSession env.fresh).remove env.fresh)).registry.holders = _
  rw [settleHolder, if_pos empty]
  show env'.registry.holders.erase store = _
  rw [h.holders, Keyed.erase_put free]

/-- At the end the session is taken out again and given up. -/
theorem leave (h : Within store env env') (numbered : env.Numbered) (free : env.holder? store = none) :
    Scoped env ((env'.removeBound env.fresh store).closeOrDefer env.fresh store) := by
  have new := numbered.not_opened_fresh
  have waiting : Waiting env' ((env'.removeBound env.fresh store).closeOrDefer env.fresh store) :=
    (Waiting.of_eq deferred_removeBound).trans (.closeOrDefer _ _ _)
  have window : (env'.removeBound env.fresh store).isDeferring store = env'.isDeferring store :=
    Withheld.isDeferring_congr deferred_removeBound
  have found : ∀ x, ((env'.removeBound env.fresh store).closeOrDefer env.fresh store).session? x =
      if x = env.fresh ∧ env'.isDeferring store = false then (env'.session? x).map Session.disconnect
      else env'.session? x := by
    intro x
    unfold session?
    rw [sessions_closeOrDefer, sessions_removeBound, window]
    cases env'.isDeferring store with
    | true => simp
    | false =>
      have hget : (env'.sessions.update env.fresh Session.disconnect).get? x =
          if x = env.fresh then (env'.sessions.get? x).map Session.disconnect else env'.sessions.get? x :=
        Sessions.get?_update fun _ h => h
      simp [hget]
  have others : ∀ x, x ≠ env.fresh →
      ((env'.removeBound env.fresh store).closeOrDefer env.fresh store).session? x = env'.session? x :=
    fun x hx => (found x).trans (if_neg fun h => hx h.1)
  refine ⟨holders_closeOrDefer.trans (h.holders_removeBound free), fun s hs => ?_, h.waiting.trans waiting,
    fun s hnot hs => ?_⟩
  · have hne : s ≠ env.fresh := by
      rintro rfl
      exact new hs
    rw [others s hne, h.kept s hs]
  · by_cases hne : s = env.fresh
    · -- The session itself is closed, unless the window of its datastore is open and takes it.
      subst hne
      have own := found env.fresh
      rw [h.own] at own
      have after : ((env'.removeBound env.fresh store).closeOrDefer env.fresh store).pending? store =
          (env'.pending? store).map (addPending · env.fresh) := by
        rw [pending?_closeOrDefer, if_pos rfl, pending?_congr deferred_removeBound]
      cases hw : env'.pending? store with
      | none =>
        rw [isDeferring, hw, if_pos ⟨rfl, rfl⟩] at own
        rw [hw, Option.map_none] at after
        exact ⟨store, by rw [storeOf?, own]; rfl, Or.inl ⟨after, by rw [closes, own]; rfl⟩⟩
      | some pending =>
        rw [isDeferring, hw, if_neg (by simp)] at own
        rw [hw, Option.map_some] at after
        exact ⟨store, by rw [storeOf?, own]; rfl,
          Or.inr ⟨_, after, mem_addPending.mpr (Or.inr rfl), by rw [closes, own]; rfl⟩⟩
    · refine (h.settled s hne hnot ?_).mono (others s hne) waiting
      unfold Opened at hs ⊢
      rwa [others s hne] at hs

end Within

theorem Reachable.free (h : env.Reachable) (unbound : env.current? store = none) : env.holder? store = none := by
  rw [h.tidy.holder?_eq_none_iff]
  rwa [current?_eq, List.getLast?_eq_none_iff] at unbound

theorem Within.of_entry (h : env.Reachable) (unbound : env.current? store = none)
    (entered : env.entry store = .ok (s, start)) :
    s = env.fresh ∧ Within store env start ∧ start.sessions = env.sessions ++ [{ id := env.fresh, store }] := by
  obtain ⟨bound, -⟩ | ⟨-, rfl, opened, hc, rfl⟩ := entry_cases entered
  · rw [unbound] at bound
    cases bound
  · obtain ⟨fault, hc'⟩ | ⟨opened', hc', registry, sessions⟩ := connect_cases store env
    · cases hc.symm.trans hc'
    · cases hc.symm.trans hc'
      refine ⟨rfl, .of_opened h.wellFormed.numbered (h.free unbound) registry sessions, ?_⟩
      rw [bindSession_of_free (by rw [Environment.holder?, registry]; exact h.free unbound)]
      exact sessions

/-- The body of an execution starts in a reachable environment. -/
theorem Reachable.entry (h : env.Reachable) (entered : env.entry store = .ok (s, start)) : start.Reachable := by
  obtain ⟨-, rfl⟩ | ⟨-, rfl, opened, hc, rfl⟩ := entry_cases entered
  · exact h
  · have connected : (env.connect store).2.Reachable := h.step (.connect store) (fits_of_names rfl)
    have first : (env.connect store).2.Opened env.fresh := by
      obtain ⟨fault, hc'⟩ | ⟨opened', hc', -, sessions⟩ := connect_cases store env
      · cases hc.symm.trans hc'
      · rw [hc']
        exact opened_of_sessions sessions
    rw [hc] at connected first
    exact connected.step (.bind env.fresh store) (by simpa [Act.Fits, Act.names] using first)

theorem Reachable.opened_entry (h : env.Reachable) (entered : env.entry store = .ok (s, start)) (hx : env.Opened x) :
    start.Opened x := by
  obtain ⟨-, rfl⟩ | ⟨unbound, -⟩ := entry_cases entered
  · exact hx
  · obtain ⟨-, within, -⟩ := Within.of_entry h unbound entered
    unfold Opened
    rw [within.kept x hx]
    exact hx

/-- What an execution does around its body: nothing, or to open a session and to give it up. -/
theorem execute_eq (entered : env.entry store = .ok (s, start)) : (env.execute store body).1 = (body s start).1 ∧
    (env.execute store body).2 = if env.current? store = none then
      ((body s start).2.removeBound s store).closeOrDefer s store else (body s start).2 := by
  obtain ⟨hcur, rfl⟩ | ⟨hcur, rfl, opened, hc, rfl⟩ := entry_cases entered
  · rw [execute_of_current hcur, if_neg (by simp [hcur])]
    exact ⟨rfl, rfl⟩
  · rw [execute_of_connected hcur hc, if_pos hcur]
    exact ⟨rfl, rfl⟩

/-- Without an entry no body is run and nothing happens. -/
theorem execute_of_not_entered (refused : env.entry store = .error fault) :
    env.execute store body = (.error fault, env) := by
  unfold entry at refused
  cases hcur : env.current? store with
  | some s =>
    rw [execute_of_current hcur] at refused
    cases refused
  | none =>
    obtain ⟨fault', hc⟩ | ⟨opened, hc, -, -⟩ := connect_cases store env
    · rw [execute_of_refused hcur hc] at refused
      cases refused
      exact execute_of_refused hcur hc
    · rw [execute_of_connected hcur hc] at refused
      cases refused

/-- An execution keeps its scope if its body does. -/
theorem Scoped.execute (h : env.Reachable) (keeps : ∀ s at_, at_.Reachable → Scoped at_ (body s at_).2) :
    Scoped env (env.execute store body).2 := by
  cases entered : env.entry store with
  | error fault =>
    rw [execute_of_not_entered entered]
    exact .refl env
  | ok result =>
    obtain ⟨s, start⟩ := result
    have ran := keeps s start (h.entry entered)
    rw [(execute_eq entered).2]
    split
    next unbound =>
      obtain ⟨rfl, within, -⟩ := Within.of_entry h unbound entered
      exact (within.trans ran).leave h.wellFormed.numbered (h.free unbound)
    next bound =>
      obtain ⟨-, rfl⟩ | ⟨unbound, -⟩ := entry_cases entered
      · exact ran
      · exact absurd unbound bound

end Environment

namespace Nest

open Environment

/-- What a tree of executions answers, and what it leaves. -/
def run {α : Type} : Nest κ α → Environment κ → Except Fault α × Environment κ
  | .done answer, env => (answer, env)
  | .inspect next, env => (next env).run env
  | .execute store body next, env =>
    let ran := env.execute store fun session at_ => (body session).run at_
    (next ran.1).run ran.2

/-- A body that is run: for which datastore, where the execution is called, and what the body gets. -/
structure Entry (κ : Type) where
  {answer : Type}
  store : StoreId
  caller : Environment κ
  session : SessionId
  start : Environment κ
  body : Nest κ answer

/-- The bodies that are run in the run of a tree, at any depth. -/
inductive Enters : {α : Type} → Nest κ α → Environment κ → Entry κ → Prop where
  | inspect {α : Type} {next : Environment κ → Nest κ α} {env : Environment κ} {e : Entry κ}
      (h : Enters (next env) env e) : Enters (.inspect next) env e
  | here {α β : Type} {store : StoreId} {body : SessionId → Nest κ β} {next : Except Fault β → Nest κ α}
      {env start : Environment κ} {session : SessionId} (entered : env.entry store = .ok (session, start)) :
      Enters (.execute store body next) env ⟨store, env, session, start, body session⟩
  | within {α β : Type} {store : StoreId} {body : SessionId → Nest κ β} {next : Except Fault β → Nest κ α}
      {env start : Environment κ} {session : SessionId} {e : Entry κ}
      (entered : env.entry store = .ok (session, start)) (h : Enters (body session) start e) :
      Enters (.execute store body next) env e
  | later {α β : Type} {store : StoreId} {body : SessionId → Nest κ β} {next : Except Fault β → Nest κ α}
      {env : Environment κ} {e : Entry κ}
      (h : Enters (next (env.execute store fun session at_ => (body session).run at_).1)
        (env.execute store fun session at_ => (body session).run at_).2 e) :
      Enters (.execute store body next) env e

variable {α : Type} {tree : Nest κ α} {env : Environment κ} {e : Entry κ} {s : SessionId} {store d : StoreId}

/-- A run of a tree is a run of acts. -/
theorem leads_run (tree : Nest κ α) (h : env.Reachable) : Leads (fun _ => True) env (tree.run env).2 := by
  induction tree generalizing env with
  | done answer => exact .refl env
  | inspect next ih => exact ih env h
  | execute store body next ihbody ihnext =>
    have first : Leads (fun _ => True) env (env.execute store fun session at_ => (body session).run at_).2 :=
      Leads.execute (fun _ _ => trivial) h fun s at_ hr _ => ihbody s hr
    exact first.trans (ihnext _ (first.reachable h))

theorem reachable_run (tree : Nest κ α) (h : env.Reachable) : (tree.run env).2.Reachable :=
  (tree.leads_run h).reachable h

theorem reachable_execute {body : SessionId → Nest κ α} (h : env.Reachable) :
    (env.execute store fun session at_ => (body session).run at_).2.Reachable :=
  reachable_run (.execute store body .done) h

theorem scoped_run (tree : Nest κ α) (h : env.Reachable) : Scoped env (tree.run env).2 := by
  induction tree generalizing env with
  | done answer => exact .refl env
  | inspect next ih => exact ih env h
  | execute store body next ihbody ihnext =>
    have first : Scoped env (env.execute store fun session at_ => (body session).run at_).2 :=
      .execute h fun s at_ hr => ihbody s hr
    exact first.trans (ihnext _ (reachable_execute h))

theorem scoped_execute {body : SessionId → Nest κ α} (h : env.Reachable) :
    Scoped env (env.execute store fun session at_ => (body session).run at_).2 :=
  scoped_run (.execute store body .done) h

/-- A session that is there when a body ends is there after the execution. -/
theorem opened_execute {body : SessionId → Nest κ α} {start : Environment κ}
    (entered : env.entry store = .ok (s, start)) {x : SessionId} (hx : ((body s).run start).2.Opened x) :
    (env.execute store fun session at_ => (body session).run at_).2.Opened x := by
  rw [(execute_eq entered).2]
  split
  · exact opened_performAll [.leave s store] hx
  · exact hx

namespace Enters

/-- A body is run where the calls before it have led to. -/
theorem caller (h : tree.Enters env e) (hr : env.Reachable) :
    e.caller.Reachable ∧ e.caller.entry e.store = .ok (e.session, e.start) := by
  induction h with
  | inspect _ ih => exact ih hr
  | here entered => exact ⟨hr, entered⟩
  | within entered _ ih => exact ih (hr.entry entered)
  | later _ ih => exact ih (reachable_execute hr)

/-- A session that is current before is current whenever a body is run. -/
theorem current? (h : tree.Enters env e) (hr : env.Reachable) (hs : env.current? d = some s) :
    e.caller.current? d = some s := by
  induction h with
  | inspect _ ih => exact ih hr hs
  | here entered => exact hs
  | @within _ _ store _ _ env start _ _ entered _ ih =>
    refine ih (hr.entry entered) ?_
    obtain ⟨-, rfl⟩ | ⟨unbound, -⟩ := entry_cases entered
    · exact hs
    · obtain ⟨-, opened, -⟩ := Within.of_entry hr unbound entered
      have hne : d ≠ store := by
        rintro rfl
        rw [unbound] at hs
        cases hs
      rw [opened.current?_of_ne hne, hs]
  | later _ ih =>
    exact ih (reachable_execute hr) ((scoped_execute hr).current?.trans hs)

theorem opened_caller (h : tree.Enters env e) (hr : env.Reachable) (hs : env.Opened s) : e.caller.Opened s := by
  induction h with
  | inspect _ ih => exact ih hr hs
  | here entered => exact hs
  | within entered _ ih => exact ih (hr.entry entered) (hr.opened_entry entered hs)
  | later _ ih => exact ih (reachable_execute hr) ((scoped_execute hr).opened hs)

/-- Sessions that a body finds are there after the run of the tree. -/
theorem opened_run (h : tree.Enters env e) (hr : env.Reachable) (hs : e.start.Opened s) : (tree.run env).2.Opened s := by
  induction h with
  | inspect _ ih => exact ih hr hs
  | @here _ _ _ body _ _ _ session entered =>
    have ran := ((body session).scoped_run (hr.entry entered)).opened hs
    exact (scoped_run _ (reachable_execute hr)).opened (opened_execute entered ran)
  | within entered _ ih =>
    have ran := ih (hr.entry entered) hs
    exact (scoped_run _ (reachable_execute hr)).opened (opened_execute entered ran)
  | later _ ih => exact ih (reachable_execute hr) hs

/-- The session of a body is current for its datastore when the body starts. -/
theorem current?_start (h : tree.Enters env e) (hr : env.Reachable) : e.start.current? e.store = some e.session := by
  obtain ⟨reachable, entered⟩ := h.caller hr
  rcases entry_cases entered with ⟨bound, same⟩ | ⟨unbound, -⟩
  · rw [same, bound]
  · obtain ⟨same, within, -⟩ := Within.of_entry reachable unbound entered
    rw [same, within.current?]

/-- A body for a datastore with a current session runs in that session. -/
theorem joins (h : tree.Enters env e) (hr : env.Reachable) (hs : e.caller.current? e.store = some s) :
    e.session = s ∧ e.start = e.caller := by
  rcases entry_cases (h.caller hr).2 with ⟨bound, same⟩ | ⟨unbound, -⟩
  · exact ⟨Option.some.inj (bound.symm.trans hs), same⟩
  · rw [unbound] at hs
    cases hs

end Enters

/-- What holds of all bodies that are run in a tree of executions, and of what the run leaves. -/
structure Scopes (tree : Nest κ α) (env : Environment κ) : Prop where
  /-- A session that is bound before is the one that each body for its datastore gets. -/
  before : ∀ e, tree.Enters env e → ∀ s, env.current? e.store = some s → e.session = s ∧ e.start = e.caller
  /-- A session of a body is the one that each body in it for the same datastore gets. -/
  enclosed : ∀ e, tree.Enters env e → ∀ inner, e.body.Enters e.start inner → inner.store = e.store →
    inner.session = e.session ∧ inner.start = inner.caller
  joined : ∀ e, tree.Enters env e → ∀ s, e.caller.current? e.store = some s → e.session = s ∧ e.start = e.caller
  /-- Where no session is current, a body gets a new one, which is the only one bound. -/
  opened : ∀ e, tree.Enters env e → e.caller.current? e.store = none →
    (¬e.caller.Opened e.session ∧ ¬env.Opened e.session ∧ (tree.run env).2.Opened e.session) ∧
    e.start.sessions = e.caller.sessions ++ [{ id := e.session, store := e.store }] ∧
    e.start.holder? e.store = some (Holder.ofSession e.session)
  /-- What is bound when a body starts is bound when it ends, and current for all calls between. -/
  lasting : ∀ e, tree.Enters env e → (e.body.run e.start).2.registry.holders = e.start.registry.holders ∧
    ∀ inner, e.body.Enters e.start inner → inner.caller.current? e.store = some e.session
  holders : (tree.run env).2.registry.holders = env.registry.holders
  kept : ∀ s, env.Opened s → (tree.run env).2.session? s = env.session? s
  /-- Each session that was opened was closed once, or waits once in the window of its datastore. -/
  settled : ∀ s, ¬env.Opened s → (tree.run env).2.Opened s → ∃ d, (tree.run env).2.storeOf? s = some d ∧
    ((tree.run env).2.pending? d = none → (tree.run env).2.closes s = 1) ∧
    ∀ pending, (tree.run env).2.pending? d = some pending →
      (tree.run env).2.closes s = 0 ∧ pending.count s = 1
  windows : ∀ d, (tree.run env).2.isDeferring d = env.isDeferring d
  /-- An execution returns what its body returns, or the fault of a connection and then leaves all as it was. -/
  returned : ∀ (β : Type) (store : StoreId) (body : SessionId → Environment κ → Except Fault β × Environment κ),
    (∀ s start, env.entry store = .ok (s, start) → (env.execute store body).1 = (body s start).1) ∧
    ∀ fault failed, env.current? store = none → env.connect store = (.error fault, failed) →
      env.execute store body = (.error fault, env)

/-- Whatever executions are started within each other, and whichever of them fail, started in any reachable
environment. -/
theorem scopes_run (tree : Nest κ α) (h : env.Reachable) : tree.Scopes env where
  before e he s hs := he.joins h (he.current? h hs)
  enclosed e he inner hinner same := by
    have reachable := (he.caller h).1.entry (he.caller h).2
    refine hinner.joins reachable ?_
    rw [same]
    exact hinner.current? reachable (he.current?_start h)
  joined e he s hs := he.joins h hs
  opened e he unbound := by
    obtain ⟨reachable, entered⟩ := he.caller h
    obtain ⟨same, within, sessions⟩ := Within.of_entry reachable unbound entered
    have new : ¬e.caller.Opened e.session := same ▸ reachable.wellFormed.numbered.not_opened_fresh
    have first : e.start.Opened e.session := by
      rw [same]
      exact opened_of_sessions sessions
    refine ⟨⟨new, fun hs => new (he.opened_caller h hs), he.opened_run h first⟩, ?_⟩
    rw [same]
    exact ⟨sessions, within.holder?⟩
  lasting e he := by
    have reachable := (he.caller h).1.entry (he.caller h).2
    exact ⟨(scoped_run e.body reachable).holders, fun inner hinner => hinner.current? reachable (he.current?_start h)⟩
  holders := (tree.scoped_run h).holders
  kept := (tree.scoped_run h).kept
  settled s hnot hs := by
    obtain ⟨d, hstore, hgiven⟩ := (tree.scoped_run h).settled s hnot hs
    refine ⟨d, hstore, ?_⟩
    rcases hgiven with ⟨shut, once⟩ | ⟨pending, waits, hmem, none⟩
    · rw [shut]
      exact ⟨fun _ => once, nofun⟩
    · rw [waits]
      refine ⟨nofun, fun waiting same => ?_⟩
      cases same
      exact ⟨none, by rw [((tree.reachable_run h).tidy.nodup_pending waits).count, if_pos hmem]⟩
  windows := (tree.scoped_run h).waiting.isDeferring
  returned β store body := by
    refine ⟨fun s start entered => (execute_eq entered).1, fun fault failed unbound refused => ?_⟩
    obtain ⟨fault', hc⟩ | ⟨opened, hc, -, -⟩ := connect_cases store env
    · cases hc.symm.trans refused
      exact execute_of_refused unbound refused
    · cases hc.symm.trans refused

/-- Two executions within each other for one datastore share a session, and in the inner one a failing execution for
another datastore is followed by one that succeeds: their sessions wait in the window that is open there. -/
theorem scopes_of_nested :
    let env : Environment Unit := (withStores 2).performAll [.openDeferral ⟨2⟩]
    let inner (answer : Except Fault Unit) : Nest Unit Unit := .execute ⟨2⟩ (fun _ => .done answer) .done
    let tree : Nest Unit Unit := .execute ⟨1⟩ (fun _ =>
      .execute ⟨1⟩ (fun _ => inner (.error (.session (.unknown ⟨7⟩)))) fun _ => inner (.ok ())) .done
    (tree.run env).2.registry.holders = [] ∧ (tree.run env).2.closes ⟨1⟩ = 1 ∧
      (tree.run env).2.pending? ⟨2⟩ = some [⟨2⟩, ⟨3⟩] ∧ (tree.run env).2.closes ⟨3⟩ = 0 := by
  intro env inner tree
  have reachable : env.Reachable := reachable_withStores 2 (by decide)
  have scopes := scopes_run tree reachable
  obtain ⟨d, home, closed⟩ := scopes.settled ⟨1⟩ (by unfold Opened; decide) (by unfold Opened; decide)
  obtain ⟨e, home', waits⟩ := scopes.settled ⟨3⟩ (by unfold Opened; decide) (by unfold Opened; decide)
  obtain rfl : ⟨1⟩ = d := Option.some.inj ((by decide : some ⟨1⟩ = _).trans home)
  obtain rfl : ⟨2⟩ = e := Option.some.inj ((by decide : some ⟨2⟩ = _).trans home')
  have waiting : (tree.run env).2.pending? ⟨2⟩ = some [⟨2⟩, ⟨3⟩] := by decide
  have shut : (tree.run env).2.pending? ⟨1⟩ = none := by decide
  have free : env.registry.holders = [] := rfl
  have left := scopes.holders.trans free
  have once := closed.1 shut
  have unserved := (waits.2 _ waiting).1
  exact ⟨left, once, waiting, unserved⟩

end Nest
end Persistence
