import Mathlib.Data.List.Induction
import Persistence.Metamodel.Workspace
import Persistence.Proofs.Metamodel.Mirroring

/-! Contexts that share caches of reflectors. Whatever they are asked for in whatever order, each of them comes to the
    same entities as it would with a cache of its own, and the accessors of these are the same. What a shared cache
    does pass on from one context to another is how proxies are handled; so an access comes to what it would alone just
    if both handlings make it at the same object, or if it makes no difference to it at which of the two. -/

namespace Persistence

namespace Workspace

variable {ws : Workspace} {id n : Nat} {p : Place} {name : String}

/-! ### Places and caches -/

theorem place?_updateContext (f : Context → Context) : (ws.updateContext id f).place? n =
    (ws.place? n).map fun p => if n = id then { p with context := f p.context } else p := by
  unfold updateContext place?
  rw [List.find?_map]
  have same : ((fun p : Place => p.id == n) ∘ fun p => if p.id == id then { p with context := f p.context } else p) =
      fun p => p.id == n := by
    funext p
    dsimp only [Function.comp_apply]
    split <;> rfl
  rw [same]
  cases h : ws.places.find? (·.id == n) with
  | none => rfl
  | some p =>
    have hid : p.id = n := by simpa using List.find?_some h
    rw [Option.map_some, Option.map_some, hid]
    simp only [beq_iff_eq]

theorem place?_updateCache (f : ReflectorCache → ReflectorCache) : (ws.updateCache id f).place? n = ws.place? n := by
  unfold updateCache
  split <;> rfl

theorem cache_updateCache (h : ws.place? id = some p) (f : ReflectorCache → ReflectorCache) :
    (ws.updateCache id f).cache name = if name = p.cache then f (ws.cache p.cache) else ws.cache name := by
  unfold updateCache
  rw [h]
  unfold cache
  dsimp only
  rw [Keyed.get?_put]
  split <;> rfl

/-- The site at which a context of the workspace is asked. -/
def siteAt (ws : Workspace) (p : Place) : Site := { context := p.context, cache := ws.cache p.cache }

section Run
variable {α : Type} (x : Action α)

theorem place?_run (h : ws.place? id = some p) : (ws.run id x).2.2.place? n =
    (ws.place? n).map fun q => if n = id then { q with context := ((ws.siteAt p).run x).2.context } else q := by
  unfold run
  rw [h]
  dsimp only
  rw [place?_updateCache, place?_updateContext]
  rfl

theorem cache_run (h : ws.place? id = some p) : (ws.run id x).2.2.cache name =
    if name = p.cache then ((ws.siteAt p).run x).2.cache else ws.cache name := by
  unfold run
  rw [h]
  dsimp only
  have found : (ws.updateContext id fun _ => ((ws.siteAt p).run x).2.context).place? id =
      some { p with context := ((ws.siteAt p).run x).2.context } := by
    rw [place?_updateContext, h, Option.map_some, if_pos rfl]
  exact cache_updateCache found _

theorem run_closed (h : ws.place? id = none) : (ws.run id x).2.2 = ws := by
  unfold run
  rw [h]

end Run

/-! ### Calls on several contexts -/

/-- Contexts to which nothing has been done, and no cache. -/
structure Fresh (ws : Workspace) : Prop where
  caches : ws.caches = []
  classless : ∀ id p, ws.place? id = some p → p.context.classes = []
  empty : ∀ id p, ws.place? id = some p → p.context.entities = []

/-- Performs calls one after the other, each of them on the context of an identity. -/
def perform (ws : Workspace) (steps : List (Nat × Call)) : Workspace :=
  steps.foldl (fun ws step => (ws.run step.1 step.2.perform).2.2) ws

/-- The calls on one of the contexts. -/
def callsOn (id : Nat) (steps : List (Nat × Call)) : List Call :=
  (steps.filter (·.1 == id)).map (·.2)

/-- A class that is brought along by a call. -/
def Brought (steps : List (Nat × Call)) (cls : Class) : Prop := ∃ step ∈ steps, step.2.brought? = some cls

theorem toldApart_of_one {steps : List (Nat × Call)} (cls : Class)
    (one : ∀ step ∈ steps, ∀ other, step.2.brought? = some other → other = cls) : ToldApart (Brought steps) := by
  rintro _ _ ⟨step, hstep, h⟩ ⟨step', hstep', h'⟩ -
  exact (one step hstep _ h).trans (one step' hstep' _ h').symm

/-- A handling of proxies by a context that uses the cache of a name. -/
def HandledAt (ws : Workspace) (cache : String) (handling : ProxyHandling) : Prop :=
  ∃ id p, ws.place? id = some p ∧ p.cache = cache ∧ p.context.handling = handling

end Workspace

/-- Where calls lead to on a context that has a cache of its own. -/
def Place.alone (p : Place) (calls : List Call) : Site :=
  calls.foldl (fun σ call => (σ.run call.perform).2) { context := p.context }

namespace Workspace

variable {start ws : Workspace} {described : Class → Prop} {done : List (Nat × Call)}

/-- Every context of a workspace stands beside the same context alone, after the same calls. -/
structure Shares (described : Class → Prop) (start : Workspace) (done : List (Nat × Call)) (ws : Workspace) :
    Prop where
  closed : ∀ id, start.place? id = none → ws.place? id = none
  beside : ∀ id p, start.place? id = some p → ∃ q, ws.place? id = some q ∧ q.cache = p.cache ∧
    (ws.siteAt q).Beside described (start.HandledAt p.cache) (· = p.context.handling) (p.alone (callsOn id done))

theorem Fresh.of_places {places : List Place}
    (blank : ∀ p ∈ places, p.context.classes = [] ∧ p.context.entities = []) : Fresh { places } where
  caches := rfl
  classless _ p hp := (blank p (List.mem_of_find?_eq_some hp)).1
  empty _ p hp := (blank p (List.mem_of_find?_eq_some hp)).2

theorem Fresh.shares (fresh : ws.Fresh) (described : Class → Prop) : Shares described ws [] ws where
  closed _ h := h
  beside id p hp := by
    have blank : ∀ name, ws.cache name = {} := by
      intro name
      unfold cache
      rw [fresh.caches]
      rfl
    have unknown : ∀ name cls, p.context.classes.get? name = some cls → described cls := by
      rw [fresh.classless id p hp]
      exact fun _ _ h => by cases h
    have unready : ∀ handled : ProxyHandling → Prop, ∀ e ∈ p.context.entities, ∀ r, e.reflector = .ok r →
        handled r.handling := by
      rw [fresh.empty id p hp]
      exact fun _ _ h => absurd h List.not_mem_nil
    refine ⟨p, hp, rfl, ⟨⟨id, p, hp, rfl, rfl⟩, unknown, unready _, ?_⟩,
      ⟨rfl, unknown, unready (· = p.context.handling), fun _ _ h => by cases h⟩, rfl⟩
    unfold siteAt
    rw [blank]
    exact fun _ _ h => by cases h

theorem callsOn_append (id : Nat) (done : List (Nat × Call)) (step : Nat × Call) :
    callsOn id (done ++ [step]) = if step.1 = id then callsOn id done ++ [step.2] else callsOn id done := by
  unfold callsOn
  rw [List.filter_append, List.map_append, List.filter_cons, List.filter_nil]
  by_cases same : step.1 = id
  · rw [if_pos same, if_pos (beq_iff_eq.mpr same), List.map_singleton]
  · rw [if_neg same, if_neg fun h => same (beq_iff_eq.mp h), List.map_nil, List.append_nil]

/-- A call does to its context what it does to the same context alone, and to the others nothing but that their cache
may have more entries. -/
theorem Shares.step (told : ToldApart described) (shares : Shares described start done ws) (step : Nat × Call)
    (brought : ∀ cls, step.2.brought? = some cls → described cls) :
    Shares described start (done ++ [step]) (ws.run step.1 step.2.perform).2.2 := by
  obtain ⟨id, call⟩ := step
  cases hid : start.place? id with
  | none =>
    rw [run_closed _ (shares.closed id hid)]
    refine ⟨shares.closed, fun n p hp => ?_⟩
    have ne : id ≠ n := by
      rintro rfl
      cases hid.symm.trans hp
    rw [callsOn_append, if_neg ne]
    exact shares.beside n p hp
  | some p =>
    obtain ⟨q, hq, hcache, sites⟩ := shares.beside id p hid
    obtain ⟨-, after⟩ := call.mirrors_perform told brought _ _ sites
    refine ⟨fun n hn => ?_, fun n p' hp' => ?_⟩
    · rw [place?_run _ hq, shares.closed n hn]
      rfl
    · obtain ⟨q', hq', hcache', sites'⟩ := shares.beside n p' hp'
      rw [place?_run _ hq, hq', Option.map_some, callsOn_append]
      by_cases same : n = id
      · subst same
        cases hid.symm.trans hp'
        cases hq.symm.trans hq'
        rw [if_pos rfl, if_pos rfl]
        refine ⟨_, rfl, hcache, ?_⟩
        have alone : p.alone (callsOn n done ++ [call]) = ((p.alone (callsOn n done)).run call.perform).2 :=
          List.foldl_concat ..
        unfold siteAt
        dsimp only
        rw [cache_run _ hq, if_pos rfl, alone]
        exact after.report [] _
      · rw [if_neg same, if_neg (Ne.symm same)]
        refine ⟨q', rfl, hcache', sites'.withCache ?_⟩
        rw [cache_run _ hq]
        split
        next shared =>
          -- The two contexts use one cache, and so the handlings that are in use at it are the same.
          rw [← hcache', shared, hcache]
          exact after.left.cache
        next apart => exact sites'.left.cache

theorem Shares.perform (told : ToldApart described) (fresh : ws.Fresh) (steps : List (Nat × Call))
    (brought : ∀ cls, Brought steps cls → described cls) : Shares described ws steps (ws.perform steps) := by
  induction steps using List.reverseRecOn with
  | nil => exact fresh.shares described
  | append_singleton steps step ih =>
    have before := ih fun cls ⟨earlier, member, h⟩ => brought cls ⟨earlier, List.mem_append_left _ member, h⟩
    have performed : ws.perform (steps ++ [step]) = ((ws.perform steps).run step.1 step.2.perform).2.2 :=
      List.foldl_concat ..
    rw [performed]
    exact before.step told step fun cls h => brought cls ⟨step, List.mem_append_right _ List.mem_cons_self, h⟩

/-- After any calls on any contexts a context is what it would be with a cache of its own, but for how proxies are
handled; and an entity comes to in an access what it would come to then just if the handling of the context whose
reflector it has makes the access at the same object, or if it makes no difference to the access at which of the two
objects it is made. -/
theorem perform_behaves_iff {ws : Workspace} {steps : List (Nat × Call)} {id : Nat} {p : Place} (fresh : ws.Fresh)
    (told : ToldApart (Brought steps)) (hp : ws.place? id = some p) :
    ∃ q, (ws.perform steps).place? id = some q ∧ q.context.bare = (p.alone (callsOn id steps)).context.bare ∧
      ∀ name e r, q.context.entity? name = some e → e.reflector = .ok r →
        ∃ e' r', (p.alone (callsOn id steps)).context.entity? name = some e' ∧ e'.reflector = .ok r' ∧
          ws.HandledAt p.cache r.handling ∧ r'.handling = p.context.handling ∧ r.bare = r'.bare ∧
          ∀ obj a, r.access obj a = r'.access obj a ↔
            r.handling.steps a obj = p.context.handling.steps a obj ∨
            Instance.Indifferent (fun target => r'.bare.access target a) (obj.along (r.handling.steps a obj))
              (obj.along (p.context.handling.steps a obj)) := by
  obtain ⟨q, hq, -, sites⟩ := (Shares.perform told fresh steps fun _ h => h).beside id p hp
  refine ⟨q, hq, sites.bare, fun name e r he hr => ?_⟩
  have found : (q.context.entity? name).map Entity.bare =
      ((p.alone (callsOn id steps)).context.entity? name).map Entity.bare := sites.entity? name
  rw [he] at found
  obtain ⟨e', he', bare⟩ := Option.map_eq_some_iff.mp found.symm
  have reflectors := e'.reflector_bare
  rw [bare, e.reflector_bare, hr] at reflectors
  obtain ⟨r', hr', same⟩ := map_eq_ok.mp reflectors.symm
  have handling : r'.handling = p.context.handling :=
    sites.right.reflectors e' (Context.mem_of_entity? he') r' hr'
  have handled : ws.HandledAt p.cache r.handling := sites.left.reflectors e (Context.mem_of_entity? he) r hr
  refine ⟨e', r', he', hr', handled, handling, same.symm, fun obj a => ?_⟩
  rw [← handling]
  exact Reflector.access_eq_iff same.symm obj a

/-- Of two contexts that share a cache and handle proxies differently the second one gets the reflector of the first
one. At an object that is no proxy that makes no difference, whatever the access. -/
theorem perform_behaves_plain :
    let cls : Class := { stamp := 1, name := "A", isEntity := true, fields := [{ name := "id", type := .long }] }
    let first : Place := { id := 0, cache := "c", context := { handling := .direct } }
    let second : Place := { id := 1, cache := "c", context := {} }
    let ws : Workspace := { places := [first, second] }
    let steps := [(0, Call.add cls), (1, Call.add cls)]
    ((ws.perform steps).cache "c").builds = 1 ∧
      ∃ (q : Place) (e e' : Entity) (r r' : Reflector), (ws.perform steps).place? 1 = some q ∧
        q.context.entity? "A" = some e ∧ e.reflector = .ok r ∧
        (second.alone [.add cls]).context.entity? "A" = some e' ∧ e'.reflector = .ok r' ∧ r.bare = r'.bare ∧
        ∀ cls slots a, r.access (.plain cls slots) a = r'.access (.plain cls slots) a := by
  intro cls first second ws steps
  have once : ((ws.perform steps).cache "c").builds = 1 := by decide
  have ready : (((ws.perform steps).place? 1).bind fun q => (q.context.entity? "A").bind fun e =>
      e.reflector.toOption.map Reflector.names) = some [] := by decide
  have told : ToldApart (Brought steps) := toldApart_of_one cls (by simp [steps, Call.brought?])
  have fresh : ws.Fresh := .of_places (by simp [first, second])
  obtain ⟨q, hq, -, behaves⟩ := perform_behaves_iff fresh told (show ws.place? 1 = some second from rfl)
  rw [hq, Option.bind_some] at ready
  obtain ⟨e, he, ready⟩ := Option.bind_eq_some_iff.mp ready
  obtain ⟨r, hr, -⟩ := Option.map_eq_some_iff.mp ready
  have hr : e.reflector = .ok r := toOption_eq_some.mp hr
  obtain ⟨e', r', he', hr', -, -, bare, alike⟩ := behaves "A" e r he hr
  refine ⟨once, q, e, e', r, r', hq, he, hr, he', hr', bare, fun cls slots a => (alike _ a).mpr (Or.inl ?_)⟩
  -- There is only one place at which an access to an object that is no proxy can be made.
  exact Fin.ext ((Nat.lt_one_iff.mp (Fin.isLt _)).trans (Nat.lt_one_iff.mp (Fin.isLt _)).symm)

/-- An object with an identifier stands behind a proxy. The second context would go through the proxy to read it, but
it has the reflector of the first one, which does not. -/
theorem not_perform_behaves :
    ¬∀ (ws : Workspace) (steps : List (Nat × Call)) (id : Nat) (p q : Place) (name : String) (e e' : Entity)
      (r r' : Reflector), ws.Fresh → ToldApart (Brought steps) → ws.place? id = some p →
      (ws.perform steps).place? id = some q → q.context.entity? name = some e → e.reflector = .ok r →
      (p.alone (callsOn id steps)).context.entity? name = some e' → e'.reflector = .ok r' →
      ∀ obj a, r.access obj a = r'.access obj a := by
  intro claim
  let cls : Class := { stamp := 1, name := "A", isEntity := true, fields := [{ name := "id", type := .long }] }
  let first : Place := { id := 0, cache := "c", context := { handling := .direct } }
  let second : Place := { id := 1, cache := "c", context := {} }
  let ws : Workspace := { places := [first, second] }
  let steps := [(0, Call.add cls), (1, Call.add cls)]
  let obj : Instance := .proxied (.plain cls [("id", .integer 7)])
  let null (r : Reflector) : Option Bool := (r.getIdentifier obj).toOption.map Value.isNull
  have shared : (((ws.perform steps).place? 1).bind fun q => (q.context.entity? "A").bind fun e =>
      e.reflector.toOption.map null) = some (some true) := by decide
  have lone : (((second.alone (callsOn 1 steps)).context.entity? "A").bind fun e =>
      e.reflector.toOption.map null) = some (some false) := by decide
  obtain ⟨q, hq, shared⟩ := Option.bind_eq_some_iff.mp shared
  obtain ⟨e, he, shared⟩ := Option.bind_eq_some_iff.mp shared
  obtain ⟨r, hr, found⟩ := Option.map_eq_some_iff.mp shared
  obtain ⟨e', he', lone⟩ := Option.bind_eq_some_iff.mp lone
  obtain ⟨r', hr', found'⟩ := Option.map_eq_some_iff.mp lone
  have told : ToldApart (Brought steps) := toldApart_of_one cls (by simp [steps, Call.brought?])
  have fresh : ws.Fresh := .of_places (by simp [first, second])
  have same := claim ws steps 1 second q "A" e e' r r' fresh told rfl hq he (toOption_eq_some.mp hr) he'
    (toOption_eq_some.mp hr') obj .identifier
  have read : r.getIdentifier obj = r'.getIdentifier obj := AccessAnswer.value.inj (Prod.mk.inj same).1
  have contradiction : null r = null r' := congrArg (fun found => found.toOption.map Value.isNull) read
  rw [found, found'] at contradiction
  cases contradiction

end Workspace
end Persistence
