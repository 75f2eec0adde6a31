import Persistence.Proofs.Metamodel.Assurance
import Persistence.Proofs.Metamodel.Retry
import Persistence.Proofs.Metamodel.Sharing

/-! What the reflectors of all entities have in common. If the entries of caches are of a kind, and what they serve for or
    are compiled for always gets a reflector that suits it, then every entity that has its model has one with such a
    reflector, in whatever contexts are opened and closed, whatever is asked of them and whatever caches they share. -/

namespace Persistence

/-! ### Entries of caches -/

/-- Entries of a kind give described classes nothing but reflectors that suit their hierarchy and its layout, and what is
compiled for them makes another entry of the kind. -/
structure Supply (described : Class → Prop) (kind : CachedReflector → Prop)
    (suits : List Class → Layout → Reflector → Prop) : Prop where
  served : ∀ {cached hierarchy layout}, kind cached → (∀ cls ∈ hierarchy, described cls) →
    (∀ p ∈ layout.properties ++ layout.identity.members, p.Fits hierarchy) →
    cached.serves hierarchy layout.properties layout.identity = true → suits hierarchy layout cached.reflector
  compiled : ∀ {number hierarchy layout handling r}, (∀ cls ∈ hierarchy, described cls) →
    (∀ p ∈ layout.properties ++ layout.identity.members, p.Fits hierarchy) →
    Reflector.compile number hierarchy layout.properties layout.identity handling = .ok r →
    suits hierarchy layout r ∧ kind ⟨hierarchy.map (·.stamp), r⟩

/-- All entries are of a kind. -/
def ReflectorCache.All (kind : CachedReflector → Prop) (cache : ReflectorCache) : Prop :=
  ∀ name cached, cache.entries.get? name = some cached → kind cached

section Supply
variable {described : Class → Prop} {kind : CachedReflector → Prop} {suits : List Class → Layout → Reflector → Prop}

namespace ReflectorCache.All

variable {cache : ReflectorCache} {hierarchy : List Class} {layout : Layout}

theorem clear (cache : ReflectorCache) : cache.clear.All kind := fun _ _ found => by cases found

theorem remove (h : cache.All kind) (entity : String) : (cache.remove entity).2.All kind := by
  intro name cached found
  by_cases same : name = entity
  · subst same
    simp [ReflectorCache.remove] at found
  · rw [ReflectorCache.remove, Keyed.get?_erase_of_ne _ same] at found
    exact h name cached found

theorem publish {r : Reflector} (h : cache.All kind) (new : kind ⟨hierarchy.map (·.stamp), r⟩) :
    (cache.publish hierarchy r).All kind := by
  intro name cached found
  rw [ReflectorCache.publish, Keyed.get?_put] at found
  split at found
  · cases found
    exact new
  · exact h name cached found

/-- Reflectors that are given out are suitable, whether they are published already or compiled now. -/
theorem getOrCompile (supply : Supply described kind suits) (h : cache.All kind)
    (classes : ∀ cls ∈ hierarchy, described cls)
    (fits : ∀ p ∈ layout.properties ++ layout.identity.members, p.Fits hierarchy) (handling : ProxyHandling) :
    Assured (suits hierarchy layout) (fun _ => True)
        (cache.getOrCompile hierarchy layout.properties layout.identity handling).1 ∧
      (cache.getOrCompile hierarchy layout.properties layout.identity handling).2.1.All kind := by
  unfold ReflectorCache.getOrCompile
  split
  next r serving =>
    obtain ⟨name, cached, found, serves, rfl⟩ := serving?_eq_some serving
    exact ⟨supply.served (h name cached found) classes fits serves, h⟩
  · dsimp only
    split
    next r compiled =>
      obtain ⟨suited, new⟩ := supply.compiled classes fits compiled
      exact ⟨suited, h.publish new⟩
    · exact ⟨trivial, h⟩

end ReflectorCache.All

/-! ### Models of a context -/

/-- A model that a context builds for a class, with a reflector that suits the hierarchy of described classes that the
class has there. -/
structure EntityModel.Suited (described : Class → Prop) (suits : List Class → Layout → Reflector → Prop)
    (model : EntityModel) (origin : Context) (cls : Class) : Prop where
  built : model.Built origin cls
  keyed : ∀ n found, origin.classes.get? n = some found → found.name = n
  reflector : ∃ hierarchy, origin.hierarchy cls.name = .ok hierarchy ∧ (∀ cls ∈ hierarchy, described cls) ∧
    suits hierarchy model.layout model.reflector

/-- The classes of a context are described and stand under their names, and its models are suited to what it was when they
were built: a context of the same settings and the same strategy. -/
structure Context.Suited (described : Class → Prop) (suits : List Class → Layout → Reflector → Prop) (ctx : Context) :
    Prop where
  keyed : ∀ n cls, ctx.classes.get? n = some cls → cls.name = n
  classes : ∀ name cls, ctx.classes.get? name = some cls → described cls
  models : ∀ name e model, ctx.entity? name = some e → e.phase = .ready model → ∃ origin : Context,
    origin.settings = ctx.settings ∧ origin.strategy = ctx.strategy ∧ model.Suited described suits origin e.cls

namespace Context.Suited

variable {ctx : Context} {name : String} {phase : Phase}

theorem register (h : ctx.Suited described suits) {cls : Class} (hcls : described cls) :
    (ctx.register cls).Suited described suits where
  keyed := keyed_register h.keyed cls
  classes name cls' found := by
    rw [Context.register, Keyed.get?_put] at found
    split at found
    · cases found
      exact hcls
    · exact h.classes name cls' found
  models := h.models

theorem enroll (h : ctx.Suited described suits) (cls : Class) : (ctx.enroll cls).Suited described suits where
  keyed := h.keyed
  classes := h.classes
  models := by
    intro n e model he ready
    rw [entity?_enroll] at he
    rcases Option.or_eq_some_iff.mp he with he | ⟨-, he⟩
    · exact h.models n e model he ready
    · split at he
      · cases he
        cases ready
      · cases he

theorem setPhase (h : ctx.Suited described suits)
    (new : ∀ e model, ctx.entity? name = some e → phase = .ready model → ∃ origin : Context,
      origin.settings = ctx.settings ∧ origin.strategy = ctx.strategy ∧ model.Suited described suits origin e.cls) :
    (ctx.setPhase name phase).Suited described suits where
  keyed := h.keyed
  classes := h.classes
  models := by
    intro n e model he ready
    rw [entity?_setPhase] at he
    split at he
    next same =>
      obtain ⟨x, hx, rfl⟩ := Option.map_eq_some_iff.mp he
      subst same
      exact new x model hx ready
    · exact h.models n e model he ready

theorem setModelless (h : ctx.Suited described suits) (modelless : ∀ model, phase ≠ .ready model) :
    (ctx.setPhase name phase).Suited described suits :=
  h.setPhase fun _ model _ ready => absurd ready (modelless model)

/-- The classes that a context finds for a name are described, wherever they are the same. -/
theorem described_hierarchy (h : ctx.Suited described suits) {hierarchy : List Class}
    (found : ctx.hierarchy name = .ok hierarchy) : ∀ cls ∈ hierarchy, described cls := by
  have honest : Site.Honest described (fun _ => True) { context := ctx } :=
    ⟨trivial, h.classes, fun _ _ _ _ => trivial, fun _ _ found => by cases found⟩
  exact honest.described_hierarchy found

end Context.Suited

/-- A suited context with a cache of the kind. -/
structure Site.Suited (described : Class → Prop) (kind : CachedReflector → Prop)
    (suits : List Class → Layout → Reflector → Prop) (σ : Site) : Prop where
  context : σ.context.Suited described suits
  cache : σ.cache.All kind

namespace Action

variable {α β : Type}

/-- An action that leaves a suited site wherever it finds one. -/
abbrev IsSuited (described : Class → Prop) (kind : CachedReflector → Prop)
    (suits : List Class → Layout → Reflector → Prop) (x : Action α) : Prop :=
  Assures (Site.Suited described kind suits) (fun _ => True) (fun _ => True) x

namespace IsSuited

theorem bind {x : Action α} {f : α → Action β} (hx : IsSuited described kind suits x)
    (hf : ∀ a, IsSuited described kind suits (f a)) : IsSuited described kind suits (x >>= f) :=
  Assures.bind hx fun a _ => hf a

theorem tryAsk (question : Context → Except Fault α) : IsSuited described kind suits (Action.tryAsk question) :=
  Assures.tryAsk fun σ _ => by cases question σ.context <;> trivial

theorem register {cls : Class} (hcls : described cls) : IsSuited described kind suits (change (·.register cls)) :=
  fun _ h => ⟨trivial, h.context.register hcls, h.cache⟩

theorem enroll (name : String) : IsSuited described kind suits (Action.enroll name) := by
  have enrolling (cls : Class) : IsSuited described kind suits (change (·.enroll cls)) :=
    fun _ h => ⟨trivial, h.context.enroll cls, h.cache⟩
  unfold Action.enroll
  refine IsSuited.bind (Assures.ask _) fun found => ?_
  split
  · refine (IsSuited.tryAsk _).bind fun cls => IsSuited.bind (Assures.ask _) fun strategy => ?_
    dsimp only
    split
    · exact enrolling cls
    · exact (Assures.throw (Q := fun _ => True) trivial).bind fun _ _ => enrolling cls
  · exact Assures.pure trivial

end IsSuited

variable {add : String → Action Unit} {σ : Site}

theorem populate_suited (supply : Supply described kind suits) (steady : ∀ name, IsSteady (add name))
    (hadd : ∀ name, IsSuited described kind suits (add name)) (hσ : σ.Suited described kind suits) (cls : Class) :
    Assured (fun model => model.Suited described suits σ.context cls) (fun _ => True) (σ.run (populate add cls)).1 ∧
      (σ.run (populate add cls)).2.Suited described kind suits := by
  -- Whatever is added on the way, the classes stay those of the site, and so does the hierarchy.
  let I (τ : Site) : Prop := τ.Suited described kind suits ∧ σ.context.Steady τ.context
  let H (hierarchy : List Class) : Prop :=
    σ.context.hierarchy cls.name = .ok hierarchy ∧ ∀ cls ∈ hierarchy, described cls
  have adds (name : String) : Assures I (fun _ => True) (fun _ => True) (add name) := fun τ h =>
    ⟨(hadd name τ h.1).1, (hadd name τ h.1).2, h.2.trans (steady name τ)⟩
  have found (τ : Site) (hierarchy : List Class) (h : I τ) (found : τ.context.hierarchy cls.name = .ok hierarchy) :
      H hierarchy := by
    have size : τ.context.classes.length = σ.context.classes.length := by rw [h.2.classes]
    have found : σ.context.hierarchy cls.name = .ok hierarchy := h.2.agrees.symm.hierarchy_eq_ok (Nat.le_of_eq size) found
    exact ⟨found, hσ.context.described_hierarchy found⟩
  have reflect (hierarchy : List Class) (layout : Layout) (holds : H hierarchy)
      (laid : layout.IsScanned cls hierarchy) :
      Assures I (suits hierarchy layout) (fun _ => True) (reflectorFor hierarchy layout) := by
    rintro τ ⟨suited, kept⟩
    obtain ⟨settings, settings', strategy, laid⟩ := laid
    have fits := Layout.fits_ofScan (fun p hp => Discovery.fits_properties p (List.mem_of_mem_filter hp)) laid
    rw [run_reflectorFor]
    obtain ⟨given, cached⟩ := suited.cache.getOrCompile supply holds.2 fits τ.context.handling
    exact ⟨given, ⟨suited.context, cached⟩, kept⟩
  have reports (lines : List Diagnostic) : Assures I (fun _ => True) (fun _ => True) (report lines) :=
    fun τ h => ⟨trivial, ⟨h.1.context, h.1.cache⟩, h.2⟩
  have populated := Assures.populate (fun _ _ => trivial) adds reports cls found reflect σ ⟨hσ, .refl _⟩
  refine ⟨?_, populated.2.1⟩
  rcases hrun : σ.run (populate add cls) with ⟨answer, ρ⟩
  rw [hrun] at populated
  cases answer with
  | error fault => trivial
  | ok model =>
    obtain ⟨hierarchy, ⟨found, classes⟩, suitable⟩ := populated.1
    exact ⟨populate_eq_ok steady hrun, hσ.context.keyed, hierarchy, found, classes, suitable⟩

namespace IsSuited

theorem makeReady (supply : Supply described kind suits) (steady : ∀ name, IsSteady (add name))
    (hadd : ∀ name, IsSuited described kind suits (add name)) (name : String) :
    IsSuited described kind suits (Action.makeReady add name) := by
  intro σ h
  refine ⟨by cases (σ.run (Action.makeReady add name)).1 <;> trivial, ?_⟩
  cases he : σ.context.entity? name with
  | none =>
    rw [run_makeReady_missing add he]
    exact h
  | some e =>
    rw [run_makeReady add he]
    cases hphase : e.phase with
    | ready model => exact h
    | populating => exact h
    | idle =>
      have begun : (populating σ name).Suited described kind suits := ⟨h.context.setModelless (by simp), h.cache⟩
      rcases hrun : (populating σ name).run (populate add e.cls) with ⟨answer, ρ⟩
      have populated := populate_suited supply steady hadd begun e.cls
      rw [hrun] at populated
      obtain ⟨suited, after⟩ := populated
      dsimp only at suited ⊢
      cases answer with
      | error fault => exact ⟨after.context.setModelless (by simp), after.cache⟩
      | ok model =>
        -- The model is built at the site where its entity began to be populated, and that site's settings stay.
        refine ⟨after.context.setPhase ?_, after.cache⟩
        rintro x _ hx ⟨⟩
        have kept := (IsSteady.populate steady e.cls).of_eq hrun
        rw [entity?_of_populate steady he hrun] at hx
        cases hx
        exact ⟨_, kept.settings.symm, kept.strategy.symm, suited⟩

theorem addWithin (supply : Supply described kind suits) (levels : Nat) (name : String) :
    IsSuited described kind suits (Action.addWithin levels name) := by
  induction levels generalizing name with
  | zero => exact Assures.throw trivial
  | succ levels ih =>
    exact (IsSuited.enroll name).bind fun _ => IsSuited.makeReady supply (IsSteady.addWithin levels) ih name

theorem addNamed (supply : Supply described kind suits) (name : String) :
    IsSuited described kind suits (Action.addNamed name) :=
  IsSuited.bind (Assures.ask _) fun levels => (IsSuited.addWithin supply levels name).bind fun _ => IsSuited.tryAsk _

theorem require (supply : Supply described kind suits) (name : String) :
    IsSuited described kind suits (Action.require name) :=
  IsSuited.bind (Assures.ask _) fun levels =>
    (IsSuited.makeReady supply (IsSteady.addWithin levels) (IsSuited.addWithin supply levels) name).bind fun _ =>
      IsSuited.tryAsk _

end IsSuited
end Action

/-- A call that brings along nothing but described classes leaves a suited site. -/
theorem Call.isSuited_perform (supply : Supply described kind suits) (call : Call)
    (brought : ∀ cls, call.brought? = some cls → described cls) :
    Action.IsSuited described kind suits call.perform := by
  have given {x : Action Entity} (hx : Action.IsSuited described kind suits x) :
      Action.IsSuited described kind suits (some <$> x) := by
    rw [map_eq_pure_bind]
    exact hx.bind fun _ => Action.Assures.pure trivial
  cases call with
  | register cls => exact (Action.IsSuited.register (brought cls rfl)).bind fun _ => Action.Assures.pure trivial
  | add cls =>
    exact given ((Action.IsSuited.register (brought cls rfl)).bind fun _ => Action.IsSuited.addNamed supply cls.name)
  | addNamed name => exact given (Action.IsSuited.addNamed supply name)
  | require name => exact given (Action.IsSuited.require supply name)

/-! ### Workspaces -/

namespace Workspace

/-- The workspaces that come about when contexts are opened, each with a cache that others may use too, are called with
described classes and are closed, while entries of the caches are taken out. What is known of held properties has no
part in it. -/
inductive ReachedWith (described : Class → Prop) : Workspace → Prop where
  | start : ReachedWith described {}
  | opened {ws : Workspace} (before : ReachedWith described ws) (id : Nat) (cache : String) (settings : Settings)
    (strategy : Strategy) (handling : ProxyHandling) :
    ReachedWith described (ws.openContext id cache { settings, strategy, handling })
  | closed {ws : Workspace} (before : ReachedWith described ws) (id : Nat) : ReachedWith described (ws.closeContext id)
  | called {ws : Workspace} (before : ReachedWith described ws) (id : Nat) (call : Call)
    (brought : ∀ cls, call.brought? = some cls → described cls) : ReachedWith described (ws.run id call.perform).2.2
  | removed {ws : Workspace} (before : ReachedWith described ws) (id : Nat) (entity : String) :
    ReachedWith described (ws.updateCache id fun cache => (cache.remove entity).2)
  | cleared {ws : Workspace} (before : ReachedWith described ws) (id : Nat) :
    ReachedWith described (ws.updateCache id ReflectorCache.clear)
  | asked {ws : Workspace} (before : ReachedWith described ws) (known : List ((Nat × String × String) × Bool)) :
    ReachedWith described { ws with known }

/-- All contexts are suited, and all caches have entries of the kind. -/
structure Suited (described : Class → Prop) (kind : CachedReflector → Prop)
    (suits : List Class → Layout → Reflector → Prop) (ws : Workspace) : Prop where
  contexts : ∀ p ∈ ws.places, p.context.Suited described suits
  caches : ∀ name, (ws.cache name).All kind

namespace Suited

variable {ws : Workspace} {id : Nat}

theorem updateCache {f : ReflectorCache → ReflectorCache} (h : ws.Suited described kind suits)
    (hf : ∀ p, ws.place? id = some p → (f (ws.cache p.cache)).All kind) :
    (ws.updateCache id f).Suited described kind suits where
  contexts := by
    unfold Workspace.updateCache
    split <;> exact h.contexts
  caches name := by
    cases hp : ws.place? id with
    | none =>
      unfold Workspace.updateCache
      rw [hp]
      exact h.caches name
    | some p =>
      rw [cache_updateCache hp]
      split
      · exact hf p hp
      · exact h.caches name

theorem updateContext {f : Context → Context} (h : ws.Suited described kind suits)
    (hf : ∀ p ∈ ws.places, p.id = id → (f p.context).Suited described suits) :
    (ws.updateContext id f).Suited described kind suits where
  contexts := by
    intro q hq
    obtain ⟨p, hp, rfl⟩ := List.mem_map.mp hq
    split
    next same => exact hf p hp (beq_iff_eq.mp same)
    · exact h.contexts p hp
  caches := h.caches

/-- A call leaves suited what it finds suited: the context that it is made on, and the cache of that one. -/
theorem run {α : Type} {x : Action α} (hx : Action.IsSuited described kind suits x)
    (h : ws.Suited described kind suits) (id : Nat) : (ws.run id x).2.2.Suited described kind suits := by
  unfold Workspace.run
  split
  · exact h
  next p hp =>
    have site : (ws.siteAt p).Suited described kind suits :=
      ⟨h.contexts p (List.mem_of_find?_eq_some hp), h.caches p.cache⟩
    have after : ((ws.siteAt p).run x).2.Suited described kind suits := (hx _ site).2
    have moved : (ws.updateContext id fun _ => ((ws.siteAt p).run x).2.context).Suited described kind suits :=
      h.updateContext fun _ _ _ => after.context
    exact moved.updateCache (f := fun _ => ((ws.siteAt p).run x).2.cache) fun _ _ => after.cache

end Suited

theorem ReachedWith.suited {ws : Workspace} (supply : Supply described kind suits) (h : ws.ReachedWith described) :
    ws.Suited described kind suits := by
  induction h with
  | start => exact ⟨(by simp), fun _ => ReflectorCache.All.clear {}⟩
  | opened before id cache settings strategy handling ih =>
    refine ⟨List.forall_mem_append.mpr ⟨ih.contexts, List.forall_mem_singleton.mpr ⟨?_, ?_, ?_⟩⟩, ih.caches⟩
    · exact fun _ _ found => by cases found
    · exact fun _ _ found => by cases found
    · exact fun _ _ _ found => by cases found
  | closed before id ih => exact ⟨fun p hp => ih.contexts p (List.mem_of_mem_filter hp), ih.caches⟩
  | called before id call brought ih => exact ih.run (call.isSuited_perform supply brought) id
  | removed before id entity ih => exact ih.updateCache fun p _ => (ih.caches p.cache).remove entity
  | cleared before id ih => exact ih.updateCache fun _ _ => .clear _
  | asked before known ih => exact ⟨ih.contexts, ih.caches⟩

/-- An entity with a model has a suited one, which was built under the settings and the strategy of its context. -/
theorem ReachedWith.model {ws : Workspace} {id : Nat} {ctx : Context} {name : String} {e : Entity}
    (supply : Supply described kind suits) (h : ws.ReachedWith described) (hctx : ws.context? id = some ctx)
    (he : ctx.entity? name = some e) (ready : e.isInitialized = true) :
    ∃ (model : EntityModel) (origin : Context), e = { cls := e.cls, phase := .ready model } ∧
      origin.settings = ctx.settings ∧ origin.strategy = ctx.strategy ∧ model.Suited described suits origin e.cls := by
  obtain ⟨p, hp, rfl⟩ := Option.map_eq_some_iff.mp hctx
  have suited := (h.suited supply).contexts p (List.mem_of_find?_eq_some hp)
  obtain ⟨cls, phase⟩ := e
  cases phase with
  | ready model =>
    obtain ⟨origin, settings, strategy, suited⟩ := suited.models name _ model he rfl
    exact ⟨model, origin, rfl, settings, strategy, suited⟩
  | populating => cases ready
  | idle => cases ready

end Workspace
end Supply
end Persistence
