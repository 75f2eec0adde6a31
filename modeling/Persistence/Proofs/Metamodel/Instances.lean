import Mathlib.Logic.Relation
import Persistence.Proofs.Metamodel.Hierarchies
import Persistence.Proofs.Metamodel.Mirroring

/-! Instances of entities. As long as no class is registered in place of another one, every entity stands for the class
    of its name, and the parent of an entity that has its model stands for a class further up in its hierarchy. So
    whatever is an instance of an entity is one of its parent, of the parent of that one, and so on, be there classes
    between them that are no entities or proxies before the object. -/

namespace Persistence

variable {ctx old new : Context} {name : String} {cls : Class} {phase : Phase} {e p : Entity} {obj : Instance}

/-! ### Entities in their places -/

/-- An entity of the class that is registered under its name. Once it has its model, superclasses lead from there to one
without a superclass, and its parent bears the name of the superclass. -/
structure Entity.Anchored (ctx : Context) (e : Entity) : Prop where
  own : ctx.classes.get? e.name = some e.cls
  risen : e.isInitialized = true → ∃ line, ctx.Ascends e.name line
  above : ∀ parent, e.parent? = some parent → e.cls.superclass = some parent

/-- An entity stays in its place as long as classes stay registered. -/
theorem Entity.Anchored.mono (kept : ∀ n cls, old.classes.get? n = some cls → new.classes.get? n = some cls)
    (h : e.Anchored old) : e.Anchored new where
  own := kept _ _ h.own
  risen ready := (h.risen ready).imp fun _ ascends => ascends.mono kept
  above := h.above

theorem Entity.Anchored.congr (same : new.classes = old.classes) (h : e.Anchored old) : e.Anchored new :=
  h.mono fun _ _ found => same ▸ found

def Context.Anchored (ctx : Context) : Prop := ∀ n e, ctx.entity? n = some e → e.Anchored ctx

namespace Context.Anchored

/-- A class may be registered that is new, or is registered already. -/
theorem register (h : ctx.Anchored) (once : ∀ known, ctx.classes.get? cls.name = some known → known = cls) :
    (ctx.register cls).Anchored := by
  intro n e he
  refine (h n e he).mono fun n known found => ?_
  rw [Context.register, Keyed.get?_put]
  split
  next same =>
    rw [once known (same ▸ found)]
  · exact found

theorem enroll (h : ctx.Anchored) (known : ctx.classes.get? cls.name = some cls) : (ctx.enroll cls).Anchored := by
  intro n e he
  rw [entity?_enroll] at he
  rcases Option.or_eq_some_iff.mp he with he | ⟨-, he⟩
  · exact (h n e he).congr (by rfl)
  · split at he
    · cases he
      exact ⟨known, (fun ready => by cases ready), fun _ named => by cases named⟩
    · cases he

theorem setPhase (h : ctx.Anchored)
    (built : ∀ e model, ctx.entity? name = some e → phase = .ready model →
      (∃ line, ctx.Ascends e.name line) ∧ ∀ parent, model.parent = some parent → e.cls.superclass = some parent) :
    (ctx.setPhase name phase).Anchored := by
  intro n e he
  rw [entity?_setPhase] at he
  split at he
  next same =>
    obtain ⟨x, hx, rfl⟩ := Option.map_eq_some_iff.mp he
    subst same
    refine ⟨(h n x hx).own, fun ready => ?_, fun parent named => ?_⟩
    · cases phase with
      | idle => cases ready
      | populating => cases ready
      | ready model =>
        obtain ⟨⟨line, ascends⟩, -⟩ := built x model hx rfl
        exact ⟨line, ascends.congr (by rfl)⟩
    · cases phase with
      | idle => cases named
      | populating => cases named
      | ready model => exact (built x model hx rfl).2 parent named
  · exact (h n e he).congr (by rfl)

theorem setModelless (h : ctx.Anchored) (modelless : ∀ model, phase ≠ .ready model) :
    (ctx.setPhase name phase).Anchored :=
  h.setPhase fun _ model _ ready => absurd ready (modelless model)

end Context.Anchored

/-! ### Initialization -/

/-- From a sound context with entities in their places to one that has grown from it and is like that again. -/
def Context.Rises (old new : Context) : Prop := old.Evolves new ∧ (old.Sound → old.Anchored → new.Anchored)

instance : IsPreorder Context Context.Rises where
  refl ctx := ⟨refl_of Context.Evolves ctx, fun _ anchored => anchored⟩
  trans _ _ _ h₁ h₂ :=
    ⟨trans_of Context.Evolves h₁.1 h₂.1, fun sound anchored => h₂.2 (h₁.1 sound).1 (h₁.2 sound anchored)⟩

namespace Action

variable {σ ρ : Site} {look : Look} {add : String → Action Unit}

/-- The class of a model that was populated has a hierarchy, and the parent of the model bears the name of the
superclass. -/
theorem ascends_populateBy {model : EntityModel} (sound : σ.context.Sound)
    (h : σ.run (populateBy look add cls) = (.ok model, ρ)) :
    (∃ line, σ.context.Ascends cls.name line) ∧
      ∀ parent, model.parent = some parent → cls.superclass = some parent := by
  unfold populateBy at h
  obtain ⟨hierarchy, _, found, h⟩ := Site.run_bind_eq_ok.mp h
  rw [run_tryAsk] at found
  obtain ⟨answered, rfl⟩ := Prod.mk.inj found
  obtain ⟨line, ascends, -⟩ := (Context.hierarchy_eq_ok sound.keyed).mp answered
  obtain ⟨named, σ₁, hparent, h⟩ := Site.run_bind_eq_ok.mp h
  obtain ⟨settings, _, hsettings, h⟩ := Site.run_bind_eq_ok.mp h
  obtain ⟨scanned, σ₂, hscanned, h⟩ := Site.run_bind_eq_ok.mp h
  obtain ⟨layout, _, laid, h⟩ := Site.run_bind_eq_ok.mp h
  obtain ⟨_, _, reported, h⟩ := Site.run_bind_eq_ok.mp h
  obtain ⟨reflector, σ₄, hreflector, h⟩ := Site.run_bind_eq_ok.mp h
  obtain ⟨owners, _, howners, h⟩ := Site.run_bind_eq_ok.mp h
  cases h
  refine ⟨⟨line, ascends⟩, fun parent same => ?_⟩
  obtain ⟨superclass, hfiltered, rfl⟩ := Option.map_eq_some_iff.mp ((parentOf_eq_ok hparent).symm.trans same)
  obtain ⟨above, habove, hget⟩ := Option.bind_eq_some_iff.mp (Option.filter_eq_some_iff.mp hfiltered).1
  rw [sound.keyed above superclass hget]
  exact habove

theorem rises_enroll (name : String) : Keeps Context.Rises (enroll name) := by
  intro σ
  refine ⟨Keeps.enroll name σ, fun sound anchored => ?_⟩
  obtain ⟨-, h⟩ | ⟨-, fault, h⟩ | ⟨fresh, cls, rfl, known, h⟩ := enroll_cases sound name
  · rw [h]
    exact anchored
  · rw [h]
    exact anchored
  · rw [h]
    exact anchored.enroll known

theorem rises_makeReadyBy (hadd : Adds add) (rises : ∀ name, Keeps Context.Rises (add name)) (name : String) :
    Keeps Context.Rises (makeReadyBy look add name) := by
  intro σ
  refine ⟨Keeps.makeReadyBy hadd name σ, fun sound anchored => ?_⟩
  cases he : σ.context.entity? name with
  | none =>
    rw [run_makeReadyBy_missing he]
    exact anchored
  | some e =>
    rw [run_makeReadyBy he]
    cases hphase : e.phase with
    | ready model => exact anchored
    | populating => exact anchored
    | idle =>
      have begun : (populating σ name).context.Sound := by
        refine sound.setModelless (fun x hx => ?_) (by simp)
        cases he.symm.trans hx
        exact Context.isInitialized_of_idle hphase
      rcases hrun : (populating σ name).run (populateBy look add e.cls) with ⟨answer, ρ⟩
      have after : ρ.context.Anchored :=
        ((Keeps.populateBy rises e.cls).of_eq hrun).2 begun (anchored.setModelless (by simp))
      dsimp only
      cases answer with
      | error fault => exact after.setModelless (by simp)
      | ok model =>
        obtain ⟨-, grown⟩ := evolves_populateBy hadd sound he hphase hrun
        obtain ⟨⟨line, ascends⟩, named⟩ := ascends_populateBy begun hrun
        refine after.setPhase ?_
        rintro x _ hx ⟨⟩
        cases (grown.entity?_populated he).symm.trans hx
        exact ⟨⟨line, ascends.congr grown.classes⟩, named⟩

theorem rises_addFrom (levels : Nat) (name : String) : Keeps Context.Rises (addFrom look exhausted levels name) := by
  induction levels generalizing name with
  | zero => exact Keeps.throw _
  | succ levels ih => exact (rises_enroll name).bind fun _ => rises_makeReadyBy (adds_addFrom levels) ih name

theorem rises_addNamedBy (name : String) : Keeps Context.Rises (addNamedBy look exhausted name) :=
  (Keeps.ask _).bind fun levels => (rises_addFrom levels name).bind fun _ => Keeps.tryAsk _

theorem rises_requireBy (name : String) : Keeps Context.Rises (requireBy look exhausted name) :=
  (Keeps.ask _).bind fun levels =>
    (rises_makeReadyBy (adds_addFrom levels) (rises_addFrom levels) name).bind fun _ => Keeps.tryAsk _

end Action

/-- A call that brings along no class in place of another one leaves the entities in their places. -/
theorem Call.anchored_performBy {σ : Site} (sound : σ.context.Sound) (anchored : σ.context.Anchored) (look : Look)
    (call : Call) (once : ∀ cls, call.brought? = some cls →
      ∀ known, σ.context.classes.get? cls.name = some known → known = cls) :
    (σ.run (call.performBy look Action.exhausted)).2.context.Anchored := by
  cases call with
  | register cls => exact anchored.register (once cls rfl)
  | add cls =>
    rw [performBy, Action.run_map, Action.run_addBy, ← Action.run_addNamedBy]
    exact (Action.rises_addNamedBy cls.name (Action.registered σ cls)).2 (sound.register cls) (anchored.register (once cls rfl))
  | addNamed name =>
    rw [performBy, Action.run_map]
    exact (Action.rises_addNamedBy name σ).2 sound anchored
  | require name =>
    rw [performBy, Action.run_map]
    exact (Action.rises_requireBy name σ).2 sound anchored

/-- The sites that calls lead to from a context without classes and entities, if none of them registers a class in place
of another one. Each call may search in its own way, and between the calls the cache may be used by others. -/
inductive Site.Accrued : Site → Prop where
  | start {σ : Site} (classless : σ.context.classes = []) (empty : σ.context.entities = []) : Accrued σ
  | call {σ : Site} (before : Accrued σ) (look : Look) (call : Call)
    (once : ∀ cls, call.brought? = some cls → ∀ known, σ.context.classes.get? cls.name = some known → known = cls) :
    Accrued (σ.run (call.performBy look Action.exhausted)).2
  | elsewhere {σ : Site} (before : Accrued σ) (cache : ReflectorCache) (reports : List Diagnostic) :
    Accrued { σ with cache, reports }

namespace Site.Accrued

variable {σ : Site}

/-- A call may bring along a class of a new name. -/
theorem next (h : σ.Accrued) (look : Look) (call : Call)
    (new : (call.brought?.all fun cls => (σ.context.classes.get? cls.name).isNone) = true) :
    Accrued (σ.run (call.performBy look Action.exhausted)).2 := by
  refine h.call look call fun cls brought known found => ?_
  rw [brought, Option.all_some, found] at new
  cases new

theorem reached (h : σ.Accrued) : σ.Reached := by
  induction h with
  | start classless empty => exact .start classless empty
  | call _ look call _ ih => exact ih.call look call
  | elsewhere _ cache reports ih => exact ih.elsewhere cache reports

theorem anchored (h : σ.Accrued) : σ.context.Anchored := by
  induction h with
  | @start σ _ empty =>
    intro n e he
    unfold Context.entity? at he
    rw [empty] at he
    cases he
  | call before look call once ih => exact call.anchored_performBy before.reached.settled.sound ih look once
  | elsewhere _ _ _ ih => exact ih

end Site.Accrued

/-! ### Instances -/

namespace Context

/-- An object is an instance of the entities whose names its class or the classes above it bear. -/
theorem isInstance_iff (keyed : ∀ n cls, ctx.classes.get? n = some cls → cls.name = n) :
    ctx.isInstance e obj = true ↔ (ctx.handling.unwrap obj).cls.name = e.name ∨
      ∃ line, ctx.Ascends (ctx.handling.unwrap obj).cls.name line ∧ e.name ∈ line.map (·.name) := by
  unfold isInstance
  dsimp only
  rw [Bool.or_eq_true, beq_iff_eq]
  refine or_congr Iff.rfl ?_
  constructor
  · intro found
    split at found
    next hierarchy hhierarchy =>
      obtain ⟨line, ascends, rfl⟩ := (hierarchy_eq_ok keyed).mp hhierarchy
      obtain ⟨cls, hcls, same⟩ := List.any_eq_true.mp found
      exact ⟨line, ascends, List.mem_map.mpr ⟨cls, List.mem_reverse.mp hcls, beq_iff_eq.mp same⟩⟩
    · cases found
  · rintro ⟨line, ascends, member⟩
    rw [(hierarchy_eq_ok keyed).mpr ⟨line, ascends, rfl⟩]
    obtain ⟨cls, hcls, same⟩ := List.mem_map.mp member
    exact List.any_eq_true.mpr ⟨cls, List.mem_reverse.mpr hcls, beq_iff_eq.mpr same⟩

end Context

namespace Entity.Anchored

/-- Where superclasses lead on from an entity that has its model, they come by the class of its parent. -/
theorem mem_of_parent? {line : List Class} {parent : String} (sound : ctx.Sound) (anchored : e.Anchored ctx)
    (named : e.parent? = some parent) (ascends : ctx.Ascends e.name line) : parent ∈ line.map (·.name) := by
  have above := anchored.above parent named
  cases ascends with
  | root known top =>
    cases anchored.own.symm.trans known
    cases above.symm.trans top
  | up known superclass rest =>
    cases anchored.own.symm.trans known
    cases above.symm.trans superclass
    obtain ⟨upper, others, rfl, same, -⟩ := rest.exists_cons sound.keyed
    exact List.mem_cons_of_mem _ (List.mem_cons.mpr (Or.inl same.symm))

/-- An instance of an entity is an instance of its parent. -/
theorem isInstance_parent (sound : ctx.Sound) (anchored : e.Anchored ctx) (ready : e.isInitialized = true)
    (hp : e.parent?.bind ctx.entity? = some p) (h : ctx.isInstance e obj = true) : ctx.isInstance p obj = true := by
  obtain ⟨parent, named, found⟩ := Option.bind_eq_some_iff.mp hp
  rw [Context.isInstance_iff sound.keyed, Context.name_of_entity? found]
  obtain same | ⟨line, ascends, member⟩ := (Context.isInstance_iff sound.keyed).mp h
  · obtain ⟨line, ascends⟩ := anchored.risen ready
    exact Or.inr ⟨line, same ▸ ascends, anchored.mem_of_parent? sound named ascends⟩
  · -- What the superclasses of the object come by from the entity on, they come by from the object on.
    obtain ⟨cls, hcls, same⟩ := List.mem_map.mp member
    obtain ⟨-, above, onward, suffix⟩ := ascends.of_mem sound.keyed hcls
    rw [same] at onward
    exact Or.inr ⟨line, ascends, (suffix.map _).subset (anchored.mem_of_parent? sound named onward)⟩

end Entity.Anchored

/-- Where no class was registered in place of another one, an instance of an entity that has its model is an instance of
every entity that is reached from there by going on to the parent, any number of times. -/
theorem Site.Accrued.isInstance_of_descendant {σ : Site} (accrued : σ.Accrued) {a : Entity}
    (he : σ.context.entity? name = some e) (ready : e.isInitialized = true)
    (descent : Relation.ReflTransGen (fun x y => x.parent?.bind σ.context.entity? = some y) e a) (obj : Instance)
    (h : σ.context.isInstance e obj = true) : σ.context.isInstance a obj = true := by
  have sound := accrued.reached.settled.sound
  -- Every entity on the way up is registered and has its model, since its descendant has one.
  suffices step : a.isInitialized = true ∧ (∃ n, σ.context.entity? n = some a) ∧ σ.context.isInstance a obj = true from
    step.2.2
  induction descent with
  | refl => exact ⟨ready, ⟨name, he⟩, h⟩
  | @tail x y _ above ih =>
    obtain ⟨ready, ⟨n, hx⟩, inst⟩ := ih
    obtain ⟨parent, named, found⟩ := Option.bind_eq_some_iff.mp above
    refine ⟨?_, ⟨parent, found⟩, (accrued.anchored n x hx).isInstance_parent sound ready above inst⟩
    obtain ⟨line, lineage⟩ := sound.descended x (Context.mem_of_entity? hx)
    cases lineage with
    | root parentless => cases parentless.symm.trans named
    | child named' found' ready' _ =>
      cases named.symm.trans named'
      cases found.symm.trans found'
      exact ready'

/-- A manager behind two proxies is one of the staff, which is no entity, and so an employee; and so a person. -/
theorem Site.Accrued.isInstance_of_descendant_behind_proxies :
    let identity : Field := { name := "id", type := .long }
    let manager : Class := { stamp := 1, name := "Manager", superclass := some "Staff" }
    let staff : Class := { stamp := 2, name := "Staff", superclass := some "Employee" }
    let person : Class := { stamp := 3, name := "Person", isEntity := true, fields := [identity] }
    let employee : Class := { stamp := 4, name := "Employee", superclass := some "Person", isEntity := true }
    let after (σ : Site) (call : Call) : Site := (σ.run (call.performBy Look.own Action.exhausted)).2
    let σ := after (after (after (after {} (.register manager)) (.register staff)) (.register person)) (.add employee)
    let obj : Instance := (Instance.plain manager []).proxied.proxied
    σ.Accrued ∧ ∃ e a : Entity, σ.context.entity? "Employee" = some e ∧ e.isInitialized = true ∧
      Relation.ReflTransGen (fun x y => x.parent?.bind σ.context.entity? = some y) e a ∧ a.name = "Person" ∧
      σ.context.isInstance e obj = true ∧ σ.context.isInstance a obj = true := by
  intro identity manager staff person employee after σ obj
  have start : Accrued {} := .start rfl rfl
  have accrued : σ.Accrued :=
    (((start.next Look.own (.register manager) (by decide)).next Look.own (.register staff) (by decide)).next Look.own
      (.register person) (by decide)).next Look.own (.add employee) (by decide)
  have found : (σ.context.entity? "Employee").isSome = true := by decide
  have ready : (σ.context.entity? "Employee").map (·.isInitialized) = some true := by decide
  have named : ((σ.context.entity? "Employee").bind (·.parent?)) = some "Person" := by decide
  have above : (σ.context.entity? "Person").isSome = true := by decide
  have inst : (σ.context.entity? "Employee").map (σ.context.isInstance · obj) = some true := by decide
  obtain ⟨e, he⟩ := Option.isSome_iff_exists.mp found
  obtain ⟨a, ha⟩ := Option.isSome_iff_exists.mp above
  rw [he] at ready named inst
  have descent : Relation.ReflTransGen (fun x y => x.parent?.bind σ.context.entity? = some y) e a := by
    refine .single ?_
    rw [show e.parent? = some "Person" from named]
    exact ha
  have ready : e.isInitialized = true := Option.some.inj ready
  have inst : σ.context.isInstance e obj = true := Option.some.inj inst
  exact ⟨accrued, e, a, he, ready, descent, Context.name_of_entity? ha, inst,
    accrued.isInstance_of_descendant he ready descent obj inst⟩

end Persistence
