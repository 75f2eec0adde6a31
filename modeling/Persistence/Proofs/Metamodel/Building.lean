import Persistence.Proofs.Metamodel.Steady
import Persistence.Proofs.Outcome

/-! What a model is built from. A model that is populated at a site is determined by the description of its class, by
    the settings and the strategy, and by what the class names stand for, except for its accessors, of which only the
    names are; so two sites that agree in these build models that look the same. -/

namespace Persistence

/-! ### Names of accessors -/

namespace Reflector

variable {hierarchy : List Class} {entity : String} {p : Property} {number : Nat} {properties : List Property}
  {identity : Identity} {handling : ProxyHandling}

theorem position_resolve {pair : AccessorPair} (h : AccessorPair.resolve hierarchy entity p = .ok pair) :
    (pair.reader.property, pair.reader.type) = (p.name, p.type) := by
  unfold AccessorPair.resolve at h
  split at h
  · cases h
    rfl
  · split at h
    · cases h
    · split at h
      · cases h
        rfl
      · split at h
        · cases h
          rfl
        · cases h

theorem property_resolve {pair : AccessorPair} (h : AccessorPair.resolve hierarchy entity p = .ok pair) :
    pair.reader.property = p.name :=
  (Prod.mk.inj (position_resolve h)).1

theorem name_compileIdentifier {access : IdentifierAccess} (h : compileIdentifier hierarchy entity p = .ok access) :
    access.name = p.name := by
  obtain ⟨pair, -, h⟩ := bind_eq_ok.mp h
  cases h
  rfl

/-- What a reflector is put together from when it is compiled. -/
structure Assembled (hierarchy : List Class) (properties : List Property) (identity : Identity)
    (handling : ProxyHandling) (r : Reflector) : Prop where
  pairs : properties.mapM (AccessorPair.resolve hierarchy r.entity) = .ok r.pairs
  identity : compileIdentity hierarchy r.entity identity = .ok r.identity
  byName : r.byName = Keyed.ofList (r.pairs.map (fun pair => (pair.reader.property, pair)) ++
    r.identity.members.map fun member => (member.name, member.pair))
  changesField : r.changesField = (Hierarchy.field? hierarchy Naming.changesField).map (·.name)
  handling : r.handling = handling

theorem assembled_of_compile {r : Reflector} (h : compile number hierarchy properties identity handling = .ok r) :
    r.Assembled hierarchy properties identity handling := by
  unfold compile at h
  split at h
  · cases h
  · obtain ⟨pairs, hpairs, h⟩ := bind_eq_ok.mp h
    obtain ⟨access, haccess, h⟩ := bind_eq_ok.mp h
    cases h
    exact ⟨hpairs, haccess, rfl, rfl, rfl⟩

/-- The accessors that are compiled bear the names that they are compiled for. -/
theorem isCompiledFor_compile {r : Reflector} (h : compile number hierarchy properties identity handling = .ok r) :
    r.isCompiledFor properties identity = true := by
  obtain ⟨pairs, access, -, -, -⟩ := assembled_of_compile h
  unfold isCompiledFor identifierName? compositeNames?
  rw [Bool.and_eq_true]
  refine ⟨beq_iff_eq.mpr (map_eq_of_mapM (fun _ _ => property_resolve) pairs), ?_⟩
  cases identity with
  | single p =>
    obtain ⟨member, hmember, access⟩ := bind_eq_ok.mp access
    rw [← Except.ok.inj access]
    exact beq_iff_eq.mpr (congrArg some (name_compileIdentifier hmember))
  | composite members =>
    obtain ⟨compiled, hcompiled, access⟩ := bind_eq_ok.mp access
    rw [← Except.ok.inj access]
    exact beq_iff_eq.mpr (congrArg some (map_eq_of_mapM (fun _ _ => name_compileIdentifier) hcompiled))

/-- Accessors that are compiled for an identity reach its members by their names. -/
theorem members_of_isCompiledFor {r : Reflector} (h : r.isCompiledFor properties identity = true) :
    r.names = properties.map (·.name) ∧ r.identity.members.map (·.name) = identity.names := by
  unfold isCompiledFor at h
  obtain ⟨hnames, hidentity⟩ := Bool.and_eq_true _ _ |>.mp h
  refine ⟨beq_iff_eq.mp hnames, ?_⟩
  unfold identifierName? compositeNames? at hidentity
  cases identity with
  | single p =>
    cases haccess : r.identity with
    | single access =>
      rw [haccess] at hidentity
      exact congrArg (fun name => [name]) (Option.some.inj (beq_iff_eq.mp hidentity))
    | composite members =>
      rw [haccess] at hidentity
      cases hidentity
  | composite members =>
    cases haccess : r.identity with
    | single access =>
      rw [haccess] at hidentity
      cases hidentity
    | composite accesses =>
      rw [haccess] at hidentity
      exact Option.some.inj (beq_iff_eq.mp hidentity)

end Reflector

namespace ReflectorCache

variable {cache : ReflectorCache} {hierarchy : List Class} {properties : List Property} {identity : Identity}
  {handling : ProxyHandling} {r : Reflector}

theorem serving?_eq_some (h : cache.serving? hierarchy properties identity = some r) :
    ∃ name cached, cache.entries.get? name = some cached ∧ cached.serves hierarchy properties identity = true ∧
      cached.reflector = r := by
  unfold serving? at h
  split at h
  · cases h
  · split at h
    next cached found =>
      split at h
      next serves => exact ⟨_, cached, found, serves, Option.some.inj h⟩
      · cases h
    · cases h

/-- What a cache gives out bears the names that it is asked for, whether it is published already or compiled now. -/
theorem isCompiledFor_getOrCompile (h : (cache.getOrCompile hierarchy properties identity handling).1 = .ok r) :
    r.isCompiledFor properties identity = true := by
  unfold getOrCompile at h
  split at h
  next served serving =>
    cases h
    obtain ⟨name, cached, -, serves, rfl⟩ := serving?_eq_some serving
    unfold CachedReflector.serves at serves
    exact (Bool.and_eq_true _ _ |>.mp serves).2
  · dsimp only at h
    split at h
    next compiled =>
      cases h
      exact Reflector.isCompiledFor_compile compiled
    · cases h

end ReflectorCache

/-! ### Populating -/

/-- Two contexts agree in the settings, in the strategy and in what the names of classes stand for. -/
structure Context.Agrees (one other : Context) : Prop where
  settings : one.settings = other.settings
  strategy : one.strategy = other.strategy
  classes : ∀ name, one.classes.get? name = other.classes.get? name

namespace Context

variable {one other : Context}

theorem Steady.agrees (h : Steady one other) : one.Agrees other :=
  ⟨h.settings.symm, h.strategy.symm, fun name => by rw [h.classes]⟩

theorem Agrees.symm (h : one.Agrees other) : other.Agrees one :=
  ⟨h.settings.symm, h.strategy.symm, fun name => (h.classes name).symm⟩

/-- A chain of superclasses that is found within some levels is found within more, wherever the classes are the same. -/
theorem Agrees.chainFrom (h : one.Agrees other) {start start' name : String} {levels levels' : Nat}
    {visited : List String} {chain : List Class} (hone : one.chainFrom start levels visited name = .ok chain)
    (le : levels ≤ levels') : other.chainFrom start' levels' visited name = .ok chain := by
  induction levels generalizing levels' visited name chain with
  | zero => cases hone
  | succ levels ih =>
    obtain ⟨levels', rfl⟩ := Nat.exists_eq_add_of_le' (Nat.lt_of_lt_of_le levels.succ_pos le)
    -- The induction is on the levels of the walk that is known; the names that were visited go along.
    unfold Context.chainFrom at hone ⊢
    rw [← h.classes name]
    split at hone
    · cases hone
    next fresh =>
      rw [if_neg fresh]
      split at hone
      · cases hone
      next cls hcls =>
        split at hone
        · exact hone
        · obtain ⟨rest, hrest, rfl⟩ := map_eq_ok.mp hone
          exact map_eq_ok.mpr ⟨rest, ih hrest (by omega), rfl⟩

/-- A hierarchy that is found is found wherever there are as many classes. -/
theorem Agrees.hierarchy_eq_ok (h : one.Agrees other) (size : one.classes.length ≤ other.classes.length) {name : String}
    {hierarchy : List Class} (hone : one.hierarchy name = .ok hierarchy) : other.hierarchy name = .ok hierarchy := by
  obtain ⟨chain, hchain, rfl⟩ := map_eq_ok.mp hone
  exact map_eq_ok.mpr ⟨chain, h.chainFrom hchain (Nat.succ_le_succ size), rfl⟩

/-- Contexts that agree do not find different hierarchies. -/
theorem Agrees.hierarchy (h : one.Agrees other) {name : String} {hierarchy hierarchy' : List Class}
    (hone : one.hierarchy name = .ok hierarchy) (hother : other.hierarchy name = .ok hierarchy') :
    hierarchy = hierarchy' := by
  rcases Nat.le_total one.classes.length other.classes.length with le | le
  · exact Except.ok.inj ((h.hierarchy_eq_ok le hone).symm.trans hother)
  · exact Except.ok.inj (hone.symm.trans (h.symm.hierarchy_eq_ok le hother))

/-- The entity of the superclass of a class, if the superclass is one. -/
def parentName? (ctx : Context) (cls : Class) : Option String :=
  ((cls.superclass.bind ctx.classes.get?).filter ctx.strategy.isEntity).map (·.name)

end Context

/-- A model is what the context builds for an entity with the given description. The hierarchy and the parent are
looked up by name; all else that is asked of the class itself is asked of the description. -/
structure EntityModel.Built (model : EntityModel) (ctx : Context) (cls : Class) : Prop where
  layout : ∃ hierarchy, ctx.hierarchy cls.name = .ok hierarchy ∧
    model.mapping = ctx.settings.entityMapping (hierarchy.filterMap (·.mapping)) ∧
    Layout.ofScan ctx.settings cls hierarchy model.mapping
      (ctx.strategy.kept (Discovery.properties ctx.settings cls hierarchy model.mapping)) = .ok model.layout
  parent : model.parent = ctx.parentName? cls
  strategy : model.strategy = model.mapping.strategy.getD ctx.settings.strategy
  owners : model.owners = ctx.strategy.ownersOf cls
  reflector : model.reflector.isCompiledFor model.layout.properties model.layout.identity = true

namespace Action

variable {σ ρ : Site} {add : String → Action Unit} {cls : Class}

theorem parentOf_eq_ok {parent : Option String}
    (h : σ.run (parentOf add cls) = (.ok parent, ρ)) : parent = σ.context.parentName? cls := by
  unfold parentOf at h
  unfold Context.parentName?
  cases hsuper : cls.superclass with
  | none =>
    rw [hsuper] at h
    cases h
    rfl
  | some superclass =>
    rw [hsuper] at h
    obtain ⟨found, _, hfound, h⟩ := Site.run_bind_eq_ok.mp h
    rw [run_tryAsk] at hfound
    cases hget : σ.context.classes.get? superclass with
    | none =>
      unfold Context.requireClass at hfound
      rw [hget] at hfound
      cases hfound
    | some known =>
      unfold Context.requireClass at hfound
      rw [hget] at hfound
      cases hfound
      obtain ⟨strategy, _, hstrategy, h⟩ := Site.run_bind_eq_ok.mp h
      cases hstrategy
      rw [Option.bind_some, hget]
      split at h
      next entity =>
        obtain ⟨_, _, -, h⟩ := Site.run_bind_eq_ok.mp h
        cases h
        rw [Option.filter_some, if_pos entity]
        rfl
      next other =>
        cases h
        rw [Option.filter_some, if_neg other]
        rfl

theorem scan_eq_ok {hierarchy : List Class} {mapping : EntityMapping} {scanned : List Property}
    (hadd : ∀ name, IsSteady (add name)) (h : σ.run (scan add cls hierarchy mapping) = (.ok scanned, ρ)) :
    scanned = σ.context.strategy.kept (Discovery.properties σ.context.settings cls hierarchy mapping) := by
  unfold scan at h
  obtain ⟨strategy, _, hstrategy, h⟩ := Site.run_bind_eq_ok.mp h
  cases hstrategy
  obtain ⟨_, σ₁, hforM, h⟩ := Site.run_bind_eq_ok.mp h
  have steady := (IsSteady.forM hadd _).of_eq hforM
  obtain ⟨settings, _, hsettings, h⟩ := Site.run_bind_eq_ok.mp h
  cases hsettings
  obtain ⟨inherited, _, -, h⟩ := Site.run_bind_eq_ok.mp h
  rw [← steady.settings]
  dsimp only at h
  split at h
  · obtain ⟨_, _, hthrow, -⟩ := Site.run_bind_eq_ok.mp h
    cases hthrow
  · cases h
    rfl

theorem reflectorFor_eq_ok {hierarchy : List Class} {layout : Layout} {r : Reflector}
    (h : σ.run (reflectorFor hierarchy layout) = (.ok r, ρ)) :
    r.isCompiledFor layout.properties layout.identity = true := by
  rw [run_reflectorFor] at h
  exact ReflectorCache.isCompiledFor_getOrCompile (congrArg Prod.fst h)

/-- A model that is populated is the one that the context builds, whatever is added on the way. -/
theorem populate_eq_ok {model : EntityModel} (hadd : ∀ name, IsSteady (add name))
    (h : σ.run (populate add cls) = (.ok model, ρ)) : model.Built σ.context cls := by
  unfold populate at h
  obtain ⟨hierarchy, _, found, h⟩ := Site.run_bind_eq_ok.mp h
  rw [run_tryAsk] at found
  obtain ⟨hhierarchy, rfl⟩ := Prod.mk.inj found
  obtain ⟨parent, σ₁, hparent, h⟩ := Site.run_bind_eq_ok.mp h
  -- Each step asks another site; what it asks for is the same as at the first one.
  have steady₁ := (IsSteady.parentOf hadd cls).of_eq hparent
  obtain ⟨settings, _, hsettings, h⟩ := Site.run_bind_eq_ok.mp h
  cases hsettings
  obtain ⟨scanned, σ₂, hscanned, h⟩ := Site.run_bind_eq_ok.mp h
  have steady₂ := steady₁.trans ((IsSteady.scan hadd cls _ _).of_eq hscanned)
  obtain ⟨layout, _, laid, h⟩ := Site.run_bind_eq_ok.mp h
  rw [run_ofExcept] at laid
  obtain ⟨hlayout, rfl⟩ := Prod.mk.inj laid
  obtain ⟨_, σ₃, hreport, h⟩ := Site.run_bind_eq_ok.mp h
  have steady₃ := steady₂.trans ((IsSteady.report _).of_eq hreport)
  obtain ⟨reflector, σ₄, hreflector, h⟩ := Site.run_bind_eq_ok.mp h
  have steady₄ := steady₃.trans ((IsSteady.reflectorFor hierarchy layout).of_eq hreflector)
  obtain ⟨owners, _, howners, h⟩ := Site.run_bind_eq_ok.mp h
  cases howners
  cases h
  rw [scan_eq_ok hadd hscanned] at hlayout
  dsimp only at hlayout ⊢
  rw [steady₁.settings, steady₁.strategy] at hlayout
  rw [steady₁.settings, steady₄.strategy]
  exact {
    layout := ⟨hierarchy, hhierarchy, rfl, hlayout⟩
    parent := parentOf_eq_ok hparent
    strategy := rfl
    owners := rfl
    reflector := reflectorFor_eq_ok hreflector }

end Action
/-! ### What is seen of an entity -/

/-- An outline without what tells it apart from outlines of the same class. -/
def Outline.unstamped (cls : Outline) : Outline := { cls with stamp := 0 }

namespace Class

/-- The description without what tells it apart from descriptions of the same class. -/
def unstamped (cls : Class) : Class := { cls with stamp := 0 }

/-- Two descriptions agree in everything but their stamps. -/
def Alike (one other : Class) : Prop := one.unstamped = other.unstamped

/-- A new object of the class, with its slots. -/
def created (cls : Class) : Except Fault (Outline × Slots) :=
  (fun obj => (obj.cls.unstamped, obj.slots)) <$> cls.newInstance

theorem created_unstamped (cls : Class) : cls.unstamped.created = cls.created := by
  unfold created Outline.newInstance unstamped
  dsimp only
  split
  · rfl
  · split <;> rfl

end Class

/-- What is seen of an entity from outside. Of descriptions it is all but the stamps, and of accessors the names. -/
structure EntityView where
  description : Class
  isMultiTenant : Bool
  parent : Option String
  owners : List String
  mapping : Option EntityMapping
  strategy : Option String
  /-- The properties with all their roles. -/
  layout : Option Layout
  /-- The names of the accessors by position, and those of the identity. -/
  accessors : Option (List String × List String)
  /-- What comes out of making a new object. -/
  created : Except Fault (Outline × Slots)

def Entity.view (entity : Entity) : EntityView where
  description := entity.cls.unstamped
  isMultiTenant := entity.cls.isMultiTenant
  parent := entity.parent?
  owners := entity.owners
  mapping := entity.model?.map (·.mapping)
  strategy := entity.model?.map (·.strategy)
  layout := entity.layout?
  accessors := entity.model?.map fun model => (model.reflector.names, model.reflector.identity.members.map (·.name))
  created := entity.cls.created

namespace EntityModel.Built

variable {ctx one other : Context} {cls cls' : Class} {model model' : EntityModel}

theorem unstamped (h : model.Built ctx cls) : model.Built ctx cls.unstamped :=
  ⟨h.layout, h.parent, h.strategy, h.owners, h.reflector⟩

/-- A model is built of the same classes wherever there are as many. -/
theorem transport (h : one.Agrees other) (size : one.classes.length ≤ other.classes.length) (hone : model.Built one cls) :
    model.Built other cls := by
  obtain ⟨hierarchy, found, hmapping, hlayout⟩ := hone.layout
  rw [h.settings] at hmapping
  rw [h.settings, h.strategy] at hlayout
  exact {
    layout := ⟨_, h.hierarchy_eq_ok size found, hmapping, hlayout⟩
    parent := by
      rw [hone.parent]
      unfold Context.parentName?
      rw [h.strategy, funext h.classes]
    strategy := by rw [hone.strategy, h.settings]
    owners := by rw [hone.owners, h.strategy]
    reflector := hone.reflector }

/-- Contexts that agree build models with the same layout for a description. -/
theorem layout_eq (h : one.Agrees other) (hone : model.Built one cls) (hother : model'.Built other cls) :
    model.mapping = model'.mapping ∧ model.layout = model'.layout := by
  obtain ⟨hierarchy, hchain, hmapping, hlayout⟩ := hone.layout
  obtain ⟨hierarchy', hchain', hmapping', hlayout'⟩ := hother.layout
  rw [← h.hierarchy hchain hchain', ← h.settings] at hmapping'
  have same : model.mapping = model'.mapping := hmapping.trans hmapping'.symm
  rw [← h.hierarchy hchain hchain', ← h.settings, ← h.strategy, ← same] at hlayout'
  exact ⟨same, Except.ok.inj (hlayout.symm.trans hlayout')⟩

/-- Entities for descriptions that are alike look the same once agreeing contexts have built their models. -/
theorem view_eq (h : one.Agrees other) (hcls : cls.Alike cls') (hone : model.Built one cls)
    (hother : model'.Built other cls') :
    Entity.view { cls, phase := .ready model } = Entity.view { cls := cls', phase := .ready model' } := by
  have hother' : model'.Built other cls.unstamped := by
    rw [hcls]
    exact hother.unstamped
  obtain ⟨hmapping, hlayout⟩ := hone.unstamped.layout_eq h hother'
  obtain ⟨hnames, hmembers⟩ := Reflector.members_of_isCompiledFor hone.reflector
  obtain ⟨hnames', hmembers'⟩ := Reflector.members_of_isCompiledFor hother.reflector
  have hparent : model.parent = model'.parent := by
    rw [hone.unstamped.parent, hother'.parent]
    unfold Context.parentName?
    rw [h.strategy, funext h.classes]
  have howners : model.owners = model'.owners := by
    rw [hone.unstamped.owners, hother'.owners, h.strategy]
  have hstrategy : model.strategy = model'.strategy := by
    rw [hone.strategy, hother.strategy, hmapping, h.settings]
  have hcreated : cls.created = cls'.created := by
    rw [← cls.created_unstamped, hcls, cls'.created_unstamped]
  have hdescription : cls.unstamped = cls'.unstamped := hcls
  have htenant := congrArg (·.isMultiTenant) hdescription
  change cls.isMultiTenant = cls'.isMultiTenant at htenant
  rw [hlayout] at hnames hmembers
  simp only [Entity.view, Entity.parent?, Entity.owners, Entity.layout?, Entity.model?, Option.map_some,
    Option.bind_some, hdescription, htenant, hparent, howners, hmapping, hstrategy, hlayout, hnames, hnames', hmembers,
    hmembers', hcreated]

end EntityModel.Built
end Persistence
