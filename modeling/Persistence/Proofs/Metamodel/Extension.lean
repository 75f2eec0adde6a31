import Persistence.Proofs.Access.Backing
import Persistence.Proofs.Metamodel.Hierarchies
import Persistence.Proofs.Metamodel.Identification
import Persistence.Proofs.Metamodel.Tenancy

/-! Entities below other ones. What the classes further up offer is discovered first; so a class that comes below them
    and leaves the identity alone adds its properties after theirs, whatever it redeclares. The entity of such a class
    is initialized unless it misses a tenant property, it has the identity of the entity above, and what is at a
    position there is at the same position here. -/

namespace Persistence

/-! ### Classes that leave the identity alone -/

/-- The class has no mapping, it marks no field as part of the identity, and none of its members is named like the only
declared identifier. -/
structure Class.LeavesIdentity (cls : Class) (mapping : EntityMapping) : Prop where
  unmapped : cls.mapping = none
  unmarked : ∀ field ∈ cls.fields, field.isIdentity = false
  fields : ∀ field ∈ cls.fields, Discovery.singleIdentifier? mapping ≠ some field.name
  getters : ∀ m ∈ cls.methods, m.isGetter = true → Discovery.singleIdentifier? mapping ≠ some m.property

/-- Where such a class comes last, the mappings are those of the classes before it. -/
theorem Class.LeavesIdentity.filterMap_mapping_append {low : Class} {mapping : EntityMapping}
    (leaves : low.LeavesIdentity mapping) (hierarchy : List Class) :
    (hierarchy ++ [low]).filterMap (·.mapping) = hierarchy.filterMap (·.mapping) := by
  simp only [List.filterMap_append, List.filterMap_cons, leaves.unmapped, List.filterMap_nil, List.append_nil]

/-- The property as one of another entity. -/
def Property.ownedBy (p : Property) (owner : String) : Property := { p with owner }

/-- The identity with its members as those of another entity. -/
def Identity.ownedBy (identity : Identity) (owner : String) : Identity :=
  match identity with
  | .single p => .single (p.ownedBy owner)
  | .composite members => .composite (members.map (·.ownedBy owner))

theorem Identity.names_ownedBy (identity : Identity) (owner : String) : (identity.ownedBy owner).names = identity.names := by
  cases identity with
  | single p => rfl
  | composite members => exact List.map_map

namespace Discovery

variable {settings : Settings} {strategy : Strategy} {cls low : Class} {hierarchy : List Class} {mapping : EntityMapping}
  {found offers : List Candidate} {identity : Identity}

/-! ### Candidates -/

theorem exists_foldl_addCandidate (offers found : List Candidate) :
    ∃ new, offers.foldl addCandidate found = found ++ new ∧ ∀ c ∈ new, c ∈ offers := by
  induction offers generalizing found with
  | nil => exact ⟨[], (List.append_nil found).symm, by simp⟩
  | cons c rest ih =>
    obtain ⟨new, same, offered⟩ := ih (addCandidate found c)
    rw [List.foldl_cons, same]
    unfold addCandidate
    split
    · exact ⟨new, rfl, fun x hx => List.mem_cons_of_mem c (offered x hx)⟩
    · refine ⟨c :: new, List.append_assoc .., List.forall_mem_cons.mpr ⟨List.mem_cons_self, fun x hx => ?_⟩⟩
      exact List.mem_cons_of_mem c (offered x hx)

/-- The candidates of a hierarchy with one more class start with those of the hierarchy without it. -/
theorem exists_candidates_append (hierarchy : List Class) (low : Class) (mapping : EntityMapping) :
    ∃ new, candidates (hierarchy ++ [low]) mapping = candidates hierarchy mapping ++ new ∧
      ∀ c ∈ new, c ∈ offered mapping low := by
  unfold candidates
  rw [List.flatMap_append, List.foldl_append, List.flatMap_singleton]
  exact exists_foldl_addCandidate _ _

theorem not_identifying_of_offered (leaves : low.LeavesIdentity mapping) {c : Candidate} (hc : c ∈ offered mapping low) :
    (c.isIdentity || singleIdentifier? mapping == some c.name) = false := by
  rw [Bool.or_eq_false_iff, beq_eq_false_iff_ne]
  rcases List.mem_append.mp hc with hc | hc
  · obtain ⟨field, hfield, rfl⟩ := List.mem_map.mp hc
    have hfield := List.mem_of_mem_filter hfield
    exact ⟨leaves.unmarked field hfield, leaves.fields field hfield⟩
  · obtain ⟨m, hm, rfl⟩ := List.mem_map.mp hc
    obtain ⟨hm, kept⟩ := List.mem_filter.mp hm
    exact ⟨rfl, leaves.getters m hm (Bool.and_eq_true _ _ ▸ kept).1⟩

theorem identifying_append (leaves : low.LeavesIdentity mapping) :
    identifying (hierarchy ++ [low]) mapping = identifying hierarchy mapping := by
  obtain ⟨new, same, offered⟩ := exists_candidates_append hierarchy low mapping
  have nothing : (new.filter fun c => c.isIdentity || singleIdentifier? mapping == some c.name) = [] := by
    refine List.filter_eq_nil_iff.mpr fun c hc => ?_
    rw [not_identifying_of_offered leaves (offered c hc)]
    exact Bool.false_ne_true
  unfold identifying
  rw [same, List.filter_append, nothing, List.append_nil]

/-! ### Identities -/

theorem filter_isIdentity_kept : (strategy.kept (properties settings cls hierarchy mapping)).filter Property.isIdentity =
    ((identifying hierarchy mapping).filter fun c => !strategy.skipped.contains c.name).map
      (member settings cls mapping) := by
  unfold Strategy.kept
  rw [List.filter_filter, List.filter_congr fun p _ => Bool.and_comm _ _, ← List.filter_filter,
    filter_isIdentity_properties, List.filter_map]
  rfl

/-- A declared member that is found without the lowest class is found with it. -/
theorem identityMember_append {name : String} {p : Property}
    (h : identityMember settings cls hierarchy mapping name = .ok p) (lowest : Class) :
    identityMember settings lowest (hierarchy ++ [low]) mapping name = .ok (p.ownedBy lowest.name) := by
  obtain ⟨new, same, -⟩ := exists_candidates_append hierarchy low mapping
  unfold identityMember at h ⊢
  split at h
  next c hc =>
    cases h
    rw [same, List.find?_append, hc, Option.some_or]
    rfl
  · cases h

theorem declaredIdentity_append (h : declaredIdentity settings cls hierarchy mapping = .ok identity) (lowest : Class) :
    declaredIdentity settings lowest (hierarchy ++ [low]) mapping = .ok (identity.ownedBy lowest.name) := by
  unfold declaredIdentity at h ⊢
  split at h
  · cases h
  · obtain ⟨p, hp, rfl⟩ := map_eq_ok.mp h
    exact map_eq_ok.mpr ⟨_, identityMember_append hp lowest, rfl⟩
  · obtain ⟨members, hmembers, rfl⟩ := map_eq_ok.mp h
    exact map_eq_ok.mpr ⟨_, mapM_eq_ok_of_step (fun _ _ hp => identityMember_append hp lowest) hmembers, rfl⟩

/-- The identity that is resolved without the lowest class is resolved with it. -/
theorem identity_append (leaves : low.LeavesIdentity mapping)
    (h : Discovery.identity settings cls hierarchy mapping
      (strategy.kept (properties settings cls hierarchy mapping)) = .ok identity) (lowest : Class) :
    Discovery.identity settings lowest (hierarchy ++ [low]) mapping
      (strategy.kept (properties settings lowest (hierarchy ++ [low]) mapping)) =
        .ok (identity.ownedBy lowest.name) := by
  rw [identity_eq, filter_isIdentity_kept] at h ⊢
  rw [identifying_append leaves]
  match hmarked : (identifying hierarchy mapping).filter fun c => !strategy.skipped.contains c.name with
  | [] =>
    rw [hmarked] at h ⊢
    exact declaredIdentity_append h lowest
  | [c] =>
    rw [hmarked] at h ⊢
    cases h
    rfl
  | c :: c' :: rest =>
    rw [hmarked] at h ⊢
    cases h
    simp [Identity.ownedBy, Property.ownedBy, member]

/-- The names and types of the properties that are kept are those of their candidates. -/
theorem positions_kept (keep : String → Bool) :
    ((strategy.kept (properties settings cls hierarchy mapping)).filter fun p => keep p.name).map
        (fun p => (p.name, p.type)) =
      ((candidates hierarchy mapping).filter fun c => keep c.name && !strategy.skipped.contains c.name).map
        fun c => (c.name, c.type) := by
  unfold Strategy.kept properties
  rw [List.filter_filter, List.filter_map, List.map_map]
  rfl

end Discovery

/-! ### Layouts -/

namespace Layout

variable {settings : Settings} {strategy : Strategy} {cls low : Class} {hierarchy : List Class} {layout : Layout}

/-- The names and types at the positions of a layout. -/
def positions (layout : Layout) : List (String × DataType) := layout.properties.map fun p => (p.name, p.type)

/-- The mapping of an entity with the given hierarchy. -/
abbrev mappingOf (settings : Settings) (hierarchy : List Class) : EntityMapping :=
  settings.entityMapping (hierarchy.filterMap (·.mapping))

/-- The properties that a strategy keeps of a hierarchy, for an entity of the given class. -/
abbrev scannedOf (settings : Settings) (strategy : Strategy) (cls : Class) (hierarchy : List Class) : List Property :=
  strategy.kept (Discovery.properties settings cls hierarchy (mappingOf settings hierarchy))

/-- The layout of a hierarchy, for an entity of the given class. -/
def ofHierarchy (settings : Settings) (strategy : Strategy) (cls : Class) (hierarchy : List Class) :
    Except Fault Layout :=
  ofScan settings cls hierarchy (mappingOf settings hierarchy) (scannedOf settings strategy cls hierarchy)

/-- Where the lowest class leaves the identity alone and no tenant property is missed, there is a layout with it if there
is one without it, with the same identity and at the same positions. -/
theorem ofHierarchy_append (leaves : low.LeavesIdentity (mappingOf settings hierarchy))
    (laid : ofHierarchy settings strategy cls hierarchy = .ok layout) {lowest : Class}
    (tenanted : ∃ tenant, tenantFor settings lowest (scannedOf settings strategy lowest (hierarchy ++ [low])) =
      .ok tenant) :
    ∃ layout', ofHierarchy settings strategy lowest (hierarchy ++ [low]) = .ok layout' ∧
      layout'.identity = layout.identity.ownedBy lowest.name ∧ layout.positions <+: layout'.positions := by
  unfold ofHierarchy at laid ⊢
  unfold scannedOf mappingOf at tenanted ⊢
  rw [leaves.filterMap_mapping_append] at tenanted ⊢
  obtain ⟨identity, resolved, laid⟩ := bind_eq_ok.mp laid
  obtain ⟨tenant, -, laid⟩ := bind_eq_ok.mp laid
  cases laid
  obtain ⟨tenant', tenanted⟩ := tenanted
  refine ⟨_, bind_eq_ok.mpr ⟨_, Discovery.identity_append leaves resolved lowest,
    bind_eq_ok.mpr ⟨tenant', tenanted, rfl⟩⟩, rfl, ?_⟩
  obtain ⟨new, same, -⟩ := Discovery.exists_candidates_append hierarchy low (mappingOf settings hierarchy)
  unfold positions arrange
  dsimp only
  rw [Identity.names_ownedBy]
  rw [Discovery.positions_kept fun n => !(identity.names ++ [settings.identifier]).contains n,
    Discovery.positions_kept fun n => !(identity.names ++ [settings.identifier]).contains n, same, List.filter_append,
    List.map_append]
  exact List.prefix_append _ _

end Layout

/-! ### Entities -/

namespace Reflector

/-- The names and declared types at the positions of a reflector. -/
def positions (r : Reflector) : List (String × DataType) := r.pairs.map fun pair => (pair.reader.property, pair.reader.type)

theorem CompiledFor.positions_eq {r : Reflector} {hierarchy : List Class} {layout : Layout}
    (h : r.CompiledFor hierarchy layout) : r.positions = layout.positions :=
  map_eq_of_mapM (fun _ _ => position_resolve) h.assembled.pairs

/-- Whatever stands at a position, something of its name and type stands there where positions are added at the end. -/
theorem readerAt_of_prefix {r r' : Reflector} {index : Nat} {reader : PropertyReader} (h : r.positions <+: r'.positions)
    (read : r.readerAt index = .ok reader) :
    ∃ reader', r'.readerAt index = .ok reader' ∧ reader'.property = reader.property ∧ reader'.type = reader.type := by
  obtain ⟨pair, found, same⟩ := bind_eq_ok.mp read
  cases same
  rw [pairAt] at found
  split at found
  next hpair =>
    cases found
    have here : r.positions[index]? = some (pair.reader.property, pair.reader.type) := by
      rw [positions, List.getElem?_map, hpair, Option.map_some]
    obtain ⟨bound, -⟩ := List.getElem?_eq_some_iff.mp here
    obtain ⟨added, same⟩ := h
    have there : r'.positions[index]? = some (pair.reader.property, pair.reader.type) := by
      rw [← same, List.getElem?_append_left bound]
      exact here
    rw [positions, List.getElem?_map] at there
    obtain ⟨pair', hpair', equal⟩ := Option.map_eq_some_iff.mp there
    obtain ⟨property, type⟩ := Prod.mk.inj equal
    exact ⟨pair'.reader, by rw [readerAt, pairAt, hpair']; rfl, property, type⟩
  · cases found

end Reflector

namespace Entity

/-- The model of an entity is what a hierarchy, which ends with the class of the entity's name, gives under the settings and
the strategy: the layout is that of the properties that the strategy keeps, and the accessors are compiled for it. -/
structure BuiltOf (e : Entity) (settings : Settings) (strategy : Strategy) (hierarchy : List Class) : Prop where
  lowest : hierarchy.getLast?.map (·.name) = some e.name
  model : ∃ model, e.phase = .ready model ∧ model.reflector.CompiledFor hierarchy model.layout ∧
    Layout.ofHierarchy settings strategy e.cls hierarchy = .ok model.layout

/-- The one entity has the identity of the other one, with the same names, and the names and declared types at its
positions start with those of the other one; so whatever position there is in the other one denotes a property of the
same name and type in this one. -/
structure ExtendedBy (e child : Entity) : Prop where
  identity : ∃ identity, e.identity? = some identity ∧ child.identity? = some (identity.ownedBy child.name) ∧
    (identity.ownedBy child.name).names = identity.names
  positions : ∃ r r', e.reflector = .ok r ∧ child.reflector = .ok r' ∧ r.positions <+: r'.positions ∧
    ∀ index reader, r.readerAt index = .ok reader →
      ∃ reader', r'.readerAt index = .ok reader' ∧ reader'.property = reader.property ∧ reader'.type = reader.type

variable {e child : Entity} {settings : Settings} {strategy : Strategy} {hierarchy : List Class} {low : Class}

theorem extendedBy_of_builtOf (h : e.BuiltOf settings strategy hierarchy)
    (h' : child.BuiltOf settings strategy (hierarchy ++ [low]))
    (leaves : low.LeavesIdentity (Layout.mappingOf settings hierarchy)) : e.ExtendedBy child := by
  obtain ⟨-, model, phase, compiled, laid⟩ := h
  obtain ⟨-, model', phase', compiled', laid'⟩ := h'
  obtain ⟨_, -, admitted⟩ := bind_eq_ok.mp laid'
  obtain ⟨tenant, tenanted, -⟩ := bind_eq_ok.mp admitted
  obtain ⟨layout', laid'', identity, positions⟩ := Layout.ofHierarchy_append leaves laid ⟨tenant, tenanted⟩
  cases laid'.symm.trans laid''
  have extends_ : model.reflector.positions <+: model'.reflector.positions := by
    rw [compiled.positions_eq, compiled'.positions_eq]
    exact positions
  refine ⟨⟨model.layout.identity, ?_, ?_, Identity.names_ownedBy _ _⟩, model.reflector, model'.reflector, ?_, ?_, extends_,
    fun _ _ => Reflector.readerAt_of_prefix extends_⟩
  · simp [identity?, layout?, model?, phase]
  · simp [identity?, layout?, model?, phase', identity, name]
  · simp only [reflector, requireModel, model?, phase]
    rfl
  · simp only [reflector, requireModel, model?, phase']
    rfl

end Entity

/-! ### Initialization -/

/-- The superclass of a class is registered, and its entity has its model. -/
def Context.Parents (ctx : Context) (cls : Class) : Prop :=
  ∀ superclass, cls.superclass = some superclass → (∃ found, ctx.classes.get? superclass = some found ∧
    found.name = superclass) ∧ ∃ e, ctx.entity? superclass = some e ∧ e.isInitialized = true

/-- What is initialized already stays as it is. -/
theorem Context.Parents.steady {old new : Context} {cls : Class} (h : old.Parents cls) (steady : old.Steady new) :
    new.Parents cls := by
  intro superclass above
  obtain ⟨known, e, he, ready⟩ := h superclass above
  rw [steady.classes]
  refine ⟨known, e, steady.busy superclass e he fun idle => ?_, ready⟩
  rw [isInitialized_of_idle idle] at ready
  cases ready

namespace Action

variable {σ : Site} {name : String} {e : Entity} {cls : Class}

/-- An entity that has its model is added by doing nothing. -/
theorem run_addWithin_ready (he : σ.context.entity? name = some e) (ready : e.isInitialized = true) (levels : Nat) :
    σ.run (addWithin (levels + 1) name) = (.ok (), σ) := by
  have enrolled : σ.run (enroll name) = (.ok (), σ) := by
    unfold enroll
    rw [Site.run_bind, run_ask, he]
    rfl
  unfold addWithin
  rw [Site.run_bind, enrolled]
  dsimp only
  rw [run_makeReady _ he]
  obtain ⟨cls, phase⟩ := e
  cases phase with
  | idle => cases ready
  | populating => cases ready
  | ready model => rfl

/-- The entity of the superclass is there already. -/
theorem run_parentOf_ready (parented : σ.context.Parents cls) (levels : Nat) :
    ∃ parent, σ.run (parentOf (addWithin (levels + 1)) cls) = (.ok parent, σ) := by
  unfold parentOf
  cases hsuper : cls.superclass with
  | none => exact ⟨none, rfl⟩
  | some s =>
    obtain ⟨⟨found, known, rfl⟩, e, he, ready⟩ := parented s hsuper
    have required : σ.context.requireClass found.name = .ok found := by
      unfold Context.requireClass
      rw [known]
    dsimp only
    rw [Site.run_bind, run_tryAsk, required]
    dsimp only
    rw [Site.run_bind, run_ask]
    dsimp only
    split
    · rw [Site.run_bind, run_addWithin_ready he ready]
      exact ⟨_, rfl⟩
    · exact ⟨_, rfl⟩

/-- A strategy that adds nothing on the way keeps what it keeps of the hierarchy. If it asks whether a property is inherited,
the answer is no, since the owner has no model yet. -/
theorem run_scan_untouched {add : String → Action Unit} {hierarchy : List Class} {mapping : EntityMapping}
    (untouched : σ.context.strategy.touchedBy cls.name = [])
    (unready : ∀ e, σ.context.entity? cls.name = some e → e.isInitialized = false) :
    σ.run (scan add cls hierarchy mapping) =
      (.ok (σ.context.strategy.kept (Discovery.properties σ.context.settings cls hierarchy mapping)), σ) := by
  have own : (Discovery.properties σ.context.settings cls hierarchy mapping).any σ.context.isInherited = false := by
    refine List.any_eq_false.mpr fun p hp => ?_
    obtain ⟨c, -, rfl⟩ := List.mem_map.mp hp
    unfold Context.isInherited
    dsimp only
    split
    · exact Bool.false_ne_true
    next owner howner => simp [unready owner howner]
  have touching : σ.run (([] : List String).forM add) = (.ok (), σ) := rfl
  unfold scan
  rw [Site.run_bind, run_ask]
  dsimp only
  rw [untouched, Site.run_bind, touching]
  dsimp only
  rw [Site.run_bind, run_ask]
  dsimp only
  rw [Site.run_bind, run_ask, own]
  dsimp only
  rw [Bool.and_false, if_neg Bool.false_ne_true]
  rfl

/-- The entity of a class is there, or it comes to the end of the order; nothing else changes. -/
theorem run_enroll_enrolled (known : σ.context.classes.get? cls.name = some cls)
    (entity : σ.context.enrolled? cls = some e) :
    ∃ τ, σ.run (enroll cls.name) = (.ok (), τ) ∧ τ.context.entity? cls.name = some e ∧ σ.context.Steady τ.context := by
  rw [run_enroll known]
  unfold Context.enrolled? at entity
  cases he : σ.context.entity? cls.name with
  | some x =>
    rw [he] at entity
    cases entity
    exact ⟨σ, rfl, he, .refl _⟩
  | none =>
    rw [he, Option.none_or] at entity
    split at entity
    next persistent =>
      cases entity
      dsimp only
      rw [if_pos persistent]
      refine ⟨_, rfl, ?_, .enroll _ cls⟩
      rw [Context.entity?_enroll, he, if_pos rfl]
      rfl
    · cases entity

section Suited
variable {described : Class → Prop} {hierarchy : List Class}

/-- An idle entity is initialized if there is a layout of its hierarchy, where the entity of its superclass has its model
and nothing else is added on the way. -/
theorem makeReady_builtOf (told : ToldApart described)
    (suited : σ.Suited described (·.Honest described fun _ => True) Reflector.CompiledFor)
    (he : σ.context.entity? cls.name = some { cls }) (found : σ.context.hierarchy cls.name = .ok hierarchy)
    (lowest : hierarchy.getLast?.map (·.name) = some cls.name) (parented : σ.context.Parents cls)
    (untouched : σ.context.strategy.touchedBy cls.name = [])
    (laid : ∃ layout, Layout.ofHierarchy σ.context.settings σ.context.strategy cls hierarchy = .ok layout)
    (levels : Nat) :
    ∃ child τ, σ.run (makeReady (addWithin (levels + 1)) cls.name) = (.ok (), τ) ∧
      τ.context.entity? cls.name = some child ∧ child.cls = cls ∧
      child.BuiltOf σ.context.settings σ.context.strategy hierarchy := by
  have idle : ∀ e, σ.context.entity? cls.name = some e → e.phase = .idle := by
    intro e found
    cases he.symm.trans found
    rfl
  have begun : σ.context.Steady (populating σ cls.name).context := (Context.Steady.refl _).setPhase idle _
  have busy : (populating σ cls.name).context.entity? cls.name = some { cls, phase := .populating } := by
    unfold populating
    rw [Context.entity?_setPhase, if_pos rfl, he]
    rfl
  have suits : (populating σ cls.name).Suited described (·.Honest described fun _ => True) Reflector.CompiledFor :=
    ⟨suited.context.setModelless (by simp), suited.cache⟩
  have found : (populating σ cls.name).context.hierarchy cls.name = .ok hierarchy :=
    begun.agrees.hierarchy_eq_ok (Nat.le_refl _) found
  obtain ⟨parent, parentRun⟩ := run_parentOf_ready (parented.steady begun) levels
  have scans : (populating σ cls.name).run (scan (addWithin (levels + 1)) cls hierarchy
        (Layout.mappingOf σ.context.settings hierarchy)) =
      (.ok (Layout.scannedOf σ.context.settings σ.context.strategy cls hierarchy), populating σ cls.name) := by
    refine run_scan_untouched untouched fun e found => ?_
    cases busy.symm.trans found
    rfl
  -- With the parent there and the properties scanned, a model comes of the layout.
  obtain ⟨layout, laid⟩ := laid
  have populated := fst_run_populate (IsSteady.addWithin (levels + 1)) found parentRun scans
  have assured := (populate_suited (Reflector.supply_compiledFor told) (IsSteady.addWithin (levels + 1))
    (IsSuited.addWithin (Reflector.supply_compiledFor told) (levels + 1)) suits cls).1
  rcases hrun : (populating σ cls.name).run (populate (addWithin (levels + 1)) cls) with ⟨answer, ρ⟩
  rw [hrun] at populated assured
  change (fun _ => ()) <$> answer =
    (fun _ => ()) <$> Layout.ofHierarchy σ.context.settings σ.context.strategy cls hierarchy at populated
  rw [laid] at populated
  cases answer with
  | error fault => cases populated
  | ok model =>
    have run := run_makeReady (addWithin (levels + 1)) he
    dsimp only at run
    rw [hrun] at run
    refine ⟨{ cls, phase := .ready model }, _, run, ?_, rfl, lowest, model, rfl, ?_, ?_⟩
    · rw [Context.entity?_setPhase, if_pos rfl, entity?_of_populate (IsSteady.addWithin (levels + 1)) he hrun]
      rfl
    · obtain ⟨hierarchy', found', -, compiled⟩ := assured.reflector
      cases found.symm.trans found'
      exact compiled
    · obtain ⟨hierarchy', found', mapping, laid'⟩ := assured.built.layout
      cases found.symm.trans found'
      rw [mapping] at laid'
      exact laid'

/-- An entity whose superclass is initialized is added wherever there is a layout of its hierarchy and nothing else is
added on the way. -/
theorem addNamed_builtOf (told : ToldApart described)
    (suited : σ.Suited described (·.Honest described fun _ => True) Reflector.CompiledFor)
    (entity : σ.context.enrolled? cls = some { cls }) (known : σ.context.classes.get? cls.name = some cls)
    (found : σ.context.hierarchy cls.name = .ok hierarchy)
    (lowest : hierarchy.getLast?.map (·.name) = some cls.name) (parented : σ.context.Parents cls)
    (untouched : σ.context.strategy.touchedBy cls.name = [])
    (laid : ∃ layout, Layout.ofHierarchy σ.context.settings σ.context.strategy cls hierarchy = .ok layout) :
    ∃ child τ, σ.run (addNamed cls.name) = (.ok child, τ) ∧ child.cls = cls ∧
      child.BuiltOf σ.context.settings σ.context.strategy hierarchy := by
  obtain ⟨ρ, enrolled, he, steady⟩ := run_enroll_enrolled known entity
  have suits : ρ.Suited described (·.Honest described fun _ => True) Reflector.CompiledFor := by
    have kept := (IsSuited.enroll cls.name σ suited).2
    rw [enrolled] at kept
    exact kept
  -- There is a class, so that there is a level for the parent.
  obtain ⟨levels, size⟩ : ∃ levels, σ.context.classes.length = levels + 1 :=
    Nat.exists_eq_add_one.mpr (List.length_pos_of_mem (Keyed.mem_of_get? known))
  obtain ⟨child, τ, run, hchild, cls_eq, built⟩ := makeReady_builtOf told suits he
    (steady.agrees.hierarchy_eq_ok (Nat.le_of_eq (by rw [steady.classes])) found) lowest (parented.steady steady)
    (by rw [steady.strategy]; exact untouched) (by rw [steady.settings, steady.strategy]; exact laid) levels
  rw [steady.settings, steady.strategy] at built
  have given : τ.context.requireEntity cls.name = .ok child := by
    unfold Context.requireEntity
    rw [hchild]
  have leveled : σ.run Action.levels = (.ok (levels + 1 + 1), σ) := by
    rw [← size]
    rfl
  refine ⟨child, τ, ?_, cls_eq, built⟩
  unfold addNamed
  rw [Site.run_bind, leveled]
  dsimp only
  rw [Site.run_bind]
  unfold addWithin
  rw [Site.run_bind, enrolled]
  dsimp only
  rw [run]
  dsimp only
  rw [run_tryAsk, given]

end Suited
end Action

namespace Workspace

variable {described : Class → Prop} {ws : Workspace} {id : Nat} {ctx : Context} {name : String} {e : Entity}

/-- The model of an entity is what the hierarchy gives that its class had when the model was built. -/
theorem ReachedWith.builtOf (told : ToldApart described) (reached : ws.ReachedWith described)
    (hctx : ws.context? id = some ctx) (he : ctx.entity? name = some e) (ready : e.isInitialized = true) :
    ∃ (origin : Context) (hierarchy : List Class), origin.settings = ctx.settings ∧ origin.strategy = ctx.strategy ∧
      origin.hierarchy e.name = .ok hierarchy ∧ (∀ cls ∈ hierarchy, described cls) ∧
      e.BuiltOf ctx.settings ctx.strategy hierarchy := by
  obtain ⟨model, origin, same, settings, strategy, suited⟩ :=
    reached.model (Reflector.supply_compiledFor told) hctx he ready
  obtain ⟨hierarchy, found, classes, compiled⟩ := suited.reflector
  obtain ⟨hierarchy', found', mapping, laid⟩ := suited.built.layout
  cases found.symm.trans found'
  rw [mapping, settings, strategy] at laid
  obtain ⟨line, ascends, rfl⟩ := (Context.hierarchy_eq_ok suited.keyed).mp found
  obtain ⟨lowest, above, rfl, named, -⟩ := ascends.exists_cons suited.keyed
  rw [same]
  refine ⟨origin, _, settings, strategy, found, classes, ?_, model, rfl, compiled, laid⟩
  rw [List.getLast?_reverse]
  exact congrArg some named

/-- An entity that has its model was built of a hierarchy. Whatever class comes below that hierarchy and leaves the
identity alone, every entity that was built of both extends the entity; and an entity of that class that has no model
yet, whether it is registered or not, is initialized unless it misses a tenant property, where the strategy adds nothing
else on the way, and then extends the entity. -/
theorem ReachedWith.extendedBy (told : ToldApart described) (reached : ws.ReachedWith described)
    (hctx : ws.context? id = some ctx) (he : ctx.entity? name = some e) (ready : e.isInitialized = true) :
    (∃ (origin : Context) (hierarchy : List Class), origin.settings = ctx.settings ∧ origin.strategy = ctx.strategy ∧
      origin.hierarchy e.name = .ok hierarchy ∧ (∀ cls ∈ hierarchy, described cls) ∧
      e.BuiltOf ctx.settings ctx.strategy hierarchy) ∧
    ∀ (hierarchy : List Class) (low : Class), e.BuiltOf ctx.settings ctx.strategy hierarchy →
      low.LeavesIdentity (Layout.mappingOf ctx.settings hierarchy) →
      (∀ child : Entity, child.BuiltOf ctx.settings ctx.strategy (hierarchy ++ [low]) → e.ExtendedBy child) ∧
      (ctx.hierarchy low.name = .ok (hierarchy ++ [low]) → ctx.enrolled? low = some { cls := low } →
        ctx.strategy.touchedBy low.name = [] →
        (∃ tenant, Layout.tenantFor ctx.settings low
          (Layout.scannedOf ctx.settings ctx.strategy low (hierarchy ++ [low])) = .ok tenant) →
        ∃ child : Entity, (ws.run id (Call.addNamed low.name).perform).1 = .ok (some child) ∧ child.cls = low ∧
          child.BuiltOf ctx.settings ctx.strategy (hierarchy ++ [low]) ∧ e.ExtendedBy child) := by
  refine ⟨reached.builtOf told hctx he ready, fun hierarchy low built leaves =>
    ⟨fun child built' => Entity.extendedBy_of_builtOf built built' leaves, fun found entity untouched tenanted => ?_⟩⟩
  obtain ⟨p, hp, rfl⟩ := Option.map_eq_some_iff.mp hctx
  have suited := reached.suited (Reflector.supply_compiledFor told)
  have site : (ws.siteAt p).Suited described (·.Honest described fun _ => True) Reflector.CompiledFor :=
    ⟨suited.contexts p (List.mem_of_find?_eq_some hp), suited.caches p.cache⟩
  obtain ⟨-, known, last⟩ := Context.lowest_of_hierarchy site.context.keyed found
  -- The superclass of the class is that of the entity.
  have parented : p.context.Parents low := by
    intro superclass above
    obtain ⟨upper, hupper, named⟩ := Option.map_eq_some_iff.mp built.lowest
    rw [above, hupper] at last
    have upperKnown : p.context.classes.get? superclass = some upper := last.symm
    obtain rfl := site.context.keyed superclass upper upperKnown
    refine ⟨⟨upper, upperKnown, rfl⟩, e, ?_, ready⟩
    rw [named, Context.name_of_entity? he]
    exact he
  obtain ⟨model, -, -, laid⟩ := built.model
  obtain ⟨layout, laid, -⟩ := Layout.ofHierarchy_append leaves laid tenanted
  obtain ⟨child, τ, run, cls_eq, built'⟩ := Action.addNamed_builtOf told site entity known found
    (by simp) parented untouched ⟨layout, laid⟩
  have performed : (ws.siteAt p).run (Call.addNamed low.name).perform = (.ok (some child), τ) := by
    rw [Call.perform, Action.run_map, run]
    rfl
  refine ⟨child, ?_, cls_eq, built', Entity.extendedBy_of_builtOf built built' leaves⟩
  rw [Workspace.run, hp]
  unfold siteAt at performed
  dsimp only
  rw [performed]

/-- The class below declares the title anew, as a number, and adds the pages before it. -/
theorem ReachedWith.extendedBy_redeclared :
    let item : Class :=
      { stamp := 1, name := "Item", isEntity := true
        fields := [{ name := "id", type := .long }, { name := "title", type := .text }] }
    let book : Class :=
      { stamp := 2, name := "Book", superclass := some "Item", isEntity := true
        fields := [{ name := "pages", type := .long }, { name := "title", type := .long }] }
    let opened : Workspace := ({} : Workspace).openContext 0 "c" {}
    let ws := ((opened.run 0 (Call.add item).perform).2.2.run 0 (Call.register book).perform).2.2
    ∃ (ctx : Context) (e child : Entity), ws.context? 0 = some ctx ∧ ctx.entity? "Item" = some e ∧
      e.isInitialized = true ∧ (ws.run 0 (Call.addNamed "Book").perform).1 = .ok (some child) ∧ child.cls = book ∧
      e.ExtendedBy child := by
  intro item book opened ws
  have shown : (ws.context? 0).map (fun ctx => (ctx.settings, ctx.strategy, ctx.hierarchy "Book", ctx.enrolled? book)) =
      some ({}, {}, .ok [item, book], some { cls := book }) := by
    revert item book opened ws
    rfl
  have told : ToldApart fun cls => cls = item ∨ cls = book := .pair (by decide)
  have begun : opened.ReachedWith fun cls => cls = item ∨ cls = book := .opened .start 0 "c" {} {} .transparent
  have added := begun.called 0 (.add item) fun cls brought => Or.inl (Option.some.inj brought).symm
  have reached := added.called 0 (.register book) fun cls brought => Or.inr (Option.some.inj brought).symm
  have initialized : ((ws.context? 0).bind (·.entity? "Item")).map (·.isInitialized) = some true := by decide
  obtain ⟨ctx, hctx, shown⟩ := Option.map_eq_some_iff.mp shown
  obtain ⟨settings, strategy, found, entity⟩ := by simpa only [Prod.mk.injEq] using shown
  rw [hctx, Option.bind_some] at initialized
  obtain ⟨e, he, ready⟩ := Option.map_eq_some_iff.mp initialized
  obtain ⟨⟨origin, hierarchy, -, -, chain, classes, built⟩, extends_⟩ :=
    ReachedWith.extendedBy told reached hctx he ready
  -- Of the two classes only the item can be at the end of the hierarchy, and there is none above it.
  obtain rfl : hierarchy = [item] := by
    obtain ⟨line, walked, rfl⟩ := map_eq_ok.mp chain
    have lowest := built.lowest
    rw [Context.name_of_entity? he, Context.chainFrom, if_neg (by simp)] at walked
    rw [Context.name_of_entity? he, List.getLast?_reverse] at lowest
    split at walked
    · cases walked
    next cls _ =>
      split at walked
      · cases walked
        rcases classes cls List.mem_cons_self with rfl | rfl
        · rfl
        · exact absurd (Option.some.inj lowest) (by decide)
      next superclass above =>
        obtain ⟨rest, -, rfl⟩ := map_eq_ok.mp walked
        rcases classes cls (List.mem_reverse.mpr List.mem_cons_self) with rfl | rfl
        · cases above
        · exact absurd (Option.some.inj lowest) (by decide)
  rw [settings, strategy] at built extends_
  have leaves : book.LeavesIdentity (Layout.mappingOf {} [item]) := ⟨rfl, by decide, by decide, by decide⟩
  obtain ⟨child, run, cls_eq, -, extended⟩ := (extends_ [item] book built leaves).2 found entity rfl ⟨none, rfl⟩
  exact ⟨ctx, e, child, hctx, he, ready, run, cls_eq, extended⟩

end Workspace
end Persistence
