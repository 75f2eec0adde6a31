import Persistence.Proofs.Metamodel.Regularity

/-! Properties with a field behind them. Wherever a hierarchy declares a field of the name of a property, or else the
    field that the trait of its getter brings along, the property is read from that field and written to it. So a value
    reads back as it was converted, whatever is recorded on the way, and no other field but the one of the records
    changes. -/

namespace Persistence

/-! ### Fields of a hierarchy -/

namespace Hierarchy

variable {hierarchy : List Class} {name : String} {field : Field}

/-- A class of the hierarchy has a field of the name. -/
def Declares (hierarchy : List Class) (name : String) : Prop :=
  ∃ cls ∈ hierarchy, ∃ field ∈ cls.fields, field.name = name

/-- The field behind a property is the one of its name, whichever class has it, or else the one that the trait of its
getter brings along. -/
inductive Backs (hierarchy : List Class) (property : String) : String → Prop where
  | own (declared : Declares hierarchy property) : Backs hierarchy property property
  | trait {m : Method} {trait : String} (fieldless : ¬Declares hierarchy property)
    (getter : getter? hierarchy property = some m) (brought : m.origin.trait? = some trait)
    (declared : Declares hierarchy (Naming.traitField trait property)) :
    Backs hierarchy property (Naming.traitField trait property)

theorem field?_eq_some (h : field? hierarchy name = some field) : field.name = name ∧ Declares hierarchy name := by
  obtain ⟨cls, hcls, found⟩ := List.exists_of_findSome?_eq_some h
  have same : field.name = name := by simpa using List.find?_some found
  exact ⟨same, cls, List.mem_reverse.mp hcls, field, List.mem_of_find?_eq_some found, same⟩

theorem field?_eq_none_iff : field? hierarchy name = none ↔ ¬Declares hierarchy name := by
  simp [field?, Outline.field?, Declares, List.findSome?_eq_none_iff]

theorem Declares.field? (h : Declares hierarchy name) :
    ∃ field, field? hierarchy name = some field ∧ field.name = name := by
  cases found : Hierarchy.field? hierarchy name with
  | none => exact absurd h (field?_eq_none_iff.mp found)
  | some field => exact ⟨field, rfl, (field?_eq_some found).1⟩

end Hierarchy

namespace AccessorPair

variable {hierarchy : List Class} {entity slot : String} {p : Property} {pair : AccessorPair}

theorem resolve_of_backs (h : Hierarchy.Backs hierarchy p.name slot) :
    resolve hierarchy entity p = .ok (ofField hierarchy p slot) := by
  rw [resolve]
  cases h with
  | own declared =>
    obtain ⟨field, found, same⟩ := declared.field?
    simp only [found, same]
  | trait fieldless getter brought declared =>
    obtain ⟨field, found, same⟩ := declared.field?
    simp only [Hierarchy.field?_eq_none_iff.mpr fieldless, getter, traitField?, brought, Option.map_some,
      Option.bind_some, found, same]

/-- What is read from a field has that field behind it. -/
theorem backs_of_resolve (h : resolve hierarchy entity p = .ok pair) (read : pair.reader.field? = some slot) :
    Hierarchy.Backs hierarchy p.name slot := by
  rw [resolve] at h
  split at h
  next field found =>
    cases h
    cases read
    obtain ⟨same, declared⟩ := Hierarchy.field?_eq_some found
    rw [same]
    exact .own declared
  next undeclared =>
    split at h
    · cases h
    next m getter =>
      split at h
      next field found =>
        cases h
        cases read
        obtain ⟨name, brought, found⟩ := Option.bind_eq_some_iff.mp found
        obtain ⟨trait, origin, rfl⟩ := Option.map_eq_some_iff.mp brought
        obtain ⟨same, declared⟩ := Hierarchy.field?_eq_some found
        rw [same]
        exact .trait (Hierarchy.field?_eq_none_iff.mp undeclared) getter origin declared
      · split at h
        · cases h
          cases read
        · cases h

end AccessorPair

/-! ### Reflectors -/

namespace Reflector

variable {described : Class → Prop} {hierarchy : List Class} {properties : List Property} {identity : Identity}
  {r : Reflector} {p : Property}

/-- A reflector that was compiled for a hierarchy, apart from how it handles proxies. -/
structure CompiledFor (hierarchy : List Class) (layout : Layout) (r : Reflector) : Prop where
  fits : ∀ p ∈ layout.properties ++ layout.identity.members, p.Fits hierarchy
  accessors : compile 0 hierarchy layout.properties layout.identity .direct = .ok r.bare

/-- Entries that are what they say give out what would be compiled in their place. -/
theorem supply_compiledFor (told : ToldApart described) :
    Supply described (·.Honest described fun _ => True) CompiledFor where
  served honest classes fits serves := ⟨fits, (honest.bare_of_serves told classes fits serves).1⟩
  compiled classes fits compiled := by
    refine ⟨⟨fits, ?_⟩, .compiled classes fits trivial compiled⟩
    rw [← bare_compile, compiled]
    rfl

theorem resolve_of_mem_compileIdentity {entity : String} {access : IdentityAccess} {member : IdentifierAccess}
    (h : compileIdentity hierarchy entity identity = .ok access) (hmember : member ∈ access.members) :
    ∃ p ∈ identity.members, p.name = member.name ∧ AccessorPair.resolve hierarchy entity p = .ok member.pair := by
  have compiled : ∃ p ∈ identity.members, compileIdentifier hierarchy entity p = .ok member := by
    cases identity with
    | single p =>
      obtain ⟨only, found, h⟩ := bind_eq_ok.mp h
      cases h
      cases List.mem_singleton.mp hmember
      exact ⟨p, List.mem_singleton_self p, found⟩
    | composite members =>
      obtain ⟨accesses, found, h⟩ := bind_eq_ok.mp h
      cases h
      exact exists_of_mem_mapM found hmember
  obtain ⟨p, hp, found⟩ := compiled
  refine ⟨p, hp, (name_compileIdentifier found).symm, ?_⟩
  obtain ⟨pair, resolved, found⟩ := bind_eq_ok.mp found
  cases found
  exact resolved

/-- Whatever is reached by a name is what the hierarchy has for a property of that name. -/
theorem Assembled.resolve_of_get? {handling : ProxyHandling} {name : String} {pair : AccessorPair}
    (h : r.Assembled hierarchy properties identity handling) (found : r.byName.get? name = some pair) :
    ∃ p ∈ properties ++ identity.members, p.name = name ∧ AccessorPair.resolve hierarchy r.entity p = .ok pair := by
  rw [h.byName, Keyed.get?_ofList] at found
  obtain ⟨entry, hentry, rfl⟩ := Option.map_eq_some_iff.mp found
  have same : entry.1 = name := by simpa using List.find?_some hentry
  rcases List.mem_append.mp (List.mem_reverse.mp (List.mem_of_find?_eq_some hentry)) with listed | identifying
  · obtain ⟨pair, hpair, rfl⟩ := List.mem_map.mp listed
    obtain ⟨p, hp, resolved⟩ := exists_of_mem_mapM h.pairs hpair
    exact ⟨p, List.mem_append_left _ hp, (property_resolve resolved).symm.trans same, resolved⟩
  · obtain ⟨member, hmember, rfl⟩ := List.mem_map.mp identifying
    obtain ⟨p, hp, named, resolved⟩ := resolve_of_mem_compileIdentity h.identity hmember
    exact ⟨p, List.mem_append_right _ hp, named.trans same, resolved⟩

namespace CompiledFor

variable {layout : Layout}

/-- The parts are the same, however proxies are handled. -/
theorem assembled (h : r.CompiledFor hierarchy layout) :
    r.Assembled hierarchy layout.properties layout.identity r.handling := by
  obtain ⟨pairs, identity, byName, changesField, -⟩ := assembled_of_compile h.accessors
  exact ⟨pairs, identity, byName, changesField, rfl⟩

/-- A property is reached by its name, and the accessors are those that its hierarchy has for it. -/
theorem pair_eq_ok (h : r.CompiledFor hierarchy layout) (hp : p ∈ layout.properties ++ layout.identity.members) :
    ∃ pair, r.pair p.name = .ok pair ∧ AccessorPair.resolve hierarchy r.entity p = .ok pair := by
  obtain ⟨names, members⟩ := members_of_isCompiledFor (isCompiledFor_compile h.accessors)
  have known : p.name ∈ (r.pairs.map (fun pair => (pair.reader.property, pair)) ++
      r.identity.members.map fun member => (member.name, member.pair)).map (·.1) := by
    have named := List.mem_map_of_mem (f := Property.name) hp
    rw [List.map_append] at named ⊢
    rw [List.map_map, List.map_map]
    exact (congrArg₂ (p.name ∈ · ++ ·) names members).mpr named
  obtain ⟨pair, found⟩ := Keyed.exists_get?_ofList known
  rw [← h.assembled.byName] at found
  obtain ⟨q, hq, same, resolved⟩ := h.assembled.resolve_of_get? found
  refine ⟨pair, by rw [Reflector.pair, found], ?_⟩
  -- The name tells the type, and more than these two is not looked at.
  have bare : q.bare = p.bare := (h.fits q hq).bare_eq (h.fits p hp) same
  have one : AccessorPair.resolve hierarchy r.entity q.bare = AccessorPair.resolve hierarchy r.entity p.bare := by
    rw [bare]
  exact one.symm.trans resolved

/-- Changes are kept in one field, if the hierarchy has it. -/
theorem changesField_eq_some_iff (h : r.CompiledFor hierarchy layout) {field : String} :
    r.changesField = some field ↔ field = Naming.changesField ∧ Hierarchy.Declares hierarchy field := by
  rw [h.assembled.changesField, Option.map_eq_some_iff]
  constructor
  · rintro ⟨found, hfound, rfl⟩
    obtain ⟨same, declared⟩ := Hierarchy.field?_eq_some hfound
    rw [same]
    exact ⟨rfl, declared⟩
  · rintro ⟨rfl, declared⟩
    exact declared.field?

end CompiledFor
end Reflector

/-! ### Proxies -/

theorem Instance.depth_set (obj : Instance) (field : String) (value : Value) :
    (obj.set field value).depth = obj.depth := by
  cases obj <;> rfl

/-- Proxies are resolved to what they stand for: it is one object that is read and that is written, also once a field of
it was written. -/
structure ProxyHandling.Resolves (handling : ProxyHandling) : Prop where
  one : ∀ obj, (handling.reads obj).val = (handling.writes obj).val
  steady : ∀ obj field value,
    (handling.reads (handling.change (fun target => ((), target.set field value)) obj).2).val = (handling.reads obj).val

namespace ProxyHandling

variable {α : Type} {handling : ProxyHandling} {obj : Instance} {field : String} {value : Value}

theorem resolves_transparent : transparent.Resolves where
  one _ := rfl
  steady obj field value := Instance.depth_mapAlong (fun target => target.depth_set field value) obj.depth obj

theorem resolves_direct : direct.Resolves where
  one _ := rfl
  steady _ _ _ := rfl

theorem Resolves.target_eq (h : handling.Resolves) (obj : Instance) : handling.target obj = handling.unwrap obj := by
  rw [target, unwrap, h.one]

/-- The object that a proxy stands for has the field that was written. -/
theorem Resolves.unwrap_change (h : handling.Resolves) {f : Instance → α × Instance}
    (writes : (f (handling.unwrap obj)).2 = (handling.unwrap obj).set field value) :
    handling.unwrap (handling.change f obj).2 = (handling.unwrap obj).set field value := by
  have same : (handling.change f obj).2 = (handling.change (fun target => ((), target.set field value)) obj).2 := by
    refine Instance.mapAlong_snd_congr ?_
    rw [← target, h.target_eq]
    exact writes
  rw [same, unwrap, h.steady, h.one, change, Instance.along_mapAlong _ (Nat.le_of_lt_succ (handling.writes obj).isLt),
    ← target, h.target_eq]

end ProxyHandling

/-! ### Reading what was written -/

namespace Reflector

variable {r : Reflector} {hierarchy : List Class} {p : Property} {slot : String} {value : Value} {obj : Instance}

section Field
variable (reached : r.pair p.name = .ok (AccessorPair.ofField hierarchy p slot))
include reached

theorem getProperty_ofField : r.getProperty p.name obj = .ok ((r.handling.unwrap obj).get slot) := by
  rw [getProperty, reader, reached]
  rfl

theorem writer_ofField : ∃ kept, r.writer p.name = .ok (.field p.name slot p.type kept) := by
  rw [writer, reached]
  exact ⟨_, rfl⟩

theorem setProperty_ofField : r.setProperty p.name value obj =
    r.handling.change (fun target => (.ok (), target.set slot value)) obj := by
  rw [setProperty, writer, reached]
  rfl

end Field

/-- To record a change leaves all fields but that of the records as they are. -/
theorem get?_markChanged (resolves : r.handling.Resolves) {name other : String} {previous : Value}
    (apart : r.changesField ≠ some other) :
    Keyed.get? (r.handling.unwrap (r.markChanged name previous obj).2).slots other =
      Keyed.get? (r.handling.unwrap obj).slots other := by
  rw [markChanged]
  cases tracked : r.changesField with
  | none => rfl
  | some field =>
    have ne : other ≠ field := by
      rintro rfl
      exact apart tracked
    dsimp only
    rw [resolves.unwrap_change rfl, Instance.get?_set_of_ne _ _ ne]

end Reflector

/-- A value that the type of a property converts is written to the field behind the property and read from it, and of the
object that is reached nothing else changes but what is recorded of changes; any other value is refused and changes
nothing. -/
structure EntityAccess.RoundTrips (access : EntityAccess) (p : Property) (slot : String) (value : Value)
    (obj : Instance) : Prop where
  converted : ∀ w, p.type.convert value = .ok w → ∃ left, access.setProperty p.name value obj = (.ok (), left) ∧
    access.getProperty p.name left = .ok w ∧
    ∀ other, other ≠ slot → access.reflector.changesField ≠ some other →
      Keyed.get? (access.reflector.handling.unwrap left).slots other =
        Keyed.get? (access.reflector.handling.unwrap obj).slots other
  refused : ∀ cause, p.type.convert value = .error cause → access.setProperty p.name value obj =
    (.error (.unassignable p.name p.type.display access.entity value.display (.unconvertible cause)), obj)

namespace EntityAccess

variable {access : EntityAccess} {hierarchy : List Class} {p : Property} {slot : String} {value w : Value}
  {obj : Instance}

theorem preparedWrite_ofField (reached : access.reflector.pair p.name = .ok (AccessorPair.ofField hierarchy p slot)) :
    access.preparedWrite p.name value obj =
      (fun w => ((access.reflector.handling.unwrap obj).get slot, w)) <$> access.converted p.name p.type value := by
  obtain ⟨kept, writer⟩ := Reflector.writer_ofField reached
  rw [preparedWrite, writer, Reflector.getProperty_ofField reached]
  change (do let w ← access.converted p.name p.type value; _) = _
  cases access.converted p.name p.type value <;> rfl

theorem roundTrips (reached : access.reflector.pair p.name = .ok (AccessorPair.ofField hierarchy p slot))
    (resolves : access.reflector.handling.Resolves) (value : Value) (obj : Instance) :
    access.RoundTrips p slot value obj where
  converted w hw := by
    let previous := (access.reflector.handling.unwrap obj).get slot
    let marked := if previous.alike w then obj else (access.reflector.markChanged p.name previous obj).2
    let write := fun target : Instance => ((.ok () : Except Fault Unit), target.set slot w)
    have prepared : access.preparedWrite p.name value obj = .ok (previous, w) := by
      rw [preparedWrite_ofField reached, converted, hw]
      rfl
    have written : access.setProperty p.name value obj = access.reflector.handling.change write marked := by
      rw [setProperty, prepared]
      exact Reflector.setProperty_ofField reached
    have left : access.reflector.handling.unwrap (access.reflector.handling.change write marked).2 =
        (access.reflector.handling.unwrap marked).set slot w := resolves.unwrap_change rfl
    refine ⟨(access.reflector.handling.change write marked).2, ?_, ?_, fun other ne apart => ?_⟩
    · rw [written]
      exact Prod.ext (access.reflector.handling.fst_change write marked) rfl
    · rw [getProperty, Reflector.getProperty_ofField reached, left, Instance.get_set_self]
    · rw [left, Instance.get?_set_of_ne _ _ ne]
      unfold marked
      split
      · rfl
      · exact Reflector.get?_markChanged resolves apart
  refused cause failed := by
    rw [setProperty, preparedWrite_ofField reached, converted, failed]
    rfl

end EntityAccess

namespace Entity

/-- A property is one of the entity's if it is listed or a member of the identity. -/
def Has (e : Entity) (p : Property) : Prop :=
  p ∈ e.properties ∨ ∃ identity, e.identity? = some identity ∧ p ∈ identity.members

/-- The properties of an entity that have a field of a hierarchy behind them are those that are read from that field, and
they all read as they are written; changes are recorded in one field, if the hierarchy has that. -/
structure RoundTrips (e : Entity) (hierarchy : List Class) (access : EntityAccess) : Prop where
  entity : access.entity = e.name
  records : ∀ field, access.reflector.changesField = some field ↔
    field = Naming.changesField ∧ Hierarchy.Declares hierarchy field
  backed : ∀ p, e.Has p → ∀ slot, Hierarchy.Backs hierarchy p.name slot ↔
    ∃ reader, access.reflector.reader p.name = .ok reader ∧ reader.field? = some slot
  written : access.reflector.handling.Resolves → ∀ p, e.Has p → ∀ slot, Hierarchy.Backs hierarchy p.name slot →
    ∀ value obj, access.RoundTrips p slot value obj

theorem roundTrips_of_compiledFor {cls : Class} {model : EntityModel} {hierarchy : List Class}
    (h : model.reflector.CompiledFor hierarchy model.layout) :
    Entity.RoundTrips { cls, phase := .ready model } hierarchy ⟨cls.name, model.layout.identity, model.reflector⟩ := by
  have reached (p : Property) (has : Entity.Has { cls, phase := .ready model } p) :
      ∃ pair, model.reflector.pair p.name = .ok pair ∧
        AccessorPair.resolve hierarchy model.reflector.entity p = .ok pair := by
    refine h.pair_eq_ok (List.mem_append.mpr (has.imp id ?_))
    rintro ⟨identity, ⟨⟩, hp⟩
    exact hp
  refine ⟨rfl, fun field => h.changesField_eq_some_iff, fun p has slot => ⟨fun backs => ?_, ?_⟩,
    fun resolves p has slot backs value obj => ?_⟩
  · obtain ⟨pair, found, resolved⟩ := reached p has
    cases (AccessorPair.resolve_of_backs backs).symm.trans resolved
    exact ⟨_, by rw [Reflector.reader, found]; rfl, rfl⟩
  · rintro ⟨reader, read, field⟩
    obtain ⟨pair, found, resolved⟩ := reached p has
    rw [Reflector.reader, found] at read
    cases read
    exact AccessorPair.backs_of_resolve resolved field
  · obtain ⟨pair, found, resolved⟩ := reached p has
    cases (AccessorPair.resolve_of_backs backs).symm.trans resolved
    exact EntityAccess.roundTrips found resolves value obj

end Entity

namespace Workspace

/-- What holds of the accessors of an entity wherever they are compiled for the classes of a hierarchy, holds of an entity
that has its model and the hierarchy that this was built of, whatever contexts there are and whatever caches they share. -/
theorem ReachedWith.of_compiledFor {described : Class → Prop} {ws : Workspace} {id : Nat} {ctx : Context} {name : String}
    {e : Entity} {P : Entity → List Class → EntityAccess → Prop} (reached : ws.ReachedWith described)
    (told : ToldApart described) (hctx : ws.context? id = some ctx) (he : ctx.entity? name = some e)
    (ready : e.isInitialized = true)
    (compiled : ∀ cls (model : EntityModel) hierarchy, model.reflector.CompiledFor hierarchy model.layout →
      P { cls, phase := .ready model } hierarchy ⟨cls.name, model.layout.identity, model.reflector⟩) :
    ∃ (origin : Context) (hierarchy : List Class) (access : EntityAccess), origin.settings = ctx.settings ∧
      origin.strategy = ctx.strategy ∧ origin.hierarchy e.name = .ok hierarchy ∧ (∀ cls ∈ hierarchy, described cls) ∧
      e.access = .ok access ∧ P e hierarchy access := by
  obtain ⟨model, origin, same, settings, strategy, suited⟩ :=
    reached.model (Reflector.supply_compiledFor told) hctx he ready
  obtain ⟨hierarchy, found, classes, suited⟩ := suited.reflector
  refine ⟨origin, hierarchy, ⟨e.name, model.layout.identity, model.reflector⟩, settings, strategy, found, classes,
    ?_, ?_⟩
  · rw [same]
    rfl
  · rw [same]
    exact compiled e.cls model hierarchy suited

/-- Whatever contexts there are and whatever caches they share, the properties of an entity that has its model read as they
are written wherever there is a field behind them in the hierarchy that the model was built of. -/
theorem ReachedWith.entity_roundTrips {described : Class → Prop} {ws : Workspace} {id : Nat} {ctx : Context}
    {name : String} {e : Entity} (told : ToldApart described) (reached : ws.ReachedWith described)
    (hctx : ws.context? id = some ctx) (he : ctx.entity? name = some e) (ready : e.isInitialized = true) :
    ∃ (origin : Context) (hierarchy : List Class) (access : EntityAccess), origin.settings = ctx.settings ∧
      origin.strategy = ctx.strategy ∧ origin.hierarchy e.name = .ok hierarchy ∧ (∀ cls ∈ hierarchy, described cls) ∧
      e.access = .ok access ∧ e.RoundTrips hierarchy access := by
  exact reached.of_compiledFor told hctx he ready fun _ _ _ => Entity.roundTrips_of_compiledFor

/-- The field behind the pages comes along with a trait of the superclass, and the class tracks changes. The pages are
written through a proxy. -/
theorem ReachedWith.entity_roundTrips_trait :
    let item : Class := Class.addTraitProperty { stamp := 1, name := "Item" } "app.Paged" "pages" .long
    let book : Class := Class.trackChanges
      { stamp := 2, name := "Book", superclass := some "Item", isEntity := true
        fields := [{ name := "id", type := .long }] }
    let opened : Workspace := ({} : Workspace).openContext 0 "c" {}
    let ws := ((opened.run 0 (Call.register item).perform).2.2.run 0 (Call.add book).perform).2.2
    let obj : Instance := .plain book [("id", .integer 1)]
    ∃ (ctx : Context) (e : Entity) (access : EntityAccess) (left : Instance), ws.context? 0 = some ctx ∧
      ctx.entity? "Book" = some e ∧ e.access = .ok access ∧
      access.setProperty "pages" (.text "120") (.proxied obj) = (.ok (), left) ∧
      access.getProperty "pages" left = .ok (.integer 120) ∧
      ∀ other, other ≠ "app_Paged__pages" → other ≠ Naming.changesField →
        Keyed.get? (access.reflector.handling.unwrap left).slots other = Keyed.get? obj.slots other := by
  intro item book opened ws obj
  have shown : ((ws.context? 0).bind fun ctx => (ctx.entity? "Book").bind fun e => e.access.toOption.bind fun access =>
      (access.reflector.reader "pages").toOption.map fun reader =>
        (e.isInitialized, e.properties.map (fun p => (p.name, p.type)), reader.field?, access.reflector.handling)) =
      some (true, [("pages", .long)], some "app_Paged__pages", .transparent) := by
    revert item book opened ws obj
    rfl
  obtain ⟨ctx, hctx, shown⟩ := Option.bind_eq_some_iff.mp shown
  obtain ⟨e, he, shown⟩ := Option.bind_eq_some_iff.mp shown
  obtain ⟨access, accessed, shown⟩ := Option.bind_eq_some_iff.mp shown
  obtain ⟨reader, read, shown⟩ := Option.map_eq_some_iff.mp shown
  obtain ⟨ready, listed, field, handling⟩ := by simpa only [Prod.mk.injEq] using shown
  have told : ToldApart fun cls => cls = item ∨ cls = book := by
    rintro _ _ (rfl | rfl) (rfl | rfl) same
    · rfl
    · cases same
    · cases same
    · rfl
  have begun : opened.ReachedWith fun cls => cls = item ∨ cls = book := .opened .start 0 "c" {} {} .transparent
  have registered := begun.called 0 (.register item) fun cls brought => Or.inl (Option.some.inj brought).symm
  have reached := registered.called 0 (.add book) fun cls brought => Or.inr (Option.some.inj brought).symm
  obtain ⟨origin, hierarchy, access', -, -, -, -, accessed', trips⟩ :=
    ReachedWith.entity_roundTrips told reached hctx he ready
  cases (toOption_eq_some.mp accessed).symm.trans accessed'
  obtain ⟨p, properties, same⟩ := List.map_eq_singleton_iff.mp listed
  obtain ⟨named, type⟩ := Prod.mk.inj same
  have has : e.Has p := Or.inl (by rw [properties]; exact List.mem_singleton_self p)
  have backs := (trips.backed p has "app_Paged__pages").mpr
    ⟨reader, by rw [named]; exact toOption_eq_some.mp read, field⟩
  have resolves : access.reflector.handling.Resolves := by
    rw [handling]
    exact ProxyHandling.resolves_transparent
  obtain ⟨left, written, back, kept⟩ := (trips.written resolves p has _ backs (.text "120") (.proxied obj)).converted
    (.integer 120) (by rw [type]; rfl)
  rw [named] at written back
  refine ⟨ctx, e, access, left, hctx, he, accessed', written, back, fun other ne apart => ?_⟩
  rw [kept other ne fun records => apart ((trips.records other).mp records).1, handling]
  rfl

end Workspace
end Persistence
