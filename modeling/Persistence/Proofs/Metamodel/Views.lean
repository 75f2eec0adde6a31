import Mathlib.Data.List.Nodup
import Persistence.Proofs.Metamodel.Discovered
import Persistence.Proofs.Metamodel.Retry

/-! The views that an initialized entity gives of its properties. They are all cut out of one scan, whose names are
    distinct, and of one identity, whose members are told apart by their names; so a name is indexed just if it is
    listed or that of a member, and what it is indexed for is the listed property or the member itself. -/

namespace Persistence

/-! ### Members of an identity -/

/-- Properties of which a name tells which one it is. -/
def Property.ByName (properties : List Property) : Prop :=
  ∀ p ∈ properties, ∀ q ∈ properties, p.name = q.name → p = q

theorem Property.byName_of_nodup {properties : List Property} (h : (properties.map (·.name)).Nodup) :
    Property.ByName properties :=
  fun _ hp _ hq same => List.inj_on_of_nodup_map h hp hq same

namespace Discovery

variable {settings : Settings} {cls : Class} {hierarchy : List Class} {mapping : EntityMapping}
  {scanned : List Property} {identity : Identity} {p : Property} {name : String}

theorem name_identityMember (h : identityMember settings cls hierarchy mapping name = .ok p) : p.name = name := by
  unfold identityMember at h
  split at h
  next candidate found =>
    have same : candidate.name = name := by simpa using List.find?_some found
    cases h
    exact same
  · cases h

/-- A member of a declared identity is the one that its own name declares. -/
theorem identityMember_of_declaredIdentity (h : declaredIdentity settings cls hierarchy mapping = .ok identity)
    (hp : p ∈ identity.members) : identityMember settings cls hierarchy mapping p.name = .ok p := by
  unfold declaredIdentity at h
  split at h
  · cases h
  · obtain ⟨member, found, rfl⟩ := map_eq_ok.mp h
    obtain rfl := List.mem_singleton.mp hp
    rw [name_identityMember found]
    exact found
  · obtain ⟨members, found, rfl⟩ := map_eq_ok.mp h
    obtain ⟨declared, -, hdeclared⟩ := exists_of_mem_mapM found hp
    rw [name_identityMember hdeclared]
    exact hdeclared

/-- Marked members are told apart by their names because scanned properties are, and declared ones because they are
looked up by them. -/
theorem byName_identity (distinct : (scanned.map (·.name)).Nodup)
    (h : Discovery.identity settings cls hierarchy mapping scanned = .ok identity) : Property.ByName identity.members := by
  have marked : Property.ByName (scanned.filter Property.isIdentity) :=
    Property.byName_of_nodup (distinct.sublist (List.filter_sublist.map _))
  rw [Discovery.identity_eq] at h
  split at h
  · intro p hp q hq same
    have hp := identityMember_of_declaredIdentity h hp
    have hq := identityMember_of_declaredIdentity h hq
    rw [same] at hp
    exact Except.ok.inj (hp.symm.trans hq)
  next only =>
    cases h
    rw [only] at marked
    exact marked
  · cases h
    exact marked

end Discovery

/-! ### Indexing -/

namespace Layout

variable {entries : Keyed Property} {properties members : List Property} {n : String}

/-- A name reads as the last property that was entered under it. -/
theorem get?_enter_named : (enter entries (named properties)).get? n =
    (properties.reverse.find? (·.name == n)).or (entries.get? n) := by
  unfold enter named
  rw [Keyed.get?_foldl_put, ← List.map_reverse, List.find?_map, Option.map_map]
  congr 1
  exact Option.map_id'

theorem find?_reverse_of_byName (apart : Property.ByName properties) {p : Property} (hp : p ∈ properties) :
    properties.reverse.find? (·.name == p.name) = some p := by
  have found : (properties.reverse.find? (·.name == p.name)).isSome = true :=
    List.find?_isSome.mpr ⟨p, List.mem_reverse.mpr hp, beq_self_eq_true _⟩
  obtain ⟨q, hq⟩ := Option.isSome_iff_exists.mp found
  have same : q.name = p.name := by simpa using List.find?_some hq
  rw [hq, apart q (List.mem_reverse.mp (List.mem_of_find?_eq_some hq)) p hp same]

theorem isSome_find?_reverse : (properties.reverse.find? (·.name == n)).isSome = true ↔
    n ∈ properties.map (·.name) := by
  simp [List.find?_isSome, List.mem_map]

end Layout

/-! ### Views -/

namespace Entity

/-- What the index of exact names has for a name. -/
def indexed? (entity : Entity) (name : String) : Option Property :=
  entity.layout?.bind (·.byName.get? name)

/-- All that an entity shows of its properties is cut out of the names that were discovered and of its identity; the
properties of the identity and those named like the default identifier are not listed. -/
structure ViewsAgree (entity : Entity) (identity : Identity) (identifier : String) (discovered : List String) :
    Prop where
  held : entity.identity? = some identity
  listed : entity.properties.map (·.name) =
    discovered.filter fun n => !identity.names.contains n && n != identifier
  distinct : (entity.properties.map (·.name)).Nodup
  unlisted : ∀ p ∈ entity.properties, p.name ∉ identity.names ∧ p.name ≠ identifier
  names : entity.propertyNames = (entity.properties.filter fun p => !p.isOneToMany).map (·.name)
  associations : entity.associations = entity.properties.filter Property.isAssociation
  embedded : entity.embedded = entity.properties.filter Property.isEmbedded
  indexed : ∀ n, (entity.indexed? n).isSome = true ↔ n ∈ entity.properties.map (·.name) ∨ n ∈ identity.names
  property : ∀ p ∈ entity.properties, entity.indexed? p.name = some p
  member : ∀ p ∈ identity.members, entity.indexed? p.name = some p
  accessors : ∃ r, entity.reflector = .ok r ∧ r.names = entity.properties.map (·.name)

end Entity

namespace Context

/-- The names of the members that a hierarchy offers to its last class, the root first and each name where it comes
first, less those that the strategy leaves out. -/
def discovered (ctx : Context) (hierarchy : List Class) : List String :=
  let mapping := ctx.settings.entityMapping (hierarchy.filterMap (·.mapping))
  ((hierarchy.flatMap (Discovery.offered mapping)).map (·.name)).eraseDups.filter fun n =>
    !ctx.strategy.skipped.contains n

theorem names_kept (ctx : Context) (cls : Class) (hierarchy : List Class) :
    (ctx.strategy.kept (Discovery.properties ctx.settings cls hierarchy
      (ctx.settings.entityMapping (hierarchy.filterMap (·.mapping))))).map (·.name) = ctx.discovered hierarchy := by
  unfold Strategy.kept discovered
  dsimp only
  rw [← Discovery.names_candidates, ← Discovery.names_properties ctx.settings cls, List.filter_map]
  rfl

theorem nodup_discovered (ctx : Context) (hierarchy : List Class) : (ctx.discovered hierarchy).Nodup :=
  (Discovery.nodup_eraseDups _).sublist List.filter_sublist

end Context

theorem Layout.names_listed {identity : Identity} {identifier : String} {scanned : List Property} :
    (scanned.filter fun p => !(identity.names ++ [identifier]).contains p.name).map (·.name) =
      (scanned.map (·.name)).filter fun n => !identity.names.contains n && n != identifier := by
  rw [List.filter_map]
  congr 1
  refine List.filter_congr fun p _ => ?_
  simp only [Function.comp_apply, List.contains_append, List.contains_cons, List.contains_nil, Bool.or_false,
    Bool.not_or, bne]

/-- The layout of a scan under an identity, with the accessors for it, gives views that agree. -/
theorem Entity.viewsAgree_of_arrange {entity : Entity} {model : EntityModel} {settings : Settings}
    {mapping : EntityMapping} {scanned : List Property} {identity : Identity} {tenant : Option Property}
    (hmodel : entity.model? = some model)
    (hlayout : model.layout = Layout.arrange settings mapping scanned identity tenant)
    (distinct : (scanned.map (·.name)).Nodup) (apart : Property.ByName identity.members)
    (hreflector : model.reflector.names = model.layout.properties.map (·.name)) :
    entity.ViewsAgree identity settings.identifier (scanned.map (·.name)) := by
  have hlayout? : entity.layout? = some (Layout.arrange settings mapping scanned identity tenant) := by
    rw [layout?, hmodel, Option.map_some, hlayout]
  generalize hlisted : (scanned.filter fun p => !(identity.names ++ [settings.identifier]).contains p.name) = listed
  have hproperties : entity.properties = listed := by
    rw [properties, hlayout?, ← hlisted]
    rfl
  have hnames : listed.map (·.name) =
      (scanned.map (·.name)).filter fun n => !identity.names.contains n && n != settings.identifier := by
    rw [← hlisted, Layout.names_listed]
  have hdistinct : (listed.map (·.name)).Nodup := hnames ▸ distinct.sublist List.filter_sublist
  have hunlisted : ∀ p ∈ listed, p.name ∉ identity.names ∧ p.name ≠ settings.identifier := by
    intro p hp
    have hp := hlisted ▸ hp
    simpa using (List.mem_filter.mp hp).2
  have hindexed : ∀ n, entity.indexed? n = (identity.members.reverse.find? (·.name == n)).or
      (listed.reverse.find? (·.name == n)) := by
    intro n
    rw [indexed?, hlayout?, ← hlisted]
    exact Layout.get?_enter_named.trans (by rw [Layout.get?_enter_named, Keyed.get?_nil, Option.or_none])
  exact {
    held := by rw [identity?, hlayout?]; rfl
    listed := by rw [hproperties, hnames]
    distinct := by rw [hproperties]; exact hdistinct
    unlisted := by rw [hproperties]; exact hunlisted
    names := by rw [hproperties, propertyNames, hlayout?, ← hlisted]; rfl
    associations := by rw [hproperties, Entity.associations, hlayout?, ← hlisted]; rfl
    embedded := by rw [hproperties, Entity.embedded, hlayout?, ← hlisted]; rfl
    indexed := fun n => by
      rw [hindexed, Option.isSome_or, Bool.or_eq_true, Layout.isSome_find?_reverse, Layout.isSome_find?_reverse,
        hproperties, or_comm]
      rfl
    property := fun p hp => by
      -- No member of the identity bears the name of a listed property.
      rw [hproperties] at hp
      have absent : identity.members.reverse.find? (·.name == p.name) = none := by
        rw [← Option.not_isSome_iff_eq_none, Layout.isSome_find?_reverse]
        exact (hunlisted p hp).1
      rw [hindexed, absent, Option.none_or, Layout.find?_reverse_of_byName (Property.byName_of_nodup hdistinct) hp]
    member := fun p hp => by rw [hindexed, Layout.find?_reverse_of_byName apart hp, Option.some_or]
    accessors := by
      refine ⟨model.reflector, ?_, ?_⟩
      · rw [reflector, requireModel, hmodel]
        rfl
      · rw [hreflector, hlayout, hproperties, ← hlisted]
        rfl }

/-- The views of a model that was built agree. -/
theorem EntityModel.Built.viewsAgree {model : EntityModel} {ctx : Context} {cls : Class} (h : model.Built ctx cls) :
    ∃ hierarchy, ctx.hierarchy cls.name = .ok hierarchy ∧
      Entity.ViewsAgree { cls, phase := .ready model } model.layout.identity ctx.settings.identifier
        (ctx.discovered hierarchy) := by
  obtain ⟨hierarchy, hhierarchy, hmapping, hlayout⟩ := h.layout
  have hnames := ctx.names_kept cls hierarchy
  rw [← hmapping] at hnames
  obtain ⟨identity, hidentity, hlayout⟩ := bind_eq_ok.mp hlayout
  obtain ⟨tenant, -, hlayout⟩ := bind_eq_ok.mp hlayout
  have arranged := (Except.ok.inj hlayout).symm
  have distinct := ctx.nodup_discovered hierarchy
  refine ⟨hierarchy, hhierarchy, ?_⟩
  rw [← hnames] at distinct ⊢
  have held : model.layout.identity = identity := by rw [arranged]; rfl
  rw [held]
  exact Entity.viewsAgree_of_arrange rfl arranged distinct (Discovery.byName_identity distinct hidentity)
    (Reflector.members_of_isCompiledFor h.reflector).1

/-- An initialization that succeeds leaves an entity whose views agree: one that has its model already stays as it
is, and any other one gets views that are cut out of what its hierarchy offers now. -/
theorem Action.viewsAgree_makeReady {σ τ : Site} {levels : Nat} {name : String} {e : Entity}
    (he : σ.context.entity? name = some e) (h : σ.run (makeReady (addWithin levels) name) = (.ok (), τ)) :
    ∃ e', τ.context.entity? name = some e' ∧ e'.cls = e.cls ∧ (e.isInitialized = true → e' = e) ∧
      (e.isInitialized = false → ∃ hierarchy identity, σ.context.hierarchy name = .ok hierarchy ∧
        e'.ViewsAgree identity σ.context.settings.identifier (σ.context.discovered hierarchy)) := by
  have hname : e.name = name := by simpa using List.find?_some he
  cases ready : e.isInitialized with
  | true =>
    have kept := (IsSteady.makeReady (IsSteady.addWithin levels) name).of_eq h
    refine ⟨e, kept.busy name e he ?_, rfl, fun _ => rfl, fun unready => by cases unready⟩
    intro idle
    simp [Entity.isInitialized, Entity.model?, idle] at ready
  | false =>
    obtain ⟨model, built, hmodel⟩ := makeReady_eq_ok (IsSteady.addWithin levels) he ready h
    obtain ⟨hierarchy, hhierarchy, agree⟩ := built.viewsAgree
    have hhierarchy : σ.context.hierarchy name = .ok hierarchy := hname ▸ hhierarchy
    exact ⟨_, hmodel, rfl, (fun ready => by cases ready), fun _ => ⟨hierarchy, _, hhierarchy, agree⟩⟩

/-- A mapping declares two members of the subclass as the identity. The member of the name of the default identifier is
discovered and not listed, and the one-to-many member is listed and not named. -/
theorem Action.viewsAgree_composite :
    let root : Class :=
      { stamp := 1, name := "Item", fields := [{ name := "id", type := .long }, { name := "title", type := .text }] }
    let book : Class :=
      { stamp := 2, name := "Book", superclass := some "Item", isEntity := true
        fields := [{ name := "isbn", type := .text }, { name := "shop", type := .text },
          { name := "reviews", type := .list (.entity "Review") }]
        mapping := some { identifier := some { names := ["shop", "isbn"] } } }
    let σ : Site := { context := ((({} : Context).register root).register book).enroll book }
    ∃ (e : Entity) (identity : Identity) (τ : Site), σ.run (makeReady (addWithin 3) "Book") = (.ok (), τ) ∧
      τ.context.entity? "Book" = some e ∧
      e.ViewsAgree identity "id" ["id", "title", "isbn", "shop", "reviews"] ∧ identity.names = ["shop", "isbn"] ∧
      e.properties.map (·.name) = ["title", "reviews"] ∧ e.propertyNames = ["title"] := by
  intro root book σ
  have succeeds : (σ.run (makeReady (addWithin 3) "Book")).1.isOk = true := by decide
  have shown : ((σ.run (makeReady (addWithin 3) "Book")).2.context.entity? "Book").map (fun e =>
      (e.identity?.map (·.names), e.propertyNames)) = some (some ["shop", "isbn"], ["title"]) := by decide
  have offered : (σ.context.hierarchy "Book").toOption.map σ.context.discovered =
      some ["id", "title", "isbn", "shop", "reviews"] := by decide
  have known : σ.context.entity? "Book" = some { cls := book } := rfl
  obtain ⟨⟨⟩, ready⟩ := Site.run_of_isOk succeeds
  obtain ⟨e, he, -, -, agree⟩ := viewsAgree_makeReady known ready
  obtain ⟨hierarchy, identity, hhierarchy, views⟩ := agree rfl
  rw [hhierarchy] at offered
  rw [Option.some.inj offered] at views
  rw [he, Option.map_some, views.held] at shown
  obtain ⟨members, named⟩ := Prod.mk.inj (Option.some.inj shown)
  have members : identity.names = ["shop", "isbn"] := Option.some.inj members
  have listed := views.listed
  rw [members] at listed
  exact ⟨e, identity, _, ready, he, views, members, listed, named⟩

end Persistence
