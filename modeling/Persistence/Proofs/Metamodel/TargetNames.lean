import Persistence.Proofs.Metamodel.Inheritance

/-! Look-ups by target names. Of several properties that go by one target name the last one is indexed, and then those
    that are not listed are taken out, so that a target name may be lost together with a property that took it from
    another one. The members of the identity are put back, so that this happens with nothing but a property that is
    named like the default identifier. -/

namespace Persistence

/-! ### The index of target names -/

namespace Layout

variable {entries : Keyed Property} {pairs : List (String × Property)} {properties scanned : List Property}
  {settings : Settings} {mapping : EntityMapping} {identity : Identity} {tenant : Option Property} {n : String}
  {q : Property}

/-- The last one of the properties that have a name as their target name which is not their own one. -/
def lastAlias? (properties : List Property) (n : String) : Option Property :=
  properties.reverse.find? fun p => p.targetName? == some n && p.name != n

theorem mem_of_lastAlias? (h : lastAlias? properties n = some q) :
    q ∈ properties ∧ q.targetName? = some n ∧ q.name ≠ n :=
  ⟨List.mem_reverse.mp (List.mem_of_find?_eq_some h), by simpa using List.find?_some h⟩

theorem isSome_lastAlias? : (lastAlias? properties n).isSome = true ↔
    ∃ p ∈ properties, p.targetName? = some n ∧ p.name ≠ n := by
  simp [lastAlias?, List.find?_isSome]

theorem sorted_enter (sorted : entries.Sorted) : (enter entries pairs).Sorted := by
  induction pairs generalizing entries with
  | nil => exact sorted
  | cons pair rest ih => exact ih (sorted.put pair.1 pair.2)

theorem lastAlias?_cons {p : Property} : lastAlias? (p :: properties) n =
    (lastAlias? properties n).or (if p.targetName? = some n ∧ p.name ≠ n then some p else none) := by
  rw [lastAlias?, List.reverse_cons, List.find?_append, List.find?_singleton]
  simp [lastAlias?]

/-- A target name reads as the last property that goes by it. -/
theorem get?_enter_targeted : (enter entries (targeted properties)).get? n =
    (lastAlias? properties n).or (entries.get? n) := by
  -- What is entered later hides what was entered before, so the entries vary along the properties.
  induction properties generalizing entries with
  | nil => rfl
  | cons p rest ih =>
    rw [lastAlias?_cons, Option.or_assoc, targeted, List.filterMap_cons]
    rcases htarget : p.targetName? with - | target
    · exact ih.trans (by simp)
    dsimp only
    by_cases own : target = p.name
    · subst own
      rw [if_pos rfl]
      refine ih.trans (congrArg _ ?_)
      rw [if_neg fun h => h.2 (Option.some.inj h.1), Option.none_or]
    · rw [if_neg own]
      refine ih.trans (congrArg _ ?_)
      rw [Keyed.get?_put]
      by_cases same : n = target
      · subst same
        rw [if_pos rfl, if_pos ⟨rfl, Ne.symm own⟩, Option.some_or]
      · rw [if_neg same, if_neg fun h => same (Option.some.inj h.1).symm, Option.none_or]

/-- A target name leads to the last member of the identity that goes by it, or else to the last of the scanned properties
that do, if that one is listed. -/
theorem get?_byTarget_arrange : (arrange settings mapping scanned identity tenant).byTarget.get? n =
    (lastAlias? identity.members n).or ((lastAlias? scanned n).filter fun p =>
      !(identity.names ++ [settings.identifier]).contains p.name) := by
  rw [arrange, get?_enter_targeted, Keyed.Sorted.get?_filter (sorted_enter List.Pairwise.nil), get?_enter_targeted,
    Keyed.get?_nil, Option.or_none]

end Layout

/-! ### Properties that are found -/

/-- What a context scans for a class of the given hierarchy. -/
def Context.scanned (ctx : Context) (cls : Class) (hierarchy : List Class) : List Property :=
  ctx.strategy.kept (Discovery.properties ctx.settings cls hierarchy
    (ctx.settings.entityMapping (hierarchy.filterMap (·.mapping))))

namespace Entity

/-- Something that the entity has goes by a name that is lost: nothing bears it, nothing of the identity goes by it, and
the last of the scanned properties that go by it is named like the default identifier. -/
structure Loses (e : Entity) (identifier : String) (scanned : List Property) (n : String) : Prop where
  unborne : ¬e.Bears n
  had : ∃ p, e.Has p ∧ p.targetName? = some n
  apart : ∀ identity, e.identity? = some identity → ∀ p ∈ identity.members, p.targetName? ≠ some n
  taken : ∃ q, Layout.lastAlias? scanned n = some q ∧ q.name = identifier

/-- What an entity finds by names and by target names. -/
structure Finds (e : Entity) (identifier : String) (scanned : List Property) : Prop where
  listed : ∀ p, p ∈ e.properties ↔ p ∈ scanned ∧ e.isIdentityName p.name = false ∧ p.name ≠ identifier
  named : ∀ p, e.Has p → e.property? p.name = some p
  sound : ∀ n p, e.property? n = some p → e.Has p ∧ (p.name = n ∨ ¬e.Bears n ∧ p.targetName? = some n)
  complete_iff : ∀ n, ((e.property? n).isSome = true ↔ e.Bears n ∨ ∃ p, e.Has p ∧ p.targetName? = some n) ↔
    ¬e.Loses identifier scanned n

section Finds
variable {e : Entity} {settings : Settings} {mapping : EntityMapping} {scanned : List Property} {identity : Identity}
  {tenant : Option Property} {discovered : List String} {n : String} {p q : Property}

theorem ViewsAgree.has_iff {identifier : String} (views : e.ViewsAgree identity identifier discovered) :
    e.Has p ↔ p ∈ e.properties ∨ p ∈ identity.members := by
  simp [Has, views.held]

/-- A name that is indexed leads to what bears it. -/
theorem ViewsAgree.of_indexed? {identifier : String} (views : e.ViewsAgree identity identifier discovered)
    (found : e.indexed? n = some q) : e.Has q ∧ q.name = n := by
  obtain ⟨p, has, rfl⟩ := views.isSome_indexed?_iff.mp (Option.isSome_of_eq_some found)
  have indexed : e.indexed? p.name = some p := (views.has_iff.mp has).elim (views.property p) (views.member p)
  cases indexed.symm.trans found
  exact ⟨has, rfl⟩

variable (laid : e.layout? = some (Layout.arrange settings mapping scanned identity tenant))

include laid

theorem targeted?_of_arrange : e.targeted? n = (Layout.lastAlias? identity.members n).or
    ((Layout.lastAlias? scanned n).filter fun p => !(identity.names ++ [settings.identifier]).contains p.name) := by
  rw [targeted?, laid, Option.bind_some, Layout.get?_byTarget_arrange]

theorem mem_properties_of_arrange : p ∈ e.properties ↔
    p ∈ scanned ∧ e.isIdentityName p.name = false ∧ p.name ≠ settings.identifier := by
  simp [properties, isIdentityName, identity?, laid, Layout.arrange]

variable (views : e.ViewsAgree identity settings.identifier discovered)

include views

/-- What goes by a target name is something that the entity has. -/
theorem of_targeted? (found : e.targeted? n = some q) : e.Has q ∧ q.targetName? = some n := by
  rw [targeted?_of_arrange laid] at found
  rcases Option.or_eq_some_iff.mp found with member | ⟨-, listed⟩
  · obtain ⟨held, target, -⟩ := Layout.mem_of_lastAlias? member
    exact ⟨views.has_iff.mpr (Or.inr held), target⟩
  · obtain ⟨last, listed⟩ := Option.filter_eq_some_iff.mp listed
    obtain ⟨held, target, -⟩ := Layout.mem_of_lastAlias? last
    refine ⟨Or.inl ((mem_properties_of_arrange laid).mpr ⟨held, ?_⟩), target⟩
    simpa [isIdentityName, views.held] using listed

/-- A name that something goes by and that leads nowhere is lost, as long as properties of the same name go by the same
target name. -/
theorem loses_of_targeted? (config : ∀ p ∈ scanned ++ identity.members, p.config = settings.propertyConfig mapping p.name)
    (unborne : ¬e.Bears n) (had : ∃ p, e.Has p ∧ p.targetName? = some n) (missed : e.targeted? n = none) :
    e.Loses settings.identifier scanned n := by
  have other {p : Property} (has : e.Has p) : p.name ≠ n := fun same => unborne ⟨p, has, same⟩
  rw [targeted?_of_arrange laid, Option.or_eq_none_iff] at missed
  obtain ⟨beside, dropped⟩ := missed
  have apart : ∀ p ∈ identity.members, p.targetName? ≠ some n := by
    intro p hp target
    have found := Layout.isSome_lastAlias?.mpr ⟨p, hp, target, other (views.has_iff.mpr (Or.inr hp))⟩
    rw [beside] at found
    cases found
  obtain ⟨p, has, target⟩ := had
  have listed : p ∈ e.properties := (views.has_iff.mp has).resolve_right fun member => apart p member target
  have scanning := ((mem_properties_of_arrange laid).mp listed).1
  obtain ⟨q, last⟩ := Option.isSome_iff_exists.mp (Layout.isSome_lastAlias?.mpr ⟨p, scanning, target, other has⟩)
  refine ⟨unborne, ⟨p, has, target⟩, fun _ held => ?_, q, last, ?_⟩
  · cases views.held.symm.trans held
    exact apart
  obtain ⟨held, goes, -⟩ := Layout.mem_of_lastAlias? last
  have unlisted : q.name ∈ identity.names ∨ q.name = settings.identifier := by
    rw [last] at dropped
    simpa [Option.filter_some, or_iff_not_imp_left] using dropped
  refine unlisted.resolve_left fun named => ?_
  -- A member of the same name would go by the name, too.
  obtain ⟨member, hmember, same⟩ := List.mem_map.mp named
  refine apart member hmember ?_
  rw [Property.targetName?, config member (List.mem_append_right _ hmember), same,
    ← config q (List.mem_append_left _ held)]
  exact goes

theorem finds_of_arrange
    (config : ∀ p ∈ scanned ++ identity.members, p.config = settings.propertyConfig mapping p.name) :
    e.Finds settings.identifier scanned where
  listed p := mem_properties_of_arrange laid
  named p has := by
    have indexed : e.indexed? p.name = some p := (views.has_iff.mp has).elim (views.property p) (views.member p)
    rw [property?_eq, indexed, Option.some_or]
  sound n p found := by
    rw [property?_eq] at found
    rcases Option.or_eq_some_iff.mp found with named | ⟨absent, targeted⟩
    · obtain ⟨has, same⟩ := views.of_indexed? named
      exact ⟨has, Or.inl same⟩
    · obtain ⟨has, target⟩ := of_targeted? laid views targeted
      refine ⟨has, Or.inr ⟨fun borne => ?_, target⟩⟩
      have indexed := views.isSome_indexed?_iff.mpr borne
      rw [absent] at indexed
      cases indexed
  complete_iff n := by
    have asked : (e.property? n).isSome = true ↔ e.Bears n ∨ (e.targeted? n).isSome = true := by
      rw [property?_eq, Option.isSome_or, Bool.or_eq_true, views.isSome_indexed?_iff]
    rw [asked]
    constructor
    · intro complete loses
      rcases complete.mpr (Or.inr loses.had) with borne | found
      · exact loses.unborne borne
      obtain ⟨q, last, named⟩ := loses.taken
      have beside : Layout.lastAlias? identity.members n = none := by
        rw [Option.eq_none_iff_forall_ne_some]
        intro p hp
        obtain ⟨member, target, -⟩ := Layout.mem_of_lastAlias? hp
        exact loses.apart identity views.held p member target
      rw [targeted?_of_arrange laid, beside, last] at found
      simp [Option.filter_some, named] at found
    · intro kept
      by_cases borne : e.Bears n
      · exact iff_of_true (Or.inl borne) (Or.inl borne)
      refine or_congr_right ⟨fun found => ?_, fun had => ?_⟩
      · obtain ⟨q, hq⟩ := Option.isSome_iff_exists.mp found
        exact ⟨q, of_targeted? laid views hq⟩
      · by_contra missed
        exact kept (loses_of_targeted? laid views config borne had (Option.not_isSome_iff_eq_none.mp missed))

end Finds
end Entity

/-- Equal names have equal target names, in what is scanned and in the identity. -/
theorem Discovery.config_eq {settings : Settings} {cls : Class} {hierarchy : List Class} {mapping : EntityMapping}
    {strategy : Strategy} {identity : Identity} (resolved : Discovery.identity settings cls hierarchy mapping
      (strategy.kept (properties settings cls hierarchy mapping)) = .ok identity) :
    ∀ p ∈ strategy.kept (properties settings cls hierarchy mapping) ++ identity.members,
      p.config = settings.propertyConfig mapping p.name := by
  have scanned : ∀ p ∈ strategy.kept (properties settings cls hierarchy mapping),
      p.config = settings.propertyConfig mapping p.name := by
    intro p hp
    obtain ⟨c, -, rfl⟩ := List.mem_map.mp (List.mem_of_mem_filter hp)
    rfl
  refine List.forall_mem_append.mpr ⟨scanned, forall_identity scanned (fun name p found => ?_) resolved⟩
  obtain ⟨c, -, -, rfl⟩ := identityMember_eq_ok found
  rfl

/-- An entity with a model finds what was scanned for it, less what it loses. -/
theorem EntityModel.Built.finds {model : EntityModel} {ctx : Context} {cls : Class} (h : model.Built ctx cls) :
    ∃ hierarchy, ctx.hierarchy cls.name = .ok hierarchy ∧
      Entity.Finds { cls, phase := .ready model } ctx.settings.identifier (ctx.scanned cls hierarchy) := by
  obtain ⟨hierarchy, found, mapped, laid⟩ := h.layout
  obtain ⟨_, -, views⟩ := h.viewsAgree
  rw [mapped] at laid
  obtain ⟨identity, resolved, laid⟩ := bind_eq_ok.mp laid
  obtain ⟨tenant, -, laid⟩ := bind_eq_ok.mp laid
  have arranged := (Except.ok.inj laid).symm
  have held : model.layout.identity = identity := by rw [arranged]; rfl
  rw [held] at views
  exact ⟨hierarchy, found, Entity.finds_of_arrange (congrArg some arranged) views (Discovery.config_eq resolved)⟩

namespace Workspace

variable {ws : Workspace} {id : Nat} {ctx : Context} {name : String} {e : Entity}

/-- An initialized entity finds whatever it has by its name, and what else it finds goes by the target name. So it finds
something just if something bears the name or goes by it, unless the name is lost. -/
theorem Reached.entity_finds (reached : ws.Reached) (hctx : ws.context? id = some ctx) (he : ctx.entity? name = some e)
    (ready : e.isInitialized = true) :
    ∃ (origin : Context) (hierarchy : List Class), origin.settings = ctx.settings ∧ origin.strategy = ctx.strategy ∧
      origin.hierarchy e.name = .ok hierarchy ∧ e.Finds ctx.settings.identifier (origin.scanned e.cls hierarchy) := by
  obtain ⟨model, origin, same, settings, strategy, suited⟩ :=
    reached.reachedWith.model Reflector.supply_indexed hctx he ready
  obtain ⟨hierarchy, found, finds⟩ := suited.built.finds
  rw [← same, settings] at finds
  exact ⟨origin, hierarchy, settings, strategy, found, finds⟩

/-- The title, the disabled default identifier and the identity itself go by one target name, and the identity keeps it. -/
theorem Reached.entity_finds_shared :
    let label : PropertyConfig := { targetName := some "label" }
    let cls : Class :=
      { stamp := 1, name := "A", isEntity := true
        fields := [{ name := "title", type := .text }, { name := "code", type := .text }, { name := "id", type := .long }]
        mapping := some
          { identifier := some (.single "code"), properties := [("code", label), ("id", label), ("title", label)] } }
    let opened : Workspace := ({} : Workspace).openContext 0 "c" {}
    let ws := (opened.run 0 (Call.add cls).perform).2.2
    ∃ (ctx : Context) (e : Entity) (title code : Property), ws.context? 0 = some ctx ∧ ctx.entity? "A" = some e ∧
      e.properties = [title] ∧ e.property? "title" = some title ∧ e.property? "code" = some code ∧
      (e.property? "label").isSome = true ∧ (e.property? "id").isSome = false := by
  intro label cls opened ws
  have begun : opened.Reached := Reached.start.opened 0 "c" {} {} .transparent
  have reached : ws.Reached := begun.called 0 (.add cls)
  let title : Property := ⟨"title", .text, .simple, label, "A"⟩
  let code : Property := ⟨"code", .text, .identity, label, "A"⟩
  have shown : ((ws.context? 0).bind fun ctx => (ctx.entity? "A").map fun e =>
      (e.isInitialized, e.properties, e.identity?)) = some (true, [title], some (.single code)) := by decide
  obtain ⟨ctx, hctx, shown⟩ := Option.bind_eq_some_iff.mp shown
  obtain ⟨e, he, shown⟩ := Option.map_eq_some_iff.mp shown
  obtain ⟨ready, properties, identity⟩ := by simpa only [Prod.mk.injEq] using shown
  obtain ⟨origin, hierarchy, -, -, -, finds⟩ := reached.entity_finds hctx he ready
  have has (p : Property) : e.Has p ↔ p = title ∨ p = code := by
    simp [Entity.Has, properties, identity, Identity.members]
  have kept (n : String) (target : n = "label" ∨ n = "id") :=
    (finds.complete_iff n).mpr (by
      rintro ⟨-, ⟨p, hp, goes⟩, apart, -⟩
      have same : p.targetName? = some "label" := by
        rcases (has p).mp hp with rfl | rfl <;> rfl
      rw [same] at goes
      exact apart (.single code) identity code (List.mem_singleton_self code) goes)
  refine ⟨ctx, e, title, code, hctx, he, properties, finds.named title ((has title).mpr (Or.inl rfl)),
    finds.named code ((has code).mpr (Or.inr rfl)), ?_, ?_⟩
  · exact (kept "label" (Or.inl rfl)).mpr (Or.inr ⟨code, (has code).mpr (Or.inr rfl), rfl⟩)
  · rw [Bool.eq_false_iff, Ne, kept "id" (Or.inr rfl)]
    rintro (⟨p, hp, named⟩ | ⟨p, hp, goes⟩)
    · rcases (has p).mp hp with rfl | rfl <;> exact absurd named (by decide)
    · rcases (has p).mp hp with rfl | rfl <;> exact absurd goes (by decide)

/-- The disabled default identifier takes the target name of the title with it. -/
theorem Reached.not_entity_finds :
    ¬∀ (ws : Workspace) (id : Nat) (ctx : Context) (name : String) (e : Entity), ws.Reached →
      ws.context? id = some ctx → ctx.entity? name = some e → e.isInitialized = true →
      ∀ n, (e.property? n).isSome = true ↔ e.Bears n ∨ ∃ p, e.Has p ∧ p.targetName? = some n := by
  intro always
  let label : PropertyConfig := { targetName := some "label" }
  let cls : Class :=
    { stamp := 1, name := "A", isEntity := true
      fields := [{ name := "code", type := .text }, { name := "title", type := .text }, { name := "id", type := .long }]
      mapping := some { identifier := some (.single "code"), properties := [("id", label), ("title", label)] } }
  let opened : Workspace := ({} : Workspace).openContext 0 "c" {}
  let ws := (opened.run 0 (Call.add cls).perform).2.2
  have begun : opened.Reached := Reached.start.opened 0 "c" {} {} .transparent
  have reached : ws.Reached := begun.called 0 (.add cls)
  let title : Property := ⟨"title", .text, .simple, label, "A"⟩
  have shown : ((ws.context? 0).bind fun ctx => (ctx.entity? "A").map fun e =>
      (e.isInitialized, e.properties, (e.property? "label").isSome)) = some (true, [title], false) := by decide
  obtain ⟨ctx, hctx, shown⟩ := Option.bind_eq_some_iff.mp shown
  obtain ⟨e, he, shown⟩ := Option.map_eq_some_iff.mp shown
  obtain ⟨ready, properties, missed⟩ := by simpa only [Prod.mk.injEq] using shown
  have listed : title ∈ e.properties := properties ▸ List.mem_singleton_self title
  have found := (always ws 0 ctx "A" e reached hctx he ready "label").mpr (Or.inr ⟨title, Or.inl listed, rfl⟩)
  rw [missed] at found
  cases found

end Workspace
end Persistence
