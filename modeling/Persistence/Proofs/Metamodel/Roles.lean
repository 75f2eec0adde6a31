import Persistence.Proofs.Access.Positions

/-! Properties with a role. The version and the tenant of an entity are picked out of all that is scanned, before the
    members of the identity and whatever is named like the default identifier are unlisted. So an entity has hold of
    the property that it goes by just if that is none of these; otherwise the role is left with a property that is not
    listed, that its name does not lead to, or that has no accessors. -/

namespace Persistence

namespace Entity

/-- The property is the version or the tenant of the entity. -/
def HasRole (e : Entity) (p : Property) : Prop := e.version? = some p ∨ e.tenant? = some p

/-- The property is listed and not part of the identity, its name leads to it, and there is a reader for it. -/
structure Holds (e : Entity) (p : Property) : Prop where
  listed : p ∈ e.properties
  apart : e.isIdentityName p.name = false
  named : e.property? p.name = some p
  readable : ∃ r reader, e.reflector = .ok r ∧ r.reader p.name = .ok reader

/-- An entity whose views agree has hold of what it lists. -/
theorem holds_of_listed {e : Entity} {r : Reflector} {p : Property} {identity : Identity} {identifier : String}
    {discovered : List String} (views : e.ViewsAgree identity identifier discovered) (hr : e.reflector = .ok r)
    (aligned : r.Aligned) (names : r.names = e.properties.map (·.name)) (listed : p ∈ e.properties) : e.Holds p where
  listed := listed
  apart := by simp [isIdentityName, views.held, (views.unlisted p listed).1]
  named := by
    obtain ⟨layout, hlayout, found⟩ := Option.bind_eq_some_iff.mp (views.property p listed)
    rw [property?, hlayout, Option.bind_some, Layout.property?, found, Option.some_or]
  readable := by
    have member : p.name ∈ r.names := names ▸ List.mem_map_of_mem listed
    obtain ⟨index, hindex⟩ := List.getElem?_of_mem member
    obtain ⟨pair, -, found, -⟩ := Reflector.pairAt_eq_pair aligned hindex
    exact ⟨r, pair.reader, hr, by rw [Reflector.reader, found]; rfl⟩

end Entity

namespace Layout

variable {settings : Settings} {cls : Class} {mapping : EntityMapping} {scanned : List Property} {p : Property}

theorem mem_of_versionOf (h : versionOf mapping scanned = some p) : p ∈ scanned := by
  obtain ⟨candidate, -⟩ := Option.filter_eq_some_iff.mp h
  unfold versionCandidate? at candidate
  split at candidate
  · exact List.mem_of_find?_eq_some candidate
  · cases candidate

theorem mem_of_tenantFor (h : tenantFor settings cls scanned = .ok (some p)) : p ∈ scanned := by
  unfold tenantFor at h
  split at h
  · split at h
    next q last =>
      cases h
      exact List.mem_of_mem_filter (List.mem_of_getLast? last)
    · cases h
  · cases h

end Layout

/-- A property that a model has a role for is listed just if it is not part of the identity and not named like the
default identifier. -/
theorem EntityModel.Built.listed_iff {model : EntityModel} {ctx : Context} {cls : Class} {p : Property}
    (h : model.Built ctx cls) (role : model.layout.version = some p ∨ model.layout.tenant = some p) :
    p ∈ model.layout.properties ↔ p.name ∉ model.layout.identity.names ∧ p.name ≠ ctx.settings.identifier := by
  obtain ⟨hierarchy, -, -, laid⟩ := h.layout
  obtain ⟨identity, -, laid⟩ := bind_eq_ok.mp laid
  obtain ⟨tenant, htenant, laid⟩ := bind_eq_ok.mp laid
  generalize ctx.strategy.kept _ = scanned at htenant laid
  have arranged : Layout.arrange ctx.settings model.mapping scanned identity tenant = model.layout := Except.ok.inj laid
  rw [← arranged] at role ⊢
  -- Either way the property comes from the scan, and what is listed of that goes by names alone.
  have member : p ∈ scanned := by
    rcases role with version | held
    · exact Layout.mem_of_versionOf version
    · have same : tenant = some p := held
      exact Layout.mem_of_tenantFor (same ▸ htenant)
  simp [Layout.arrange, member]

namespace Workspace

variable {ws : Workspace} {id : Nat} {ctx : Context} {name : String} {e : Entity}

/-- An entity has hold of its version and of its tenant just if they are not part of the identity and not named like the
default identifier. -/
theorem Reached.holds_iff (reached : ws.Reached) (hctx : ws.context? id = some ctx) (he : ctx.entity? name = some e)
    (ready : e.isInitialized = true) :
    ∀ p, e.HasRole p → (e.Holds p ↔ e.isIdentityName p.name = false ∧ p.name ≠ ctx.settings.identifier) := by
  intro p role
  obtain ⟨model, same, regular⟩ := reached.model hctx he ready
  obtain ⟨origin, settings, built⟩ := regular.built
  obtain ⟨hierarchy, -, views⟩ := built.viewsAgree
  rw [← same] at views
  have layout : e.layout? = some model.layout := by
    rw [same]
    rfl
  have hr : e.reflector = .ok model.reflector := by
    rw [same]
    rfl
  have listed : p ∈ e.properties ↔ e.isIdentityName p.name = false ∧ p.name ≠ ctx.settings.identifier := by
    have role : model.layout.version = some p ∨ model.layout.tenant = some p := by
      simpa [Entity.HasRole, Entity.version?, Entity.tenant?, layout] using role
    simpa [Entity.properties, Entity.isIdentityName, layout, views.held, settings] using built.listed_iff role
  constructor
  · intro holds
    exact listed.mp holds.listed
  · intro apart
    have names := (Reflector.members_of_isCompiledFor built.reflector).1
    have properties : e.properties = model.layout.properties := by rw [Entity.properties, layout]
    exact Entity.holds_of_listed views hr (regular.aligned) (by rw [names, properties]) (listed.mpr apart)

/-- A class with tenants has a version, too. Both are beside the identity. -/
theorem Reached.holds_version_and_tenant :
    let cls : Class :=
      { stamp := 1, name := "A", isEntity := true, isMultiTenant := true
        fields := [{ name := "id", type := .long }, { name := "version", type := .long },
          { name := "tenantId", type := .text }] }
    let opened : Workspace := ({} : Workspace).openContext 0 "c" { settings := { tenancy := .discriminator } }
    let ws := (opened.run 0 (Call.add cls).perform).2.2
    ∃ (ctx : Context) (e : Entity) (version tenant : Property), ws.context? 0 = some ctx ∧ ctx.entity? "A" = some e ∧
      e.version? = some version ∧ e.tenant? = some tenant ∧ e.Holds version ∧ e.Holds tenant := by
  intro cls opened ws
  have begun : opened.Reached := Reached.start.opened 0 "c" { tenancy := .discriminator } {} .transparent
  have reached : ws.Reached := begun.called 0 (.add cls)
  have shown : ((ws.context? 0).bind fun ctx => (ctx.entity? "A").map fun e =>
      (e.isInitialized, ctx.settings.identifier, e.identity?.map (·.names), e.version?.map (·.name),
        e.tenant?.map (·.name))) = some (true, "id", some ["id"], some "version", some "tenantId") := by decide
  obtain ⟨ctx, hctx, shown⟩ := Option.bind_eq_some_iff.mp shown
  obtain ⟨e, he, shown⟩ := Option.map_eq_some_iff.mp shown
  obtain ⟨ready, identifier, identity, version, tenant⟩ := by simpa only [Prod.mk.injEq] using shown
  obtain ⟨held, hidentity, names⟩ := Option.map_eq_some_iff.mp identity
  obtain ⟨v, hv, version⟩ := Option.map_eq_some_iff.mp version
  obtain ⟨t, ht, tenant⟩ := Option.map_eq_some_iff.mp tenant
  have holds := reached.holds_iff hctx he ready
  refine ⟨ctx, e, v, t, hctx, he, hv, ht, (holds v (Or.inl hv)).mpr ?_, (holds t (Or.inr ht)).mpr ?_⟩
  · simp [Entity.isIdentityName, hidentity, names, version, identifier]
  · simp [Entity.isIdentityName, hidentity, names, tenant, identifier]

/-- The default identifier of the settings is named like a version, and the mapping declares another one. The entity
goes by a version that it does not list. -/
theorem Reached.not_holds :
    ¬∀ (ws : Workspace) (id : Nat) (ctx : Context) (name : String) (e : Entity), ws.Reached →
      ws.context? id = some ctx → ctx.entity? name = some e → e.isInitialized = true →
      ∀ p, e.HasRole p → e.Holds p := by
  intro always
  let cls : Class :=
    { stamp := 1, name := "A", isEntity := true
      fields := [{ name := "code", type := .text }, { name := "version", type := .long }]
      mapping := some { identifier := some (.single "code") } }
  let opened : Workspace := ({} : Workspace).openContext 0 "c" { settings := { identifier := "version" } }
  let ws := (opened.run 0 (Call.add cls).perform).2.2
  have begun : opened.Reached := Reached.start.opened 0 "c" { identifier := "version" } {} .transparent
  have reached : ws.Reached := begun.called 0 (.add cls)
  have shown : ((ws.context? 0).bind fun ctx => (ctx.entity? "A").map fun e =>
      (e.isInitialized, e.version?.isSome, e.properties)) = some (true, true, []) := by decide
  obtain ⟨ctx, hctx, shown⟩ := Option.bind_eq_some_iff.mp shown
  obtain ⟨e, he, shown⟩ := Option.map_eq_some_iff.mp shown
  obtain ⟨ready, versioned, unlisted⟩ := by simpa only [Prod.mk.injEq] using shown
  obtain ⟨p, hp⟩ := Option.isSome_iff_exists.mp versioned
  have listed := (always ws 0 ctx "A" e reached hctx he ready p (Or.inl hp)).listed
  rw [unlisted] at listed
  exact List.not_mem_nil listed

end Workspace
end Persistence
