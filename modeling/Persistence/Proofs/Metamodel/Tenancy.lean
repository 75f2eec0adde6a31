import Persistence.Proofs.Metamodel.Compiling

/-! Tenant properties. A class that needs a tenant property is refused if none of its scanned properties is one. Where
    there are several, the scan keeps the last of them and nothing is said of the others; so an entity goes by the
    only tenant property of its class just if there are not two of them. -/

namespace Persistence

/-- The entity that a cause tells the name of, if it is a cause with one entity. -/
def ConfigurationFault.entity? : ConfigurationFault → Option String
  | .notPersistent entity | .cyclicInitialization entity | .identifierUndeclared entity | .identifierMissing entity _
  | .identityMissing entity | .tenantMissing entity | .accessorMissing _ entity
  | .getterBodiless _ entity => some entity
  | _ => none

/-- A fault of the configuration that tells the name of an entity. -/
def Fault.Blames (fault : Fault) (entity : String) : Prop :=
  ∃ cause, fault = .configuration cause ∧ cause.entity? = some entity

section Layout
variable {settings : Settings} {cls : Class} {hierarchy : List Class} {mapping : EntityMapping}
  {scanned : List Property} {layout : Layout} {identity : Identity}

/-- An identity that is not resolved is missed of the entity. -/
theorem Discovery.blames_identity : Assured (fun _ => True) (Fault.Blames · cls.name)
    (Discovery.identity settings cls hierarchy mapping scanned) := by
  have member (name : String) : Assured (fun _ => True) (Fault.Blames · cls.name)
      (identityMember settings cls hierarchy mapping name) := by
    rw [identityMember]
    split
    · trivial
    · exact ⟨_, rfl, rfl⟩
  rw [Discovery.identity]
  split
  · trivial
  · rw [declaredIdentity]
    split
    · exact ⟨_, rfl, rfl⟩
    · exact (member _).map _
    · exact (Assured.mapM member _).map _

namespace Layout

theorem tenantFor_eq (needs : needsTenant settings cls = true) : tenantFor settings cls scanned =
    match (scanned.filter Property.isTenant).getLast? with
    | some p => .ok (some p)
    | none => .error (.configuration (.tenantMissing cls.name)) :=
  if_pos needs

/-- What is laid out for a class that needs a tenant has the last of those that were scanned. -/
theorem tenant_of_ofScan (needs : needsTenant settings cls = true)
    (laid : ofScan settings cls hierarchy mapping scanned = .ok layout) :
    scanned.filter Property.isTenant ≠ [] ∧ layout.tenant = (scanned.filter Property.isTenant).getLast? := by
  obtain ⟨identity, -, laid⟩ := bind_eq_ok.mp laid
  obtain ⟨tenant, found, laid⟩ := bind_eq_ok.mp laid
  cases laid
  rw [tenantFor_eq needs] at found
  split at found
  next p last =>
    cases found
    refine ⟨fun empty => ?_, last.symm⟩
    rw [empty] at last
    cases last
  · cases found

/-- Once the identity is resolved, a tenant is all that may be missed. -/
theorem ofScan_eq (needs : needsTenant settings cls = true)
    (resolved : Discovery.identity settings cls hierarchy mapping scanned = .ok identity) :
    ofScan settings cls hierarchy mapping scanned =
      match (scanned.filter Property.isTenant).getLast? with
      | some p => .ok (arrange settings mapping scanned identity (some p))
      | none => .error (.configuration (.tenantMissing cls.name)) := by
  rw [ofScan, resolved, tenantFor_eq needs]
  cases (scanned.filter Property.isTenant).getLast? <;> rfl

end Layout
end Layout

namespace Action

variable {σ τ ρ ρ' : Site} {levels : Nat} {name : String} {e : Entity} {hierarchy : List Class}
  {answer : Except Fault Unit} {add : String → Action Unit} {cls : Class} {parent : Option String}
  {scanned : List Property}

/-- What comes of an initialization that is begun is what comes of its model. -/
theorem fst_run_makeReady (add : String → Action Unit) (he : σ.context.entity? name = some e) (idle : e.phase = .idle) :
    (σ.run (makeReady add name)).1 = (fun _ => ()) <$> ((populating σ name).run (populate add e.cls)).1 := by
  rw [run_makeReady add he, idle]
  rcases (populating σ name).run (populate add e.cls) with ⟨model, ρ⟩
  cases model <;> rfl

/-- Once the parent is added and the properties are scanned, it is the layout that a model succeeds or fails with. -/
theorem fst_run_populate (hadd : ∀ name, IsSteady (add name)) (found : σ.context.hierarchy cls.name = .ok hierarchy)
    (parented : σ.run (parentOf add cls) = (.ok parent, ρ))
    (scans : ρ.run (scan add cls hierarchy (σ.context.settings.entityMapping (hierarchy.filterMap (·.mapping)))) =
      (.ok scanned, ρ')) :
    (fun _ => ()) <$> (σ.run (populate add cls)).1 =
      (fun _ => ()) <$> Layout.ofScan σ.context.settings cls hierarchy
        (σ.context.settings.entityMapping (hierarchy.filterMap (·.mapping))) scanned := by
  have settings : ρ.context.settings = σ.context.settings := ((IsSteady.parentOf hadd cls).of_eq parented).settings
  have kept := scan_eq_ok hadd scans
  rw [populate, Site.run_bind, run_tryAsk, found]
  dsimp only
  rw [Site.run_bind, parented]
  dsimp only
  rw [Site.run_bind, run_ask]
  dsimp only
  rw [settings, Site.run_bind, scans]
  dsimp only
  rw [Site.run_bind, run_ofExcept]
  cases laid : Layout.ofScan σ.context.settings cls hierarchy
      (σ.context.settings.entityMapping (hierarchy.filterMap (·.mapping))) scanned with
  | error fault => rfl
  | ok layout =>
    rw [kept] at laid
    dsimp only
    rw [Site.run_bind, run_report]
    dsimp only
    rw [Site.run_bind, run_reflectorFor]
    obtain ⟨r, given⟩ :=
      ReflectorCache.getOrCompile_eq_ok (Layout.exists_compile laid ρ'.cache.builds ρ'.context.handling)
    rw [given]
    rfl

/-- Of the scanned properties just one is a tenant property, and it is what the initialized entity goes by; else the
class is refused by its name. -/
structure SettlesTenant (name : String) (tenants : List Property) (answer : Except Fault Unit) (τ : Site) : Prop where
  single : answer = .ok () → ∃ e p, τ.context.entity? name = some e ∧ tenants = [p] ∧ e.tenant? = some p
  refused : tenants.length ≠ 1 → ∃ fault, answer = .error fault ∧ fault.Blames name

/-- An entity that needs a tenant property and becomes ready goes by the last of those that were scanned. -/
theorem tenant_of_makeReady (he : σ.context.entity? name = some e) (idle : e.phase = .idle)
    (found : σ.context.hierarchy name = .ok hierarchy) (needs : Layout.needsTenant σ.context.settings e.cls = true)
    (h : σ.run (makeReady (addWithin levels) name) = (.ok (), τ)) :
    let mapping := σ.context.settings.entityMapping (hierarchy.filterMap (·.mapping))
    let scanned := σ.context.strategy.kept (Discovery.properties σ.context.settings e.cls hierarchy mapping)
    let tenants := scanned.filter Property.isTenant
    ∃ e', τ.context.entity? name = some e' ∧ tenants ≠ [] ∧ e'.tenant? = tenants.getLast? := by
  obtain ⟨model, built, he'⟩ := makeReady_eq_ok (IsSteady.addWithin levels) he (Context.isInitialized_of_idle idle) h
  obtain ⟨hierarchy', found', hmapping, laid⟩ := built.layout
  rw [show e.cls.name = name from Context.name_of_entity? he, found] at found'
  cases found'
  rw [hmapping] at laid
  obtain ⟨marked, last⟩ := Layout.tenant_of_ofScan needs laid
  exact ⟨_, he', marked, last⟩

/-- Once the parent is added and the properties are scanned, an initialization comes to what the layout comes to. -/
theorem answer_of_makeReady (he : σ.context.entity? name = some e) (idle : e.phase = .idle)
    (found : σ.context.hierarchy name = .ok hierarchy)
    (h : σ.run (makeReady (addWithin levels) name) = (answer, τ)) :
    let mapping := σ.context.settings.entityMapping (hierarchy.filterMap (·.mapping))
    (populating σ name).run (parentOf (addWithin levels) e.cls) = (.ok parent, ρ) →
    ρ.run (scan (addWithin levels) e.cls hierarchy mapping) = (.ok scanned, ρ') →
    answer = (fun _ => ()) <$> Layout.ofScan σ.context.settings e.cls hierarchy mapping
      (σ.context.strategy.kept (Discovery.properties σ.context.settings e.cls hierarchy mapping)) := by
  intro mapping parented scans
  have steady := (IsSteady.parentOf (IsSteady.addWithin levels) e.cls).of_eq parented
  have same : scanned =
      σ.context.strategy.kept (Discovery.properties σ.context.settings e.cls hierarchy mapping) := by
    rw [scan_eq_ok (IsSteady.addWithin levels) scans, steady.settings, steady.strategy]
    rfl
  have found : (populating σ name).context.hierarchy e.cls.name = .ok hierarchy := by
    have agrees : σ.context.Agrees (populating σ name).context := ⟨rfl, rfl, fun _ => rfl⟩
    rw [show e.cls.name = name from Context.name_of_entity? he]
    exact agrees.hierarchy_eq_ok (Nat.le_refl _) found
  have populated := fst_run_populate (IsSteady.addWithin levels) found parented scans
  rw [← fst_run_makeReady _ he idle, h, same] at populated
  exact populated

/-- If an entity becomes ready just where there is a last tenant property, and then goes by it, then its tenant is
settled just if there are not several. -/
theorem settlesTenant_iff {tenants : List Property}
    (outcome : answer = match tenants.getLast? with
      | some _ => .ok ()
      | none => .error (.configuration (.tenantMissing name)))
    (held : answer = .ok () → ∃ e, τ.context.entity? name = some e ∧ tenants ≠ [] ∧ e.tenant? = tenants.getLast?) :
    SettlesTenant name tenants answer τ ↔ tenants.length ≤ 1 := by
  match tenants with
  | [] =>
    refine iff_of_true ⟨fun ready => ?_, fun _ => ⟨_, outcome, _, rfl, rfl⟩⟩ (Nat.zero_le 1)
    cases outcome.symm.trans ready
  | [p] =>
    obtain ⟨e, he, -, last⟩ := held outcome
    exact iff_of_true ⟨fun _ => ⟨e, p, he, rfl, last⟩, fun other => absurd rfl other⟩ (Nat.le_refl 1)
  | p :: q :: rest =>
    -- There is a last one, with which the entity becomes ready.
    have ready : answer = .ok () := by
      rw [outcome, List.getLast?_cons_cons, List.getLast?_cons]
    refine iff_of_false (fun settles => ?_) (by simp)
    obtain ⟨_, _, -, one, -⟩ := settles.single ready
    cases one

/-- An entity that needs a tenant property is initialized only if a scanned property is one, and goes by the last of
them; if the initialization fails, the configuration is at fault. As far as it comes to the identity, with the parent
added and the properties scanned, there is one tenant property for it or a refusal just if there are not several of
them, or if no identity is resolved anyway. -/
theorem makeReady_tenant (sound : σ.context.Sound) (he : σ.context.entity? name = some e) (idle : e.phase = .idle)
    (found : σ.context.hierarchy name = .ok hierarchy)
    (needs : Layout.needsTenant σ.context.settings e.cls = true)
    (h : σ.run (makeReady (addWithin levels) name) = (answer, τ)) :
    let mapping := σ.context.settings.entityMapping (hierarchy.filterMap (·.mapping))
    let scanned := σ.context.strategy.kept (Discovery.properties σ.context.settings e.cls hierarchy mapping)
    let tenants := scanned.filter Property.isTenant
    (answer = .ok () → ∃ e', τ.context.entity? name = some e' ∧ tenants ≠ [] ∧ e'.tenant? = tenants.getLast?) ∧
    (∀ fault, answer = .error fault → fault.IsConfiguration) ∧
    ∀ parent kept ρ ρ', (populating σ name).run (parentOf (addWithin levels) e.cls) = (.ok parent, ρ) →
      ρ.run (scan (addWithin levels) e.cls hierarchy mapping) = (.ok kept, ρ') →
      (SettlesTenant name tenants answer τ ↔
        tenants.length ≤ 1 ∨ (Discovery.identity σ.context.settings e.cls hierarchy mapping scanned).isOk = false) := by
  intro mapping scanned tenants
  have hname : e.cls.name = name := Context.name_of_entity? he
  have held : answer = .ok () →
      ∃ e', τ.context.entity? name = some e' ∧ tenants ≠ [] ∧ e'.tenant? = tenants.getLast? := by
    rintro rfl
    exact tenant_of_makeReady he idle found needs h
  refine ⟨held, ?_, fun parent kept ρ ρ' parented scans => ?_⟩
  · have configured := configured_makeReady (configured_addWithin levels) sound he
    rw [h] at configured
    exact fun fault failed => configured.of_eq_error failed
  have outcome := answer_of_makeReady he idle found h parented scans
  cases resolved : Discovery.identity σ.context.settings e.cls hierarchy mapping scanned with
  | error fault =>
    have blames : fault.Blames name := hname ▸ Discovery.blames_identity.of_eq_error resolved
    have refused : answer = .error fault := by
      rw [outcome, Layout.ofScan, resolved]
      rfl
    refine iff_of_true ⟨fun ready => ?_, fun _ => ⟨fault, refused, blames⟩⟩ (Or.inr rfl)
    cases refused.symm.trans ready
  | ok identity =>
    rw [Layout.ofScan_eq needs resolved, hname] at outcome
    refine (settlesTenant_iff (outcome.trans ?_) held).trans (by simp [Except.isOk, Except.toBool])
    dsimp only [tenants]
    cases (scanned.filter Property.isTenant).getLast? <;> rfl

/-- The root marks the tenant property, and only the subclass has tenants. -/
theorem makeReady_tenant_inherited :
    let item : Class := { stamp := 1, name := "Item", fields := [{ name := "shop", type := .text, isTenant := true }] }
    let book : Class :=
      { stamp := 2, name := "Book", superclass := some "Item", isEntity := true, isMultiTenant := true
        fields := [{ name := "id", type := .long }] }
    let settings : Settings := { tenancy := .discriminator }
    let tenants :=
      (Discovery.properties settings book [item, book] (settings.entityMapping [])).filter Property.isTenant
    let σ : Site := { context := ((({ settings } : Context).register item).register book).enroll book }
    ∃ (e : Entity) (p : Property) (τ : Site), σ.run (makeReady (addWithin 3) "Book") = (.ok (), τ) ∧
      τ.context.entity? "Book" = some e ∧ tenants = [p] ∧ e.tenant? = some p ∧ p.name = "shop" := by
  intro item book settings tenants σ
  have succeeds : (σ.run (makeReady (addWithin 3) "Book")).1.isOk = true := by decide
  have sound : σ.context.Sound :=
    (((Context.Settled.of_empty rfl rfl).sound.register item).register book).enroll (Keyed.get?_put_self _ _ _) rfl
  have found : σ.context.hierarchy "Book" = .ok [item, book] := by cbv
  have known : σ.context.entity? "Book" = some { cls := book } := rfl
  have only : tenants.map (·.name) = ["shop"] := by decide
  let ρ := ((populating σ "Book").run (parentOf (addWithin 3) book)).2
  have parents : ((populating σ "Book").run (parentOf (addWithin 3) book)).1.isOk = true := by decide
  have scanning : (ρ.run (scan (addWithin 3) book [item, book] (settings.entityMapping []))).1.isOk = true := by decide
  obtain ⟨⟨⟩, ready⟩ := Site.run_of_isOk succeeds
  obtain ⟨parent, parented⟩ := Site.run_of_isOk parents
  obtain ⟨kept, scans⟩ := Site.run_of_isOk scanning
  obtain ⟨-, -, settles⟩ := makeReady_tenant sound known rfl found rfl ready
  have one : tenants.length ≤ 1 := by
    rw [← List.length_map (f := (·.name)), only]
    exact Nat.le_refl 1
  obtain ⟨e, p, he, single, held⟩ := ((settles parent kept ρ _ parented scans).mpr (Or.inl one)).single rfl
  have single : tenants = [p] := single
  rw [single] at only
  exact ⟨e, p, _, ready, he, single, held, (List.cons.inj only).1⟩

/-- Two members are marked as the tenant, and the class is not refused. -/
theorem not_settlesTenant :
    ¬∀ (σ τ : Site) (levels : Nat) (name : String) (e : Entity) (hierarchy : List Class) (answer : Except Fault Unit),
      σ.context.Sound → σ.context.entity? name = some e → e.phase = .idle →
      σ.context.hierarchy name = .ok hierarchy → Layout.needsTenant σ.context.settings e.cls = true →
      σ.run (makeReady (addWithin levels) name) = (answer, τ) →
      let mapping := σ.context.settings.entityMapping (hierarchy.filterMap (·.mapping))
      let scanned := σ.context.strategy.kept (Discovery.properties σ.context.settings e.cls hierarchy mapping)
      SettlesTenant name (scanned.filter Property.isTenant) answer τ := by
  intro always
  let cls : Class :=
    { stamp := 1, name := "A", isEntity := true, isMultiTenant := true
      fields := [{ name := "id", type := .long }, { name := "shop", type := .text, isTenant := true },
        { name := "site", type := .text, isTenant := true }] }
  let settings : Settings := { tenancy := .discriminator }
  let σ : Site := { context := (({ settings } : Context).register cls).enroll cls }
  have succeeds : (σ.run (makeReady (addWithin 2) "A")).1.isOk = true := by decide
  have sound : σ.context.Sound :=
    ((Context.Settled.of_empty rfl rfl).sound.register cls).enroll (Keyed.get?_put_self _ _ _) rfl
  have found : σ.context.hierarchy "A" = .ok [cls] := by cbv
  have several : ((Discovery.properties settings cls [cls] (settings.entityMapping [])).filter
      Property.isTenant).length = 2 := by decide
  obtain ⟨⟨⟩, ready⟩ := Site.run_of_isOk succeeds
  obtain ⟨fault, failed, -⟩ := (always σ _ 2 "A" _ [cls] _ sound rfl rfl found rfl ready).refused fun one => by
    cases several.symm.trans one
  cases failed

end Action
end Persistence
