import Persistence.Proofs.Metamodel.Assurance
import Persistence.Proofs.Metamodel.Calls
import Persistence.Proofs.Metamodel.Views

/-! How the identity of an entity is resolved. The candidates that are marked, or that the only declared name stands
    for, make it up in the order of discovery; where there are none, the declared names do, if they are several and
    each of them is that of a candidate. Otherwise there is no identity, and initialization is at fault with the
    configuration, which is all that it can be at fault with. -/

namespace Persistence

theorem PropertyKind.ofType_ne_identity (config : PropertyConfig) (type : DataType) :
    ofType config type ≠ .identity := by
  unfold ofType
  split <;> simp

namespace Discovery

variable {settings : Settings} {cls : Class} {hierarchy : List Class} {mapping : EntityMapping} {name : String}

/-- The candidates that are marked as part of the identity, or that the only declared identifier stands for. -/
def identifying (hierarchy : List Class) (mapping : EntityMapping) : List Candidate :=
  (candidates hierarchy mapping).filter fun c => c.isIdentity || singleIdentifier? mapping == some c.name

/-- A candidate as a member of the identity. -/
def member (settings : Settings) (cls : Class) (mapping : EntityMapping) (c : Candidate) : Property :=
  ⟨c.name, c.type, .identity, settings.propertyConfig mapping c.name, cls.name⟩

/-- The mapping declares several identifiers, and each of them is the name of a candidate. -/
def DeclaresComposite (hierarchy : List Class) (mapping : EntityMapping) : Prop :=
  2 ≤ mapping.identifierNames.length ∧
    ∀ n ∈ mapping.identifierNames, n ∈ (candidates hierarchy mapping).map (·.name)

instance : Decidable (DeclaresComposite hierarchy mapping) :=
  inferInstanceAs (Decidable (_ ∧ _))

theorem isIdentity_kindOf {config : PropertyConfig} {c : Candidate} :
    (kindOf cls mapping config c == .identity) = (c.isIdentity || singleIdentifier? mapping == some c.name) := by
  unfold kindOf
  split
  next identifying => simp [identifying]
  next other =>
    split
    · simp [other]
    · simp [other, PropertyKind.ofType_ne_identity]

/-- The marked properties are the identifying candidates, as members of the identity. -/
theorem filter_isIdentity_properties : (properties settings cls hierarchy mapping).filter Property.isIdentity =
    (identifying hierarchy mapping).map (member settings cls mapping) := by
  have marked (c : Candidate) : (Property.isIdentity ∘ fun c : Candidate =>
      (⟨c.name, c.type, kindOf cls mapping (settings.propertyConfig mapping c.name) c,
        settings.propertyConfig mapping c.name, cls.name⟩ : Property)) c =
      (c.isIdentity || singleIdentifier? mapping == some c.name) := isIdentity_kindOf
  unfold properties identifying
  simp only [List.filter_map]
  rw [List.filter_congr fun c _ => marked c]
  refine List.map_congr_left fun c hc => ?_
  have identifying := (List.mem_filter.mp hc).2
  simp [member, kindOf, identifying]

theorem identityMember_eq_ok {p : Property} (h : identityMember settings cls hierarchy mapping name = .ok p) :
    ∃ c ∈ candidates hierarchy mapping, c.name = name ∧ member settings cls mapping c = p := by
  unfold identityMember at h
  split at h
  next c found =>
    have same : c.name = name := by simpa using List.find?_some found
    cases h
    subst same
    exact ⟨c, List.mem_of_find?_eq_some found, rfl, rfl⟩
  · cases h

/-- Declared members are candidates, one for each of the names and in their order. -/
theorem exists_of_mapM_identityMember {names : List String} {members : List Property}
    (h : names.mapM (identityMember settings cls hierarchy mapping) = .ok members) :
    ∃ cs : List Candidate, (∀ c ∈ cs, c ∈ candidates hierarchy mapping) ∧ cs.map (·.name) = names ∧
      cs.map (member settings cls mapping) = members := by
  induction names generalizing members with
  | nil =>
    rw [List.mapM_nil] at h
    cases h
    exact ⟨[], by simp⟩
  | cons name rest ih =>
    rw [List.mapM_cons] at h
    obtain ⟨first, hfirst, h⟩ := bind_eq_ok.mp h
    obtain ⟨others, hothers, h⟩ := bind_eq_ok.mp h
    cases h
    obtain ⟨c, hc, rfl, rfl⟩ := identityMember_eq_ok hfirst
    obtain ⟨cs, hcs, rfl, rfl⟩ := ih hothers
    exact ⟨c :: cs, List.forall_mem_cons.mpr ⟨hc, hcs⟩, rfl, rfl⟩

/-- What the identity of an entity is, as far as it is resolved: one identifying candidate alone, several of them in the
order of discovery, or else several declared ones in the order of their names. -/
structure Identified (settings : Settings) (cls : Class) (hierarchy : List Class) (mapping : EntityMapping)
    (identity : Identity) : Prop where
  single : ∀ c, identifying hierarchy mapping = [c] → identity = .single (member settings cls mapping c)
  several : 2 ≤ (identifying hierarchy mapping).length →
    identity = .composite ((identifying hierarchy mapping).map (member settings cls mapping))
  declared : identifying hierarchy mapping = [] → DeclaresComposite hierarchy mapping ∧
    ∃ cs : List Candidate, (∀ c ∈ cs, c ∈ candidates hierarchy mapping) ∧
      cs.map (·.name) = mapping.identifierNames ∧ identity = .composite (cs.map (member settings cls mapping))
  compound : ∀ members, identity = .composite members → 2 ≤ members.length

/-- Names are what declares an identity only where no candidate identifies, so that a single one is of no use. -/
theorem composite_of_declaredIdentity {identity : Identity} (unmarked : identifying hierarchy mapping = [])
    (h : declaredIdentity settings cls hierarchy mapping = .ok identity) :
    2 ≤ mapping.identifierNames.length ∧
      ∃ cs : List Candidate, (∀ c ∈ cs, c ∈ candidates hierarchy mapping) ∧
        cs.map (·.name) = mapping.identifierNames ∧ identity = .composite (cs.map (member settings cls mapping)) := by
  unfold declaredIdentity at h
  split at h
  · cases h
  next name only =>
    obtain ⟨p, found, -⟩ := map_eq_ok.mp h
    obtain ⟨c, hc, rfl, -⟩ := identityMember_eq_ok found
    have identifies : c ∈ identifying hierarchy mapping := by
      simp [identifying, singleIdentifier?, only, hc]
    simp [unmarked] at identifies
  next many one =>
    obtain ⟨members, found, rfl⟩ := map_eq_ok.mp h
    obtain ⟨cs, hcs, names, rfl⟩ := exists_of_mapM_identityMember found
    refine ⟨?_, cs, hcs, names, rfl⟩
    match hnames : mapping.identifierNames with
    | [] => exact absurd hnames many
    | [name] => exact absurd hnames (one name)
    | _ :: _ :: _ => simp

theorem identified_of_identity {identity : Identity}
    (h : Discovery.identity settings cls hierarchy mapping (properties settings cls hierarchy mapping) = .ok identity) :
    Identified settings cls hierarchy mapping identity := by
  rw [identity_eq, filter_isIdentity_properties] at h
  match hcs : identifying hierarchy mapping with
  | [] =>
    rw [hcs] at h
    obtain ⟨many, cs, hcs', names, rfl⟩ := composite_of_declaredIdentity hcs h
    have length : cs.length = mapping.identifierNames.length := by rw [← names, List.length_map]
    refine ⟨by simp [hcs], by simp [hcs], fun _ => ⟨⟨many, ?_⟩, cs, hcs', names, rfl⟩, ?_⟩
    · rw [← names]
      exact fun n hn => List.map_subset _ hcs' hn
    · rintro _ ⟨⟩
      rwa [List.length_map, length]
  | [c] =>
    rw [hcs] at h
    cases h
    exact ⟨by simp [hcs], by simp [hcs], by simp [hcs], by simp⟩
  | c :: c' :: rest =>
    rw [hcs] at h
    cases h
    exact ⟨by simp [hcs], by simp [hcs], by simp [hcs], by simp⟩

end Discovery

namespace Action

variable {σ τ : Site} {levels : Nat} {name : String} {e : Entity} {hierarchy : List Class} {answer : Except Fault Unit}

/-! ### Faults of initialization -/

/-- An action that fails at sound sites for no other cause than settings, classes and mappings. -/
abbrev IsConfigured {α : Type} (x : Action α) : Prop :=
  Assures (·.context.Sound) (fun _ => True) Fault.IsConfiguration x

theorem configured_makeReady {add : String → Action Unit} (hadd : ∀ name, IsConfigured (add name))
    (sound : σ.context.Sound) (he : σ.context.entity? name = some e) : Configured (σ.run (makeReady add name)).1 := by
  rw [run_makeReady add he]
  cases hphase : e.phase with
  | ready model => trivial
  | populating => exact .configured
  | idle =>
    have begun : (populating σ name).context.Sound := sound.setModelless
      (fun x hx => by rw [he] at hx; cases hx; exact Context.isInitialized_of_idle hphase) (by simp)
    have populated := Assures.populate (H := fun _ => True) (R := fun _ _ _ => True)
      (fun _ => Fault.IsDescriptive.configuration) hadd (fun _ _ h => ⟨trivial, h⟩) e.cls (fun _ _ _ _ => trivial) fun hierarchy layout _ _ ρ h => by
        rw [run_reflectorFor]
        exact ⟨ReflectorCache.configured_getOrCompile .., h⟩
    rcases hrun : (populating σ name).run (populate add e.cls) with ⟨answer, ρ⟩
    have assured := (populated.of_run begun hrun).1
    cases answer with
    | ok model => trivial
    | error fault => exact assured

theorem descriptive_enroll (name : String) :
    Assures (fun _ => True) (fun _ => True) Fault.IsDescriptive (enroll name) := by
  unfold enroll
  refine (Assures.ask _).bind fun found _ => ?_
  split
  · refine (Assures.tryAsk fun σ _ => σ.context.descriptive_requireClass name).bind fun cls _ => ?_
    refine (Assures.ask _).bind fun strategy _ => ?_
    have enrolling : Assures (fun _ => True) (fun _ => True) Fault.IsDescriptive (change (·.enroll cls)) :=
      fun _ _ => ⟨trivial, trivial⟩
    dsimp only
    split
    · exact enrolling
    · exact (Assures.throw (Q := fun _ => True) ⟨_, rfl, rfl⟩).bind fun _ _ => enrolling
  · exact Assures.pure trivial

/-- What is added on the way is registered first, so that no entity is ever found missing. -/
theorem configured_addWithin (levels : Nat) (name : String) : IsConfigured (addWithin levels name) := by
  induction levels generalizing name with
  | zero => exact Assures.throw ⟨_, rfl⟩
  | succ levels ih =>
    intro σ sound
    have kept : Keeps Context.Evolves (addFrom Look.own exhausted (levels + 1) name) :=
      (adds_addFrom (levels + 1)).evolves name
    rw [addFrom_own] at kept
    refine ⟨?_, (kept σ sound).1⟩
    unfold addWithin
    rw [Site.run_bind]
    obtain ⟨known, h⟩ | ⟨-, fault, h⟩ | ⟨fresh, cls, rfl, known, h⟩ := enroll_cases sound name
    · obtain ⟨e, he⟩ := Option.isSome_iff_exists.mp known
      rw [h]
      exact configured_makeReady ih sound he
    · have refused := (descriptive_enroll name).of_run (σ := σ) trivial h
      rw [h]
      exact refused.1.configuration
    · have he : (σ.context.enroll cls).entity? cls.name = some { cls } := by
        simp [Context.entity?_enroll, fresh]
      rw [h]
      exact configured_makeReady ih (sound.enroll known fresh) he

/-! ### The identity of an entity -/

/-- The initialization of a registered entity gives it the identity that its candidates make up. If it fails, the
configuration is at fault; and it does fail where no candidate identifies, unless several declared ones do. -/
theorem makeReady_identified (sound : σ.context.Sound) (convention : σ.context.strategy.skipped = [])
    (he : σ.context.entity? name = some e) (unready : e.isInitialized = false)
    (found : σ.context.hierarchy name = .ok hierarchy)
    (h : σ.run (makeReady (addWithin levels) name) = (answer, τ)) :
    let mapping := σ.context.settings.entityMapping (hierarchy.filterMap (·.mapping))
    (answer = .ok () → ∃ e' identity, τ.context.entity? name = some e' ∧ e'.cls = e.cls ∧
      e'.identity? = some identity ∧ Discovery.Identified σ.context.settings e.cls hierarchy mapping identity) ∧
    (∀ fault, answer = .error fault → fault.IsConfiguration) ∧
    (Discovery.identifying hierarchy mapping = [] → ¬Discovery.DeclaresComposite hierarchy mapping →
      ∃ cause, answer = .error (.configuration cause)) := by
  intro mapping
  have blamed : ∀ fault, answer = .error fault → fault.IsConfiguration := by
    have configured := configured_makeReady (configured_addWithin levels) sound he
    rw [h] at configured
    exact fun fault failed => configured.of_eq_error failed
  have resolved : answer = .ok () → ∃ e' identity, τ.context.entity? name = some e' ∧ e'.cls = e.cls ∧
      e'.identity? = some identity ∧ Discovery.Identified σ.context.settings e.cls hierarchy mapping identity := by
    rintro rfl
    obtain ⟨model, built, he'⟩ := makeReady_eq_ok (IsSteady.addWithin levels) he unready h
    obtain ⟨hierarchy', found', hmapping, laid⟩ := built.layout
    have hname : e.cls.name = name := Context.name_of_entity? he
    obtain rfl : hierarchy = hierarchy' := by
      rw [hname, found] at found'
      exact Except.ok.inj found'
    -- Nothing is left out of what the hierarchy offers, so that the layout is that of all its properties.
    have kept : σ.context.strategy.kept (Discovery.properties σ.context.settings e.cls hierarchy model.mapping) =
        Discovery.properties σ.context.settings e.cls hierarchy model.mapping := by
      simp [Strategy.kept, convention]
    rw [kept, hmapping] at laid
    obtain ⟨identity, hidentity, laid⟩ := bind_eq_ok.mp laid
    obtain ⟨tenant, -, laid⟩ := bind_eq_ok.mp laid
    have held : model.layout.identity = identity := by
      rw [← Except.ok.inj laid]
      rfl
    exact ⟨_, identity, he', rfl, congrArg some held, Discovery.identified_of_identity hidentity⟩
  refine ⟨resolved, blamed, fun unmarked undeclared => ?_⟩
  cases answer with
  | ok =>
    obtain ⟨-, identity, -, -, -, identified⟩ := resolved rfl
    exact absurd (identified.declared unmarked).1 undeclared
  | error fault =>
    obtain ⟨cause, rfl⟩ := blamed fault rfl
    exact ⟨cause, rfl⟩

/-- The root marks one member, and the mapping of the subclass declares another one, which comes before a member of the
subclass that is marked as well. -/
theorem makeReady_identified_composite :
    let root : Class :=
      { stamp := 1, name := "Item", fields := [{ name := "code", type := .text, isIdentity := true }] }
    let book : Class :=
      { stamp := 2, name := "Book", superclass := some "Item", isEntity := true
        fields := [{ name := "shop", type := .long }, { name := "title", type := .text },
          { name := "isbn", type := .text, isIdentity := true }]
        mapping := some { identifier := some (.single "shop") } }
    let σ : Site := { context := ((({} : Context).register root).register book).enroll book }
    ∃ (e : Entity) (identity : Identity) (τ : Site), σ.run (makeReady (addWithin 3) "Book") = (.ok (), τ) ∧
      τ.context.entity? "Book" = some e ∧ e.identity? = some identity ∧
      identity.isComposite = true ∧ identity.names = ["code", "shop", "isbn"] := by
  intro root book σ
  have succeeds : (σ.run (makeReady (addWithin 3) "Book")).1.isOk = true := by decide
  have sound : σ.context.Sound :=
    (((Context.Settled.of_empty rfl rfl).sound.register root).register book).enroll (Keyed.get?_put_self _ _ _) rfl
  have found : σ.context.hierarchy "Book" = .ok [root, book] := by cbv
  have known : σ.context.entity? "Book" = some { cls := book } := rfl
  have identifying : Discovery.identifying [root, book] (σ.context.settings.entityMapping
      ([root, book].filterMap (·.mapping))) =
      [⟨"code", .text, true, false⟩, ⟨"shop", .long, false, false⟩, ⟨"isbn", .text, true, false⟩] := by decide
  obtain ⟨⟨⟩, ready⟩ := Site.run_of_isOk succeeds
  obtain ⟨resolved, -, -⟩ := makeReady_identified sound rfl known rfl found ready
  obtain ⟨e, identity, he, -, held, identified⟩ := resolved rfl
  have composite := identified.several (by rw [identifying]; decide)
  rw [identifying] at composite
  exact ⟨e, identity, _, ready, he, held, by rw [composite]; rfl, by rw [composite]; rfl⟩

end Action
end Persistence
