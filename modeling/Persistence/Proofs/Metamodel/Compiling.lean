import Persistence.Proofs.Access.Serving
import Persistence.Proofs.Metamodel.Identification

/-! Compiling what is laid out. Members are discovered from the root on, under filters of their own, and accessors look
    for them from the lowest class on; but a name is discovered just from a field or from a getter of some class, and
    the first field or getter of the name that is found from below serves as well. So the accessors of a layout always
    compile, and no initialization fails for want of an accessor, of a class or of an identity. -/

namespace Persistence

/-! ### Names with accessors -/

namespace Hierarchy

variable {hierarchy : List Class} {mapping : EntityMapping} {name : String}

/-- A class of the hierarchy has a field of the name, or one has a getter for it. -/
def Reaches (hierarchy : List Class) (name : String) : Prop :=
  (field? hierarchy name).isSome = true ∨ (getter? hierarchy name).isSome = true

/-- A getter that is found is one: it has a body that reads. -/
theorem body_of_getter? {m : Method} (h : getter? hierarchy name = some m) :
    ∃ getter, m.body.getter? = some getter := by
  obtain ⟨cls, -, found⟩ := List.exists_of_findSome?_eq_some h
  have reads := List.find?_some found
  exact Option.isSome_iff_exists.mp (Bool.and_eq_true _ _ |>.mp reads).1

/-- What a class of the hierarchy offers is found from below as well, if not at this class. -/
theorem reaches_of_offered {cls : Class} (hcls : cls ∈ hierarchy) {c : Candidate}
    (hc : c ∈ Discovery.offered mapping cls) : Reaches hierarchy c.name := by
  have below : cls ∈ hierarchy.reverse := List.mem_reverse.mpr hcls
  rcases List.mem_append.mp hc with hc | hc
  · obtain ⟨field, hfield, rfl⟩ := List.mem_map.mp hc
    refine Or.inl (List.findSome?_isSome_iff.mpr ⟨cls, below, ?_⟩)
    rw [Outline.field?, List.find?_isSome]
    exact ⟨field, List.mem_of_mem_filter hfield, beq_self_eq_true field.name⟩
  · obtain ⟨m, hm, rfl⟩ := List.mem_map.mp hc
    obtain ⟨hm, reads⟩ := List.mem_filter.mp hm
    refine Or.inr (List.findSome?_isSome_iff.mpr ⟨cls, below, ?_⟩)
    rw [Class.getter?, List.find?_isSome]
    refine ⟨m, hm, ?_⟩
    rw [(Bool.and_eq_true _ _ |>.mp reads).1, Bool.true_and]
    exact beq_self_eq_true m.property

end Hierarchy

/-- The accessors of a property are found just if its name is reached; a getter without a body is never come across. -/
theorem AccessorPair.exists_resolve_iff {hierarchy : List Class} {entity : String} {p : Property} :
    (∃ pair, resolve hierarchy entity p = .ok pair) ↔ Hierarchy.Reaches hierarchy p.name := by
  rw [resolve, Hierarchy.Reaches]
  cases Hierarchy.field? hierarchy p.name with
  | some field => simp
  | none =>
    cases getter : Hierarchy.getter? hierarchy p.name with
    | none => simp
    | some m =>
      obtain ⟨body, hbody⟩ := Hierarchy.body_of_getter? getter
      dsimp only
      cases (traitField? m p.name).bind (Hierarchy.field? hierarchy) with
      | some field => simp
      | none => simp [hbody]

namespace Reflector

variable {number : Nat} {hierarchy : List Class} {properties : List Property} {identity : Identity}
  {handling : ProxyHandling}

/-- Accessors compile if there is a class and all names are reached. -/
theorem exists_compile (inhabited : hierarchy ≠ [])
    (reached : ∀ p ∈ properties ++ identity.members, Hierarchy.Reaches hierarchy p.name) :
    ∃ r, compile number hierarchy properties identity handling = .ok r := by
  obtain ⟨listed, identifying⟩ := List.forall_mem_append.mp reached
  have resolved (entity : String) (p : Property) (h : Hierarchy.Reaches hierarchy p.name) :
      ∃ pair, AccessorPair.resolve hierarchy entity p = .ok pair := AccessorPair.exists_resolve_iff.mpr h
  have identifier (entity : String) (p : Property) (h : Hierarchy.Reaches hierarchy p.name) :
      ∃ access, compileIdentifier hierarchy entity p = .ok access := by
    obtain ⟨pair, found⟩ := resolved entity p h
    exact ⟨_, bind_eq_ok.mpr ⟨pair, found, rfl⟩⟩
  have identified (entity : String) : ∃ access, compileIdentity hierarchy entity identity = .ok access := by
    cases identity with
    | single p =>
      obtain ⟨access, found⟩ := identifier entity p (identifying p (List.mem_singleton_self p))
      exact ⟨_, bind_eq_ok.mpr ⟨access, found, rfl⟩⟩
    | composite members =>
      obtain ⟨accesses, found⟩ := exists_mapM_eq_ok fun p hp => identifier entity p (identifying p hp)
      exact ⟨_, bind_eq_ok.mpr ⟨accesses, found, rfl⟩⟩
  rw [compile, List.getLast?_eq_some_getLast inhabited]
  obtain ⟨pairs, hpairs⟩ := exists_mapM_eq_ok fun p hp => resolved (hierarchy.getLast inhabited).name p (listed p hp)
  obtain ⟨access, haccess⟩ := identified (hierarchy.getLast inhabited).name
  exact ⟨_, bind_eq_ok.mpr ⟨pairs, hpairs, bind_eq_ok.mpr ⟨access, haccess, rfl⟩⟩⟩

end Reflector

/-! ### Layouts -/

section Layout
variable {settings settings' : Settings} {cls : Class} {hierarchy : List Class} {mapping : EntityMapping}
  {scanned : List Property} {identity : Identity}

namespace Discovery

theorem reaches_candidates {c : Candidate} (hc : c ∈ candidates hierarchy mapping) :
    Hierarchy.Reaches hierarchy c.name := by
  have offered : (hierarchy.flatMap (offered mapping)).find? (·.name == c.name) ≠ none := by
    rw [← find?_candidates, Ne, List.find?_eq_none]
    exact fun absent => absent c hc (beq_self_eq_true c.name)
  obtain ⟨first, found⟩ := Option.ne_none_iff_exists'.mp offered
  obtain ⟨cls, hcls, hfirst⟩ := List.mem_flatMap.mp (List.mem_of_find?_eq_some found)
  have same : first.name = c.name := by simpa using List.find?_some found
  exact same ▸ Hierarchy.reaches_of_offered hcls hfirst

theorem reaches_properties :
    ∀ p ∈ properties settings cls hierarchy mapping, Hierarchy.Reaches hierarchy p.name := by
  intro p hp
  obtain ⟨c, hc, rfl⟩ := List.mem_map.mp hp
  exact reaches_candidates hc

theorem reaches_identityMember {name : String} {p : Property}
    (h : identityMember settings cls hierarchy mapping name = .ok p) : Hierarchy.Reaches hierarchy p.name := by
  obtain ⟨c, hc, -, rfl⟩ := identityMember_eq_ok h
  exact reaches_candidates hc

/-- An identity has a member. -/
theorem members_ne_nil (h : Discovery.identity settings cls hierarchy mapping scanned = .ok identity) :
    identity.members ≠ [] := by
  rw [identity_eq] at h
  split at h
  · rw [declaredIdentity] at h
    split at h
    · cases h
    · obtain ⟨p, -, rfl⟩ := map_eq_ok.mp h
      exact List.cons_ne_nil p []
    next several _ =>
      obtain ⟨members, found, rfl⟩ := map_eq_ok.mp h
      have named : members.map (·.name) = mapping.identifierNames.map id :=
        map_eq_of_mapM (fun _ _ => name_identityMember) found
      rintro (rfl : members = [])
      rw [List.map_nil, List.map_id] at named
      exact several named.symm
  next p _ =>
    cases h
    exact List.cons_ne_nil p []
  next several _ =>
    cases h
    exact several

end Discovery

/-- All that is laid out is reached. -/
theorem Layout.reaches_ofScan {strategy : Strategy} {layout : Layout}
    (laid : ofScan settings cls hierarchy mapping
      (strategy.kept (Discovery.properties settings' cls hierarchy mapping)) = .ok layout) :
    ∀ p ∈ layout.properties ++ layout.identity.members, Hierarchy.Reaches hierarchy p.name :=
  forall_ofScan (fun p hp => Discovery.reaches_properties p (List.mem_of_mem_filter hp))
    (fun _ _ => Discovery.reaches_identityMember) laid

/-- Whatever is laid out of what a hierarchy offers, the accessors for it compile. -/
theorem Layout.exists_compile {strategy : Strategy} {layout : Layout}
    (laid : ofScan settings cls hierarchy mapping
      (strategy.kept (Discovery.properties settings' cls hierarchy mapping)) = .ok layout)
    (number : Nat) (handling : ProxyHandling) :
    ∃ r, Reflector.compile number hierarchy layout.properties layout.identity handling = .ok r := by
  have reached := reaches_ofScan laid
  refine Reflector.exists_compile ?_ reached
  -- The identity has a member, and some class must offer it.
  obtain ⟨identity, resolved, laid⟩ := bind_eq_ok.mp laid
  obtain ⟨tenant, -, laid⟩ := bind_eq_ok.mp laid
  cases laid
  obtain ⟨p, hp⟩ := List.exists_mem_of_ne_nil _ (Discovery.members_ne_nil resolved)
  rintro rfl
  rcases reached p (List.mem_append_right _ hp) with field | getter
  · cases field
  · cases getter

end Layout

/-! ### Identities that are filled in -/

namespace Marked

/-- An identity as what a scan might have come across. -/
def ofIdentity : Identity → Marked
  | .single p => { single := some p }
  | .composite members => { composite := some members }

/-- Where no marked member was come across, what the mapping declares is filled in. -/
def filled (marked : Marked) (settings : Settings) (cls : Class) (hierarchy : List Class) (mapping : EntityMapping) :
    Except Fault Marked :=
  if marked.single.isNone && marked.composite.isNone then
    ofIdentity <$> Discovery.declaredIdentity settings cls hierarchy mapping
  else .ok marked

/-- The identity, which by now there must be. -/
def demanded (marked : Marked) (entity : String) : Except Fault Identity :=
  match marked.identity? with
  | some identity => .ok identity
  | none => .error (.configuration (.identityMissing entity))

variable {settings : Settings} {cls : Class} {hierarchy : List Class} {mapping : EntityMapping}

theorem identity?_ofIdentity (identity : Identity) : (ofIdentity identity).identity? = some identity := by
  cases identity <;> rfl

theorem filled_eq (marked : Marked) : marked.filled settings cls hierarchy mapping =
    match marked.identity? with
    | some _ => .ok marked
    | none => ofIdentity <$> Discovery.declaredIdentity settings cls hierarchy mapping := by
  obtain ⟨single, composite⟩ := marked
  cases single <;> cases composite <;> rfl

/-- What is found or filled in is not missed afterwards. -/
theorem exists_demanded {marked marked' : Marked} (h : marked.filled settings cls hierarchy mapping = .ok marked') :
    ∃ identity, marked'.demanded cls.name = .ok identity := by
  rw [filled_eq] at h
  split at h
  next identity found =>
    cases h
    exact ⟨identity, by rw [demanded, found]⟩
  · obtain ⟨identity, -, rfl⟩ := map_eq_ok.mp h
    exact ⟨identity, by rw [demanded, identity?_ofIdentity]⟩

/-- So the identity of an entity is that of its marked members, or else what the mapping declares. -/
theorem filled_demanded (scanned : List Property) :
    (do (← (ofScan scanned).filled settings cls hierarchy mapping).demanded cls.name) =
      Discovery.identity settings cls hierarchy mapping scanned := by
  rw [filled_eq, Discovery.identity]
  cases found : (ofScan scanned).identity? with
  | some identity =>
    change (ofScan scanned).demanded cls.name = .ok identity
    rw [demanded, found]
  | none =>
    dsimp only
    cases Discovery.declaredIdentity settings cls hierarchy mapping with
    | error fault => rfl
    | ok identity =>
      change (ofIdentity identity).demanded cls.name = .ok identity
      rw [demanded, identity?_ofIdentity]

end Marked

/-! ### Initialization -/

/-- If the configuration is at fault, it is not for want of an accessor, of a class or of an identity. -/
def Fault.SparesCompilation (fault : Fault) : Prop :=
  ∀ cause, fault = .configuration cause → cause.isOfCompilation = false

theorem Fault.IsDescriptive.spares {fault : Fault} (h : fault.IsDescriptive) : fault.SparesCompilation := by
  obtain ⟨cause, rfl, early⟩ := h
  rintro _ ⟨⟩
  exact early

theorem ReflectorCache.getOrCompile_eq_ok {cache : ReflectorCache} {hierarchy : List Class}
    {properties : List Property} {identity : Identity} {handling : ProxyHandling}
    (compiles : ∃ r, Reflector.compile cache.builds hierarchy properties identity handling = .ok r) :
    ∃ r, (cache.getOrCompile hierarchy properties identity handling).1 = .ok r := by
  rw [getOrCompile]
  split
  next r _ => exact ⟨r, rfl⟩
  · obtain ⟨r, compiled⟩ := compiles
    rw [compiled]
    exact ⟨r, rfl⟩

namespace Action

/-- An action that fails for no cause that comes up in compiling accessors, wherever it is taken. -/
abbrev Spares {α : Type} (x : Action α) : Prop :=
  Assures (fun _ => True) (fun _ => True) Fault.SparesCompilation x

theorem spares_reflectorFor {cls : Class} {hierarchy : List Class} {layout : Layout}
    (laid : layout.IsScanned cls hierarchy) : Spares (reflectorFor hierarchy layout) := by
  obtain ⟨settings, settings', strategy, laid⟩ := laid
  intro σ _
  obtain ⟨r, given⟩ := ReflectorCache.getOrCompile_eq_ok (Layout.exists_compile laid σ.cache.builds σ.context.handling)
  rw [run_reflectorFor, given]
  exact ⟨trivial, trivial⟩

theorem spares_makeReady {add : String → Action Unit} (hadd : ∀ name, Spares (add name)) (name : String) :
    Spares (makeReady add name) := by
  intro σ _
  refine ⟨?_, trivial⟩
  cases he : σ.context.entity? name with
  | none =>
    rw [run_makeReady_missing add he]
    rintro _ ⟨⟩
  | some e =>
    rw [run_makeReady add he]
    cases e.phase with
    | ready model => trivial
    | populating =>
      rintro _ ⟨⟩
      rfl
    | idle =>
      have populated := Assures.populate (H := fun _ => True) (R := fun _ _ _ => True)
        (fun _ => Fault.IsDescriptive.spares) hadd (fun _ _ _ => ⟨trivial, trivial⟩) e.cls (fun _ _ _ _ => trivial)
        fun _ _ _ => spares_reflectorFor
      rcases hrun : (populating σ name).run (populate add e.cls) with ⟨answer, ρ⟩
      have assured := (populated.of_run trivial hrun).1
      cases answer with
      | ok model => trivial
      | error fault => exact assured

theorem spares_addWithin (levels : Nat) (name : String) : Spares (addWithin levels name) := by
  induction levels generalizing name with
  | zero =>
    refine Assures.throw ?_
    rintro _ ⟨⟩
    rfl
  | succ levels ih =>
    have enrolled : Spares (enroll name) := fun σ h =>
      ⟨((descriptive_enroll name σ h).1).mono (fun _ => id) fun _ => Fault.IsDescriptive.spares, h⟩
    exact enrolled.bind fun _ _ => spares_makeReady ih name

/-- Once the identity of an entity is resolved and its tenant property is found, the accessors for what is laid out of
its hierarchy compile, whatever that hierarchy is. The identity itself is found or filled in, and is not missed
afterwards. So no initialization fails for want of an accessor, of a class or of an identity. -/
theorem compilation_succeeds :
    (∀ (settings : Settings) (strategy : Strategy) (cls : Class) (hierarchy : List Class) (mapping : EntityMapping)
      (layout : Layout), Layout.ofScan settings cls hierarchy mapping
        (strategy.kept (Discovery.properties settings cls hierarchy mapping)) = .ok layout →
      ∀ number handling, ∃ r, Reflector.compile number hierarchy layout.properties layout.identity handling = .ok r) ∧
    (∀ (settings : Settings) (cls : Class) (hierarchy : List Class) (mapping : EntityMapping) (scanned : List Property),
      Discovery.identity settings cls hierarchy mapping scanned =
        (do (← (Marked.ofScan scanned).filled settings cls hierarchy mapping).demanded cls.name) ∧
      ∀ marked, (Marked.ofScan scanned).filled settings cls hierarchy mapping = .ok marked →
        ∃ identity, marked.demanded cls.name = .ok identity) ∧
    ∀ (σ : Site) (levels : Nat) (name : String) (cause : ConfigurationFault),
      (σ.run (makeReady (addWithin levels) name)).1 = .error (.configuration cause) →
        cause.isOfCompilation = false := by
  refine ⟨fun settings strategy cls hierarchy mapping layout laid => Layout.exists_compile laid,
    fun settings cls hierarchy mapping scanned =>
      ⟨(Marked.filled_demanded scanned).symm, fun _ => Marked.exists_demanded⟩,
    fun σ levels name cause failed => ?_⟩
  exact ((spares_makeReady (spares_addWithin levels) name σ trivial).1).of_eq_error failed cause rfl

/-- The field of the code is transient, so that only its getter offers it; the pages come with a trait, and the subclass
has a transient field of their name. -/
theorem compilation_succeeds_mixed :
    let item : Class := Class.addTraitProperty
      { stamp := 1, name := "Item", fields := [{ name := "code", type := .text, isTransient := true }]
        methods := [⟨"getCode", "code", .text, .getter (Getter.slot "code"), .declared⟩] } "app.Paged" "pages" .long
    let book : Class :=
      { stamp := 2, name := "Book", superclass := some "Item", isEntity := true
        fields := [{ name := "isbn", type := .text, isIdentity := true },
          { name := "pages", type := .text, isTransient := true }] }
    let mapping := ({} : Settings).entityMapping []
    ∃ (layout : Layout) (r : Reflector), Layout.ofScan {} book [item, book] mapping
        (Strategy.kept {} (Discovery.properties {} book [item, book] mapping)) = .ok layout ∧
      Reflector.compile 0 [item, book] layout.properties layout.identity .transparent = .ok r ∧
      r.names = ["code", "pages"] ∧ r.identity.members.map (·.name) = ["isbn"] := by
  intro item book mapping
  have shown : (Layout.ofScan {} book [item, book] mapping
      (Strategy.kept {} (Discovery.properties {} book [item, book] mapping))).toOption.map
        (fun layout => (layout.properties.map (·.name), layout.identity.names)) =
      some (["code", "pages"], ["isbn"]) := by
    decide
  obtain ⟨layout, laid, shown⟩ := Option.map_eq_some_iff.mp shown
  obtain ⟨listed, identified⟩ := Prod.mk.inj shown
  have laid := toOption_eq_some.mp laid
  obtain ⟨r, compiled⟩ := compilation_succeeds.1 {} {} book [item, book] mapping layout laid 0 .transparent
  obtain ⟨names, members⟩ := Reflector.members_of_isCompiledFor (Reflector.isCompiledFor_compile compiled)
  exact ⟨layout, r, laid, compiled, names.trans listed, members.trans identified⟩

end Action
end Persistence
