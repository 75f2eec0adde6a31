import Persistence.Proofs.Metamodel.Building

/-! What an action makes sure of at the sites of an invariant: that its answers have one property, that its faults have
    another one, and that the invariant holds of the site that it leaves. One rule for each way to put actions
    together takes an assurance from the ways to add entities to the population of a model. -/

namespace Persistence

variable {α β : Type}

/-- A fault of settings, classes or mappings. -/
def Fault.IsConfiguration (fault : Fault) : Prop := ∃ cause, fault = .configuration cause

/-- A cause that comes up in compiling accessors, or where there is no identity to compile them for. -/
def ConfigurationFault.isOfCompilation : ConfigurationFault → Bool
  | .identityMissing _ | .emptyHierarchy | .accessorMissing _ _ | .getterBodiless _ _ => true
  | _ => false

/-- A fault that comes up before accessors are compiled. -/
def Fault.IsDescriptive (fault : Fault) : Prop := ∃ cause, fault = .configuration cause ∧ cause.isOfCompilation = false

theorem Fault.IsDescriptive.configuration {fault : Fault} (h : fault.IsDescriptive) : fault.IsConfiguration := by
  obtain ⟨cause, rfl, -⟩ := h
  exact ⟨cause, rfl⟩

/-! ### Outcomes -/

/-- An answer or a fault, each with a property of its own. -/
def Assured (Q : α → Prop) (E : Fault → Prop) : Except Fault α → Prop
  | .ok a => Q a
  | .error fault => E fault

/-- A computation that fails for no other cause than settings, classes and mappings. -/
abbrev Configured (x : Except Fault α) : Prop := Assured (fun _ => True) Fault.IsConfiguration x

/-- A computation that fails for no cause that comes up in compiling accessors. -/
abbrev Descriptive (x : Except Fault α) : Prop := Assured (fun _ => True) Fault.IsDescriptive x

namespace Assured

variable {Q R : α → Prop} {P : β → Prop} {E F : Fault → Prop} {x : Except Fault α} {f : α → Except Fault β}

theorem mono (h : Assured Q E x) (answers : ∀ a, Q a → R a) (faults : ∀ fault, E fault → F fault) : Assured R F x := by
  cases x with
  | ok a => exact answers a h
  | error fault => exact faults fault h

theorem of_eq_error {fault : Fault} (h : Assured Q E x) (hx : x = .error fault) : E fault := by
  subst hx
  exact h

/-- An answer is at least the one that is given. -/
theorem known (h : Assured (fun _ => True) E x) : Assured (fun a => x = .ok a) E x := by
  cases x with
  | ok a => rfl
  | error fault => exact h

theorem bind (hx : Assured (fun _ => True) E x) (hf : ∀ a, x = .ok a → Assured P E (f a)) : Assured P E (x >>= f) := by
  cases x with
  | ok a => exact hf a rfl
  | error fault => exact hx

theorem map (hx : Assured (fun _ => True) E x) (f : α → β) : Assured (fun _ => True) E (f <$> x) := by
  cases x with
  | ok a => trivial
  | error fault => exact hx

theorem mapM (hf : ∀ a, Assured (fun _ => True) E (f a)) (as : List α) : Assured (fun _ => True) E (as.mapM f) := by
  induction as with
  | nil => trivial
  | cons a rest ih =>
    rw [List.mapM_cons]
    exact (hf a).bind fun b _ => ih.bind fun bs _ => trivial

theorem configured {cause : ConfigurationFault} : Configured (.error (.configuration cause) : Except Fault α) :=
  ⟨cause, rfl⟩

theorem descriptive {cause : ConfigurationFault} (early : cause.isOfCompilation = false) :
    Descriptive (.error (.configuration cause) : Except Fault α) :=
  ⟨cause, rfl, early⟩

end Assured

/-! ### Questions to a context -/

theorem Context.descriptive_requireClass (ctx : Context) (name : String) : Descriptive (ctx.requireClass name) := by
  unfold requireClass
  split
  · trivial
  · exact .descriptive rfl

theorem Context.descriptive_hierarchy (ctx : Context) (name : String) : Descriptive (ctx.hierarchy name) := by
  have chain (levels : Nat) (visited : List String) (n : String) : Descriptive (ctx.chainFrom name levels visited n) := by
    induction levels generalizing visited n with
    | zero => exact .descriptive rfl
    | succ levels ih =>
      unfold chainFrom
      split
      · exact .descriptive rfl
      · split
        · exact .descriptive rfl
        · split
          · trivial
          · exact (ih _ _).map _
  exact (chain _ _ _).map _

theorem Discovery.descriptive_identity (settings : Settings) (cls : Class) (hierarchy : List Class)
    (mapping : EntityMapping) (scanned : List Property) :
    Descriptive (identity settings cls hierarchy mapping scanned) := by
  have member (name : String) : Descriptive (identityMember settings cls hierarchy mapping name) := by
    unfold identityMember
    split
    · trivial
    · exact .descriptive rfl
  unfold identity
  split
  · trivial
  · unfold declaredIdentity
    split
    · exact .descriptive rfl
    · exact (member _).map _
    · exact (Assured.mapM member _).map _

theorem Layout.descriptive_ofScan (settings : Settings) (cls : Class) (hierarchy : List Class) (mapping : EntityMapping)
    (scanned : List Property) : Descriptive (ofScan settings cls hierarchy mapping scanned) := by
  have tenant : Descriptive (tenantFor settings cls scanned) := by
    unfold tenantFor
    split
    · split
      · trivial
      · exact .descriptive rfl
    · trivial
  exact (Discovery.descriptive_identity ..).bind fun _ _ => tenant.bind fun _ _ => trivial

theorem AccessorPair.configured_resolve (hierarchy : List Class) (entity : String) (p : Property) :
    Configured (resolve hierarchy entity p) := by
  unfold resolve
  split
  · trivial
  · split
    · exact .configured
    · split
      · trivial
      · split
        · trivial
        · exact .configured

theorem Reflector.configured_compile (number : Nat) (hierarchy : List Class) (properties : List Property)
    (identity : Identity) (handling : ProxyHandling) :
    Configured (compile number hierarchy properties identity handling) := by
  have identifier (entity : String) (p : Property) : Configured (compileIdentifier hierarchy entity p) :=
    (AccessorPair.configured_resolve hierarchy entity p).bind fun _ _ => trivial
  have access (entity : String) : Configured (compileIdentity hierarchy entity identity) := by
    cases identity with
    | single p => exact (identifier entity p).bind fun _ _ => trivial
    | composite members => exact (Assured.mapM (identifier entity) members).bind fun _ _ => trivial
  unfold compile
  split
  · exact .configured
  · exact (Assured.mapM (AccessorPair.configured_resolve hierarchy _) properties).bind fun _ _ =>
      (access _).bind fun _ _ => trivial

theorem ReflectorCache.configured_getOrCompile (cache : ReflectorCache) (hierarchy : List Class)
    (properties : List Property) (identity : Identity) (handling : ProxyHandling) :
    Configured (cache.getOrCompile hierarchy properties identity handling).1 := by
  have compiled := Reflector.configured_compile cache.builds hierarchy properties identity handling
  unfold getOrCompile
  split
  · trivial
  · dsimp only
    split
    · trivial
    next failed => exact compiled.of_eq_error failed

/-- A layout of properties that are scanned of a hierarchy for a class. -/
def Layout.IsScanned (layout : Layout) (cls : Class) (hierarchy : List Class) : Prop :=
  ∃ (settings settings' : Settings) (strategy : Strategy),
    let mapping := settings.entityMapping (hierarchy.filterMap (·.mapping))
    Layout.ofScan settings cls hierarchy mapping
      (strategy.kept (Discovery.properties settings' cls hierarchy mapping)) = .ok layout

/-! ### Actions -/

namespace Action

/-- At the sites of an invariant, answers and faults have these properties, and the invariant holds again after it. -/
def Assures (I : Site → Prop) (Q : α → Prop) (E : Fault → Prop) (x : Action α) : Prop :=
  ∀ σ : Site, I σ → Assured Q E (σ.run x).1 ∧ I (σ.run x).2

namespace Assures

variable {I : Site → Prop} {Q : α → Prop} {P : β → Prop} {E : Fault → Prop} {x : Action α} {f : α → Action β}

theorem of_run {answer : Except Fault α} {σ τ : Site} (hx : Assures I Q E x) (hσ : I σ)
    (h : σ.run x = (answer, τ)) : Assured Q E answer ∧ I τ := by
  have assured := hx σ hσ
  rwa [h] at assured

theorem pure {a : α} (h : Q a) : Assures I Q E (Pure.pure a : Action α) := fun _ hσ => ⟨h, hσ⟩

theorem throw {fault : Fault} (h : E fault) : Assures I Q E (MonadExcept.throw fault : Action α) := fun _ hσ => ⟨h, hσ⟩

theorem ask (question : Context → α) : Assures I (fun _ => True) E (Action.ask question) := fun _ hσ => ⟨trivial, hσ⟩

theorem tryAsk {question : Context → Except Fault α} (h : ∀ σ, I σ → Assured Q E (question σ.context)) :
    Assures I Q E (Action.tryAsk question) := fun σ hσ => by
  rw [run_tryAsk]
  exact ⟨h σ hσ, hσ⟩

theorem ofExcept {found : Except Fault α} (h : Assured Q E found) : Assures I Q E (Action.ofExcept found) :=
  fun σ hσ => by
    rw [run_ofExcept]
    exact ⟨h, hσ⟩

theorem bind (hx : Assures I Q E x) (hf : ∀ a, Q a → Assures I P E (f a)) : Assures I P E (x >>= f) := by
  intro σ hσ
  obtain ⟨answers, after⟩ := hx σ hσ
  rw [Site.run_bind]
  rcases hrun : σ.run x with ⟨answer, ρ⟩
  rw [hrun] at answers after
  cases answer with
  | ok a => exact hf a answers ρ after
  | error fault => exact ⟨answers, after⟩

/-! ### Populating -/

section Populate
variable {add : String → Action Unit}

theorem forM (hadd : ∀ name, Assures I (fun _ => True) E (add name)) (names : List String) :
    Assures I (fun _ => True) E (names.forM add) := by
  induction names with
  | nil => exact pure trivial
  | cons name rest ih => exact (hadd name).bind fun _ _ => ih

variable (blame : ∀ fault : Fault, fault.IsDescriptive → E fault)
  (hadd : ∀ name, Assures I (fun _ => True) E (add name))

include blame hadd

theorem parentOf (cls : Class) : Assures I (fun _ => True) E (Action.parentOf add cls) := by
  unfold Action.parentOf
  cases cls.superclass with
  | none => exact pure trivial
  | some superclass =>
    refine (tryAsk (Q := fun _ => True) fun σ _ => ?_).bind fun found _ => (ask _).bind fun strategy _ => ?_
    · exact (σ.context.descriptive_requireClass superclass).mono (fun _ => id) blame
    · split
      · exact (hadd _).bind fun _ _ => pure trivial
      · exact pure trivial

theorem scan (cls : Class) (hierarchy : List Class) (mapping : EntityMapping) :
    Assures I (fun scanned => ∃ (settings : Settings) (strategy : Strategy),
      scanned = strategy.kept (Discovery.properties settings cls hierarchy mapping)) E
        (Action.scan add cls hierarchy mapping) := by
  unfold Action.scan
  refine (ask _).bind fun strategy _ => (forM hadd _).bind fun _ _ => (ask _).bind fun settings _ =>
    (ask _).bind fun inherited _ => ?_
  dsimp only
  split
  · exact (throw (Q := fun _ => True) (blame _ ⟨_, rfl, rfl⟩)).bind fun _ _ => pure ⟨settings, strategy, rfl⟩
  · exact pure ⟨settings, strategy, rfl⟩

/-- What is assured of the hierarchies that are found, and of the reflectors that are given out for them, is assured of
the model. -/
theorem populate {H : List Class → Prop} {R : List Class → Layout → Reflector → Prop}
    (report : ∀ lines, Assures I (fun _ => True) E (Action.report lines)) (cls : Class)
    (found : ∀ σ hierarchy, I σ → σ.context.hierarchy cls.name = .ok hierarchy → H hierarchy)
    (reflect : ∀ hierarchy layout, H hierarchy → layout.IsScanned cls hierarchy →
      Assures I (R hierarchy layout) E (Action.reflectorFor hierarchy layout)) :
    Assures I (fun model => ∃ hierarchy, H hierarchy ∧ R hierarchy model.layout model.reflector) E
      (Action.populate add cls) := by
  have descriptive (σ : Site) := (σ.context.descriptive_hierarchy cls.name).mono (fun _ => id) blame
  unfold Action.populate
  refine (tryAsk fun σ hσ => (descriptive σ).known.mono (fun _ => found σ _ hσ) fun _ => id).bind
    fun hierarchy holds => ?_
  refine (parentOf blame hadd cls).bind fun parent _ => (ask _).bind fun settings _ => ?_
  refine (scan blame hadd cls hierarchy _).bind fun scanned ⟨settings', strategy, kept⟩ => ?_
  refine (ofExcept ((Layout.descriptive_ofScan ..).mono (fun _ => id) blame).known).bind fun layout laid => ?_
  rw [kept] at laid
  refine (report _).bind fun _ _ => (reflect hierarchy layout holds ⟨_, _, _, laid⟩).bind fun reflector reflects => ?_
  exact (ask _).bind fun owners _ => pure ⟨hierarchy, holds, reflects⟩

end Populate
end Assures
end Action
end Persistence
