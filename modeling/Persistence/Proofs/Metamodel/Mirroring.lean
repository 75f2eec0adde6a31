import Persistence.Proofs.Access.Serving
import Persistence.Proofs.Metamodel.Bare
import Persistence.Proofs.Metamodel.Calls

/-! Two sites at which the same is done. If their contexts are the same apart from the handling of proxies, and their
    caches hold nothing but what was compiled for what it says, then whatever is initialized comes out the same at both
    of them, apart from the handling again. The caches themselves may be as different as can be. -/

namespace Persistence

variable {α β : Type}

namespace Action

/-! ### Actions that mirror each other -/

/-- Two outcomes are answers that are related, or they are the same fault. -/
inductive Mirrored (Q : α → α → Prop) : Except Fault α → Except Fault α → Prop where
  | answer {a b : α} (related : Q a b) : Mirrored Q (.ok a) (.ok b)
  | fault (fault : Fault) : Mirrored Q (.error fault) (.error fault)

theorem Mirrored.mono {P Q : α → α → Prop} {x y : Except Fault α} (h : Mirrored P x y) (weaker : ∀ a b, P a b → Q a b) :
    Mirrored Q x y := by
  cases h with
  | answer related => exact .answer (weaker _ _ related)
  | fault fault => exact .fault fault

/-- Outcomes that are the same apart from something are mirrored. -/
theorem Mirrored.of_map_eq {f : α → β} {x y : Except Fault α} (same : f <$> x = f <$> y) :
    Mirrored (fun a b => x = .ok a ∧ y = .ok b ∧ f a = f b) x y := by
  cases x with
  | ok a =>
    obtain ⟨b, rfl, h⟩ := map_eq_ok.mp same.symm
    exact .answer ⟨rfl, rfl, h.symm⟩
  | error fault =>
    cases y with
    | ok b => cases same
    | error fault' =>
      cases same
      exact .fault fault

/-- From sites that are related, two actions have mirrored outcomes and lead to sites that are related again. -/
def Mirrors (R : Site → Site → Prop) (Q : α → α → Prop) (x y : Action α) : Prop :=
  ∀ σ τ, R σ τ → Mirrored Q (σ.run x).1 (τ.run y).1 ∧ R (σ.run x).2 (τ.run y).2

namespace Mirrors

variable {R : Site → Site → Prop} {P : β → β → Prop} {Q : α → α → Prop} {x y : Action α}
  {f g : α → Action β}

theorem pure {a b : α} (related : Q a b) : Mirrors R Q (Pure.pure a) (Pure.pure b) :=
  fun _ _ sites => ⟨.answer related, sites⟩

theorem throw (fault : Fault) : Mirrors R Q (MonadExcept.throw fault) (MonadExcept.throw fault) :=
  fun _ _ sites => ⟨.fault fault, sites⟩

theorem bind (first : Mirrors R Q x y) (next : ∀ a b, Q a b → Mirrors R P (f a) (g b)) :
    Mirrors R P (x >>= f) (y >>= g) := by
  intro σ τ sites
  obtain ⟨outcomes, after⟩ := first σ τ sites
  rw [Site.run_bind, Site.run_bind]
  rcases hσ : σ.run x with ⟨answer, σ'⟩
  rcases hτ : τ.run y with ⟨answer', τ'⟩
  rw [hσ, hτ] at outcomes after
  cases outcomes with
  | answer related => exact next _ _ related σ' τ' after
  | fault fault => exact ⟨.fault fault, after⟩

theorem bind_eq (first : Mirrors R Eq x y) (next : ∀ a, Mirrors R P (f a) (g a)) : Mirrors R P (x >>= f) (y >>= g) :=
  first.bind fun a b same => by
    cases same
    exact next a

theorem tryCatch {handler handler' : Fault → Action α} (first : Mirrors R Q x y)
    (next : ∀ fault, Mirrors R Q (handler fault) (handler' fault)) :
    Mirrors R Q (MonadExcept.tryCatch x handler) (MonadExcept.tryCatch y handler') := by
  intro σ τ sites
  obtain ⟨outcomes, after⟩ := first σ τ sites
  rw [Site.run_tryCatch, Site.run_tryCatch]
  rcases hσ : σ.run x with ⟨answer, σ'⟩
  rcases hτ : τ.run y with ⟨answer', τ'⟩
  rw [hσ, hτ] at outcomes after
  cases outcomes with
  | answer related => exact ⟨.answer related, after⟩
  | fault fault => exact next fault σ' τ' after

theorem ask {question : Context → α} (same : ∀ σ τ, R σ τ → Q (question σ.context) (question τ.context)) :
    Mirrors R Q (Action.ask question) (Action.ask question) :=
  fun σ τ sites => ⟨.answer (same σ τ sites), sites⟩

theorem tryAsk {question : Context → Except Fault α}
    (same : ∀ σ τ, R σ τ → Mirrored Q (question σ.context) (question τ.context)) :
    Mirrors R Q (Action.tryAsk question) (Action.tryAsk question) := by
  intro σ τ sites
  rw [run_tryAsk, run_tryAsk]
  exact ⟨same σ τ sites, sites⟩

theorem ofExcept (found : Except Fault α) :
    Mirrors R (fun a b => a = b ∧ found = .ok a) (Action.ofExcept found) (Action.ofExcept found) := by
  intro σ τ sites
  rw [run_ofExcept, run_ofExcept]
  cases found with
  | ok a => exact ⟨.answer ⟨rfl, rfl⟩, sites⟩
  | error fault => exact ⟨.fault fault, sites⟩

theorem change {f g : Context → Context}
    (same : ∀ σ τ, R σ τ → R { σ with context := f σ.context } { τ with context := g τ.context }) :
    Mirrors R Eq (Action.change f) (Action.change g) :=
  fun σ τ sites => ⟨.answer rfl, same σ τ sites⟩

theorem forM {add : String → Action Unit} (hadd : ∀ name, Mirrors R Eq (add name) (add name))
    (names : List String) : Mirrors R Eq (names.forM add) (names.forM add) := by
  induction names with
  | nil => exact pure rfl
  | cons name rest ih => exact (hadd name).bind_eq fun _ => ih

end Mirrors
end Action

/-! ### Sites with the same bare context -/

/-- The classes of a site are described, the entries of its cache are what they say, and whatever handling there is at
the site is one of those that are in use. -/
structure Site.Honest (described : Class → Prop) (handled : ProxyHandling → Prop) (σ : Site) : Prop where
  handling : handled σ.context.handling
  classes : ∀ name cls, σ.context.classes.get? name = some cls → described cls
  reflectors : ∀ e ∈ σ.context.entities, ∀ r, e.reflector = .ok r → handled r.handling
  cache : σ.cache.Honest described handled

namespace Site.Honest

variable {described : Class → Prop} {handled : ProxyHandling → Prop} {σ : Site} {cls : Class}

theorem described_chainFrom (h : σ.Honest described handled) {start name : String} {levels : Nat}
    {visited : List String} {chain : List Class}
    (found : σ.context.chainFrom start levels visited name = .ok chain) : ∀ cls ∈ chain, described cls := by
  induction levels generalizing visited name chain with
  | zero => cases found
  | succ levels ih =>
    unfold Context.chainFrom at found
    split at found
    · cases found
    · split at found
      · cases found
      next cls hcls =>
        split at found
        · cases found
          exact List.forall_mem_singleton.mpr (h.classes name cls hcls)
        · obtain ⟨rest, hrest, rfl⟩ := map_eq_ok.mp found
          exact List.forall_mem_cons.mpr ⟨h.classes name cls hcls, ih hrest⟩

theorem described_hierarchy (h : σ.Honest described handled) {name : String} {hierarchy : List Class}
    (found : σ.context.hierarchy name = .ok hierarchy) : ∀ cls ∈ hierarchy, described cls := by
  obtain ⟨chain, hchain, rfl⟩ := map_eq_ok.mp found
  exact fun cls hcls => h.described_chainFrom hchain cls (List.mem_reverse.mp hcls)

theorem register (h : σ.Honest described handled) (hcls : described cls) :
    Site.Honest described handled { σ with context := σ.context.register cls } where
  handling := h.handling
  classes name cls' found := by
    unfold Context.register at found
    rw [Keyed.get?_put] at found
    split at found
    · cases found
      exact hcls
    · exact h.classes name cls' found
  reflectors := h.reflectors
  cache := h.cache

theorem enroll (h : σ.Honest described handled) (cls : Class) :
    Site.Honest described handled { σ with context := σ.context.enroll cls } where
  handling := h.handling
  classes := h.classes
  reflectors := by
    refine List.forall_mem_append.mpr ⟨h.reflectors, List.forall_mem_singleton.mpr fun r hr => ?_⟩
    cases hr
  cache := h.cache

theorem setPhase (h : σ.Honest described handled) {phase : Phase}
    (new : ∀ model, phase = .ready model → handled model.reflector.handling) (name : String) :
    Site.Honest described handled { σ with context := σ.context.setPhase name phase } where
  handling := h.handling
  classes := h.classes
  reflectors := by
    intro x hx r hr
    obtain ⟨e, he, rfl⟩ := Context.mem_setPhase.mp hx
    split at hr
    · cases phase with
      | idle => cases hr
      | populating => cases hr
      | ready model =>
        cases hr
        exact new model rfl
    · exact h.reflectors e he r hr
  cache := h.cache

end Site.Honest

/-- Two sites whose contexts are the same apart from the handling of proxies. -/
structure Site.Beside (described : Class → Prop) (one other : ProxyHandling → Prop) (σ τ : Site) : Prop where
  left : σ.Honest described one
  right : τ.Honest described other
  bare : σ.context.bare = τ.context.bare

section Beside
variable {described : Class → Prop} {one other : ProxyHandling → Prop} {σ τ : Site}

namespace Site.Beside

theorem settings (h : σ.Beside described one other τ) : σ.context.settings = τ.context.settings := by
  change σ.context.bare.settings = τ.context.bare.settings
  rw [h.bare]

theorem strategy (h : σ.Beside described one other τ) : σ.context.strategy = τ.context.strategy := by
  change σ.context.bare.strategy = τ.context.bare.strategy
  rw [h.bare]

theorem classes (h : σ.Beside described one other τ) : σ.context.classes = τ.context.classes := by
  change σ.context.bare.classes = τ.context.bare.classes
  rw [h.bare]

theorem entity? (h : σ.Beside described one other τ) (name : String) :
    (σ.context.entity? name).map Entity.bare = (τ.context.entity? name).map Entity.bare := by
  rw [← Context.entity?_bare, ← Context.entity?_bare, h.bare]

theorem isInherited (h : σ.Beside described one other τ) : σ.context.isInherited = τ.context.isInherited := by
  rw [← σ.context.isInherited_bare, h.bare, τ.context.isInherited_bare]

theorem requireEntity (h : σ.Beside described one other τ) (name : String) :
    Action.Mirrored (fun e e' => e.bare = e'.bare) (σ.context.requireEntity name) (τ.context.requireEntity name) := by
  have same : Entity.bare <$> σ.context.requireEntity name = Entity.bare <$> τ.context.requireEntity name := by
    rw [← Context.requireEntity_bare, h.bare, Context.requireEntity_bare]
  exact (Action.Mirrored.of_map_eq same).mono fun _ _ found => found.2.2

theorem hierarchy (h : σ.Beside described one other τ) (name : String) :
    Action.Mirrored (fun hierarchy hierarchy' => hierarchy = hierarchy' ∧ ∀ cls ∈ hierarchy, described cls)
      (σ.context.hierarchy name) (τ.context.hierarchy name) := by
  rw [← τ.context.hierarchy_bare, ← h.bare, σ.context.hierarchy_bare]
  cases found : σ.context.hierarchy name with
  | ok hierarchy => exact .answer ⟨rfl, h.left.described_hierarchy found⟩
  | error fault => exact .fault fault

theorem requireClass (h : σ.Beside described one other τ) (name : String) :
    Action.Mirrored Eq (σ.context.requireClass name) (τ.context.requireClass name) := by
  unfold Context.requireClass
  rw [h.classes]
  split
  · exact .answer rfl
  · exact .fault _

theorem report (h : σ.Beside described one other τ) (lines lines' : List Diagnostic) :
    Site.Beside described one other { σ with reports := lines } { τ with reports := lines' } :=
  ⟨⟨h.left.handling, h.left.classes, h.left.reflectors, h.left.cache⟩,
    ⟨h.right.handling, h.right.classes, h.right.reflectors, h.right.cache⟩, h.bare⟩

theorem withCache (h : σ.Beside described one other τ) {cache : ReflectorCache} (honest : cache.Honest described one) :
    Site.Beside described one other { σ with cache } τ :=
  ⟨⟨h.left.handling, h.left.classes, h.left.reflectors, honest⟩, h.right, h.bare⟩

theorem register (h : σ.Beside described one other τ) {cls : Class} (hcls : described cls) :
    Site.Beside described one other { σ with context := σ.context.register cls }
      { τ with context := τ.context.register cls } := by
  refine ⟨h.left.register hcls, h.right.register hcls, ?_⟩
  dsimp only
  rw [Context.bare_register, Context.bare_register, h.bare]

theorem enroll (h : σ.Beside described one other τ) (cls : Class) :
    Site.Beside described one other { σ with context := σ.context.enroll cls }
      { τ with context := τ.context.enroll cls } := by
  refine ⟨h.left.enroll cls, h.right.enroll cls, ?_⟩
  dsimp only
  rw [Context.bare_enroll, Context.bare_enroll, h.bare]

theorem setPhase (h : σ.Beside described one other τ) {phase phase' : Phase} (same : phase.bare = phase'.bare)
    (new : ∀ model, phase = .ready model → one model.reflector.handling)
    (new' : ∀ model, phase' = .ready model → other model.reflector.handling) (name : String) :
    Site.Beside described one other { σ with context := σ.context.setPhase name phase }
      { τ with context := τ.context.setPhase name phase' } := by
  refine ⟨h.left.setPhase new name, h.right.setPhase new' name, ?_⟩
  dsimp only
  rw [Context.bare_setPhase, Context.bare_setPhase, h.bare, same]

end Site.Beside

namespace Action

/-! ### Initialization at both sites -/

/-- An action that mirrors itself at sites whose contexts are the same apart from the handling of proxies. -/
abbrev Twinned (described : Class → Prop) (one other : ProxyHandling → Prop) (Q : α → α → Prop) (x : Action α) :
    Prop :=
  Mirrors (Site.Beside described one other) Q x x

variable {add : String → Action Unit} {cls : Class} {hierarchy : List Class}

theorem mirrors_report (lines : List Diagnostic) : Twinned described one other Eq (report lines) :=
  fun _ _ sites => ⟨.answer rfl, sites.report _ _⟩

/-- Reflectors with the same accessors, each with a handling that is in use at its site. -/
structure Counterparts (one other : ProxyHandling → Prop) (r r' : Reflector) : Prop where
  left : one r.handling
  right : other r'.handling
  bare : r.bare = r'.bare

theorem mirrors_reflectorFor (told : ToldApart described) {layout : Layout}
    (classes : ∀ cls ∈ hierarchy, described cls)
    (fits : ∀ p ∈ layout.properties ++ layout.identity.members, p.Fits hierarchy) :
    Twinned described one other (Counterparts one other) (reflectorFor hierarchy layout) := by
  intro σ τ sites
  obtain ⟨accessors, honest, handles⟩ := sites.left.cache.getOrCompile told classes fits sites.left.handling
  obtain ⟨accessors', honest', handles'⟩ := sites.right.cache.getOrCompile told classes fits sites.right.handling
  rw [run_reflectorFor, run_reflectorFor]
  dsimp only
  refine ⟨(Mirrored.of_map_eq (accessors.trans accessors'.symm)).mono ?_,
    ⟨sites.left.handling, sites.left.classes, sites.left.reflectors, honest⟩,
    ⟨sites.right.handling, sites.right.classes, sites.right.reflectors, honest'⟩, sites.bare⟩
  rintro r r' ⟨found, found', bare⟩
  exact ⟨handles r found, handles' r' found', bare⟩

theorem mirrors_parentOf (hadd : ∀ name, Twinned described one other Eq (add name)) (cls : Class) :
    Twinned described one other Eq (parentOf add cls) := by
  unfold parentOf
  cases cls.superclass with
  | none => exact .pure rfl
  | some superclass =>
    refine (Mirrors.tryAsk fun _ _ sites => sites.requireClass superclass).bind_eq fun found => ?_
    refine (Mirrors.ask fun _ _ sites => sites.strategy).bind_eq fun strategy => ?_
    split
    · exact (hadd found.name).bind_eq fun _ => .pure rfl
    · exact .pure rfl

/-- What is scanned is the same at both sites, and it fits the hierarchy. -/
theorem mirrors_scan (hadd : ∀ name, Twinned described one other Eq (add name)) (cls : Class) (hierarchy : List Class)
    (settings : Settings) :
    let mapping := settings.entityMapping (hierarchy.filterMap (·.mapping))
    Twinned described one other (fun scanned scanned' => scanned = scanned' ∧ ∀ p ∈ scanned, p.Fits hierarchy)
      (scan add cls hierarchy mapping) := by
  intro mapping
  unfold scan
  refine (Mirrors.ask fun _ _ sites => sites.strategy).bind_eq fun strategy => ?_
  refine (Mirrors.forM hadd _).bind_eq fun _ => ?_
  refine (Mirrors.ask fun _ _ sites => sites.settings).bind_eq fun settings' => ?_
  refine (Mirrors.ask fun _ _ sites => ?_).bind_eq fun inherited => ?_
  · rw [sites.isInherited]
  · have kept : ∀ p ∈ strategy.kept (Discovery.properties settings' cls hierarchy mapping), p.Fits hierarchy :=
      fun p hp => Discovery.fits_properties p (List.mem_of_mem_filter hp)
    dsimp only
    split
    · exact (Mirrors.throw (Q := Eq) _).bind_eq fun _ => .pure ⟨rfl, kept⟩
    · exact .pure ⟨rfl, kept⟩

/-- A model is the same at both sites but for its reflector. -/
structure ModelCounterparts (one other : ProxyHandling → Prop) (model model' : EntityModel) : Prop where
  reflectors : Counterparts one other model.reflector model'.reflector
  bare : model.bare = model'.bare

theorem mirrors_populate (told : ToldApart described)
    (hadd : ∀ name, Twinned described one other Eq (add name)) (cls : Class) :
    Twinned described one other (ModelCounterparts one other) (populate add cls) := by
  unfold populate
  refine (Mirrors.tryAsk fun _ _ sites => sites.hierarchy cls.name).bind ?_
  rintro hierarchy _ ⟨rfl, classes⟩
  refine (mirrors_parentOf hadd cls).bind_eq fun parent => ?_
  refine (Mirrors.ask fun _ _ sites => sites.settings).bind_eq fun settings => ?_
  refine (mirrors_scan hadd cls hierarchy settings).bind ?_
  rintro scanned _ ⟨rfl, fits⟩
  refine (Mirrors.ofExcept _).bind ?_
  rintro layout _ ⟨rfl, laid⟩
  refine (mirrors_report _).bind_eq fun _ => ?_
  refine (mirrors_reflectorFor told classes (Layout.fits_ofScan fits laid)).bind fun r r' reflectors => ?_
  refine (Mirrors.ask (Q := Eq) fun _ _ sites => ?_).bind_eq fun owners => ?_
  · rw [sites.strategy]
  · refine .pure ⟨reflectors, ?_⟩
    unfold EntityModel.bare
    rw [reflectors.bare]

theorem mirrors_makeReady (told : ToldApart described)
    (hadd : ∀ name, Twinned described one other Eq (add name)) (name : String) :
    Twinned described one other Eq (makeReady add name) := by
  unfold makeReady
  refine (Mirrors.tryAsk fun _ _ sites => sites.requireEntity name).bind ?_
  rintro ⟨cls, phase⟩ ⟨cls', phase'⟩ bare
  obtain ⟨rfl, phases⟩ := Entity.mk.inj bare
  -- The phases are of one kind, and only a model can tell the two sites apart.
  cases phase with
  | ready model =>
    cases phase' with
    | ready model' => exact .pure rfl
    | populating => cases phases
    | idle => cases phases
  | populating =>
    cases phase' with
    | ready model' => cases phases
    | populating => exact .throw _
    | idle => cases phases
  | idle =>
    cases phase' with
    | ready model' => cases phases
    | populating => cases phases
    | idle =>
      have modelless (phase : Phase) (h : ∀ model, phase ≠ .ready model) :
          Twinned described one other Eq (change (·.setPhase name phase)) :=
        Mirrors.change fun _ _ sites => sites.setPhase rfl (fun model same => absurd same (h model))
          (fun model same => absurd same (h model)) name
      refine (modelless .populating fun _ h => by cases h).bind_eq fun _ => ?_
      refine (mirrors_report _).bind_eq fun _ => ?_
      refine Mirrors.tryCatch ((mirrors_populate told hadd cls).bind fun model model' models => ?_) fun fault => ?_
      · have same : (Phase.ready model).bare = (Phase.ready model').bare := congrArg Phase.ready models.bare
        refine (Mirrors.change fun _ _ sites => sites.setPhase same ?_ ?_ name).bind_eq fun _ => mirrors_report _
        · rintro _ ⟨⟩
          exact models.reflectors.left
        · rintro _ ⟨⟩
          exact models.reflectors.right
      · exact (modelless .idle fun _ h => by cases h).bind_eq fun _ => .throw fault

theorem mirrors_enroll (name : String) : Twinned described one other Eq (enroll name) := by
  unfold enroll
  refine (Mirrors.ask (Q := fun found found' => found.isNone = found'.isNone) fun _ _ sites => ?_).bind
    fun found found' same => ?_
  · rw [← Option.isNone_map (f := Entity.bare), sites.entity?, Option.isNone_map]
  · rw [same]
    split
    · refine (Mirrors.tryAsk fun _ _ sites => sites.requireClass name).bind_eq fun cls => ?_
      refine (Mirrors.ask fun _ _ sites => sites.strategy).bind_eq fun strategy => ?_
      have enrolling : Twinned described one other Eq (change (·.enroll cls)) :=
        Mirrors.change fun _ _ sites => sites.enroll cls
      dsimp only
      split
      · exact enrolling
      · exact (Mirrors.throw (Q := Eq) _).bind_eq fun _ => enrolling
    · exact .pure rfl

theorem mirrors_addWithin (told : ToldApart described) (levels : Nat) (name : String) :
    Twinned described one other Eq (addWithin levels name) := by
  induction levels generalizing name with
  | zero => exact .throw _
  | succ levels ih => exact (mirrors_enroll name).bind_eq fun _ => mirrors_makeReady told ih name

theorem mirrors_levels : Twinned described one other Eq levels :=
  Mirrors.ask fun _ _ sites => by rw [sites.classes]

theorem mirrors_addNamed (told : ToldApart described) (name : String) :
    Twinned described one other (fun e e' => e.bare = e'.bare) (addNamed name) := by
  unfold addNamed
  refine mirrors_levels.bind_eq fun levels => (mirrors_addWithin told levels name).bind_eq fun _ => ?_
  exact Mirrors.tryAsk fun _ _ sites => sites.requireEntity name

theorem mirrors_require (told : ToldApart described) (name : String) :
    Twinned described one other (fun e e' => e.bare = e'.bare) (require name) := by
  unfold require
  refine mirrors_levels.bind_eq fun levels => (mirrors_makeReady told (mirrors_addWithin told levels) name).bind_eq
    fun _ => ?_
  exact Mirrors.tryAsk fun _ _ sites => sites.requireEntity name

end Action

/-- The class that a call brings along. -/
def Call.brought? : Call → Option Class
  | .register cls | .add cls => some cls
  | .addNamed _ | .require _ => none

/-- A call that brings along nothing but described classes does the same at both sites. -/
theorem Call.mirrors_perform (told : ToldApart described) (call : Call)
    (brought : ∀ cls, call.brought? = some cls → described cls) :
    Action.Twinned described one other (fun found found' => found.map Entity.bare = found'.map Entity.bare)
      call.perform := by
  have registering (cls : Class) (hcls : described cls) :
      Action.Twinned described one other Eq (Action.change (·.register cls)) :=
    Action.Mirrors.change fun _ _ sites => sites.register hcls
  have given {x : Action Entity} (hx : Action.Twinned described one other (fun e e' => e.bare = e'.bare) x) :
      Action.Twinned described one other (fun found found' => found.map Entity.bare = found'.map Entity.bare)
        (some <$> x) := by
    rw [map_eq_pure_bind]
    exact hx.bind fun e e' bare => .pure (congrArg some bare)
  cases call with
  | register cls => exact (registering cls (brought cls rfl)).bind_eq fun _ => .pure rfl
  | add cls => exact given ((registering cls (brought cls rfl)).bind_eq fun _ => Action.mirrors_addNamed told cls.name)
  | addNamed name => exact given (Action.mirrors_addNamed told name)
  | require name => exact given (Action.mirrors_require told name)

end Beside
end Persistence
