import Persistence.Proofs.Metamodel.Action

/-! Searches for properties that add entities. A search may add entities at any point, look at what came of it and go
    on from there, before it settles on what it found. The search of a strategy, which adds the entities that it
    touches and gives up at the first fault, is one of them; what is said of initialization under every way to search
    holds of initialization under a strategy. -/

namespace Persistence

/-- What is done to find the properties of an entity. What is added next may depend on how adding the others went and
on the site that they left. -/
inductive Search where
  | settled (found : Except Fault (List Property))
  | adding (name : String) (next : Except Fault Unit → Site → Search)

/-- A way to search: what is done, from a site on, for a class with its hierarchy and mapping. -/
abbrev Look := Class → List Class → EntityMapping → Site → Search

namespace Action

variable {α : Type} {σ : Site}

/-- Does something and answers how it went. -/
def attempt (x : Action α) : Action (Except Fault α) :=
  tryCatch (do return .ok (← x)) fun fault => return .error fault

@[simp]
theorem run_attempt (x : Action α) : σ.run (attempt x) = (.ok (σ.run x).1, (σ.run x).2) := by
  unfold attempt
  rw [Site.run_tryCatch, Site.run_bind]
  rcases σ.run x with ⟨answer, ρ⟩
  cases answer <;> rfl

@[simp]
theorem run_get : σ.run (get : Action Site) = (.ok σ, σ) := rfl

theorem ext_run {x y : Action α} (h : ∀ σ : Site, σ.run x = σ.run y) : x = y := funext h

end Action

/-- Does what a search says, with the given way to add an entity. -/
def Search.run (add : String → Action Unit) : Search → Action (List Property)
  | .settled found => Action.ofExcept found
  | .adding name next => do
    let answer ← Action.attempt (add name)
    let site ← get
    (next answer site).run add

namespace Action

/-! ### Initialization by a way to search -/

section By
variable (look : Look) (last : String → Action Unit) (add : String → Action Unit)

def scanBy (cls : Class) (hierarchy : List Class) (mapping : EntityMapping) : Action (List Property) := do
  let site ← get
  (look cls hierarchy mapping site).run add

/-- Builds a model as `populate` does, from what the search finds. -/
def populateBy (cls : Class) : Action EntityModel := do
  let hierarchy ← tryAsk (·.hierarchy cls.name)
  let parent ← parentOf add cls
  let settings ← ask (·.settings)
  let mapping := settings.entityMapping (hierarchy.filterMap (·.mapping))
  let scanned ← scanBy look add cls hierarchy mapping
  let layout ← ofExcept (Layout.ofScan settings cls hierarchy mapping scanned)
  report (Layout.versionReports cls.name mapping scanned)
  let reflector ← reflectorFor hierarchy layout
  let owners ← ask (·.strategy.ownersOf cls)
  return { mapping, strategy := mapping.strategy.getD settings.strategy, owners, parent, layout, reflector }

/-- Initializes a registered entity as `makeReady` does, with a model from what the search finds. -/
def makeReadyBy (name : String) : Action Unit := do
  let entity ← tryAsk (·.requireEntity name)
  match entity.phase with
  | .ready _ => return
  | .populating => throw (.configuration (.cyclicInitialization name))
  | .idle =>
    change (·.setPhase name .populating)
    report [.initializing name]
    try
      let model ← populateBy look add entity.cls
      change (·.setPhase name (.ready model))
      report [.initialized name]
    catch fault =>
      change (·.setPhase name .idle)
      throw fault

/-- Adds an entity, with so many levels for others to be added on the way; below them something else is done. -/
def addFrom : Nat → String → Action Unit
  | 0, name => last name
  | levels + 1, name => do
    enroll name
    makeReadyBy look (addFrom levels) name

def addNamedBy (name : String) : Action Entity := do
  addFrom look last (← levels) name
  tryAsk (·.requireEntity name)

def addBy (cls : Class) : Action Entity := do
  change (·.register cls)
  addNamedBy look last cls.name

def requireBy (name : String) : Action Entity := do
  makeReadyBy look (addFrom look last (← levels)) name
  tryAsk (·.requireEntity name)

end By

/-- What happens where the levels are used up. -/
def exhausted (name : String) : Action Unit := throw (.configuration (.cyclicInitialization name))

/-! ### Initialization of one entity -/

section One
variable {σ : Site} {look : Look} {add : String → Action Unit} {name : String} {e : Entity}

/-- The site at which an entity is populated. -/
def populating (σ : Site) (name : String) : Site :=
  { σ with context := σ.context.setPhase name .populating, reports := σ.reports ++ [.initializing name] }

theorem run_makeReadyBy_missing (h : σ.context.entity? name = none) :
    σ.run (makeReadyBy look add name) = (.error (.entityNotFound name), σ) := by
  have hrequire : σ.context.requireEntity name = .error (.entityNotFound name) := by
    unfold Context.requireEntity
    rw [h]
  unfold makeReadyBy
  rw [Site.run_bind, run_tryAsk, hrequire]

theorem run_makeReadyBy (h : σ.context.entity? name = some e) :
    σ.run (makeReadyBy look add name) =
      match e.phase with
      | .ready _ => (.ok (), σ)
      | .populating => (.error (.configuration (.cyclicInitialization name)), σ)
      | .idle =>
        match (populating σ name).run (populateBy look add e.cls) with
        | (.ok model, ρ) =>
          (.ok (), { ρ with
            context := ρ.context.setPhase name (.ready model), reports := ρ.reports ++ [.initialized name] })
        | (.error fault, ρ) => (.error fault, { ρ with context := ρ.context.setPhase name .idle }) := by
  have hrequire : σ.context.requireEntity name = .ok e := by
    unfold Context.requireEntity
    rw [h]
  unfold makeReadyBy
  rw [Site.run_bind, run_tryAsk, hrequire]
  dsimp only
  cases e.phase with
  | ready model => rfl
  | populating => rfl
  | idle =>
    dsimp only
    rw [Site.run_bind, run_change]
    dsimp only
    rw [Site.run_bind, run_report]
    dsimp only
    rw [Site.run_tryCatch, Site.run_bind]
    unfold populating
    generalize Site.run _ (populateBy look add e.cls) = outcome
    obtain ⟨answer, ρ⟩ := outcome
    cases answer <;> rfl

end One
end Action

/-! ### The search of a strategy -/

namespace Search

theorem run_adding {σ : Site} {add : String → Action Unit} {name : String} {next : Except Fault Unit → Site → Search} :
    σ.run ((adding name next).run add) =
      (σ.run (add name)).2.run ((next (σ.run (add name)).1 (σ.run (add name)).2).run add) := by
  rw [Search.run, Site.run_bind, Action.run_attempt]
  rfl

/-- Adds entities up to the first fault, and then settles. -/
def touching (settle : Site → Search) : List String → Site → Search
  | [], σ => settle σ
  | name :: rest, _ => .adding name fun answer τ =>
    match answer with
    | .ok () => touching settle rest τ
    | .error fault => .settled (.error fault)

theorem run_touching {σ : Site} {add : String → Action Unit} {settle : Site → Search} (names : List String) :
    σ.run ((touching settle names σ).run add) =
      match σ.run (names.forM add) with
      | (.ok (), τ) => τ.run ((settle τ).run add)
      | (.error fault, τ) => (.error fault, τ) := by
  induction names generalizing σ with
  | nil => rfl
  | cons name rest ih =>
    have step : (name :: rest).forM add = (add name >>= fun _ => rest.forM add) := rfl
    rw [step, Site.run_bind, touching, run_adding]
    rcases σ.run (add name) with ⟨answer, τ⟩
    cases answer with
    | ok => exact ih
    | error fault => rfl

end Search

/-- The search of the strategy of a context. -/
def Look.own : Look := fun cls hierarchy mapping σ =>
  let strategy := σ.context.strategy
  Search.touching (fun τ =>
    let scanned := Discovery.properties τ.context.settings cls hierarchy mapping
    if strategy.probesInheritance && scanned.any τ.context.isInherited then
      .settled (.error (.configuration (.stated "inherited before initialization")))
    else .settled (.ok (strategy.kept scanned))) (strategy.touchedBy cls.name) σ

namespace Action

theorem scanBy_own : scanBy Look.own = scan := by
  funext add cls hierarchy mapping
  refine ext_run fun σ => ?_
  unfold scanBy scan Look.own
  rw [Site.run_bind, run_get, Site.run_bind, run_ask]
  dsimp only
  rw [Search.run_touching, Site.run_bind]
  rcases σ.run ((σ.context.strategy.touchedBy cls.name).forM add) with ⟨answer, τ⟩
  cases answer with
  | error fault => rfl
  | ok =>
    dsimp only
    rw [Site.run_bind, run_ask]
    dsimp only
    rw [Site.run_bind, run_ask]
    dsimp only
    split
    · rfl
    · rfl

theorem populateBy_own : populateBy Look.own = populate := by
  unfold populateBy populate
  rw [scanBy_own]

theorem makeReadyBy_own : makeReadyBy Look.own = makeReady := by
  unfold makeReadyBy makeReady
  rewrite [populateBy_own]
  rfl

theorem addFrom_own (levels : Nat) : addFrom Look.own exhausted levels = addWithin levels := by
  induction levels with
  | zero => rfl
  | succ levels ih =>
    funext name
    unfold addFrom addWithin
    rw [ih, makeReadyBy_own]

theorem addNamedBy_own : addNamedBy Look.own exhausted = addNamed := by
  unfold addNamedBy addNamed
  simp only [addFrom_own]

theorem addBy_own : addBy Look.own exhausted = add := by
  unfold addBy Action.add
  rw [addNamedBy_own]

theorem requireBy_own : requireBy Look.own exhausted = require := by
  unfold requireBy require
  simp only [addFrom_own, makeReadyBy_own]

end Action
end Persistence
