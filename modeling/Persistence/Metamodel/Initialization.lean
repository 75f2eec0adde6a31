import Persistence.Metamodel.Context
import Persistence.Access.Cache

/-!
Registration and initialization of entities. An entity is registered before it is initialized, so that the
initialization of a subclass, or of an entity that a strategy touches, can register and initialize others. While an
entity is being populated, a request for it is a fault; a failed initialization leaves the entity registered and
free to be tried again.
-/

namespace Persistence

/-- A context with the cache of reflectors that it uses and the reports that have been made. -/
structure Site where
  context : Context := {}
  cache : ReflectorCache := {}
  reports : List Diagnostic := []
deriving Inhabited

/-- What is done at a site. It may fail; what it did before stays done. -/
abbrev Action := ExceptT Fault (StateM Site)

namespace Action

/-- Looks something up in the context. -/
def ask {α : Type} (question : Context → α) : Action α := do
  return question (← get).context

/-- A question to the context that may fail. -/
def tryAsk {α : Type} (question : Context → Except Fault α) : Action α := do
  match question (← get).context with
  | .ok answer => return answer
  | .error fault => throw fault

/-- The value of a computation that may fail. -/
def ofExcept {α : Type} : Except Fault α → Action α
  | .ok value => return value
  | .error fault => throw fault

/-- Changes the context. -/
def change (f : Context → Context) : Action Unit :=
  modify fun site => { site with context := f site.context }

/-- Adds to what was reported. -/
def report (lines : List Diagnostic) : Action Unit :=
  modify fun site => { site with reports := site.reports ++ lines }

/-- The reflector of the last class of a hierarchy, from the cache or compiled. -/
def reflectorFor (hierarchy : List Class) (layout : Layout) : Action Reflector := do
  let site ← get
  let (found, cache, lines) :=
    site.cache.getOrCompile hierarchy layout.properties layout.identity site.context.handling
  set { site with cache, reports := site.reports ++ lines }
  ofExcept found

/-! ### Initialization -/

/-- The entity of the superclass, which is added if the superclass is one. -/
def parentOf (add : String → Action Unit) (cls : Class) : Action (Option String) := do
  match cls.superclass with
  | none => return none
  | some superclass =>
    let found ← tryAsk (·.requireClass superclass)
    if (← ask (·.strategy)).isEntity found then
      add found.name
      return some found.name
    else return none

/-- The properties of an entity that the strategy finds. -/
def scan (add : String → Action Unit) (cls : Class) (hierarchy : List Class) (mapping : EntityMapping) :
    Action (List Property) := do
  let strategy ← ask (·.strategy)
  (strategy.touchedBy cls.name).forM add
  let scanned := Discovery.properties (← ask (·.settings)) cls hierarchy mapping
  if strategy.probesInheritance && (← ask fun ctx => scanned.any ctx.isInherited) then
    throw (.configuration (.stated "inherited before initialization"))
  return strategy.kept scanned

/-- Builds the model of an entity that was registered with the given class. The hierarchy is that of the classes
that are registered now. -/
def populate (add : String → Action Unit) (cls : Class) : Action EntityModel := do
  let hierarchy ← tryAsk (·.hierarchy cls.name)
  let parent ← parentOf add cls
  let settings ← ask (·.settings)
  let mapping := settings.entityMapping (hierarchy.filterMap (·.mapping))
  let scanned ← scan add cls hierarchy mapping
  let layout ← ofExcept (Layout.ofScan settings cls hierarchy mapping scanned)
  report (Layout.versionReports cls.name mapping scanned)
  let reflector ← reflectorFor hierarchy layout
  let owners ← ask (·.strategy.ownersOf cls)
  return { mapping, strategy := mapping.strategy.getD settings.strategy, owners, parent, layout, reflector }

/-- Initializes a registered entity, unless it is initialized already. -/
def makeReady (add : String → Action Unit) (name : String) : Action Unit := do
  let entity ← tryAsk (·.requireEntity name)
  match entity.phase with
  | .ready _ => return
  | .populating => throw (.configuration (.cyclicInitialization name))
  | .idle =>
    change (·.setPhase name .populating)
    report [.initializing name]
    try
      let model ← populate add entity.cls
      change (·.setPhase name (.ready model))
      report [.initialized name]
    catch fault =>
      change (·.setPhase name .idle)
      throw fault

/-- Registers the entity of a known class, unless it is registered already. -/
def enroll (name : String) : Action Unit := do
  if (← ask (·.entity? name)).isNone then
    let cls ← tryAsk (·.requireClass name)
    unless (← ask (·.strategy)).isEntity cls do throw (.configuration (.notPersistent name))
    change (·.enroll cls)

/-- Adds an entity, with so many levels left for others to be added on the way. Each level populates an entity that
no level above it populates, so that there are never more levels than classes. -/
def addWithin : Nat → String → Action Unit
  | 0, name => throw (.configuration (.cyclicInitialization name))
  | levels + 1, name => do
    enroll name
    makeReady (addWithin levels) name

/-- As many levels as there are classes, and one for a name that turns out to be taken. -/
def levels : Action Nat := ask fun ctx => ctx.classes.length + 1

/-! ### Requests -/

/-- Adds the entity of a registered class and initializes it on its first use. -/
def addNamed (name : String) : Action Entity := do
  addWithin (← levels) name
  tryAsk (·.requireEntity name)

/-- Registers a class and adds its entity. -/
def add (cls : Class) : Action Entity := do
  change (·.register cls)
  addNamed cls.name

/-- A registered entity, which is initialized if it is not yet. -/
def require (name : String) : Action Entity := do
  makeReady (addWithin (← levels)) name
  tryAsk (·.requireEntity name)

/-- The reflector of an entity, which is initialized for it if need be. -/
def reflectorOf (name : String) : Action Reflector := do
  ofExcept (← require name).reflector

/-- Access to an object by the declared types of its entity. -/
def accessTo (obj : Instance) : Action EntityAccess := do
  let name ← ask fun ctx => (ctx.handling.unwrap obj).cls.name
  ofExcept (← require name).access

end Action

/-- The outcome of an action and the site that it leaves. -/
def Site.run {α : Type} (site : Site) (action : Action α) : Except Fault α × Site :=
  (ExceptT.run action).run site

end Persistence
