import Persistence.Metamodel.Initialization

/-!
Contexts side by side. Each context uses one cache of reflectors, and several may share a cache. A property that is
held outlives its context: it still has its name and type, but no owner, and whether it is inherited is known only
if it was asked before.
-/

namespace Persistence

/-- A context in a workspace. -/
structure Place where
  id : Nat
  /-- The name of the cache that the context uses. -/
  cache : String
  context : Context

/-- Contexts, caches by their names, and what is known of properties. -/
structure Workspace where
  places : List Place := []
  caches : Keyed ReflectorCache := []
  /-- Answers that properties gave, by context, owner and name. -/
  known : List ((Nat × String × String) × Bool) := []

/-- A property of an entity of one context. -/
structure HeldProperty where
  place : Nat
  property : Property
deriving Inhabited

namespace Workspace

/-- The place of a context by its number. -/
def place? (ws : Workspace) (id : Nat) : Option Place :=
  ws.places.find? (·.id == id)

/-- The context of a number. -/
def context? (ws : Workspace) (id : Nat) : Option Context :=
  (ws.place? id).map (·.context)

/-- The cache of a name, which is empty until something is put there. -/
def cache (ws : Workspace) (name : String) : ReflectorCache :=
  (ws.caches.get? name).getD {}

/-- The cache that a context uses. -/
def cacheOf (ws : Workspace) (id : Nat) : ReflectorCache :=
  match ws.place? id with
  | some found => ws.cache found.cache
  | none => {}

/-- Adds a context under an identity that no other one has. -/
def openContext (ws : Workspace) (id : Nat) (cache : String) (context : Context) : Workspace :=
  { ws with places := ws.places ++ [{ id, cache, context }] }

/-- Takes a context away, with all of its entities. -/
def closeContext (ws : Workspace) (id : Nat) : Workspace :=
  { ws with places := ws.places.filter fun p => p.id != id }

/-- Changes the context of a number. -/
def updateContext (ws : Workspace) (id : Nat) (f : Context → Context) : Workspace :=
  { ws with places := ws.places.map fun p => if p.id == id then { p with context := f p.context } else p }

/-- Changes the cache that a context uses, for all contexts that use it. -/
def updateCache (ws : Workspace) (id : Nat) (f : ReflectorCache → ReflectorCache) : Workspace :=
  match ws.place? id with
  | some found => { ws with caches := ws.caches.put found.cache (f (ws.cache found.cache)) }
  | none => ws

/-- Does something in a context, and gives what was reported on the way. -/
def run {α : Type} (ws : Workspace) (id : Nat) (action : Action α) :
    Except Fault α × List Diagnostic × Workspace :=
  match ws.place? id with
  | none => (.error (.lock "the context is closed"), [], ws)
  | some found =>
    let (answer, site) := Site.run { context := found.context, cache := ws.cache found.cache } action
    (answer, site.reports, (ws.updateContext id fun _ => site.context).updateCache id fun _ => site.cache)

/-! ### Held properties -/

/-- The entity that a property belongs to, while its context lives. -/
def ownerOf? (ws : Workspace) (held : HeldProperty) : Option Entity :=
  (ws.context? held.place).bind (·.entity? held.property.owner)

/-- Whether a property is inherited. The answer of an initialized owner is kept. -/
def isInherited (ws : Workspace) (held : HeldProperty) : Bool × Workspace :=
  let key := (held.place, held.property.owner, held.property.name)
  match ws.known.lookup key with
  | some answer => (answer, ws)
  | none =>
    match ws.context? held.place with
    | none => (false, ws)
    | some context =>
      match context.entity? held.property.owner with
      | none => (false, ws)
      | some owner =>
        if owner.isInitialized then
          let answer := context.isInherited held.property
          (answer, { ws with known := (key, answer) :: ws.known })
        else (false, ws)

/-- The reader of a property that somebody holds on to. -/
def readerOf (ws : Workspace) (held : HeldProperty) : Except Fault PropertyReader :=
  match ws.context? held.place with
  | some context => context.readerOf held.property
  | none => .error (.notInitialized held.property.owner)

/-- The writer of a property that somebody holds on to. -/
def writerOf (ws : Workspace) (held : HeldProperty) : Except Fault PropertyWriter :=
  match ws.context? held.place with
  | some context => context.writerOf held.property
  | none => .error (.notInitialized held.property.owner)

/-- Whether the reflectors of two entities are one and the same. -/
def isSameReflector (ws : Workspace) (a : Nat × Reflector) (b : Nat × Reflector) : Bool :=
  (ws.place? a.1).map (·.cache) == (ws.place? b.1).map (·.cache) && a.2.number == b.2.number

end Workspace

end Persistence
