import Persistence.Metamodel.Entity

/-!
Mapping contexts: the classes that are known and the entities that are registered, with the settings and the
strategy under which they are mapped. Every entity stands in the order of its registration and is never replaced,
while a class may be replaced by another one of its name at any time.
-/

namespace Persistence

/-- How a context finds entities and their properties. The plain strategy follows the marks of the classes and
nothing else; what differs from it is listed here. -/
structure Strategy where
  name : String := "default"
  /-- Whether every class is an entity, marked or not. -/
  takesEveryClass : Bool := false
  /-- Owners that every entity has besides those of its class. -/
  owners : List String := []
  /-- Entities that are added while the properties of an entity are looked for. -/
  touched : Keyed (List String) := []
  /-- Whether the properties found are asked whether they are inherited, which none of them knows yet. -/
  probesInheritance : Bool := false
  /-- Names of properties that are left out. -/
  skipped : List String := []
deriving Inhabited

namespace Strategy

/-- Whether a class is taken as an entity. -/
def isEntity (strategy : Strategy) (cls : Class) : Bool :=
  strategy.takesEveryClass || cls.isEntity

/-- The entities that own a class, those of the strategy last. -/
def ownersOf (strategy : Strategy) (cls : Class) : List String :=
  cls.owners ++ strategy.owners

/-- The entities that are added while the properties of an entity are looked for. -/
def touchedBy (strategy : Strategy) (entity : String) : List String :=
  (strategy.touched.get? entity).getD []

/-- Leaves out the skipped properties. -/
def kept (strategy : Strategy) (scanned : List Property) : List Property :=
  scanned.filter fun p => !strategy.skipped.contains p.name

end Strategy

/-- A mapping context. -/
structure Context where
  settings : Settings := {}
  strategy : Strategy := {}
  handling : ProxyHandling := .transparent
  classes : Keyed Class := []
  /-- Registered entities, in the order of registration. -/
  entities : List Entity := []
deriving Inhabited

namespace Context

/-! ### Classes -/

/-- Registers a class, in place of the one of its name. -/
def register (ctx : Context) (cls : Class) : Context :=
  { ctx with classes := ctx.classes.put cls.name cls }

/-- The registered class of a name. -/
def requireClass (ctx : Context) (name : String) : Except Fault Class :=
  match ctx.classes.get? name with
  | some cls => .ok cls
  | none => .error (.configuration (.unknownClass name))

/-- The chain of superclasses from a class on, lowest class first. A class that was visited before closes a cycle;
a chain without one is no longer than the number of classes. -/
def chainFrom (ctx : Context) (start : String) : Nat → List String → String → Except Fault (List Class)
  | 0, _, name => .error (.configuration (.cyclicHierarchy start name))
  | levels + 1, visited, name =>
    if visited.contains name then .error (.configuration (.cyclicHierarchy start name))
    else
      match ctx.classes.get? name with
      | none => .error (.configuration (.unregisteredClass name))
      | some cls =>
        match cls.superclass with
        | none => .ok [cls]
        | some superclass => (cls :: ·) <$> ctx.chainFrom start levels (name :: visited) superclass

/-- The hierarchy of a class, root first. -/
def hierarchy (ctx : Context) (name : String) : Except Fault (List Class) :=
  List.reverse <$> ctx.chainFrom name (ctx.classes.length + 1) [] name

/-! ### Entities -/

/-- The entity of a name, if it was enrolled. -/
def entity? (ctx : Context) (name : String) : Option Entity :=
  ctx.entities.find? (·.name == name)

/-- The entity of a name, as a fault where there is none. -/
def requireEntity (ctx : Context) (name : String) : Except Fault Entity :=
  match ctx.entity? name with
  | some entity => .ok entity
  | none => .error (.entityNotFound name)

/-- Registers an entity for a class at the end of the order. -/
def enroll (ctx : Context) (cls : Class) : Context :=
  { ctx with entities := ctx.entities ++ [{ cls }] }

/-- Moves an entity on to a phase. -/
def setPhase (ctx : Context) (name : String) (phase : Phase) : Context :=
  { ctx with entities := ctx.entities.map fun entity => if entity.name == name then { entity with phase } else entity }

/-- Entities from a name on, each followed by its parent. -/
def lineFrom (ctx : Context) : Nat → Option String → List Entity
  | 0, _ => []
  | _, none => []
  | levels + 1, some name =>
    match ctx.entity? name with
    | none => []
    | some entity => entity :: ctx.lineFrom levels entity.parent?

/-- The parent of an entity, the parent of that one, and so on. -/
def ancestors (ctx : Context) (entity : Entity) : List Entity :=
  ctx.lineFrom ctx.entities.length entity.parent?

/-- The last ancestor of an entity, or the entity itself. -/
def root (ctx : Context) (entity : Entity) : Entity :=
  (ctx.ancestors entity).getLast?.getD entity

/-- Whether an ancestor of the owner has a property of the given one's name. The answer is no as long as the owner
is not initialized. -/
def isInherited (ctx : Context) (p : Property) : Bool :=
  match ctx.entity? p.owner with
  | none => false
  | some owner => owner.isInitialized && (ctx.ancestors owner).any fun ancestor => (ancestor.property? p.name).isSome

/-- Whether an object is of the class of an entity or of a subclass. -/
def isInstance (ctx : Context) (entity : Entity) (obj : Instance) : Bool :=
  let name := (ctx.handling.unwrap obj).cls.name
  name == entity.name ||
    match ctx.hierarchy name with
    | .ok hierarchy => hierarchy.any (·.name == entity.name)
    | .error _ => false

/-- The reader of a property, from the reflector of the entity that owns it. -/
def readerOf (ctx : Context) (p : Property) : Except Fault PropertyReader :=
  match ctx.entity? p.owner with
  | none => .error (.notInitialized p.owner)
  | some owner => do (← owner.reflector).reader p.name

/-- The writer of a property, from the reflector of the entity that owns it. -/
def writerOf (ctx : Context) (p : Property) : Except Fault PropertyWriter :=
  match ctx.entity? p.owner with
  | none => .error (.notInitialized p.owner)
  | some owner => do (← owner.reflector).writer p.name

end Context

end Persistence
