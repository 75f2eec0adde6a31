import Persistence.Metamodel.Layout
import Persistence.Access.EntityAccess

/-!
Persistent entities. An entity is registered without a model; the model is built once, by initialization, and stays
as it is from then on.
-/

namespace Persistence

/-- Everything that the initialization of an entity finds out. -/
structure EntityModel where
  mapping : EntityMapping
  strategy : String
  owners : List String
  /-- The name of the entity of the superclass. -/
  parent : Option String
  layout : Layout
  reflector : Reflector

/-- How far the initialization of an entity has come. -/
inductive Phase where
  | idle
  | populating
  | ready (model : EntityModel)

/-- A persistent entity: the class that it was registered with, and its model if there is one. -/
structure Entity where
  cls : Class
  phase : Phase := .idle

namespace Entity

/-- The name of the class is that of the entity. -/
def name (entity : Entity) : String := entity.cls.name

/-- The model, once the entity is initialized. -/
def model? (entity : Entity) : Option EntityModel :=
  match entity.phase with
  | .ready model => some model
  | _ => none

/-- Whether the entity has its model. -/
def isInitialized (entity : Entity) : Bool := entity.model?.isSome

/-- The model, as a fault where there is none yet. -/
def requireModel (entity : Entity) : Except Fault EntityModel :=
  match entity.model? with
  | some model => .ok model
  | none => .error (.notInitialized entity.name)

/-- The layout of the properties, once the entity is initialized. -/
def layout? (entity : Entity) : Option Layout := entity.model?.map (·.layout)

/-- The simple name of the class as that of a property. -/
def decapitalizedName (entity : Entity) : String := Naming.decapitalize entity.cls.simpleName

/-- The entity above this one. -/
def parent? (entity : Entity) : Option String := entity.model?.bind (·.parent)

/-- Whether no entity is above this one, as far as is known. -/
def isRoot (entity : Entity) : Bool := entity.parent?.isNone

/-- The entities that own this one; before it is initialized none are known. -/
def owners (entity : Entity) : List String :=
  match entity.model? with
  | some model => model.owners
  | none => []

/-- Whether another entity owns this one. -/
def isOwnedBy (entity owner : Entity) : Bool := entity.owners.contains owner.name

/-- Whether the mapping in force is that of an external entity. -/
def isExternal (entity : Entity) : Bool :=
  match entity.model? with
  | some model => model.mapping.isExternal
  | none => false

/-- The listed properties; before initialization there are none. -/
def properties (entity : Entity) : List Property :=
  match entity.layout? with
  | some layout => layout.properties
  | none => []

/-- The names of the persistent properties. -/
def propertyNames (entity : Entity) : List String :=
  match entity.layout? with
  | some layout => layout.names
  | none => []

/-- The properties that are associations. -/
def associations (entity : Entity) : List Property :=
  match entity.layout? with
  | some layout => layout.associations
  | none => []

/-- The properties whose values are embedded. -/
def embedded (entity : Entity) : List Property :=
  match entity.layout? with
  | some layout => layout.embedded
  | none => []

/-- The identity, once the entity is initialized. -/
def identity? (entity : Entity) : Option Identity := entity.layout?.map (·.identity)

/-- Whether a property of the name is part of the identity. -/
def isIdentityName (entity : Entity) (name : String) : Bool :=
  match entity.identity? with
  | some identity => identity.names.contains name
  | none => false

/-- The property that versions are kept in, if they are kept. -/
def version? (entity : Entity) : Option Property := entity.layout?.bind (·.version)

/-- Whether optimistic locking is active. -/
def isVersioned (entity : Entity) : Bool := entity.version?.isSome

/-- The property that tells tenants apart, if one does. -/
def tenant? (entity : Entity) : Option Property := entity.layout?.bind (·.tenant)

/-- The property of a name, or else of a target name. -/
def property? (entity : Entity) (name : String) : Option Property :=
  entity.layout?.bind (·.property? name)

/-- Whether a property, or else a member of the class, has the given type. -/
def hasProperty (entity : Entity) (name : String) (type : DataType) : Bool :=
  match entity.property? name with
  | some p => p.type == type
  | none => ((entity.cls.field? name).map (·.type)).or ((entity.cls.getter? name).map (·.type)) == some type

/-- The compiled accessors. -/
def reflector (entity : Entity) : Except Fault Reflector := do
  return (← entity.requireModel).reflector

/-- The accessors together with the declared types. -/
def access (entity : Entity) : Except Fault EntityAccess := do
  let model ← entity.requireModel
  return ⟨entity.name, model.layout.identity, model.reflector⟩

/-- A new object of the class. -/
def newInstance (entity : Entity) : Except Fault Instance := entity.cls.newInstance

/-- The text of an entity in diagnostics. -/
def debug (entity : Entity) : String :=
  "PersistentEntity \x7b name: " ++ Text.quoted entity.name ++ s!", initialized: {entity.isInitialized}" ++ " \x7d"

end Entity

end Persistence
