import Persistence.Keyed

/-!
Mapping blocks: what a class declares about its identifier, its versioning and its properties. Every setting of a
block is optional, so that the block of a subclass overlays that of its superclass with what it declares itself.
-/

namespace Persistence

/-- How many objects an association joins on each side. -/
inductive AssociationKind where
  | oneToOne
  | manyToOne
  | oneToMany
  | manyToMany
deriving DecidableEq, Inhabited, Repr

namespace AssociationKind

/-- Whether the owning side holds a collection. -/
def isCollection : AssociationKind → Bool
  | .oneToMany | .manyToMany => true
  | _ => false

/-- The name of an association kind in descriptions. -/
def display : AssociationKind → String
  | .oneToOne => "OneToOne"
  | .manyToOne => "ManyToOne"
  | .oneToMany => "OneToMany"
  | .manyToMany => "ManyToMany"

/-- The words for the kinds in mapping blocks. -/
def words : List (String × AssociationKind) :=
  [("one_to_one", .oneToOne), ("many_to_one", .manyToOne), ("one_to_many", .oneToMany),
   ("many_to_many", .manyToMany)]

/-- The word for an association kind in JSON. -/
def word : AssociationKind → String
  | .oneToOne => "one_to_one"
  | .manyToOne => "many_to_one"
  | .oneToMany => "one_to_many"
  | .manyToMany => "many_to_many"

end AssociationKind

/-- What a mapping says of a property. -/
structure PropertyConfig where
  nullable : Bool := false
  derived : Bool := false
  /-- The name outside the program, where it differs from that of the property. -/
  targetName : Option String := none
  /-- The association kind, in place of the one that follows from the type. -/
  association : Option AssociationKind := none
deriving DecidableEq, Inhabited, Repr

/-- A fresh configuration with the settings of a template. -/
def PropertyConfig.ofTemplate (template : PropertyConfig) : PropertyConfig where
  nullable := template.nullable
  derived := template.derived
  targetName := template.targetName
  association := template.association

/-- The declared identifier of an entity. -/
structure IdentityMapping where
  names : List String := ["id"]
  generator : Option String := none
deriving DecidableEq, Inhabited, Repr

namespace IdentityMapping

/-- An identity of one member. -/
def single (name : String) : IdentityMapping := { names := [name] }

/-- Whether the identity has more than one member. -/
def isComposite (identity : IdentityMapping) : Bool :=
  1 < identity.names.length

end IdentityMapping

/-- The mapping block of a class. -/
structure EntityMapping where
  identifier : Option IdentityMapping := none
  versioned : Option Bool := none
  /-- Whether the entity is managed elsewhere, so that it is never versioned. -/
  external : Option Bool := none
  table : Option String := none
  tenantId : Option String := none
  strategy : Option String := none
  /-- Names of members that are not persistent. -/
  transients : List String := []
  properties : Keyed PropertyConfig := []
  /-- The configuration of every property without one of its own. -/
  defaultProperty : Option PropertyConfig := none
deriving DecidableEq, Inhabited, Repr

namespace EntityMapping

/-- The name under which a block declares its default property. -/
def defaultPropertyName : String := "*"

/-- Configures a property, or the default of all properties under the name kept for it. -/
def setProperty (mapping : EntityMapping) (name : String) (config : PropertyConfig) : EntityMapping :=
  if name = defaultPropertyName then { mapping with defaultProperty := some config }
  else { mapping with properties := mapping.properties.put name config }

/-- Adds a name to a list that does not have it yet. -/
def addName (names : List String) (name : String) : List String :=
  if names.contains name then names else names ++ [name]

/-- Lays a block over another one: what it declares wins, and transient names are collected. -/
def merge (base layer : EntityMapping) : EntityMapping where
  identifier := layer.identifier.or base.identifier
  versioned := layer.versioned.or base.versioned
  external := layer.external.or base.external
  table := layer.table.or base.table
  tenantId := layer.tenantId.or base.tenantId
  strategy := layer.strategy.or base.strategy
  transients := layer.transients.foldl addName base.transients
  properties := layer.properties.foldl (fun entries entry => entries.put entry.1 entry.2) base.properties
  defaultProperty := layer.defaultProperty.or base.defaultProperty

/-- Whether versions are kept, as they are unless the mapping says otherwise. -/
def isVersioned (mapping : EntityMapping) : Bool := mapping.versioned.getD true

/-- Whether the entity is mapped as an external one. -/
def isExternal (mapping : EntityMapping) : Bool := mapping.external.getD false

/-- Whether a property is left out of the mapping. -/
def isTransient (mapping : EntityMapping) (name : String) : Bool := mapping.transients.contains name

/-- The names of the declared members of the identity. -/
def identifierNames (mapping : EntityMapping) : List String :=
  match mapping.identifier with
  | some identity => identity.names
  | none => []

/-- What the mapping says of a property by its own name. -/
def config? (mapping : EntityMapping) (name : String) : Option PropertyConfig :=
  mapping.properties.get? name

end EntityMapping

end Persistence
