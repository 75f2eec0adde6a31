import Persistence.Class.Basic
import Persistence.Mapping.Resolution

/-!
Persistent properties: the members of a class that a mapping stores, each with its kind and its configuration, and
the identity of an entity, which consists of one property or of several.
-/

namespace Persistence

/-- The name of the property that holds the version of an entity. -/
def versionName : String := "version"

/-- What a property is to its entity. -/
inductive PropertyKind where
  | identity
  | tenant
  /-- A single value. -/
  | simple
  /-- A collection or a map of values. -/
  | basic
  | embedded (type : String)
  | embeddedCollection (type : String)
  | association (kind : AssociationKind) (type : String)
deriving DecidableEq, Inhabited, Repr

namespace PropertyKind

/-- The name of a kind in descriptions. -/
def display : PropertyKind → String
  | .identity => "Identity"
  | .tenant => "TenantId"
  | .simple => "Simple"
  | .basic => "Basic"
  | .embedded _ => "Embedded"
  | .embeddedCollection _ => "EmbeddedCollection"
  | .association kind _ => kind.display

/-- The kind that follows from a type, where the configuration may choose the cardinality. -/
def ofType (config : PropertyConfig) : DataType → PropertyKind
  | .entity type => .association (config.association.getD .manyToOne) type
  | .embedded type => .embedded type
  | .list (.entity type) => .association (config.association.getD .oneToMany) type
  | .list (.embedded type) => .embeddedCollection type
  | .list _ => .basic
  | .map => .basic
  | _ => .simple

end PropertyKind

/-- A mapped member of an entity. -/
structure Property where
  name : String
  type : DataType
  kind : PropertyKind
  config : PropertyConfig
  /-- The name of the entity that it belongs to. -/
  owner : String
deriving DecidableEq, Inhabited, Repr

namespace Property

/-- The description of a property: its name, its type and its kind. -/
def display (p : Property) : String :=
  s!"{p.name}:{p.type.display} ({p.kind.display})"

/-- The name outside the program, where one is declared. -/
def targetName? (p : Property) : Option String := p.config.targetName

/-- Whether the property is part of the identity. -/
def isIdentity (p : Property) : Bool := p.kind == .identity

/-- Whether the property tells tenants apart. -/
def isTenant (p : Property) : Bool := p.kind == .tenant

/-- The kind of association that the property is. -/
def association? (p : Property) : Option AssociationKind :=
  match p.kind with
  | .association kind _ => some kind
  | _ => none

def isAssociation (p : Property) : Bool := p.association?.isSome

/-- Whether the property joins one object to many. -/
def isOneToMany (p : Property) : Bool := p.association? == some .oneToMany

/-- Whether the values of the property are embedded, one or many. -/
def isEmbedded (p : Property) : Bool :=
  match p.kind with
  | .embedded _ | .embeddedCollection _ => true
  | _ => false

/-- The class that the property leads to. -/
def associatedType? (p : Property) : Option String :=
  match p.kind with
  | .association _ type | .embedded type | .embeddedCollection type => some type
  | _ => none

end Property

/-- The property that identifies objects, or the several that do so together. -/
inductive Identity where
  | single (p : Property)
  | composite (members : List Property)
deriving DecidableEq, Inhabited, Repr

namespace Identity

/-- All members, of which there is one where the identity is not composite. -/
def members : Identity → List Property
  | .single p => [p]
  | .composite members => members

/-- The names of the members, in their order. -/
def names (identity : Identity) : List String :=
  identity.members.map (·.name)

/-- Whether several properties identify objects together. -/
def isComposite : Identity → Bool
  | .single _ => false
  | .composite _ => true

/-- The only member of an identity that is not composite. -/
def single? : Identity → Option Property
  | .single p => some p
  | .composite _ => none

/-- The members of a composite identity. -/
def composite? : Identity → Option (List Property)
  | .single _ => none
  | .composite members => some members

end Identity

end Persistence
