import Persistence.Metamodel.Discovery
import Persistence.Metamodel.Diagnostic

/-!
The layout of an entity: its properties, listed and by name, and the ones with a role of their own. The members of
the identity are not listed, nor is any property named like the default identifier, but the members stay reachable
by their names and by their target names.
-/

namespace Persistence

/-- The properties of an entity and their roles. -/
structure Layout where
  /-- The listed properties, in the order of discovery. -/
  properties : List Property
  /-- The names of the listed properties that are not one-to-many. -/
  names : List String
  byName : Keyed Property
  /-- Properties by target names that differ from their own names. -/
  byTarget : Keyed Property
  associations : List Property
  embedded : List Property
  identity : Identity
  version : Option Property
  tenant : Option Property
deriving Inhabited

namespace Layout

/-- The properties under their names. -/
def named (properties : List Property) : List (String × Property) :=
  properties.map fun p => (p.name, p)

/-- Properties with the target names that differ from their own names. -/
def targeted (properties : List Property) : List (String × Property) :=
  properties.filterMap fun p =>
    match p.targetName? with
    | some target => if target = p.name then none else some (target, p)
    | none => none

/-- Enters pairs from the left. -/
def enter (entries : Keyed Property) (pairs : List (String × Property)) : Keyed Property :=
  pairs.foldl (fun entries pair => entries.put pair.1 pair.2) entries

/-- The tenant property among the scanned ones: the last one of its kind. -/
def tenantOf (scanned : List Property) : Option Property :=
  (scanned.filter Property.isTenant).getLast?

/-- Whether versions of entities are kept at all. -/
def keepsVersions (mapping : EntityMapping) : Bool :=
  !mapping.isExternal && mapping.isVersioned

/-- The scanned property of the name of versions. -/
def versionCandidate? (mapping : EntityMapping) (scanned : List Property) : Option Property :=
  if keepsVersions mapping then scanned.find? (·.name == versionName) else none

/-- The version property: the candidate, if its type can hold versions. -/
def versionOf (mapping : EntityMapping) (scanned : List Property) : Option Property :=
  (versionCandidate? mapping scanned).filter (·.type.isVersionCompatible)

/-- What is reported when versions are asked for and no property can hold them. -/
def versionReports (entity : String) (mapping : EntityMapping) (scanned : List Property) : List Diagnostic :=
  if keepsVersions mapping then
    match versionCandidate? mapping scanned with
    | none => [.versionMissing entity]
    | some p => if p.type.isVersionCompatible then [] else [.versionIncompatible entity p.type]
  else []

/-- Whether a class needs a tenant property. -/
def needsTenant (settings : Settings) (cls : Class) : Bool :=
  cls.isMultiTenant && settings.tenancy.isDiscriminator

/-- The tenant property of a class that needs one. -/
def tenantFor (settings : Settings) (cls : Class) (scanned : List Property) : Except Fault (Option Property) :=
  if needsTenant settings cls then
    match tenantOf scanned with
    | some p => .ok (some p)
    | none => .error (.configuration (.tenantMissing cls.name))
  else .ok none

/-- The layout of scanned properties under a resolved identity. -/
def arrange (settings : Settings) (mapping : EntityMapping) (scanned : List Property) (identity : Identity)
    (tenant : Option Property) : Layout :=
  let unlisted := identity.names ++ [settings.identifier]
  let isListed (p : Property) := !unlisted.contains p.name
  let listed := scanned.filter isListed
  { properties := listed
    names := (listed.filter fun p => !p.isOneToMany).map (·.name)
    byName := enter (enter [] (named listed)) (named identity.members)
    byTarget := enter ((enter [] (targeted scanned)).filter fun entry => isListed entry.2)
      (targeted identity.members)
    associations := listed.filter Property.isAssociation
    embedded := listed.filter Property.isEmbedded
    identity
    version := versionOf mapping scanned
    tenant }

/-- The layout of an entity of the given class from its scanned properties. -/
def ofScan (settings : Settings) (cls : Class) (hierarchy : List Class) (mapping : EntityMapping)
    (scanned : List Property) : Except Fault Layout := do
  let identity ← Discovery.identity settings cls hierarchy mapping scanned
  let tenant ← tenantFor settings cls scanned
  return arrange settings mapping scanned identity tenant

/-- The property of a name, or else of a target name. -/
def property? (layout : Layout) (name : String) : Option Property :=
  (layout.byName.get? name).or (layout.byTarget.get? name)

end Layout

end Persistence
