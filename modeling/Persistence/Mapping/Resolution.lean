import Persistence.Settings.Basic

/-!
The mapping that is in force: the defaults of the settings, overlaid by the blocks of a class hierarchy from the
root on, and what follows from it for single properties.
-/

namespace Persistence.Settings

/-- What the settings say for entities without a block of their own. -/
def baseMapping (settings : Settings) : EntityMapping where
  identifier := some (IdentityMapping.single settings.identifier)
  versioned := some settings.versioned
  defaultProperty := settings.property

/-- The mapping of the last class of a hierarchy, given the blocks of its classes, the root's first. -/
def entityMapping (settings : Settings) (blocks : List EntityMapping) : EntityMapping :=
  blocks.foldl EntityMapping.merge settings.baseMapping

/-- The configuration of a property: its own one, or a fresh one after the default property of the mapping, or one
that only says whether null is taken. -/
def propertyConfig (settings : Settings) (mapping : EntityMapping) (name : String) : PropertyConfig :=
  match mapping.config? name with
  | some config => config
  | none =>
    match mapping.defaultProperty with
    | some template => PropertyConfig.ofTemplate template
    | none => { nullable := settings.nullable }

end Persistence.Settings

namespace Persistence.EntityMapping

/-- The name of the tenant property where the mapping gives none. -/
def defaultTenantName : String := "tenantId"

/-- The name of the tenant property of a class, if the class has tenants. -/
def tenantName? (mapping : EntityMapping) (multiTenant : Bool) : Option String :=
  if multiTenant then some (mapping.tenantId.getD defaultTenantName) else none

/-- Whether a member of a class is its tenant property: it is marked as such or has its name. -/
def isTenantName (mapping : EntityMapping) (multiTenant : Bool) (name : String) (marked : Bool) : Bool :=
  multiTenant && (marked || mapping.tenantName? multiTenant == some name)

end Persistence.EntityMapping
