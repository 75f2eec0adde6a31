import Persistence.Mapping.Basic
import Persistence.Json.Record

/-!
Mapping blocks as JSON texts. A missing field takes its default; a field of the wrong kind makes the text
unreadable.
-/

namespace Persistence

open Json Json.Document

/-- Reads the word for an association kind. -/
def AssociationKind.ofDocument? : Document → Option AssociationKind :=
  word? AssociationKind.words

namespace PropertyConfig

/-- The fields of a property configuration. -/
def fieldNames : List String := ["nullable", "derived", "target_name", "association"]

/-- Reads a property configuration; fields that are left out have their defaults. -/
def ofDocument? (found : Document) : Option PropertyConfig :=
  match record? fieldNames found with
  | some [nullable, derived, targetName, association] => do
    return {
      nullable := ← field? boolean? false nullable
      derived := ← field? boolean? false derived
      targetName := ← field? (nullable? string?) none targetName
      association := ← field? (nullable? AssociationKind.ofDocument?) none association }
  | _ => none

end PropertyConfig

namespace IdentityMapping

/-- The fields of an identity mapping. -/
def fieldNames : List String := ["names", "generator"]

/-- Reads an identity mapping; without names the identity is that of `id`. -/
def ofDocument? (found : Document) : Option IdentityMapping :=
  match record? fieldNames found with
  | some [names, generator] => do
    return {
      names := ← field? strings? ["id"] names
      generator := ← field? (nullable? string?) none generator }
  | _ => none

end IdentityMapping

namespace EntityMapping

/-- The fields of an entity mapping. -/
def fieldNames : List String :=
  ["identifier", "versioned", "external", "table", "tenant_id", "mapping_strategy", "transients", "properties",
   defaultPropertyName]

/-- The configurations of properties by their names; of several under one name the last one counts. -/
def properties? (found : Document) : Option (Keyed PropertyConfig) :=
  (entries? PropertyConfig.ofDocument? found).map Keyed.ofList

/-- Reads an entity mapping; fields that are left out are undeclared. -/
def ofDocument? (found : Document) : Option EntityMapping :=
  match record? fieldNames found with
  | some [identifier, versioned, external, table, tenantId, strategy, transients, properties,
      defaultProperty] => do
    return {
      identifier := ← field? (nullable? IdentityMapping.ofDocument?) none identifier
      versioned := ← field? (nullable? boolean?) none versioned
      external := ← field? (nullable? boolean?) none external
      table := ← field? (nullable? string?) none table
      tenantId := ← field? (nullable? string?) none tenantId
      strategy := ← field? (nullable? string?) none strategy
      transients := ← field? strings? [] transients
      properties := ← field? properties? [] properties
      defaultProperty := ← field? (nullable? PropertyConfig.ofDocument?) none defaultProperty }
  | _ => none

/-- The mapping block of a JSON text. -/
def read? (s : String) : Option EntityMapping :=
  (Document.read? s).bind ofDocument?

end EntityMapping

end Persistence
