import Persistence.Settings.Basic
import Persistence.Mapping.JsonForm

/-!
Settings as JSON texts. A missing field keeps its default.
-/

namespace Persistence.Settings

open Json Json.Document

/-- The fields of the settings. -/
def fieldNames : List String :=
  ["multi_tenancy", "version_by_default", "default_nullable", "default_identifier", "mapping_strategy",
   "default_mapping"]

/-- Reads settings; fields that are left out have their defaults. -/
def ofDocument? (found : Document) : Option Settings :=
  match record? fieldNames found with
  | some [tenancy, versioned, nullable, identifier, strategy, property] => do
    return {
      tenancy := ← field? (word? TenancyMode.words) .none tenancy
      versioned := ← field? boolean? true versioned
      nullable := ← field? boolean? false nullable
      identifier := ← field? string? "id" identifier
      strategy := ← field? string? "default" strategy
      property := ← field? (nullable? PropertyConfig.ofDocument?) none property }
  | _ => none

/-- The settings of a JSON text, before they are validated. -/
def read? (s : String) : Option Settings :=
  (Document.read? s).bind ofDocument?

/-- The validated settings of a JSON text. -/
def ofText (s : String) : Except ConfigurationFault Settings :=
  match read? s with
  | none => .error .malformedSettings
  | some settings => do
    settings.validate
    return settings

/-- The validated settings of a file, given its contents if it exists. -/
def ofFile (path : String) : Option String → Except ConfigurationFault Settings
  | some contents => ofText contents
  | none => .error (.unreadableSettings path)

end Persistence.Settings
