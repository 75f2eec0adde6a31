import Persistence.Settings.Basic

/-!
Settings from flat properties. Keys of other programs and unknown keys are passed over; of several values of a key
the last one counts, but each of them has to be readable.
-/

namespace Persistence.Settings

/-- What the keys of settings begin with. -/
def keyStart : String := "persistmodel."

/-- What the keys after their common start set. -/
def tenancyKey : String := "multi_tenancy.mode"

/-- The key of whether entities are versioned. -/
def versionedKey : String := "default.versioned"

/-- The key of whether properties take null. -/
def nullableKey : String := "default.nullable"

/-- The key of the default identifier. -/
def identifierKey : String := "default.identifier"

/-- The key of the mapping strategy. -/
def strategyKey : String := "mapping_strategy"

/-- A flag: one of three words for each of its values, whose case and surrounding blanks do not matter. -/
def flag (key value : String) : Except ConfigurationFault Bool :=
  let word := Text.asciiLower (Text.trim value)
  if ["true", "yes", "1"].contains word then .ok true
  else if ["false", "no", "0"].contains word then .ok false
  else .error (.flagExpected (keyStart ++ key) word)

/-- Applies the value of a key without its common start. -/
def apply (settings : Settings) (key value : String) : Except ConfigurationFault Settings :=
  if key = tenancyKey then do return { settings with tenancy := ← TenancyMode.read value }
  else if key = versionedKey then do return { settings with versioned := ← flag key value }
  else if key = nullableKey then do return { settings with nullable := ← flag key value }
  else if key = identifierKey then .ok { settings with identifier := Text.trim value }
  else if key = strategyKey then .ok { settings with strategy := Text.trim value }
  else .ok settings

/-- Applies a property if its key is one of settings. -/
def applyProperty (settings : Settings) (property : String × String) : Except ConfigurationFault Settings :=
  match Text.afterStart? keyStart.toList property.1.toList with
  | some key => settings.apply (String.ofList key) property.2
  | none => .ok settings

/-- The settings of properties, applied from the left and validated at the end. -/
def ofProperties (properties : List (String × String)) : Except ConfigurationFault Settings := do
  let settings ← properties.foldlM applyProperty {}
  settings.validate
  return settings

end Persistence.Settings
