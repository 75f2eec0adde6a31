import Persistence.Mapping.Basic
import Persistence.Text.Blank
import Persistence.Fault

/-!
Settings that all entities of a mapping context share: how tenants are kept apart and what holds for entities and
properties that do not say it themselves.
-/

namespace Persistence

/-- How tenants are kept apart. -/
inductive TenancyMode where
  | none
  /-- A datastore for each tenant. -/
  | database
  /-- A schema for each tenant. -/
  | schema
  /-- Shared tables; a tenant property tells the tenants apart. -/
  | discriminator
deriving DecidableEq, Inhabited, Repr

namespace TenancyMode

/-- Whether tenants share tables and are told apart by a property. -/
def isDiscriminator : TenancyMode → Bool
  | .discriminator => true
  | _ => false

/-- The word for a mode. -/
def display : TenancyMode → String
  | .none => "none"
  | .database => "database"
  | .schema => "schema"
  | .discriminator => "discriminator"

/-- The words for the modes in settings. -/
def words : List (String × TenancyMode) :=
  [("none", .none), ("database", .database), ("schema", .schema), ("discriminator", .discriminator)]

/-- The mode of a word, whose case and surrounding blanks do not matter. No word at all means no tenants. -/
def read (s : String) : Except ConfigurationFault TenancyMode :=
  let word := Text.asciiLower (Text.trim s)
  if word = "" then .ok .none
  else
    match words.lookup word with
    | some mode => .ok mode
    | .none => .error (.unknownTenancyMode word)

end TenancyMode

/-- The settings of a mapping context. -/
structure Settings where
  tenancy : TenancyMode := .none
  /-- Whether entities are versioned unless their mapping says otherwise. -/
  versioned : Bool := true
  /-- Whether properties without a mapping take null. -/
  nullable : Bool := false
  /-- The identifier of entities whose mapping names none. -/
  identifier : String := "id"
  /-- The name of the mapping strategy that entities report. -/
  strategy : String := "default"
  /-- The mapping of properties without one of their own. -/
  property : Option PropertyConfig := none
deriving DecidableEq, Inhabited, Repr

namespace Settings

/-- Settings have a name for the identifier and for the strategy. -/
def validate (settings : Settings) : Except ConfigurationFault Unit :=
  if Text.isBlankText settings.identifier then .error .identifierNameEmpty
  else if Text.isBlankText settings.strategy then .error .strategyNameEmpty
  else .ok ()

end Settings

end Persistence
