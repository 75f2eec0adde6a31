import Persistence.DataType.Conversion
import Persistence.Session.Identity
import Persistence.Session.Outcome

/-!
Faults of mappings, accessors and sessions, given by their causes, and the messages that announce them. A cause
that is only known by its wording, because a method body or a datastore reported it, is a stated one.
-/

namespace Persistence

/-- Why settings, classes or mappings cannot be used. -/
inductive ConfigurationFault where
  | stated (text : String)
  | unknownTenancyMode (word : String)
  | flagExpected (key : String) (word : String)
  | identifierNameEmpty
  | strategyNameEmpty
  | malformedSettings
  | unreadableSettings (path : String)
  | unknownClass (name : String)
  | unregisteredClass (name : String)
  | cyclicHierarchy (start : String) (meeting : String)
  | notPersistent (name : String)
  | cyclicInitialization (entity : String)
  | identifierUndeclared (entity : String)
  | identifierMissing (entity : String) (identifier : String)
  | identityMissing (entity : String)
  | tenantMissing (entity : String)
  | emptyHierarchy
  | accessorMissing (property : String) (entity : String)
  | getterBodiless (method : String) (entity : String)
deriving DecidableEq, Inhabited, Repr

/-- The text of a configuration fault. -/
def ConfigurationFault.message : ConfigurationFault → String
  | .stated text => text
  | .unknownTenancyMode word => s!"Unknown multi-tenancy mode '{word}'"
  | .flagExpected key word => s!"Setting '{key}' expects a boolean, got '{word}'"
  | .identifierNameEmpty => "default_identifier cannot be empty"
  | .strategyNameEmpty => "mapping_strategy cannot be empty"
  | .malformedSettings => "Invalid settings JSON: the text does not describe settings"
  | .unreadableSettings path => s!"Cannot read settings '{path}': No such file or directory (os error 2)"
  | .unknownClass name => s!"Unknown class [{name}]"
  | .unregisteredClass name => s!"Invalid inheritance: class [{name}] is not registered"
  | .cyclicHierarchy start meeting => s!"Cyclic class hierarchy for [{start}] at [{meeting}]"
  | .notPersistent name => s!"Class [{name}] is not a persistent entity"
  | .cyclicInitialization entity => s!"Cyclic initialization of entity [{entity}]"
  | .identifierUndeclared entity => s!"Class [{entity}] declares no identifier"
  | .identifierMissing entity identifier =>
    s!"Class [{entity}] declares identifier [{identifier}] but has no such property"
  | .identityMissing entity => s!"Class [{entity}] has no identity"
  | .tenantMissing entity =>
    s!"Class [{entity}] is multi tenant but does not specify a tenant identifier property"
  | .emptyHierarchy => "Empty class hierarchy"
  | .accessorMissing property entity => s!"No field or getter for property [{property}] of class [{entity}]"
  | .getterBodiless method entity => s!"Getter [{method}] of class [{entity}] has no body"

/-- Why no object of a class can be made. -/
inductive CreationFault where
  | stated (text : String)
  | abstractClass
  | noDefaultConstructor
  | notAnObject
  | field (name : String) (cause : ConversionFault)
deriving DecidableEq

/-- The text of the cause for which no object was made. -/
def CreationFault.message : CreationFault → String
  | .stated text => text
  | .abstractClass => "class is abstract"
  | .noDefaultConstructor => "no default constructor"
  | .notAnObject => "expected a JSON object"
  | .field name cause => s!"field '{name}': {cause.message}"

/-- Why a value cannot be assigned to a property. -/
inductive AssignmentFault where
  | stated (text : String)
  | unconvertible (cause : ConversionFault)
  | listExpected (count : Nat)
deriving DecidableEq

/-- The text of the cause for which a value was not assigned. -/
def AssignmentFault.message : AssignmentFault → String
  | .stated text => text
  | .unconvertible cause => cause.message
  | .listExpected count => s!"expected a list of {count} values"

/-- Why a session is in no state for a request. -/
inductive SessionFault where
  | stated (text : String)
  | registryInUse
  | noneBound (store : StoreId)
  | noDeferredClose (store : StoreId)
  | closed (session : SessionId)
  | unknown (session : SessionId)
deriving DecidableEq, Inhabited, Repr

/-- The text of a session fault. -/
def SessionFault.message : SessionFault → String
  | .stated text => text
  | .registryInUse => "thread session registry is already in use"
  | .noneBound store =>
    s!"No session bound to thread for {store.text}, " ++
      "and configuration does not allow creation of non-transactional one here"
  | .noDeferredClose store => s!"Deferred close not active for {store.text}"
  | .closed session => s!"{session.text} is closed"
  | .unknown session => s!"{session.text} was never opened"

/-- Why a datastore does not open a session. -/
inductive ResourceFault where
  | stated (text : String)
  | unavailable (store : String)
  | unknownStore (store : StoreId)
deriving DecidableEq, Inhabited, Repr

/-- The text of a resource fault. -/
def ResourceFault.message : ResourceFault → String
  | .stated text => text
  | .unavailable store => s!"datastore '{store}' is unavailable"
  | .unknownStore store => s!"{store.text} does not exist"

/-- Why a transaction or its synchronization is in no state for a request. -/
inductive TransactionFault where
  | stated (text : String)
  | synchronizationActive
  | synchronizationInactive
  | alreadyActive (session : SessionId) (transaction : TransactionId)
  | noTransaction (session : SessionId)
  | illegalMove (transaction : TransactionId) (source target : TransactionState)
deriving DecidableEq, Inhabited, Repr

/-- The text of a transaction fault. -/
def TransactionFault.message : TransactionFault → String
  | .stated text => text
  | .synchronizationActive => "Cannot activate transaction synchronization - already active"
  | .synchronizationInactive => "Transaction synchronization is not active"
  | .alreadyActive session transaction =>
    s!"{session.text} already has active transaction {transaction.text}"
  | .noTransaction session => s!"{session.text} has no transaction"
  | .illegalMove transaction source target =>
    s!"Cannot move {transaction.text} from {source.display} to {target.display}"

/-- A fault of a mapping, an accessor or a session. -/
inductive Fault where
  | configuration (cause : ConfigurationFault)
  | creation (entity : String) (cause : CreationFault)
  | unknownProperty (property entity : String)
  | indexOutOfBounds (index count : Nat) (entity : String)
  | unassignable (property declared entity value : String) (cause : AssignmentFault)
  | readOnly (property entity : String)
  | entityNotFound (entity : String)
  | notInitialized (entity : String)
  | session (cause : SessionFault)
  | resource (cause : ResourceFault)
  | transaction (cause : TransactionFault)
  | lock (text : String)
deriving DecidableEq

/-- The text of a fault, led by its kind. -/
def Fault.message : Fault → String
  | .configuration cause => s!"Configuration error: {cause.message}"
  | .creation entity cause => s!"Unable to create entity of type [{entity}]: {cause.message}"
  | .unknownProperty property entity => s!"Property [{property}] is not a valid property of class [{entity}]"
  | .indexOutOfBounds index count entity =>
    s!"Property index {index} is out of bounds for class [{entity}] with {count} properties"
  | .unassignable property declared entity value cause =>
    s!"Cannot assign value [{value}] to property [{property}] of type [{declared}] of class [{entity}]: " ++
      cause.message
  | .readOnly property entity => s!"Property [{property}] of class [{entity}] is read-only"
  | .entityNotFound entity => s!"Entity '{entity}' not found"
  | .notInitialized entity => s!"Entity '{entity}' is not initialized"
  | .session cause => s!"Illegal session state: {cause.message}"
  | .resource cause => s!"Could not open datastore session: {cause.message}"
  | .transaction cause => s!"Transaction error: {cause.message}"
  | .lock text => s!"Lock error: {text}"

instance : Inhabited Fault := ⟨.lock ""⟩

end Persistence
