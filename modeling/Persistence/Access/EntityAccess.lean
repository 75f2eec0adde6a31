import Persistence.Access.Reflector
import Persistence.Value.Order

/-!
Access to objects of one entity by declared types: values are converted before they are written, and the first
previous value of a changed property is recorded.
-/

namespace Persistence

/-- The accessors of an entity together with the types that its properties are declared with. -/
structure EntityAccess where
  entity : String
  identity : Identity
  reflector : Reflector

namespace EntityAccess

/-- Converts a value for a property of the given type. -/
def converted (access : EntityAccess) (property : String) (type : DataType) (value : Value) : Except Fault Value :=
  match type.convert value with
  | .ok converted => .ok converted
  | .error cause => .error (.unassignable property type.display access.entity value.display (.unconvertible cause))

/-- Reads a property. -/
def getProperty (access : EntityAccess) (name : String) (obj : Instance) : Except Fault Value :=
  access.reflector.getProperty name obj

/-- The previous and the converted value of a property that is to be written. -/
def preparedWrite (access : EntityAccess) (name : String) (value : Value) (obj : Instance) :
    Except Fault (Value × Value) := do
  let writer ← access.reflector.writer name
  let converted ← access.converted name writer.type value
  let previous ← access.reflector.getProperty name obj
  return (previous, converted)

/-- Converts a value to the declared type of a property and writes it. A value that is not like the previous one
marks the property as changed. -/
def setProperty (access : EntityAccess) (name : String) (value : Value) (obj : Instance) :
    Except Fault Unit × Instance :=
  match access.preparedWrite name value obj with
  | .error fault => (.error fault, obj)
  | .ok (previous, converted) =>
    let marked := if previous.alike converted then obj else (access.reflector.markChanged name previous obj).2
    access.reflector.setProperty name converted marked

/-- Writes a property as it is given, and records no change. -/
def setPropertyUnconverted (access : EntityAccess) (name : String) (value : Value) (obj : Instance) :
    Except Fault Unit × Instance :=
  access.reflector.setProperty name value obj

/-- Reads the identifier; one of several members is a list. -/
def identifier (access : EntityAccess) (obj : Instance) : Except Fault Value :=
  access.reflector.getIdentifier obj

/-- Converts the values of identity members, if there is one for each of them. -/
def convertedMembers (access : EntityAccess) (values : List Value) : Except Fault (List Value) :=
  match access.identity with
  | .single _ => .ok values
  | .composite members =>
    if members.length = values.length then
      (members.zip values).mapM fun (member, value) => access.converted member.name member.type value
    else .ok values

/-- Converts an identifier: a single one to its type, a composite one member by member. -/
def convertedIdentifier (access : EntityAccess) (value : Value) : Except Fault Value :=
  match access.reflector.identity, value with
  | .single identifier, value => access.converted identifier.name identifier.type value
  | .composite _, .list values => .list <$> access.convertedMembers values
  | .composite _, other => .ok other

/-- Writes the identifier, each of its parts converted to the type of its member. If one of them does not convert,
nothing is written. -/
def setIdentifier (access : EntityAccess) (value : Value) (obj : Instance) : Except Fault Unit × Instance :=
  match access.convertedIdentifier value with
  | .ok converted => access.reflector.setIdentifier converted obj
  | .error fault => (.error fault, obj)

/-- Writes the identifier as it is given. -/
def setIdentifierUnconverted (access : EntityAccess) (value : Value) (obj : Instance) :
    Except Fault Unit × Instance :=
  access.reflector.setIdentifier value obj

/-- The changed properties with their first values, if the class tracks changes. -/
def changes? (access : EntityAccess) (obj : Instance) : Option (Keyed Value) :=
  access.reflector.changes? obj

/-- Whether a change of the property is recorded. -/
def isChanged (access : EntityAccess) (name : String) (obj : Instance) : Bool :=
  match access.changes? obj with
  | some changes => changes.contains name
  | none => false

end EntityAccess

end Persistence
