import Persistence.Class.Naming
import Persistence.Fault
import Persistence.Mapping.Basic

/-!
Outlines of domain classes: all that their descriptions say, apart from their methods. An object bears the outline of
its class, so that the bodies of methods can be functions of objects. A superclass is given by its name alone, so that
a broken hierarchy is found where the classes are known.
-/

namespace Persistence

/-- A field that a class declares, with its marks. -/
structure Field where
  name : String
  type : DataType
  /-- Whether it is marked as part of the identity. -/
  isIdentity : Bool := false
  /-- Whether it is marked as the tenant. -/
  isTenant : Bool := false
  isTransient : Bool := false
deriving DecidableEq, Inhabited, Repr

/-- What is known of a domain class without its methods. -/
structure Outline where
  /-- Tells descriptions apart that agree in everything else. -/
  stamp : Nat
  name : String
  superclass : Option String := none
  isEntity : Bool := false
  isAbstract : Bool := false
  isMultiTenant : Bool := false
  hasDefaultConstructor : Bool := true
  tracksChanges : Bool := false
  fields : List Field := []
  /-- Names of the entities that own the class. -/
  owners : List String := []
  /-- The mapping block of this class alone. -/
  mapping : Option EntityMapping := none
deriving DecidableEq, Inhabited

namespace Outline

/-- The name without the path before it. -/
def simpleName (cls : Outline) : String := Naming.simpleName cls.name

/-- The field of a name that the class itself declares. -/
def field? (cls : Outline) (name : String) : Option Field :=
  cls.fields.find? (·.name == name)

end Outline

end Persistence
