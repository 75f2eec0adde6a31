import Persistence.Value.Basic

/-!
Declared types of fields, accessors and mapped properties, and which values a declared type takes as they are.
-/

namespace Persistence

/-- The declared type of a field, an accessor or a mapped property. -/
inductive DataType where
  /-- Integers of 32 bits. -/
  | integer
  /-- Integers of 64 bits. -/
  | long
  | float
  | text
  | boolean
  | timestamp
  | uuid
  /-- Another mapped entity, by its class name. -/
  | entity (name : String)
  /-- A component that is stored inside its owner, by its class name. -/
  | embedded (name : String)
  | list (element : DataType)
  | map
deriving DecidableEq, Inhabited, Repr

namespace DataType

/-- The text of a type in descriptions and faults. -/
def display : DataType → String
  | .integer => "INTEGER"
  | .long => "LONG"
  | .float => "FLOAT"
  | .text => "TEXT"
  | .boolean => "BOOLEAN"
  | .timestamp => "TIMESTAMP"
  | .uuid => "UUID"
  | .entity name => name
  | .embedded name => "EMBEDDED<" ++ name ++ ">"
  | .list element => "LIST<" ++ element.display ++ ">"
  | .map => "MAP"

/-- Whether the values of a type are numbers. -/
def isNumeric : DataType → Bool
  | .integer | .long | .float => true
  | _ => false

/-- Whether the values of a type are points in time. -/
def isTemporal : DataType → Bool
  | .timestamp => true
  | _ => false

/-- Whether a property of this type can hold the version of its entity. -/
def isVersionCompatible (t : DataType) : Bool :=
  t.isNumeric || t.isTemporal

/-- Whether values of this type are neither collections nor parts of other classes. -/
def isSimple : DataType → Bool
  | .entity _ | .embedded _ | .list _ | .map => false
  | _ => true

/-- The type of the elements of a list. -/
def element? : DataType → Option DataType
  | .list element => some element
  | _ => none

/-- Whether an integer fits into 32 bits. -/
def fitsInteger (n : Int64) : Bool :=
  -0x80000000 ≤ n.toInt && n.toInt ≤ 0x7fffffff

/-- Whether a value can be stored under this type as it is, or, for an integer under a floating point type, by a
mere change of its form. -/
def isCompatible : DataType → Value → Bool
  | _, .null => true
  | .integer, .integer n => fitsInteger n
  | .long, .integer _ => true
  | .float, .float _ => true
  | .float, .integer _ => true
  | .text, .text _ => true
  | .boolean, .boolean _ => true
  | .timestamp, .timestamp _ => true
  | .uuid, .uuid _ => true
  | .list element, .list items => items.all element.isCompatible
  | .map, .map _ => true
  | .embedded _, .map _ => true
  | .entity _, _ => true
  | _, _ => false

end DataType

end Persistence
