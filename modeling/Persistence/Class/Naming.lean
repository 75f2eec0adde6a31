import Persistence.DataType.Basic
import Persistence.Text.Blank
import Persistence.Text.Casing

/-!
Names of accessor methods and of the fields that composed traits bring along. A property `title` is read by
`getTitle`, or `isTitle` if it is a boolean, and written by `setTitle`; the field behind a property of a trait has
the name of the trait in front.
-/

namespace Persistence.Naming

/-! ### Case of the first character -/

/-- The characters with the first one in upper case, which may make it several. -/
def capitalizeChars : List Char → List Char
  | [] => []
  | first :: rest => Text.upperChars first ++ rest

/-- Lower-cases the first character, unless two upper-case ones lead: acronyms keep their case. -/
def decapitalizeChars : List Char → List Char
  | [] => []
  | [first] => Text.lowerChars first
  | first :: second :: rest =>
    if Text.isUpperChar first && Text.isUpperChar second then first :: second :: rest
    else Text.lowerChars first ++ second :: rest

/-- The name with its first character in upper case. -/
def capitalize (name : String) : String :=
  String.ofList (capitalizeChars name.toList)

/-- The name with its first character in lower case, unless it begins with two in upper case. -/
def decapitalize (name : String) : String :=
  String.ofList (decapitalizeChars name.toList)

/-! ### Accessor methods -/

/-- The name of the getter of a property of some type. -/
def getterName (property : String) : DataType → String
  | .boolean => "is" ++ capitalize property
  | _ => "get" ++ capitalize property

/-- The name of the setter of a property. -/
def setterName (property : String) : String :=
  "set" ++ capitalize property

/-- The property whose capitalized name is given; it begins with an upper-case character. -/
def ofCapitalized? : List Char → Option String
  | [] => none
  | first :: rest =>
    if Text.isUpperChar first then some (String.ofList (decapitalizeChars (first :: rest))) else none

/-- The property that a method of the given name reads, if the name is one of a getter. -/
def propertyOfGetter? (method : String) : Option String :=
  match Text.afterStart? "get".toList method.toList with
  | some rest => ofCapitalized? rest
  | none =>
    match Text.afterStart? "is".toList method.toList with
    | some rest => ofCapitalized? rest
    | none => none

/-- The property that a method of the given name writes, if the name is one of a setter. -/
def propertyOfSetter? (method : String) : Option String :=
  match Text.afterStart? "set".toList method.toList with
  | some rest => ofCapitalized? rest
  | none => none

/-! ### Fields of composed traits -/

/-- What stands between the name of a trait and that of its property. -/
def traitSeparator : List Char := ['_', '_']

/-- The name of a trait with an underscore for each dot. -/
def flatChars (cs : List Char) : List Char :=
  cs.map fun c => if c = '.' then '_' else c

/-- The name of the field behind a property of a composed trait. -/
def traitField (trait property : String) : String :=
  String.ofList (flatChars trait.toList ++ traitSeparator ++ property.toList)

/-- Whether a row of characters holds two underscores in a row. -/
def holdsSeparator : List Char → Bool
  | [] => false
  | c :: rest => traitSeparator.isPrefixOf (c :: rest) || holdsSeparator rest

/-- Whether a name is that of a field behind a property of a trait. -/
def isTraitField (name : String) : Bool :=
  holdsSeparator name.toList

/-- The trait of classes that track changes. -/
def changeTrackingTrait : String := "persistmodel.dirty.DirtyCheckable"

/-- The property in which a class that tracks changes keeps them. -/
def changesProperty : String := "$changedProperties"

/-- The field in which a class that tracks changes keeps them. -/
def changesField : String := traitField changeTrackingTrait changesProperty

/-! ### Class names -/

/-- The part of a class name after its last dot. -/
def simpleName (name : String) : String :=
  String.ofList (name.toList.reverse.takeWhile (· != '.')).reverse

end Persistence.Naming
