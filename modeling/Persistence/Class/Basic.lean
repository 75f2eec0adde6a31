import Persistence.Class.Instance

/-!
Descriptions of domain classes: their outlines and their accessor methods, whose bodies are functions of objects. A
description is built step by step, each step adding a member or a mark.
-/

namespace Persistence

/-- The body of a getter. It sees the whole object. -/
abbrev Getter := Instance → Except Fault Value

/-- The body of a setter. It sees the whole object and gives the slots that the object has afterwards, also when it
fails; the object that a proxy stands for is beyond its reach. -/
abbrev Setter := Value → Instance → Except Fault Unit × Slots

namespace Getter

/-- Reads a slot. -/
def slot (field : String) : Getter := fun obj => .ok (obj.get field)

/-- Reads the same value off every object. -/
def constant (value : Value) : Getter := fun _ => .ok value

/-- The texts of some slots with a separator between them. -/
def joined (fields : List String) (separator : String) : Getter := fun obj =>
  .ok (.text (String.intercalate separator (fields.map fun field => (obj.get field).display)))

/-- Fails with a text. -/
def failing (text : String) : Getter := fun _ => .error (.configuration (.stated text))

end Getter

namespace Setter

/-- Runs the body on an object. -/
def run (setter : Setter) (value : Value) (obj : Instance) : Except Fault Unit × Instance :=
  let (answer, slots) := setter value obj
  (answer, obj.withSlots slots)

/-- Writes a slot. -/
def slot (field : String) : Setter := fun value obj => (.ok (), obj.slots.write field value)

/-- Writes one slot, texts with the letters a to z in upper case. -/
def upper (field : String) : Setter := fun value obj =>
  match value with
  | .text s => (.ok (), obj.slots.write field (.text (Text.asciiUpper s)))
  | other => (.ok (), obj.slots.write field other)

/-- Takes every value and leaves the object as it is. -/
def ignoring : Setter := fun _ obj => (.ok (), obj.slots)

/-- Fails with a text and leaves the object as it is. -/
def failing (text : String) : Setter := fun _ obj => (.error (.configuration (.stated text)), obj.slots)

end Setter

/-- Where a method comes from. -/
inductive MethodOrigin where
  | declared
  /-- A bridge to a method of a composed trait. -/
  | traitBridge (trait : String)
  /-- An implementation that comes from a composed type. -/
  | traitImplemented (type : String)
deriving DecidableEq, Inhabited, Repr

/-- The trait that may have brought along a field for a method. -/
def MethodOrigin.trait? : MethodOrigin → Option String
  | .declared => none
  | .traitBridge trait => some trait
  | .traitImplemented type => some type

/-- What a method does. -/
inductive MethodBody where
  | getter (body : Getter)
  | setter (body : Setter)

namespace MethodBody

/-- The body of a getter. -/
def getter? : MethodBody → Option Getter
  | .getter body => some body
  | .setter _ => none

/-- The body of a setter. -/
def setter? : MethodBody → Option Setter
  | .setter body => some body
  | .getter _ => none

/-- The text of a body in diagnostics. -/
def debug : MethodBody → String
  | .getter _ => "Getter(..)"
  | .setter _ => "Setter(..)"

end MethodBody

/-- An accessor method of a class. -/
structure Method where
  name : String
  /-- The property that the method reads or writes. -/
  property : String
  /-- What a getter returns or a setter takes. -/
  type : DataType
  body : MethodBody
  origin : MethodOrigin

namespace Method

def isGetter (m : Method) : Bool := m.body.getter?.isSome

def isSetter (m : Method) : Bool := m.body.setter?.isSome

end Method

/-- The description of a domain class. -/
structure Class extends Outline where
  methods : List Method := []
deriving Inhabited

instance : Coe Class Outline := ⟨Class.toOutline⟩

namespace Class

/-- The first method of a name that the class itself declares. -/
def method? (cls : Class) (name : String) : Option Method :=
  cls.methods.find? (·.name == name)

/-- The first getter of a property that the class itself declares. -/
def getter? (cls : Class) (property : String) : Option Method :=
  cls.methods.find? fun m => m.isGetter && m.property == property

/-- The first setter of a property that the class itself declares. -/
def setter? (cls : Class) (property : String) : Option Method :=
  cls.methods.find? fun m => m.isSetter && m.property == property

/-! ### Members -/

/-- Adds a field behind those that are there. -/
def addField (cls : Class) (field : Field) : Class :=
  { cls with fields := cls.fields ++ [field] }

/-- Adds a method behind those that are there. -/
def addMethod (cls : Class) (m : Method) : Class :=
  { cls with methods := cls.methods ++ [m] }

/-- Adds the field in which changes are kept. -/
def trackChanges (cls : Class) : Class :=
  { cls.addField ⟨Naming.changesField, .map, false, false, false⟩ with tracksChanges := true }

/-- Adds a getter under the name that a getter of the property has. -/
def addGetter (cls : Class) (property : String) (type : DataType) (origin : MethodOrigin) (body : Getter) : Class :=
  cls.addMethod ⟨Naming.getterName property type, property, type, .getter body, origin⟩

/-- Adds a setter under the name that a setter of the property has. -/
def addSetter (cls : Class) (property : String) (type : DataType) (origin : MethodOrigin) (body : Setter) : Class :=
  cls.addMethod ⟨Naming.setterName property, property, type, .setter body, origin⟩

/-- Adds a getter and a setter over the slot of the property's name. -/
def addAccessors (cls : Class) (property : String) (type : DataType) : Class :=
  (cls.addGetter property type .declared (Getter.slot property)).addSetter property type .declared
    (Setter.slot property)

/-- Adds a property of a composed trait: the field behind it and bridges that read and write the field. -/
def addTraitProperty (cls : Class) (trait property : String) (type : DataType) : Class :=
  let field := Naming.traitField trait property
  ((cls.addField ⟨field, type, false, false, false⟩).addGetter property type (.traitBridge trait)
    (Getter.slot field)).addSetter property type (.traitBridge trait) (Setter.slot field)

end Class

end Persistence
