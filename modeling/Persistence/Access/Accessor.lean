import Persistence.Class.Basic
import Persistence.Metamodel.Property

/-!
Accessors of single properties. A property is read and written through a field where there is one, first of its own
name and then of the trait that brought its getter along; its methods are used only where there is no such field.
-/

namespace Persistence

/-- How a property is read. -/
inductive PropertyReader where
  /-- From a field. A getter that is declared beside it is kept for those who ask for it. -/
  | field (property : String) (slot : String) (type : DataType) (kept : Option Getter)
  | method (property : String) (type : DataType) (getter : Getter)

namespace PropertyReader

/-- The name of the property that is read. -/
def property : PropertyReader → String
  | .field property _ _ _ => property
  | .method property _ _ => property

/-- The declared type of the property that is read. -/
def type : PropertyReader → DataType
  | .field _ _ type _ => type
  | .method _ type _ => type

/-- The field that is read, if no getter is. -/
def field? : PropertyReader → Option String
  | .field _ slot _ _ => some slot
  | .method _ _ _ => none

/-- The getter that is run, or that is kept beside a field. -/
def getter? : PropertyReader → Option Getter
  | .field _ _ _ kept => kept
  | .method _ _ getter => some getter

/-- Reads the property of the object itself. -/
def read : PropertyReader → Instance → Except Fault Value
  | .field _ slot _ _, obj => .ok (obj.get slot)
  | .method _ _ getter, obj => getter obj

/-- Reads through the kept getter, if there is one. -/
def readByMethod (reader : PropertyReader) (obj : Instance) : Except Fault Value :=
  match reader.getter? with
  | some getter => getter obj
  | none => reader.read obj

/-- The text of a reader in diagnostics. -/
def debug : PropertyReader → String
  | .field property slot _ _ => s!"FieldReader({property} -> {slot})"
  | .method property _ _ => s!"MethodReader({property})"

end PropertyReader

/-- How a property is written. -/
inductive PropertyWriter where
  | field (property : String) (slot : String) (type : DataType) (kept : Option Setter)
  | method (property : String) (type : DataType) (setter : Setter)

namespace PropertyWriter

/-- The name of the property that is written. -/
def property : PropertyWriter → String
  | .field property _ _ _ => property
  | .method property _ _ => property

/-- The declared type of the property that is written. -/
def type : PropertyWriter → DataType
  | .field _ _ type _ => type
  | .method _ type _ => type

/-- The field that is written, if no setter is run. -/
def field? : PropertyWriter → Option String
  | .field _ slot _ _ => some slot
  | .method _ _ _ => none

/-- The setter that is run, or that is kept beside a field. -/
def setter? : PropertyWriter → Option Setter
  | .field _ _ _ kept => kept
  | .method _ _ setter => some setter

/-- Writes the property of the object itself, without conversion. -/
def write (writer : PropertyWriter) (value : Value) (obj : Instance) : Except Fault Unit × Instance :=
  match writer with
  | .field _ slot _ _ => (.ok (), obj.set slot value)
  | .method _ _ setter => setter.run value obj

/-- Writes through the kept setter, if there is one. -/
def writeByMethod (writer : PropertyWriter) (value : Value) (obj : Instance) : Except Fault Unit × Instance :=
  match writer.setter? with
  | some setter => setter.run value obj
  | none => writer.write value obj

/-- The text of a writer in diagnostics. -/
def debug : PropertyWriter → String
  | .field property slot _ _ => s!"FieldWriter({property} -> {slot})"
  | .method property _ _ => s!"MethodWriter({property})"

end PropertyWriter

/-- The accessors of a property. One that is read only has no writer. -/
structure AccessorPair where
  reader : PropertyReader
  writer : Option PropertyWriter

/-! ### Members of a hierarchy -/

namespace Hierarchy

/-- The field of a name in the lowest class that has one. -/
def field? (hierarchy : List Class) (name : String) : Option Field :=
  hierarchy.reverse.findSome? (·.field? name)

/-- The getter of a property in the lowest class that has one. -/
def getter? (hierarchy : List Class) (property : String) : Option Method :=
  hierarchy.reverse.findSome? (·.getter? property)

/-- The setter of a property in the lowest class that has one. -/
def setter? (hierarchy : List Class) (property : String) : Option Method :=
  hierarchy.reverse.findSome? (·.setter? property)

end Hierarchy

namespace AccessorPair

/-- Accessors through a field; what the lowest classes declare as getter and setter is kept beside it. -/
def ofField (hierarchy : List Class) (p : Property) (field : String) : AccessorPair where
  reader := .field p.name field p.type ((Hierarchy.getter? hierarchy p.name).bind (·.body.getter?))
  writer := some (.field p.name field p.type ((Hierarchy.setter? hierarchy p.name).bind (·.body.setter?)))

/-- Accessors through methods; without a setter the property is read only. -/
def ofGetter (hierarchy : List Class) (p : Property) (getter : Getter) : AccessorPair where
  reader := .method p.name p.type getter
  writer := ((Hierarchy.setter? hierarchy p.name).bind (·.body.setter?)).map (.method p.name p.type ·)

/-- The field that the trait of a getter brings along for a property, if the getter comes from a trait. -/
def traitField? (m : Method) (property : String) : Option String :=
  m.origin.trait?.map (Naming.traitField · property)

/-- The name of the trait field that a property should have and that no class declares. -/
def missingTraitField? (hierarchy : List Class) (property : String) : Option String :=
  if (Hierarchy.field? hierarchy property).isSome then none
  else
    match (Hierarchy.getter? hierarchy property).bind (traitField? · property) with
    | some field => if (Hierarchy.field? hierarchy field).isSome then none else some field
    | none => none

/-- The accessors of a property of the given entity. -/
def resolve (hierarchy : List Class) (entity : String) (p : Property) : Except Fault AccessorPair :=
  match Hierarchy.field? hierarchy p.name with
  | some field => .ok (ofField hierarchy p field.name)
  | none =>
    match Hierarchy.getter? hierarchy p.name with
    | none => .error (.configuration (.accessorMissing p.name entity))
    | some m =>
      match (traitField? m p.name).bind (Hierarchy.field? hierarchy) with
      | some field => .ok (ofField hierarchy p field.name)
      | none =>
        match m.body.getter? with
        | some getter => .ok (ofGetter hierarchy p getter)
        | none => .error (.configuration (.getterBodiless m.name entity))

end AccessorPair

end Persistence
