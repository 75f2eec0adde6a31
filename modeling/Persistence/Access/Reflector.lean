import Persistence.Access.Accessor
import Persistence.Metamodel.Diagnostic
import Persistence.Text.Quoted

/-!
Reflectors: the compiled accessors of one entity. Positions follow the persistent properties of the entity; names
also reach the members of its identity. Every access goes through proxies as the context of the reflector handles
them.
-/

namespace Persistence

/-- The accessors of a member of the identity. -/
structure IdentifierAccess where
  name : String
  type : DataType
  pair : AccessorPair

/-- The accessors of an identity, in the order of its members. -/
inductive IdentityAccess where
  | single (access : IdentifierAccess)
  | composite (members : List IdentifierAccess)

namespace IdentityAccess

/-- The only member of an identity that is not composite. -/
def single? : IdentityAccess → Option IdentifierAccess
  | .single access => some access
  | .composite _ => none

/-- The members of a composite identity. -/
def composite? : IdentityAccess → Option (List IdentifierAccess)
  | .single _ => none
  | .composite members => some members

/-- All members, of which there is one where the identity is not composite. -/
def members : IdentityAccess → List IdentifierAccess
  | .single access => [access]
  | .composite members => members

end IdentityAccess

/-- The compiled accessors of an entity. -/
structure Reflector where
  /-- Tells the reflectors of one cache apart. -/
  number : Nat
  entity : String
  /-- Accessors of the persistent properties, in their order. -/
  pairs : List AccessorPair
  byName : Keyed AccessorPair
  identity : IdentityAccess
  /-- The field in which changes are kept, if the class tracks them. -/
  changesField : Option String
  handling : ProxyHandling

namespace Reflector

/-! ### Compilation -/

/-- Resolves the accessors of a member of the identity. -/
def compileIdentifier (hierarchy : List Class) (entity : String) (p : Property) : Except Fault IdentifierAccess := do
  let pair ← AccessorPair.resolve hierarchy entity p
  return ⟨p.name, p.type, pair⟩

/-- Resolves the accessors of all members, up to the first that has none. -/
def compileIdentity (hierarchy : List Class) (entity : String) : Identity → Except Fault IdentityAccess
  | .single p => do return .single (← compileIdentifier hierarchy entity p)
  | .composite members => do return .composite (← members.mapM (compileIdentifier hierarchy entity))

/-- Compiles the accessors of properties and of an identity for the last class of a hierarchy. -/
def compile (number : Nat) (hierarchy : List Class) (properties : List Property) (identity : Identity)
    (handling : ProxyHandling) : Except Fault Reflector :=
  match hierarchy.getLast? with
  | none => .error (.configuration .emptyHierarchy)
  | some cls => do
    let pairs ← properties.mapM (AccessorPair.resolve hierarchy cls.name)
    let access ← compileIdentity hierarchy cls.name identity
    let named := pairs.map (fun pair => (pair.reader.property, pair)) ++
      access.members.map (fun member => (member.name, member.pair))
    return {
      number
      entity := cls.name
      pairs
      byName := Keyed.ofList named
      identity := access
      changesField := (Hierarchy.field? hierarchy Naming.changesField).map (·.name)
      handling }

/-- What is reported while accessors are compiled: trait fields that are missing, up to the first property without
accessors, and at last the success. -/
def compileReports (hierarchy : List Class) (properties : List Property) (identity : Identity) : List Diagnostic :=
  match hierarchy.getLast? with
  | none => []
  | some cls =>
    let all := properties ++ identity.members
    let resolved := all.takeWhile fun p => (AccessorPair.resolve hierarchy cls.name p).isOk
    let gaps := resolved.filterMap fun p =>
      (AccessorPair.missingTraitField? hierarchy p.name).map (.traitFieldMissing cls.name p.name ·)
    let success :=
      if resolved.length = all.length then
        [Diagnostic.compiled cls.name properties.length (Hierarchy.field? hierarchy Naming.changesField).isSome]
      else []
    gaps ++ success

/-! ### Parts -/

/-- The names of the properties, by position. -/
def names (r : Reflector) : List String :=
  r.pairs.map (·.reader.property)

def size (r : Reflector) : Nat := r.pairs.length

def isEmpty (r : Reflector) : Bool := r.pairs.isEmpty

/-- The name of the only member of the identity, unless that is composite. -/
def identifierName? (r : Reflector) : Option String := r.identity.single?.map (·.name)

/-- The type of the only member of the identity, unless that is composite. -/
def identifierType? (r : Reflector) : Option DataType := r.identity.single?.map (·.type)

/-- The names of the members of a composite identity. -/
def compositeNames? (r : Reflector) : Option (List String) :=
  r.identity.composite?.map fun members => members.map (·.name)

/-- Whether changes are recorded. -/
def tracksChanges (r : Reflector) : Bool := r.changesField.isSome

/-- Whether positions and identity members are those of the given properties and identity. -/
def isCompiledFor (r : Reflector) (properties : List Property) (identity : Identity) : Bool :=
  r.names == properties.map (·.name) &&
    match identity with
    | .single p => r.identifierName? == some p.name
    | .composite members => r.compositeNames? == some (members.map (·.name))

/-- The text of a reflector in diagnostics. -/
def debug (r : Reflector) : String :=
  "EntityReflector \x7b entity: " ++ Text.quoted r.entity ++ ", properties: " ++ Text.quotedList r.names ++
    ", identifier: " ++ Text.quotedOption r.identifierName? ++ ", dirty_field: " ++
    Text.quotedOption r.changesField ++ " \x7d"

/-! ### Accessors -/

/-- The accessors of a property by its name. -/
def pair (r : Reflector) (name : String) : Except Fault AccessorPair :=
  match r.byName.get? name with
  | some pair => .ok pair
  | none => .error (.unknownProperty name r.entity)

/-- The accessors of a property by its position. -/
def pairAt (r : Reflector) (index : Nat) : Except Fault AccessorPair :=
  match r.pairs[index]? with
  | some pair => .ok pair
  | none => .error (.indexOutOfBounds index r.pairs.length r.entity)

/-- The writer of a pair; a property without one is read only. -/
def writerOf (r : Reflector) (property : String) (pair : AccessorPair) : Except Fault PropertyWriter :=
  match pair.writer with
  | some writer => .ok writer
  | none => .error (.readOnly property r.entity)

/-- The reader of a property by its name. -/
def reader (r : Reflector) (name : String) : Except Fault PropertyReader := do
  return (← r.pair name).reader

/-- The writer of a property by its name; a property that is read only has none. -/
def writer (r : Reflector) (name : String) : Except Fault PropertyWriter := do
  r.writerOf name (← r.pair name)

/-- The reader of a property by its position. -/
def readerAt (r : Reflector) (index : Nat) : Except Fault PropertyReader := do
  return (← r.pairAt index).reader

/-- The writer of a property by its position. -/
def writerAt (r : Reflector) (index : Nat) : Except Fault PropertyWriter := do
  let pair ← r.pairAt index
  r.writerOf pair.reader.property pair

/-! ### Properties of objects -/

/-- Reads a property of an object, behind whatever proxies the handling goes through. -/
def getProperty (r : Reflector) (name : String) (obj : Instance) : Except Fault Value := do
  (← r.reader name).read (r.handling.unwrap obj)

/-- Reads the property at a position. -/
def getPropertyAt (r : Reflector) (index : Nat) (obj : Instance) : Except Fault Value := do
  (← r.readerAt index).read (r.handling.unwrap obj)

/-- Writes through a writer that may be missing. -/
def writeBy (r : Reflector) (found : Except Fault PropertyWriter) (value : Value) (obj : Instance) :
    Except Fault Unit × Instance :=
  match found with
  | .ok writer => r.handling.change (writer.write value) obj
  | .error fault => (.error fault, obj)

/-- Writes a property of an object, without conversion. -/
def setProperty (r : Reflector) (name : String) (value : Value) (obj : Instance) : Except Fault Unit × Instance :=
  r.writeBy (r.writer name) value obj

/-- Writes the property at a position, without conversion. -/
def setPropertyAt (r : Reflector) (index : Nat) (value : Value) (obj : Instance) : Except Fault Unit × Instance :=
  r.writeBy (r.writerAt index) value obj

/-! ### Identifiers of objects -/

/-- The values of identity members, in their order. -/
def readMembers (members : List IdentifierAccess) (obj : Instance) : Except Fault (List Value) :=
  members.mapM fun member => member.pair.reader.read obj

/-- The identifier of an object; for a composite one the list of the members' values. -/
def getIdentifier (r : Reflector) (obj : Instance) : Except Fault Value :=
  match r.identity with
  | .single access => access.pair.reader.read (r.handling.unwrap obj)
  | .composite members => .list <$> readMembers members (r.handling.unwrap obj)

/-- The values of the members of a composite identifier. -/
def compositeIdentifier (r : Reflector) (obj : Instance) : Except Fault (Option (List Value)) :=
  match r.identity with
  | .single _ => .ok none
  | .composite members => some <$> readMembers members (r.handling.unwrap obj)

/-- Writes identity members in their order, up to the first one that fails. -/
def writeMembers (r : Reflector) : List (IdentifierAccess × Value) → Instance → Except Fault Unit × Instance
  | [], obj => (.ok (), obj)
  | (member, value) :: rest, obj =>
    match r.writerOf member.name member.pair with
    | .error fault => (.error fault, obj)
    | .ok writer =>
      match writer.write value obj with
      | (.ok (), obj) => r.writeMembers rest obj
      | (.error fault, obj) => (.error fault, obj)

/-- What is wrong with a value that is no list with a value for each identity member. -/
def compositeFault (r : Reflector) (members : List IdentifierAccess) (value : Value) : Fault :=
  .unassignable (String.intercalate "," (members.map (·.name))) s!"COMPOSITE<{members.length}>" r.entity value.display
    (.listExpected members.length)

/-- Pairs identity members with the values of a list that has one for each of them. -/
def pairedMembers (r : Reflector) (members : List IdentifierAccess) : Value →
    Except Fault (List (IdentifierAccess × Value))
  | .list values =>
    if values.length = members.length then .ok (members.zip values)
    else .error (r.compositeFault members (.list values))
  | other => .error (r.compositeFault members other)

/-- Pairs the members of the identity with the parts of an identifier. -/
def pairedIdentifier (r : Reflector) (value : Value) : Except Fault (List (IdentifierAccess × Value)) :=
  match r.identity with
  | .single access => .ok [(access, value)]
  | .composite members => r.pairedMembers members value

/-- Writes the identifier of an object without conversion. -/
def setIdentifier (r : Reflector) (value : Value) (obj : Instance) : Except Fault Unit × Instance :=
  match r.pairedIdentifier value with
  | .ok members => r.handling.change (r.writeMembers members) obj
  | .error fault => (.error fault, obj)

/-! ### Changes of objects -/

/-- The entries of a map; anything else has none. -/
def entriesOf : Value → Keyed Value
  | .map entries => entries
  | _ => []

/-- The changed properties with their first values, if the class tracks changes. -/
def changes? (r : Reflector) (obj : Instance) : Option (Keyed Value) :=
  r.changesField.map fun field => entriesOf ((r.handling.unwrap obj).get field)

/-- Enters a value under a name that has none yet. -/
def recordFirst (changes : Keyed Value) (property : String) (previous : Value) : Keyed Value :=
  if changes.contains property then changes else changes.put property previous

/-- Records a property as changed, with its previous value unless there is an earlier one. The answer says whether
the class tracks changes. -/
def markChanged (r : Reflector) (property : String) (previous : Value) (obj : Instance) : Bool × Instance :=
  match r.changesField with
  | none => (false, obj)
  | some field =>
    r.handling.change (fun target =>
      (true, target.set field (.map (recordFirst (entriesOf (target.get field)) property previous)))) obj

end Reflector

end Persistence
