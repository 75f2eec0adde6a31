import Persistence.Metamodel.Property

/-!
Discovery of persistent members. The classes of a hierarchy are read from the root on, the fields of each before
its getters; the first member of a name stands for the name. A member is part of the identity when it is marked as
such or is named by a mapping that declares exactly one identifier; the tenant property comes next, and the type
decides for all others.
-/

namespace Persistence

/-- A member that may become a persistent property. -/
structure Candidate where
  name : String
  type : DataType
  isIdentity : Bool
  isTenant : Bool
deriving DecidableEq, Inhabited, Repr

namespace Candidate

/-- A field as a candidate, with its marks. -/
def ofField (field : Field) : Candidate := ⟨field.name, field.type, field.isIdentity, field.isTenant⟩

/-- A getter as a candidate; methods bear no marks. -/
def ofMethod (m : Method) : Candidate := ⟨m.property, m.type, false, false⟩

end Candidate

/-- The marked members of an identity that a scan has come across: one alone, or several of a composite one. -/
structure Marked where
  single : Option Property := none
  composite : Option (List Property) := none
deriving DecidableEq, Inhabited, Repr

namespace Marked

/-- Takes another member in. The second one turns the one that was alone into the first of a composite identity. -/
def join (marked : Marked) (p : Property) : Marked :=
  match marked.composite with
  | some members => { marked with composite := some (members ++ [p]) }
  | none =>
    match marked.single with
    | some first => { single := none, composite := some [first, p] }
    | none => { marked with single := some p }

/-- The marked members among scanned properties, in their order. -/
def ofScan (scanned : List Property) : Marked :=
  scanned.foldl (fun marked p => if p.isIdentity then marked.join p else marked) {}

/-- The identity of the members, if there is any. -/
def identity? (marked : Marked) : Option Identity :=
  match marked.composite with
  | some members => some (.composite members)
  | none => marked.single.map .single

end Marked

namespace Discovery

/-- Whether a field is left out whatever its name is first or not. -/
def isSkippedField (mapping : EntityMapping) (field : Field) : Bool :=
  field.isTransient || Naming.isTraitField field.name || mapping.isTransient field.name

/-- The members that a class offers, its fields first. -/
def offered (mapping : EntityMapping) (cls : Class) : List Candidate :=
  (cls.fields.filter fun field => !isSkippedField mapping field).map Candidate.ofField ++
    (cls.methods.filter fun m => m.isGetter && !mapping.isTransient m.property).map Candidate.ofMethod

/-- Adds a member unless there is one of its name. -/
def addCandidate (found : List Candidate) (candidate : Candidate) : List Candidate :=
  if found.any (·.name == candidate.name) then found else found ++ [candidate]

/-- The candidates of a hierarchy, the root first. -/
def candidates (hierarchy : List Class) (mapping : EntityMapping) : List Candidate :=
  (hierarchy.flatMap (offered mapping)).foldl addCandidate []

/-- The only identifier that a mapping declares. -/
def singleIdentifier? (mapping : EntityMapping) : Option String :=
  match mapping.identifierNames with
  | [name] => some name
  | _ => none

/-- The kind of a candidate for an entity of the given class. -/
def kindOf (cls : Class) (mapping : EntityMapping) (config : PropertyConfig) (candidate : Candidate) :
    PropertyKind :=
  if candidate.isIdentity || singleIdentifier? mapping == some candidate.name then .identity
  else if mapping.isTenantName cls.isMultiTenant candidate.name candidate.isTenant then .tenant
  else .ofType config candidate.type

/-- The persistent properties of an entity, in the order of discovery. -/
def properties (settings : Settings) (cls : Class) (hierarchy : List Class) (mapping : EntityMapping) :
    List Property :=
  (candidates hierarchy mapping).map fun candidate =>
    let config := settings.propertyConfig mapping candidate.name
    ⟨candidate.name, candidate.type, kindOf cls mapping config candidate, config, cls.name⟩

/-- The identity member of a declared name. -/
def identityMember (settings : Settings) (cls : Class) (hierarchy : List Class) (mapping : EntityMapping)
    (name : String) : Except Fault Property :=
  match (candidates hierarchy mapping).find? (·.name == name) with
  | some candidate =>
    .ok ⟨candidate.name, candidate.type, .identity, settings.propertyConfig mapping name, cls.name⟩
  | none => .error (.configuration (.identifierMissing cls.name name))

/-- The identity that the mapping declares by names. -/
def declaredIdentity (settings : Settings) (cls : Class) (hierarchy : List Class) (mapping : EntityMapping) :
    Except Fault Identity :=
  match mapping.identifierNames with
  | [] => .error (.configuration (.identifierUndeclared cls.name))
  | [name] => .single <$> identityMember settings cls hierarchy mapping name
  | names => .composite <$> names.mapM (identityMember settings cls hierarchy mapping)

/-- The identity of an entity: its marked members, or else what the mapping declares. -/
def identity (settings : Settings) (cls : Class) (hierarchy : List Class) (mapping : EntityMapping)
    (scanned : List Property) : Except Fault Identity :=
  match (Marked.ofScan scanned).identity? with
  | some identity => .ok identity
  | none => declaredIdentity settings cls hierarchy mapping

end Discovery

end Persistence
