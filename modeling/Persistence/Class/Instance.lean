import Persistence.Class.Outline
import Persistence.Value.JsonForm

/-!
Objects of described classes. A proxy stands for another object; it has slots of its own, which stay empty unless
they are written directly.
-/

namespace Persistence

/-- What an object holds, by the names of its fields. -/
abbrev Slots := Keyed Value

namespace Slots

/-- Reads a slot; one that was never written reads as null. -/
def read (slots : Slots) (field : String) : Value :=
  (slots.get? field).getD .null

/-- Writes a slot, in place of what it held. -/
def write (slots : Slots) (field : String) (value : Value) : Slots :=
  slots.put field value

end Slots

/-- An object of a class, or a proxy that stands for one. -/
inductive Instance where
  | plain (cls : Outline) (slots : Slots)
  | proxy (cls : Outline) (slots : Slots) (target : Instance)
deriving DecidableEq, Inhabited

namespace Instance

/-- The class that the object says it is of; a proxy says so itself. -/
def cls : Instance → Outline
  | .plain cls _ => cls
  | .proxy cls _ _ => cls

/-- The slots of the object itself. -/
def slots : Instance → Slots
  | .plain _ slots => slots
  | .proxy _ slots _ => slots

/-- The object with other slots of its own. -/
def withSlots (slots : Slots) : Instance → Instance
  | .plain cls _ => .plain cls slots
  | .proxy cls _ target => .proxy cls slots target

/-- A proxy that stands for an object. -/
def proxied (target : Instance) : Instance := .proxy target.cls [] target

/-- Whether the object stands for another one. -/
def isProxy : Instance → Bool
  | .plain _ _ => false
  | .proxy _ _ _ => true

/-- The object that a proxy directly stands for. -/
def target? : Instance → Option Instance
  | .plain _ _ => none
  | .proxy _ _ target => some target

/-- How many proxies stand before the object at the end of a chain. -/
def depth : Instance → Nat
  | .plain _ _ => 0
  | .proxy _ _ target => target.depth + 1

/-- The object so many steps along a chain of proxies; a chain that is shorter ends before. -/
def along : Nat → Instance → Instance
  | 0, obj => obj
  | _ + 1, .plain cls slots => .plain cls slots
  | steps + 1, .proxy _ _ target => along steps target

/-- Changes the object so many steps along a chain of proxies and leaves the proxies before it as they are. -/
def mapAlong {α : Type} (change : Instance → α × Instance) : Nat → Instance → α × Instance
  | 0, obj => change obj
  | _ + 1, .plain cls slots => change (.plain cls slots)
  | steps + 1, .proxy cls slots target =>
    let (answer, target) := mapAlong change steps target
    (answer, .proxy cls slots target)

/-! ### Slots -/

/-- Reads a slot of the object itself. -/
def get (obj : Instance) (field : String) : Value := obj.slots.read field

/-- Writes a slot of the object itself, without conversion. -/
def set (obj : Instance) (field : String) (value : Value) : Instance :=
  obj.withSlots (obj.slots.write field value)

/-- Writes a slot of the object that a proxy directly stands for, if there is one. -/
def setTarget? (obj : Instance) (field : String) (value : Value) : Option Instance :=
  match obj with
  | .plain _ _ => none
  | .proxy cls slots target => some (.proxy cls slots (target.set field value))

/-- Writes a slot of the object at the end of a chain of proxies. -/
def setInnermost (obj : Instance) (field : String) (value : Value) : Instance :=
  (obj.mapAlong (fun target => ((), target.set field value)) obj.depth).2

@[simp]
theorem withSlots_withSlots (obj : Instance) (first second : Slots) :
    (obj.withSlots first).withSlots second = obj.withSlots second := by
  cases obj <;> rfl

theorem withSlots_slots (obj : Instance) : obj.withSlots obj.slots = obj := by
  cases obj <;> rfl

@[simp]
theorem slots_withSlots (obj : Instance) (slots : Slots) : (obj.withSlots slots).slots = slots := by
  cases obj <;> rfl

theorem get?_set_self (obj : Instance) (field : String) (value : Value) :
    Keyed.get? (obj.set field value).slots field = some value := by
  rw [set, slots_withSlots, Slots.write, Keyed.get?_put_self]

theorem get?_set_of_ne (obj : Instance) {field other : String} (value : Value) (ne : other ≠ field) :
    Keyed.get? (obj.set field value).slots other = Keyed.get? obj.slots other := by
  rw [set, slots_withSlots, Slots.write, Keyed.get?_put_of_ne _ _ ne]

@[simp]
theorem get_set_self (obj : Instance) (field : String) (value : Value) : (obj.set field value).get field = value := by
  rw [get, Slots.read, get?_set_self, Option.getD_some]

theorem get_set_of_ne (obj : Instance) {field other : String} (value : Value) (ne : other ≠ field) :
    (obj.set field value).get other = obj.get other := by
  rw [get, Slots.read, get?_set_of_ne _ _ ne]
  rfl

/-- To write what a slot holds leaves the object as it is. -/
theorem set_eq_self {obj : Instance} {field : String} {value : Value} (sorted : Keyed.Sorted obj.slots)
    (held : Keyed.get? obj.slots field = some value) : obj.set field value = obj := by
  rw [set, Slots.write, sorted.put_eq_self held, withSlots_slots]

theorem set_get_self {obj : Instance} {field : String} (sorted : Keyed.Sorted obj.slots)
    (present : (obj.get field).isNull = false) : obj.set field (obj.get field) = obj := by
  cases held : Keyed.get? obj.slots field with
  | none =>
    rw [get, Slots.read, held] at present
    cases present
  | some value =>
    have read : obj.get field = value := by rw [get, Slots.read, held, Option.getD_some]
    rw [read, set_eq_self sorted held]

/-! ### Snapshots -/

/-- The slots of the object itself as JSON. -/
def toJson (obj : Instance) : Json :=
  .object (obj.slots.map fun entry => (entry.1, entry.2.toJson))

/-- Writes a member of a snapshot, converted to the type of the field of its name if there is one. -/
def restore (cls : Outline) (slots : Slots) (member : String × Json) : Except Fault Slots :=
  let value := Value.ofJson member.2
  match cls.field? member.1 with
  | none => .ok (slots.write member.1 value)
  | some field =>
    match field.type.convert value with
    | .ok converted => .ok (slots.write member.1 converted)
    | .error cause => .error (.creation cls.name (.field member.1 cause))

/-- Restores an object of a class from a snapshot, member by member. -/
def ofJson (cls : Outline) : Json → Except Fault Instance
  | .object members => do
    let slots ← members.foldlM (restore cls) []
    return .plain cls slots
  | _ => .error (.creation cls.name .notAnObject)

end Instance

/-- A new object, as the default constructor of the class makes it. -/
def Outline.newInstance (cls : Outline) : Except Fault Instance :=
  if cls.isAbstract then .error (.creation cls.name .abstractClass)
  else if !cls.hasDefaultConstructor then .error (.creation cls.name .noDefaultConstructor)
  else .ok (.plain cls (if cls.tracksChanges then Slots.write [] Naming.changesField (.map []) else []))

/-! ### Proxy handling -/

/-- How accessors treat proxies. They go some steps along a chain of proxies, to the object that is read or to the
one that is written. -/
structure ProxyHandling where
  isProxy : Instance → Bool
  reads : (obj : Instance) → Fin (obj.depth + 1)
  writes : (obj : Instance) → Fin (obj.depth + 1)

namespace ProxyHandling

/-- Accessors go through proxies to the object at the end of the chain. -/
def transparent : ProxyHandling where
  isProxy := Instance.isProxy
  reads obj := Fin.last obj.depth
  writes obj := Fin.last obj.depth

/-- Accessors take every object as it is. -/
def direct : ProxyHandling where
  isProxy _ := false
  reads _ := 0
  writes _ := 0

instance : Inhabited ProxyHandling := ⟨transparent⟩

/-- The object that is read in place of another one. -/
def unwrap (handling : ProxyHandling) (obj : Instance) : Instance := obj.along (handling.reads obj)

/-- Changes the object that is written in place of another one. -/
def change {α : Type} (handling : ProxyHandling) (f : Instance → α × Instance) (obj : Instance) : α × Instance :=
  obj.mapAlong f (handling.writes obj)

end ProxyHandling

end Persistence
