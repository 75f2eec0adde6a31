import Persistence.Value.Basic
import Persistence.Json.Basic
import Persistence.Time.InternetTime

/-!
Values as JSON and back. Timestamps and identifiers become texts and stay texts on the way back; numbers without
a JSON form become null.
-/

namespace Persistence.Value

mutual

/-- A value as JSON. Numbers that are not finite are lost, and points in time and UUIDs are texts. -/
def toJson : Value → Json
  | .null => .null
  | .integer n => .number (JsonNumber.ofLong n)
  | .float x => if x.isFinite then .number (.real x) else .null
  | .text s => .text s
  | .boolean b => .boolean b
  | .timestamp t => .text (InternetTime.text t)
  | .uuid u => .text u.text
  | .list items => .array (toJsonItems items)
  | .map entries => .object (toJsonEntries entries)

/-- The items of a list as JSON. -/
def toJsonItems : List Value → List Json
  | [] => []
  | item :: rest => toJson item :: toJsonItems rest

/-- The entries of a map as JSON. -/
def toJsonEntries : List (String × Value) → List (String × Json)
  | [] => []
  | (name, item) :: rest => (name, toJson item) :: toJsonEntries rest

end

mutual

/-- Integers of 64 bits stay integers, all other numbers become floating point numbers. -/
def ofJson : Json → Value
  | .null => .null
  | .boolean b => .boolean b
  | .number n =>
    match n.toLong? with
    | some i => .integer i
    | none => .float n.toReal
  | .text s => .text s
  | .array items => .list (ofJsonItems items)
  | .object members => .map (ofJsonMembers members)

/-- The items of an array as values. -/
def ofJsonItems : List Json → List Value
  | [] => []
  | item :: rest => ofJson item :: ofJsonItems rest

/-- The members of an object as entries of a map. -/
def ofJsonMembers : List (String × Json) → List (String × Value)
  | [] => []
  | (name, item) :: rest => (name, ofJson item) :: ofJsonMembers rest

end

/-! ### Values of plain data -/

/-- An integer as a value of 64 bits. -/
def ofInt (n : Int) : Value := .integer (Int64.ofInt n)

/-- A value of optional data; what is absent becomes null. -/
def ofOption {α : Type} (wrap : α → Value) : Option α → Value
  | some a => wrap a
  | none => .null

end Persistence.Value
