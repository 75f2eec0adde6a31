import Persistence.Keyed
import Persistence.Number.Binary64
import Persistence.Time.Instant
import Persistence.Uuid
import Persistence.Text.Integer

/-!
Values of mapped properties: the dynamic data that instances hold and that conversions, comparisons and texts are
about.
-/

namespace Persistence

/-- A value of a property. The entries of a map are in ascending order of their names. -/
inductive Value where
  | null
  | integer (n : Int64)
  | float (x : Binary64)
  | text (s : String)
  | boolean (b : Bool)
  | timestamp (t : Instant)
  | uuid (u : Uuid)
  | list (items : List Value)
  | map (entries : List (String × Value))
deriving Inhabited

namespace Value

/-! ### Equality -/

mutual

/-- Whether two values are one and the same, numbers by their bits. -/
def same : Value → Value → Bool
  | .null, .null => true
  | .integer m, .integer n => m == n
  | .float x, .float y => x == y
  | .text s, .text t => s == t
  | .boolean a, .boolean b => a == b
  | .timestamp s, .timestamp t => s == t
  | .uuid u, .uuid v => u == v
  | .list xs, .list ys => sameItems xs ys
  | .map xs, .map ys => sameEntries xs ys
  | _, _ => false

/-- Whether two lists are one and the same, item by item. -/
def sameItems : List Value → List Value → Bool
  | [], [] => true
  | x :: xs, y :: ys => same x y && sameItems xs ys
  | _, _ => false

/-- Whether two maps are one and the same, entry by entry. -/
def sameEntries : List (String × Value) → List (String × Value) → Bool
  | [], [] => true
  | (k, x) :: xs, (l, y) :: ys => k == l && same x y && sameEntries xs ys
  | _, _ => false

end

mutual

theorem same_iff : (a b : Value) → (same a b = true ↔ a = b)
  | .list xs, b => by cases b <;> simp [same, sameItems_iff xs]
  | .map xs, b => by cases b <;> simp [same, sameEntries_iff xs]
  | .null, b | .integer _, b | .float _, b | .text _, b | .boolean _, b | .timestamp _, b | .uuid _, b => by
    cases b <;> simp [same]

theorem sameItems_iff : (xs ys : List Value) → (sameItems xs ys = true ↔ xs = ys)
  | [], ys => by cases ys <;> simp [sameItems]
  | x :: xs, ys => by cases ys <;> simp [sameItems, same_iff x, sameItems_iff xs]

theorem sameEntries_iff : (xs ys : List (String × Value)) → (sameEntries xs ys = true ↔ xs = ys)
  | [], ys => by cases ys <;> simp [sameEntries]
  | (k, x) :: xs, ys => by cases ys <;> simp [sameEntries, same_iff x, sameEntries_iff xs, Prod.ext_iff]

end

instance : DecidableEq Value := fun a b => decidable_of_iff (same a b = true) (same_iff a b)

/-! ### Kinds -/

/-- The name of the kind of a value. -/
def kindName : Value → String
  | .null => "NULL"
  | .integer _ => "INTEGER"
  | .float _ => "FLOAT"
  | .text _ => "TEXT"
  | .boolean _ => "BOOLEAN"
  | .timestamp _ => "TIMESTAMP"
  | .uuid _ => "UUID"
  | .list _ => "LIST"
  | .map _ => "MAP"

def isNull : Value → Bool
  | .null => true
  | _ => false

/-- Whether a value is an integer or a binary64 number. -/
def isNumeric : Value → Bool
  | .integer _ | .float _ => true
  | _ => false

/-- Whether a number lies in the range of signed 64-bit integers. The bounds are numbers, too, and the upper one is the
number nearest to the greatest integer, which is one more than it. -/
def fitsLong (x : Binary64) : Bool :=
  x.isFinite && (Binary64.ofInt Text.leastLong).isLessOrEqual x && x.isLess (Binary64.ofInt Text.greatestLong)

/-- An integer, or a number in the range of integers without its fraction. -/
def asLong? : Value → Option Int64
  | .integer n => some n
  | .float x => if fitsLong x then x.truncate?.map Int64.ofInt else none
  | _ => none

/-- A number; an integer gives the number nearest to it. -/
def asFloat? : Value → Option Binary64
  | .float x => some x
  | .integer n => some (Binary64.ofInt n.toInt)
  | _ => none

/-- The text that a value is. -/
def asText? : Value → Option String
  | .text s => some s
  | _ => none

/-- The truth value that a value is. -/
def asBoolean? : Value → Option Bool
  | .boolean b => some b
  | _ => none

/-- The entries of a map. -/
def asMap? : Value → Option (Keyed Value)
  | .map entries => some entries
  | _ => none

end Value

end Persistence
