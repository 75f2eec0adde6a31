import Persistence.Json.Document
import Persistence.Keyed
import Persistence.Number.DecimalText
import Persistence.Text.Integer

/-!
JSON values. A number is a natural number below 2^64, a negative integer of 64 bits or a finite binary64 number;
an object has one member for each name, in ascending order of the names.
-/

namespace Persistence

/-- A number of JSON: an integer where it is one of 64 bits, and else the nearest binary64 number. -/
inductive JsonNumber where
  | natural (n : UInt64)
  | negative (n : Int64)
  | real (x : Binary64)
deriving DecidableEq, Inhabited

/-- A JSON value. The members of an object are in ascending order of their names. -/
inductive Json where
  | null
  | boolean (b : Bool)
  | number (n : JsonNumber)
  | text (s : String)
  | array (items : List Json)
  | object (members : List (String × Json))
deriving Inhabited

namespace JsonNumber

/-- The number as a signed 64-bit integer, if it is one. -/
def toLong? : JsonNumber → Option Int64
  | .natural n => if (n.toNat : Int) ≤ Text.greatestLong then some (Int64.ofInt n.toNat) else none
  | .negative n => some n
  | .real _ => none

/-- The binary64 number nearest to a number. -/
def toReal : JsonNumber → Binary64
  | .natural n => Binary64.ofInt n.toNat
  | .negative n => Binary64.ofInt n.toInt
  | .real x => x

/-- A 64-bit integer as a number. -/
def ofLong (n : Int64) : JsonNumber :=
  if 0 ≤ n.toInt then .natural (UInt64.ofNat n.toInt.toNat) else .negative n

/-- Takes digits from the left while the number stays below 2^64; the digits that are left over follow. -/
def leadingDigits : Nat → List Char → Nat × List Char
  | n, [] => (n, [])
  | n, c :: rest =>
    let next := n * 10 + (c.toNat - 48)
    if next < UInt64.size then leadingDigits next rest else (n, c :: rest)

/-- The greatest power of ten by which a number is scaled in one step. -/
def greatestPower : Nat := 308

/-- The binary64 number nearest to a power of ten. -/
def powerOfTen (n : Nat) : Binary64 := Binary64.ofDecimal false 1 n

/-- A number times a power of ten. Each multiplication or division rounds, so that the result may differ from the
nearest number in the last place; a result that is too large is refused. -/
def scaled? (x : Binary64) (exponent : Int) : Option Binary64 :=
  if exponent.natAbs ≤ greatestPower then
    if 0 ≤ exponent then
      let product := x.mul (powerOfTen exponent.toNat)
      if product.isInfinite then none else some product
    else some (x.div (powerOfTen exponent.natAbs))
  else if x.magnitude = 0 then some x
  else if 0 ≤ exponent then none
  else scaled? (x.div (powerOfTen greatestPower)) (exponent + greatestPower)
termination_by (-exponent).toNat
decreasing_by simp [greatestPower] at *; omega

/-- The number that a numeral stands for. Integers that fit are kept exactly. Otherwise the leading digits, as
many as fit into 64 bits, are rounded and scaled by a power of ten. -/
def ofNumeral? (n : Json.Numeral) : Option JsonNumber :=
  let (whole, wholeLeft) := leadingDigits 0 n.whole
  if wholeLeft.isEmpty && n.fraction.isEmpty && n.exponent.isNone && !(n.negative && whole = 0)
      && !(n.negative && -(whole : Int) < Text.leastLong) then
    some (if n.negative then .negative (Int64.ofInt (-(whole : Int))) else .natural (UInt64.ofNat whole))
  else
    let (digits, fractionLeft) := leadingDigits whole n.fraction
    let exponent : Int := wholeLeft.length - (n.fraction.length - fractionLeft.length : Nat) + n.exponent.getD 0
    (scaled? (Binary64.ofInt digits) exponent).map fun x => .real (if n.negative then x.neg else x)

end JsonNumber

namespace Json

mutual

/-- The value of a document: of members with one name the last one counts. Numbers beyond the range and texts
without characters have no value. -/
def ofDocument? : Document → Option Json
  | .null => some .null
  | .boolean b => some (.boolean b)
  | .number n => (JsonNumber.ofNumeral? n).map .number
  | .text s => s.map .text
  | .array items => (ofItems? items).map .array
  | .object members => (ofMembers? members).map fun found => .object (Keyed.ofList found)

/-- The items of an array, if all of them have a value. -/
def ofItems? : List Document → Option (List Json)
  | [] => some []
  | item :: rest =>
    match ofDocument? item, ofItems? rest with
    | some j, some js => some (j :: js)
    | _, _ => none

/-- The members of an object as they stand, if all of them have a name and a value. -/
def ofMembers? : List (Option String × Document) → Option (List (String × Json))
  | [] => some []
  | (name, item) :: rest =>
    match name, ofDocument? item, ofMembers? rest with
    | some k, some j, some js => some ((k, j) :: js)
    | _, _, _ => none

end

/-- Reads a text as one JSON value. -/
def read? (s : String) : Option Json :=
  (Document.read? s).bind ofDocument?

/-- The member of a name; only objects have members. -/
def member? : Json → String → Option Json
  | .object members, name => Keyed.get? members name
  | _, _ => none

end Json

end Persistence
