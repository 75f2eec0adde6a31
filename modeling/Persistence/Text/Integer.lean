import Persistence.Text.Digits

/-!
Decimal text of signed 64-bit integers. A text is an optional sign and then digits only; digits are taken from
the left and the first one that is no digit, or that leaves the range, decides the fault.
-/

namespace Persistence.Text

/-- The least and the greatest signed 64-bit integer. -/
def leastLong : Int := -0x8000000000000000

/-- The greatest integer of 64 bits. -/
def greatestLong : Int := 0x7fffffffffffffff

/-- Why a text is no signed 64-bit integer. -/
inductive IntegerFault where
  | empty
  | invalidDigit
  | tooLarge
  | tooSmall
deriving DecidableEq, Repr

/-- The text of the cause for which a text is no integer. -/
def IntegerFault.message : IntegerFault → String
  | .empty => "cannot parse integer from empty string"
  | .invalidDigit => "invalid digit found in string"
  | .tooLarge => "number too large to fit in target type"
  | .tooSmall => "number too small to fit in target type"

/-- Continues a number by digits, away from zero on the side of its sign. -/
def readLongFrom (negative : Bool) : Int → List Char → Except IntegerFault Int
  | n, [] => .ok n
  | n, c :: rest =>
    match digitValue? 10 c with
    | none => .error .invalidDigit
    | some d =>
      let next := if negative then n * 10 - d else n * 10 + d
      if next < leastLong then .error .tooSmall
      else if greatestLong < next then .error .tooLarge
      else readLongFrom negative next rest

/-- Splits off the sign, if there is one: whether it is a minus, and the rest. -/
def splitSign : List Char → Bool × List Char
  | '-' :: rest => (true, rest)
  | '+' :: rest => (false, rest)
  | cs => (false, cs)

/-- Reads a decimal integer of 64 bits, with or without a sign. -/
def readLong (cs : List Char) : Except IntegerFault Int :=
  if cs.isEmpty then .error .empty
  else
    match splitSign cs with
    | (_, []) => .error .invalidDigit
    | (negative, digits) => readLongFrom negative 0 digits

end Persistence.Text
