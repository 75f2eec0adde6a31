import Persistence.Number.Shortest
import Persistence.Text.Integer

/-!
Decimal text of binary64 numbers. Numbers are written with the fewest digits that read back, in positional form
only: a point stands only before a fraction, and no exponent is ever written. Reading takes an optional sign and
then a name of an infinity or of no number, or digits with an optional point and an optional exponent, and rounds
correctly.
-/

namespace Persistence.Binary64

/-! ### Writing -/

/-- The digits of a decimal with the point among them, and never an exponent. -/
def Decimal.positional (d : Decimal) : List Char :=
  let digits := Nat.toDigits 10 d.digits
  if 0 ≤ d.exponent then digits ++ List.replicate d.exponent.toNat '0'
  else
    let places := (-d.exponent).toNat
    if places < digits.length then
      digits.take (digits.length - places) ++ '.' :: digits.drop (digits.length - places)
    else
      '0' :: '.' :: (List.replicate (places - digits.length) '0' ++ digits)

/-- The words for the values that have no digits. -/
structure Wording where
  infinity : String
  nan : String

/-- The text of a number: the fewest digits that read back as it, or a word. -/
def text (words : Wording) (x : Binary64) : String :=
  if x.isNaN then words.nan
  else
    let unsigned := if x.isInfinite then words.infinity else String.ofList (shortest x.magnitude).positional
    if x.isNegative then "-" ++ unsigned else unsigned

/-- The short words, of numbers inside the text of a fault. -/
def shortWords : Wording := ⟨"inf", "NaN"⟩

/-- The full words, of values that are shown. -/
def fullWords : Wording := ⟨"Infinity", "NaN"⟩

/-! ### Reading -/

/-- Why a text is not a number. -/
inductive TextFault where
  | empty
  | invalid
deriving DecidableEq, Repr

/-- The text of the cause for which a text is not a number. -/
def TextFault.message : TextFault → String
  | .empty => "cannot parse float from empty string"
  | .invalid => "invalid float literal"

/-- Parts of a decimal text after its sign: the digits before and after the point and the exponent. -/
structure Parts where
  whole : List Char
  fraction : List Char
  exponent : Int

/-- The exponent after an `e`: an optional sign and at least one digit, and nothing else. -/
def exponentOf? (cs : List Char) : Option Int :=
  match Text.splitSign cs with
  | (_, []) => none
  | (negative, digits) => (Text.readDigits 10 digits).map fun n => if negative then -(n : Int) else n

/-- Splits a decimal text into its parts; there is a digit before or after the point. -/
def partsOf? (cs : List Char) : Option Parts :=
  let whole := cs.takeWhile Char.isDigit
  let afterWhole := cs.dropWhile Char.isDigit
  let (fraction, afterFraction) :=
    match afterWhole with
    | '.' :: rest => (rest.takeWhile Char.isDigit, rest.dropWhile Char.isDigit)
    | rest => ([], rest)
  if whole.isEmpty && fraction.isEmpty then none
  else
    match afterFraction with
    | [] => some ⟨whole, fraction, 0⟩
    | e :: rest =>
      if e = 'e' || e = 'E' then (exponentOf? rest).map fun exponent => ⟨whole, fraction, exponent⟩ else none

/-- The number with the given sign and parts. -/
def ofParts (negative : Bool) (p : Parts) : Binary64 :=
  let digits := (Text.readDigits 10 (p.whole ++ p.fraction)).getD 0
  ofDecimal negative digits (p.exponent - p.fraction.length)

/-- Reads a decimal text, with or without a sign, a point and an exponent, or a word for an infinity or for no number.
-/
def ofText (cs : List Char) : Except TextFault Binary64 :=
  if cs.isEmpty then .error .empty
  else
    let (negative, unsigned) := Text.splitSign cs
    let lower := unsigned.map Char.toLower
    if lower = "inf".toList || lower = "infinity".toList then .ok (infinity negative)
    else if lower = "nan".toList then .ok (if negative then nan.neg else nan)
    else
      match partsOf? unsigned with
      | some parts => .ok (ofParts negative parts)
      | none => .error .invalid

end Persistence.Binary64
