/-!
Floating point numbers of the binary64 format, as their 64 bits. A finite number is an integer count of units, a
unit being 2^-1074, the least positive number of the format; every operation is exact on counts of units and
rounds once, to the nearest number and on a tie to the one whose last bit is zero.
-/

namespace Persistence

/-- A binary64 number, given by its bits. -/
structure Binary64 where
  bits : UInt64
deriving DecidableEq, Inhabited, Repr

namespace Binary64

/-! ### Bits -/

/-- What the sign bit counts: 2^63. -/
def signWeight : Nat := 0x8000000000000000

/-- How many magnitudes share an exponent: 2^52. -/
def fractionCount : Nat := 0x10000000000000

/-- The magnitude of the infinities; the magnitudes above it are not numbers. -/
def infiniteMagnitude : Nat := 2047 * fractionCount

/-- Whether the sign bit is set. -/
def isNegative (x : Binary64) : Bool :=
  signWeight ≤ x.bits.toNat

/-- All bits but the sign, as a number. Magnitudes are ordered as the absolute values they stand for. -/
def magnitude (x : Binary64) : Nat :=
  x.bits.toNat % signWeight

/-- Whether the bits stand for no number. -/
def isNaN (x : Binary64) : Bool :=
  infiniteMagnitude < x.magnitude

/-- Whether the number is one of the infinities. -/
def isInfinite (x : Binary64) : Bool :=
  x.magnitude = infiniteMagnitude

/-- Whether the bits stand for a number that is not infinite. -/
def isFinite (x : Binary64) : Bool :=
  x.magnitude < infiniteMagnitude

/-- The bits of a sign and a magnitude. -/
def ofMagnitude (negative : Bool) (magnitude : Nat) : Binary64 :=
  ⟨UInt64.ofNat (if negative then signWeight + magnitude else magnitude)⟩

/-- Zero without a sign. -/
def zero : Binary64 := ofMagnitude false 0

/-- The quiet number that is none. -/
def nan : Binary64 := ofMagnitude false (infiniteMagnitude + fractionCount / 2)

/-- The infinity of a sign. -/
def infinity (negative : Bool) : Binary64 := ofMagnitude negative infiniteMagnitude

/-- The number with the other sign. -/
def neg (x : Binary64) : Binary64 :=
  ofMagnitude (!x.isNegative) x.magnitude

/-- The number without its sign. -/
def abs (x : Binary64) : Binary64 :=
  ofMagnitude false x.magnitude

/-! ### Values -/

/-- The count of units that a magnitude stands for. -/
def unitsOf (magnitude : Nat) : Nat :=
  let exponent := magnitude / fractionCount
  let fraction := magnitude % fractionCount
  if exponent = 0 then fraction else (fractionCount + fraction) * Nat.pow 2 (exponent - 1)

/-- How many units make one. -/
def unitsPerOne : Nat := Nat.pow 2 1074

/-- The exact value of a finite number, in units. -/
def units (x : Binary64) : Int :=
  if x.isNegative then -(unitsOf x.magnitude : Int) else unitsOf x.magnitude

/-- A place on the number line: the order of the keys is the order of the numbers, infinities included, and the
two zeros share a key. -/
def key (x : Binary64) : Int :=
  if x.isNegative then -(x.magnitude : Int) else x.magnitude

/-! ### Rounding -/

/-- The integer nearest to a quotient, the even one on a tie. -/
def roundHalfEven (num den : Nat) : Nat :=
  let down := num / den
  let rest := num % den
  if 2 * rest < den then down
  else if den < 2 * rest then down + 1
  else down + down % 2

/-- The magnitude nearest to a quotient counted in units; too large a quotient gives the infinite one. -/
def nearestMagnitude (num den : Nat) : Nat :=
  let shift := (num / den).log2 - 52
  min infiniteMagnitude (shift * fractionCount + roundHalfEven num (den * Nat.pow 2 shift))

/-- The number nearest to a quotient counted in units. -/
def ofUnits (negative : Bool) (num den : Nat) : Binary64 :=
  ofMagnitude negative (nearestMagnitude num den)

/-- The number nearest to an integer. -/
def ofInt (n : Int) : Binary64 :=
  ofUnits (n < 0) (n.natAbs * unitsPerOne) 1

/-- The number nearest to a decimal: digits times a power of ten. Far outside the range the power itself is never
computed. -/
def ofDecimal (negative : Bool) (digits : Nat) (exponent : Int) : Binary64 :=
  let places : Int := (Nat.toDigits 10 digits).length
  if digits = 0 then ofMagnitude negative 0
  else if 310 < places + exponent then infinity negative
  else if places + exponent < -330 then ofMagnitude negative 0
  else ofUnits negative (digits * unitsPerOne * Nat.pow 10 exponent.toNat) (Nat.pow 10 (-exponent).toNat)

/-! ### Arithmetic -/

/-- The difference of two numbers, rounded once. -/
def sub (x y : Binary64) : Binary64 :=
  if x.isNaN || y.isNaN then nan
  else if x.isInfinite then
    if y.isInfinite && x.isNegative == y.isNegative then nan else x
  else if y.isInfinite then y.neg
  else
    let exact := x.units - y.units
    ofUnits (exact < 0) exact.natAbs 1

/-- The product of two finite numbers, rounded once. -/
def mul (x y : Binary64) : Binary64 :=
  ofUnits (x.isNegative != y.isNegative) (unitsOf x.magnitude * unitsOf y.magnitude) unitsPerOne

/-- The quotient of two finite numbers, rounded once; the divisor is not zero. -/
def div (x y : Binary64) : Binary64 :=
  ofUnits (x.isNegative != y.isNegative) (unitsOf x.magnitude * unitsPerOne) (unitsOf y.magnitude)

/-! ### Comparison -/

/-- The order of two numbers; one that is no number has no place in it. -/
def compare? (x y : Binary64) : Option Ordering :=
  if x.isNaN || y.isNaN then none else some (compare x.key y.key)

/-- Whether the one number is before the other; what is no number is before none. -/
def isLess (x y : Binary64) : Bool :=
  compare? x y == some .lt

/-- Whether the one number is before the other or at its place. -/
def isLessOrEqual (x y : Binary64) : Bool :=
  compare? x y == some .lt || compare? x y == some .eq

/-- The gap between one and the next number: 2^-52. -/
def epsilon : Binary64 := ofMagnitude false (971 * fractionCount)

/-- Whether two numbers differ by less than `epsilon`, or both are no numbers. -/
def isNear (x y : Binary64) : Bool :=
  (x.isNaN && y.isNaN) || (x.sub y).abs.isLess epsilon

/-- Whether the number is finite and has no fraction. -/
def isIntegral (x : Binary64) : Bool :=
  x.isFinite && x.units % unitsPerOne == 0

/-- The number without its fraction, if it is finite. -/
def truncate? (x : Binary64) : Option Int :=
  if x.isFinite then some (x.units.tdiv unitsPerOne) else none

end Binary64

end Persistence
