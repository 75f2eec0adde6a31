import Persistence.Number.Binary64

/-!
The shortest decimal that reads back as a given finite number. Candidates lie on a grid of powers of ten; for one
digit, two digits and so on the two grid points next to the number are tried, and the first grid with a point in
the interval of numbers that round to it decides. Of two such points the nearer one is taken, on a tie the upper.
-/

namespace Persistence.Binary64

/-- A decimal: digits times a power of ten. -/
structure Decimal where
  digits : Nat
  exponent : Int
deriving DecidableEq, Repr

/-- Every positive number times this power of ten exceeds 10^17, so grids below are of whole numbers. -/
def scaleExponent : Nat := 400

/-- How many parts a unit is cut into, so that powers of ten can be compared with it exactly. -/
def scale : Nat := Nat.pow 10 scaleExponent

/-- The scaled interval that rounds to a magnitude: twice its ends, in units, the ends belonging to it if the
magnitude is even. -/
structure Interval where
  low : Nat
  high : Nat
  closed : Bool

/-- The numbers that are nearest to a magnitude, with the ends where ties go to it. -/
def intervalOf (magnitude : Nat) : Interval where
  low := (unitsOf (magnitude - 1) + unitsOf magnitude) * scale
  high := (unitsOf magnitude + unitsOf (magnitude + 1)) * scale
  closed := magnitude % 2 = 0

/-- Whether a scaled whole number lies in the interval. -/
def Interval.holds (i : Interval) (candidate : Nat) : Bool :=
  let twice := 2 * unitsPerOne * candidate
  if i.closed then i.low ≤ twice && twice ≤ i.high else i.low < twice && twice < i.high

/-- The point of the grid with the given step that stands for the magnitude: of the two next to it the nearer one
that the interval holds. -/
def gridPoint? (magnitude step : Nat) : Option Nat :=
  let interval := intervalOf magnitude
  let scaled := unitsOf magnitude * scale
  let down := scaled / (unitsPerOne * step)
  let up := down + 1
  match interval.holds (down * step), interval.holds (up * step) with
  | true, true => if 2 * scaled < (down + up) * step * unitsPerOne then some down else some up
  | true, false => some down
  | false, true => some up
  | false, false => none

/-- Tries grids from a coarse one to finer ones; the step is ten to the number of the grid. -/
def firstGridPoint (magnitude : Nat) : Nat → Decimal
  | 0 => ⟨0, 0⟩
  | grid + 1 =>
    match gridPoint? magnitude (Nat.pow 10 grid) with
    | some digits => ⟨digits, (grid : Int) - scaleExponent⟩
    | none => firstGridPoint magnitude grid

/-- Moves trailing zeros from the digits into the power of ten. -/
def Decimal.trimmed (d : Decimal) : Nat → Decimal
  | 0 => d
  | fuel + 1 =>
    if d.digits % 10 = 0 ∧ d.digits ≠ 0 then Decimal.trimmed ⟨d.digits / 10, d.exponent + 1⟩ fuel else d

/-- The shortest decimal that reads back as the magnitude, which is finite. -/
def shortest (magnitude : Nat) : Decimal :=
  if magnitude = 0 then ⟨0, 0⟩
  else
    let places := (Nat.toDigits 10 (unitsOf magnitude * scale / unitsPerOne)).length
    (firstGridPoint magnitude places).trimmed 20

end Persistence.Binary64
