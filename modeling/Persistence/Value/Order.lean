import Persistence.Value.Basic

/-!
Likeness, order and digests of values. Likeness treats numbers as alike that differ by less than the gap after
one, and lists and maps as alike whose parts are. The order puts null first, orders the values of one kind, and
compares integers with numbers through the nearest number; other pairs, lists and maps have no order. A digest is
the row of bytes by which hashed collections tell values apart.
-/

namespace Persistence.Value

/-! ### Likeness -/

mutual

/-- Whether two values are alike: numbers that are near, lists and maps of alike parts, and others that are equal. -/
def alike : Value → Value → Bool
  | .null, .null => true
  | .integer m, .integer n => m == n
  | .float x, .float y => x.isNear y
  | .text s, .text t => s == t
  | .boolean a, .boolean b => a == b
  | .timestamp s, .timestamp t => s == t
  | .uuid u, .uuid v => u == v
  | .list xs, .list ys => alikeItems xs ys
  | .map xs, .map ys => alikeEntries xs ys
  | .integer n, .float x => ((Binary64.ofInt n.toInt).sub x).abs.isLess Binary64.epsilon
  | .float x, .integer n => ((Binary64.ofInt n.toInt).sub x).abs.isLess Binary64.epsilon
  | _, _ => false

/-- Whether two lists have items that are alike at each place. -/
def alikeItems : List Value → List Value → Bool
  | [], [] => true
  | x :: xs, y :: ys => alike x y && alikeItems xs ys
  | _, _ => false

/-- Whether two maps have the same names and alike values under them. -/
def alikeEntries : List (String × Value) → List (String × Value) → Bool
  | [], [] => true
  | (k, x) :: xs, (l, y) :: ys => k == l && alike x y && alikeEntries xs ys
  | _, _ => false

end

/-! ### Order -/

/-- The order of two booleans, false first. -/
def compareBooleans (a b : Bool) : Ordering :=
  compare a.toNat b.toNat

/-- The order of two texts by their code points. -/
def compareTexts (s t : String) : Ordering :=
  if s < t then .lt else if s = t then .eq else .gt

/-- The order of two values, if they have one. -/
def compare? : Value → Value → Option Ordering
  | .null, .null => some .eq
  | .null, _ => some .lt
  | _, .null => some .gt
  | .integer m, .integer n => some (compare m.toInt n.toInt)
  | .float x, .float y => x.compare? y
  | .integer n, .float x => (Binary64.ofInt n.toInt).compare? x
  | .float x, .integer n => x.compare? (Binary64.ofInt n.toInt)
  | .text s, .text t => some (compareTexts s t)
  | .boolean a, .boolean b => some (compareBooleans a b)
  | .timestamp s, .timestamp t => some (s.compare t)
  | .uuid u, .uuid v => some (compare u.number.val v.number.val)
  | _, _ => none

/-- Whether the one value is before the other. -/
def isLess (a b : Value) : Bool := compare? a b == some .lt

/-- Whether the one value is before the other or equal to it in the order. -/
def isLessOrEqual (a b : Value) : Bool := compare? a b == some .lt || compare? a b == some .eq

/-- Whether the one value is after the other. -/
def isGreater (a b : Value) : Bool := compare? a b == some .gt

/-- Whether the one value is after the other or equal to it in the order. -/
def isGreaterOrEqual (a b : Value) : Bool := compare? a b == some .gt || compare? a b == some .eq

/-! ### Digests -/

/-- The lowest `count` bytes of a number, the lowest first. -/
def bytes : Nat → Nat → List UInt8
  | 0, _ => []
  | count + 1, n => UInt8.ofNat n :: bytes count (n / 256)

/-- The bytes of a text, closed by one that no text contains. -/
def textBytes (s : String) : List UInt8 :=
  s.toUTF8.toList ++ [255]

mutual

/-- The digest of a value: a byte for its kind, then its parts, lists and maps led by their length. The bytes of a
timestamp, its seconds and nanoseconds, and those of a UUID, its number, are of a form chosen here; what the libraries of
timestamps and UUIDs feed to a hasher are other bytes. -/
def digest : Value → List UInt8
  | .null => [0]
  | .integer n => 1 :: bytes 8 n.toUInt64.toNat
  | .float x => 2 :: bytes 8 x.bits.toNat
  | .text s => 3 :: textBytes s
  | .boolean b => [4, if b then 1 else 0]
  | .timestamp t => 5 :: bytes 8 (Int64.ofInt t.seconds).toUInt64.toNat ++ bytes 4 t.nanos
  | .uuid u => 6 :: bytes 16 u.number
  | .list items => 7 :: bytes 8 items.length ++ digestItems items
  | .map entries => 8 :: bytes 8 entries.length ++ digestEntries entries

/-- The digests of the items of a list, one after the other. -/
def digestItems : List Value → List UInt8
  | [] => []
  | item :: rest => digest item ++ digestItems rest

/-- The names of the entries of a map with the digests of their values, one after the other. -/
def digestEntries : List (String × Value) → List UInt8
  | [] => []
  | (name, item) :: rest => textBytes name ++ digest item ++ digestEntries rest

end

end Persistence.Value
