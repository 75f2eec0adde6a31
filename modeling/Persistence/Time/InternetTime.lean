import Persistence.Time.Instant
import Persistence.Text.Digits

/-!
The text form of instants that is used on the internet, such as `2024-03-01T10:00:00+00:00`. Writing always gives
the offset `+00:00`, the fewest digits of the fraction among none, three, six and nine, and a sign for years that
do not have four digits. Reading takes any offset; the parts stand at fixed places, and the first part that is
wrong decides the fault.
-/

namespace Persistence.InternetTime

/-! ### Writing -/

/-- A year: four digits, or a sign and at least four digits. -/
def yearText (year : Int) : List Char :=
  if 0 ≤ year ∧ year ≤ 9999 then Text.padded 10 4 year.toNat
  else
    let digits := Nat.toDigits 10 year.natAbs
    (if year < 0 then '-' else '+') :: (List.replicate (4 - digits.length) '0' ++ digits)

/-- A fraction of a second, with its point, in the fewest groups of three digits. -/
def fractionText (nanos : Nat) : List Char :=
  if nanos = 0 then []
  else if nanos % 1000000 = 0 then '.' :: Text.padded 10 3 (nanos / 1000000)
  else if nanos % 1000 = 0 then '.' :: Text.padded 10 6 (nanos / 1000)
  else '.' :: Text.padded 10 9 nanos

/-- The characters of an instant, in universal time and with as much of a fraction as it has. -/
def write (t : Instant) : List Char :=
  let date := t.date
  let second := t.secondOfDay % 60 + t.nanos / 1000000000
  yearText date.year ++ '-' :: Text.padded 10 2 date.month ++ '-' :: Text.padded 10 2 date.day ++
    'T' :: Text.padded 10 2 (t.secondOfDay / 3600) ++ ':' :: Text.padded 10 2 (t.secondOfDay / 60 % 60) ++
    ':' :: Text.padded 10 2 second ++ fractionText (t.nanos % 1000000000) ++ "+00:00".toList

/-- The text of an instant. -/
def text (t : Instant) : String :=
  String.ofList (write t)

/-! ### Reading -/

/-- Why a text is not an instant. -/
inductive Fault where
  | tooShort
  | invalid
  | outOfRange
  | trailing
deriving DecidableEq, Repr

/-- The text of the cause for which a text is not an instant. -/
def Fault.message : Fault → String
  | .tooShort => "premature end of input"
  | .invalid => "input contains invalid characters"
  | .outOfRange => "input is out of range"
  | .trailing => "trailing input"

/-- A number of exactly `count` digits at the start of a text, and the rest. -/
def number (count : Nat) (cs : List Char) : Except Fault (Nat × List Char) :=
  match Text.readDigits 10 (cs.take count) with
  | some n => if (cs.take count).length = count then .ok (n, cs.drop count) else .error .invalid
  | none => .error .invalid

/-- One of the given characters at the start of a text, and the rest. -/
def oneOf (choices : List Char) : List Char → Except Fault (List Char)
  | c :: rest => if choices.contains c then .ok rest else .error .invalid
  | [] => .error .invalid

/-- The fraction of a second after the seconds: nanoseconds, digits beyond the ninth being dropped. -/
def fraction : List Char → Except Fault (Nat × List Char)
  | '.' :: rest =>
    match rest.takeWhile Char.isDigit with
    | [] => .error (if rest.isEmpty then .tooShort else .invalid)
    | digits =>
      let nine := (digits ++ List.replicate 9 '0').take 9
      .ok ((Text.readDigits 10 nine).getD 0, rest.dropWhile Char.isDigit)
  | rest => .ok (0, rest)

/-- A pair of digits of the offset; a single byte in their place is too short a text, whatever it is. -/
def offsetPair : List Char → Except Fault (Nat × List Char)
  | tens :: ones :: rest =>
    match Text.readDigits 10 [tens, ones] with
    | some n => .ok (n, rest)
    | none => .error .invalid
  | [c] => .error (if c.utf8Size < 2 then .tooShort else .invalid)
  | [] => .error .tooShort

/-- The offset from universal time in minutes, which ends the text. -/
def offset : List Char → Except Fault Int
  | [] => .error .tooShort
  | sign :: rest => do
    if sign = 'Z' || sign = 'z' then
      if rest.isEmpty then return 0 else throw .trailing
    unless sign = '+' || sign = '-' || sign = '−' do throw .invalid
    let (hours, rest) ← offsetPair rest
    let rest ← if rest.isEmpty then throw .tooShort else oneOf [':'] rest
    let (minutes, rest) ← offsetPair rest
    if 60 ≤ minutes && minutes ≤ 99 then throw .outOfRange
    unless rest.isEmpty do throw .trailing
    if 24 ≤ hours then throw .outOfRange
    let total : Int := hours * 60 + minutes
    return if sign = '+' then total else -total

/-- The shortest text, in bytes, that reaches the seconds. -/
def leastLength : Nat := 19

/-- Reads an instant, at any offset from universal time. -/
def read (s : String) : Except Fault Instant := do
  if s.utf8ByteSize < leastLength then throw .tooShort
  let (year, rest) ← number 4 s.toList
  let rest ← oneOf ['-'] rest
  let (month, rest) ← number 2 rest
  let rest ← oneOf ['-'] rest
  let (day, rest) ← number 2 rest
  let date : Date := ⟨year, month, day⟩
  unless date.isValid do throw .outOfRange
  let rest ← oneOf ['T', 't', ' '] rest
  let (hour, rest) ← number 2 rest
  let rest ← oneOf [':'] rest
  let (minute, rest) ← number 2 rest
  let rest ← oneOf [':'] rest
  let (second, rest) ← number 2 rest
  let (nanos, rest) ← fraction rest
  unless hour ≤ 23 && minute ≤ 59 && second ≤ 60 do throw .outOfRange
  let minutesEast ← offset rest
  let leap := second / 60
  let local_ : Int := date.toDayNumber * 86400 + hour * 3600 + minute * 60 + (second - leap : Nat)
  return ⟨local_ - minutesEast * 60, nanos + leap * 1000000000⟩

end Persistence.InternetTime
