import Persistence.Json.Basic

/-!
Compact JSON text of JSON values: no space between the parts, members in the order of their names, and in texts
only those characters escaped that must be.
-/

namespace Persistence.Json

/-- A code unit as four hexadecimal digits. -/
def hexDigits (n : Nat) : List Char := Text.padded 16 4 n

/-- The text of a character between quotes. -/
def writeChar (c : Char) : List Char :=
  if c = '"' then ['\\', '"']
  else if c = '\\' then ['\\', '\\']
  else if c = '\n' then ['\\', 'n']
  else if c = '\r' then ['\\', 'r']
  else if c = '\t' then ['\\', 't']
  else if c.toNat < 32 then '\\' :: 'u' :: hexDigits c.toNat
  else [c]

/-- A text in quotes, with escapes where it needs them. -/
def writeText (s : String) : String :=
  String.ofList ('"' :: (s.toList.flatMap writeChar ++ ['"']))

/-- The digits of a number; a real number that is whole shows it by a fraction of zero. -/
def writeNumber : JsonNumber → String
  | .natural n => toString n.toNat
  | .negative n => toString n.toInt
  | .real x =>
    let digits := x.text Binary64.shortWords
    if x.isIntegral then digits ++ ".0" else digits

mutual

/-- The text of a JSON value, without blanks. -/
def write : Json → String
  | .null => "null"
  | .boolean b => if b then "true" else "false"
  | .number n => writeNumber n
  | .text s => writeText s
  | .array items => "[" ++ String.intercalate "," (writeItems items) ++ "]"
  | .object members => "\x7b" ++ String.intercalate "," (writeMembers members) ++ "\x7d"

/-- The texts of the items of an array. -/
def writeItems : List Json → List String
  | [] => []
  | item :: rest => write item :: writeItems rest

/-- The texts of the members of an object. -/
def writeMembers : List (String × Json) → List String
  | [] => []
  | (name, item) :: rest => (writeText name ++ ":" ++ write item) :: writeMembers rest

end

end Persistence.Json
