import Persistence.Text.Digits

/-!
Universally unique identifiers: numbers of 128 bits. The canonical text has 32 lower-case hexadecimal digits in
groups of 8, 4, 4, 4 and 12; reading also takes upper-case digits, the digits without hyphens, and the hyphenated
form in braces or after `urn:uuid:`.
-/

namespace Persistence

/-- An identifier of 128 bits. Identifiers are ordered as numbers. -/
structure Uuid where
  number : Fin 0x100000000000000000000000000000000
deriving DecidableEq, Inhabited, Repr

namespace Uuid

/-- Lengths of the groups of the canonical text. -/
def groups : List Nat := [8, 4, 4, 4, 12]

/-- Cuts a row of characters into groups of the given lengths. -/
def cut : List Nat → List Char → List (List Char)
  | [], _ => []
  | n :: rest, cs => cs.take n :: cut rest (cs.drop n)

/-- Groups of digits with hyphens between them. -/
def hyphenated (parts : List (List Char)) : List Char :=
  List.intercalate ['-'] parts

/-- The 32 digits of a UUID in its five groups. -/
def write (u : Uuid) : List Char :=
  hyphenated (cut groups (Text.padded 16 32 u.number))

/-- The text of a UUID. -/
def text (u : Uuid) : String :=
  String.ofList u.write

/-- The UUID of 32 hexadecimal digits. -/
def ofDigits? (cs : List Char) : Option Uuid :=
  if cs.length = 32 then
    match Text.readDigits 16 cs with
    | some n => if h : n < 0x100000000000000000000000000000000 then some ⟨⟨n, h⟩⟩ else none
    | none => none
  else none

/-- The digits of a hyphenated text, if its hyphens stand where they should. -/
def ofHyphenated? (cs : List Char) : Option Uuid :=
  let digits := cs.filter (· != '-')
  if hyphenated (cut groups digits) = cs then ofDigits? digits else none

/-- Removes braces around a text or `urn:uuid:` before it. -/
def unwrapped (cs : List Char) : List Char :=
  match cs with
  | '{' :: rest => if rest.getLast? = some '}' then rest.dropLast else cs
  | _ => if (cs.take 9).map Char.toLower = "urn:uuid:".toList then cs.drop 9 else cs

/-- Reads a UUID in any of its forms. -/
def read? (cs : List Char) : Option Uuid :=
  match ofDigits? cs with
  | some u => some u
  | none => ofHyphenated? (unwrapped cs)

end Uuid

end Persistence
