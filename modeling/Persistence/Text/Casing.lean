import Persistence.Text.CaseTable

/-!
Upper and lower case of single characters. The other case of a character is a row of characters, usually of one;
characters below 128 follow the letters A to Z, all others the case tables.
-/

namespace Persistence.Text

/-- The row of a shift table that covers a code point. -/
def shiftOf? (table : List (Nat × Nat × Nat × Int)) (code : Nat) : Option Int :=
  (table.find? fun row => row.1 ≤ code && code ≤ row.2.1 && (code - row.1) % row.2.2.1 == 0).map (·.2.2.2)

/-- The other case of a character after a table of expansions and a table of shifts. -/
def recased (expansions : List (Nat × List Nat)) (shifts : List (Nat × Nat × Nat × Int)) (c : Char) : List Char :=
  match expansions.lookup c.toNat with
  | some codes => codes.map Char.ofNat
  | none =>
    match shiftOf? shifts c.toNat with
    | some shift => [Char.ofNat (c.toNat + shift).toNat]
    | none => [c]

/-- The upper case of a character, which may be several. -/
def upperChars (c : Char) : List Char :=
  if c.toNat < 128 then [c.toUpper] else recased upperExpansions upperShifts c

/-- The lower case of a character, which may be several. -/
def lowerChars (c : Char) : List Char :=
  if c.toNat < 128 then [c.toLower] else recased lowerExpansions lowerShifts c

/-- Whether a character is an upper-case one; a title-case digraph is not. -/
def isUpperChar (c : Char) : Bool :=
  if c.toNat < 128 then c.isUpper
  else upperCodes.any fun row => row.1 ≤ c.toNat && c.toNat ≤ row.2.1 && (c.toNat - row.1) % row.2.2 == 0

end Persistence.Text
