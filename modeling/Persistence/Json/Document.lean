import Persistence.Text.Digits

/-!
JSON texts as syntax. A document keeps what the text says and no more: members in their order with repetitions,
numbers as rows of digits, and a text whose escapes do not pair up as a text without characters. What a document
means is left to its readers, because a reader that ignores a part of a document does not judge that part.
-/

namespace Persistence.Json

/-- A number as it is written; an absent fraction is empty. -/
structure Numeral where
  negative : Bool
  whole : List Char
  fraction : List Char
  exponent : Option Int
deriving DecidableEq, Repr

/-- The syntax tree of a JSON text. -/
inductive Document where
  | null
  | boolean (b : Bool)
  | number (n : Numeral)
  | text (s : Option String)
  | array (items : List Document)
  | object (members : List (Option String × Document))
deriving Inhabited

namespace Document

/-! ### Texts -/

/-- A part of a text between quotes: a character, or a 16-bit unit given by an escape. -/
inductive Piece where
  | char (c : Char)
  | unit (n : Nat)

/-- What a letter behind a backslash stands for, apart from the one that introduces a code unit. -/
def escaped? : Char → Option Char
  | '"' => some '"'
  | '\\' => some '\\'
  | '/' => some '/'
  | 'b' => some '\x08'
  | 'f' => some '\x0c'
  | 'n' => some '\n'
  | 'r' => some '\r'
  | 't' => some '\t'
  | _ => none

/-- The pieces up to the closing quote, and the rest. -/
def pieces? : List Char → Option (List Piece × List Char)
  | '"' :: rest => some ([], rest)
  | '\\' :: 'u' :: a :: b :: c :: d :: rest =>
    match Text.readDigits 16 [a, b, c, d] with
    | some n => (pieces? rest).map fun found => (.unit n :: found.1, found.2)
    | none => none
  | '\\' :: c :: rest =>
    match escaped? c with
    | some e => (pieces? rest).map fun found => (.char e :: found.1, found.2)
    | none => none
  | c :: rest =>
    if c = '\\' || c.toNat < 32 then none
    else (pieces? rest).map fun found => (.char c :: found.1, found.2)
  | [] => none

/-- Whether a code unit is the first of a surrogate pair. -/
def isHighUnit (n : Nat) : Bool := 0xD800 ≤ n && n ≤ 0xDBFF

/-- Whether a code unit is the second of a surrogate pair. -/
def isLowUnit (n : Nat) : Bool := 0xDC00 ≤ n && n ≤ 0xDFFF

/-- The characters of the pieces; a high unit and the low one after it are one character. -/
def joined? : List Piece → Option (List Char)
  | [] => some []
  | .unit high :: .unit low :: rest =>
    if isHighUnit high && isLowUnit low then
      (joined? rest).map (Char.ofNat (0x10000 + (high - 0xD800) * 1024 + (low - 0xDC00)) :: ·)
    else if isHighUnit high || isLowUnit high then none
    else (joined? (.unit low :: rest)).map (Char.ofNat high :: ·)
  | .unit n :: rest =>
    if isHighUnit n || isLowUnit n then none else (joined? rest).map (Char.ofNat n :: ·)
  | .char c :: rest => (joined? rest).map (c :: ·)

/-- A text after its opening quote, and the rest. -/
def text? (cs : List Char) : Option (Option String × List Char) :=
  (pieces? cs).map fun found => ((joined? found.1).map String.ofList, found.2)

/-! ### Numbers -/

/-- At least one digit, and the rest. -/
def digits? (cs : List Char) : Option (List Char × List Char) :=
  match cs.takeWhile Char.isDigit with
  | [] => none
  | digits => some (digits, cs.dropWhile Char.isDigit)

/-- Digits of which the first is a zero only if it is the last. -/
def whole? : List Char → Option (List Char × List Char)
  | '0' :: rest => some (['0'], rest)
  | cs => digits? cs

/-- A fraction, if a point announces one. -/
def fraction? : List Char → Option (List Char × List Char)
  | '.' :: rest => digits? rest
  | cs => some ([], cs)

/-- The digits of an exponent as a number. -/
def power (negative : Bool) (digits : List Char) : Int :=
  let n : Int := ((Text.readDigits 10 digits).getD 0 : Nat)
  if negative then -n else n

/-- An exponent, if a letter announces one. -/
def exponent? (cs : List Char) : Option (Option Int × List Char) :=
  match cs with
  | e :: rest =>
    if e = 'e' || e = 'E' then
      let (negative, unsigned) :=
        match rest with
        | '-' :: after => (true, after)
        | '+' :: after => (false, after)
        | after => (false, after)
      (digits? unsigned).map fun found => (some (power negative found.1), found.2)
    else some (none, cs)
  | [] => some (none, [])

/-- A number without its sign, and the rest. -/
def unsigned? (negative : Bool) (cs : List Char) : Option (Numeral × List Char) := do
  let (whole, rest) ← whole? cs
  let (fraction, rest) ← fraction? rest
  let (exponent, rest) ← exponent? rest
  return (⟨negative, whole, fraction, exponent⟩, rest)

/-- Reads a number off the front. -/
def number? : List Char → Option (Numeral × List Char)
  | '-' :: rest => unsigned? true rest
  | cs => unsigned? false cs

/-! ### Values -/

/-- Whether a character may stand between parts of a document. -/
def isSpace (c : Char) : Bool := c = ' ' || c = '\t' || c = '\n' || c = '\r'

/-- What is left behind blanks at the front. -/
def skipSpace (cs : List Char) : List Char := cs.dropWhile isSpace

/-- A comma, after which the list goes on, or the closing character, which ends it. -/
def goesOn? (close : Char) (cs : List Char) : Option (Bool × List Char) :=
  match skipSpace cs with
  | c :: rest => if c = ',' then some (true, rest) else if c = close then some (false, rest) else none
  | [] => none

mutual

/-- A value at the start of a text, and the rest. Each level takes a character, so a text never needs more levels
than it has characters. -/
def value? : Nat → List Char → Option (Document × List Char)
  | 0, _ => none
  | levels + 1, cs =>
    match skipSpace cs with
    | 'n' :: 'u' :: 'l' :: 'l' :: rest => some (.null, rest)
    | 't' :: 'r' :: 'u' :: 'e' :: rest => some (.boolean true, rest)
    | 'f' :: 'a' :: 'l' :: 's' :: 'e' :: rest => some (.boolean false, rest)
    | '"' :: rest => (text? rest).map fun found => (.text found.1, found.2)
    | '[' :: rest =>
      match skipSpace rest with
      | ']' :: after => some (.array [], after)
      | _ => (items? levels rest).map fun found => (.array found.1, found.2)
    | '{' :: rest =>
      match skipSpace rest with
      | '}' :: after => some (.object [], after)
      | _ => (members? levels rest).map fun found => (.object found.1, found.2)
    | rest => (number? rest).map fun found => (.number found.1, found.2)

/-- The items of an array that is not empty, and the rest. -/
def items? : Nat → List Char → Option (List Document × List Char)
  | 0, _ => none
  | levels + 1, cs =>
    match value? levels cs with
    | none => none
    | some (item, rest) =>
      match goesOn? ']' rest with
      | some (true, rest) => (items? levels rest).map fun found => (item :: found.1, found.2)
      | some (false, rest) => some ([item], rest)
      | none => none

/-- The members of an object that is not empty, and the rest. -/
def members? : Nat → List Char → Option (List (Option String × Document) × List Char)
  | 0, _ => none
  | levels + 1, cs =>
    match skipSpace cs with
    | '"' :: rest =>
      match text? rest with
      | none => none
      | some (name, rest) =>
        match skipSpace rest with
        | ':' :: rest =>
          match value? levels rest with
          | none => none
          | some (item, rest) =>
            match goesOn? '}' rest with
            | some (true, rest) => (members? levels rest).map fun found => ((name, item) :: found.1, found.2)
            | some (false, rest) => some ([(name, item)], rest)
            | none => none
        | _ => none
    | _ => none

end

/-- Reads a text as one document, with nothing but blanks around it. -/
def read? (s : String) : Option Document :=
  let cs := s.toList
  match value? (cs.length + 1) cs with
  | some (found, rest) => if (skipSpace rest).isEmpty then some found else none
  | none => none

end Document

end Persistence.Json
