import Persistence.DataType.Basic
import Persistence.Value.Text
import Persistence.Text.Blank

/-!
Conversion of values to declared types. Null converts to every type. Numbers never lose a part of their value;
texts are read after blanks at their ends are removed; what has no meaning under a type is a fault that says why.
-/

namespace Persistence

/-- Why a value does not convert to a type. -/
inductive ConversionFault where
  | outOfIntegerRange (n : Int64)
  | outOfLongRange (x : Binary64)
  | fractional (x : Binary64)
  | notInteger (s : String) (cause : Text.IntegerFault)
  | kindNotInteger (kind : String)
  | notNumber (s : String) (cause : Binary64.TextFault)
  | notBoolean (s : String)
  | notMillisecond (n : Int64)
  | notTimestamp (s : String) (cause : InternetTime.Fault)
  | notUuid (s : String)
  | notConvertible (kind : String) (target : DataType)
deriving DecidableEq

/-- The text of a conversion fault. -/
def ConversionFault.message : ConversionFault → String
  | .outOfIntegerRange n => s!"{n.toInt} is out of range for INTEGER"
  | .outOfLongRange x => x.text Binary64.shortWords ++ " is out of range for LONG"
  | .fractional x => x.text Binary64.shortWords ++ " has a fractional part"
  | .notInteger s cause => s!"'{s}' is not an integer: {cause.message}"
  | .kindNotInteger kind => s!"{kind} is not an integer"
  | .notNumber s cause => s!"'{s}' is not a number: {cause.message}"
  | .notBoolean s => s!"'{s}' is not a boolean"
  | .notMillisecond n => s!"{n.toInt} is not a valid epoch millisecond"
  | .notTimestamp s cause => s!"'{s}' is not an RFC 3339 timestamp: {cause.message}"
  | .notUuid s => s!"'{s}' is not a UUID: expected 32 hexadecimal digits, with or without hyphens"
  | .notConvertible kind target => s!"{kind} cannot be converted to {target.display}"

namespace DataType

/-- The 64-bit integer that a value stands for. -/
def toLong : Value → Except ConversionFault Int64
  | .integer n => .ok n
  | .float x =>
    if x.isIntegral then
      match (Value.float x).asLong? with
      | some n => .ok n
      | none => .error (.outOfLongRange x)
    else .error (.fractional x)
  | .text s =>
    match Text.readLong (Text.trimChars s.toList) with
    | .ok n => .ok (Int64.ofInt n)
    | .error cause => .error (.notInteger s cause)
  | other => .error (.kindNotInteger other.kindName)

/-- The 32-bit integer that a value stands for. -/
def toInteger (value : Value) : Except ConversionFault Int64 := do
  let n ← toLong value
  if fitsInteger n then return n else throw (.outOfIntegerRange n)

/-- The number that a value stands for; an integer gives the number nearest to it. -/
def toFloat : Value → Except ConversionFault Binary64
  | .float x => .ok x
  | .integer n => .ok (Binary64.ofInt n.toInt)
  | .text s =>
    match Binary64.ofText (Text.trimChars s.toList) with
    | .ok x => .ok x
    | .error cause => .error (.notNumber s cause)
  | other => .error (.notConvertible other.kindName .float)

/-- The text of a value that is neither a list nor a map. -/
def toText : Value → Except ConversionFault String
  | .text s => .ok s
  | .list items => .error (.notConvertible (Value.list items).kindName .text)
  | .map entries => .error (.notConvertible (Value.map entries).kindName .text)
  | other => .ok other.display

/-- The truth value that a value stands for: zero and one, and the two words in any case. -/
def toBoolean : Value → Except ConversionFault Bool
  | .boolean b => .ok b
  | .integer n =>
    if n = 0 then .ok false
    else if n = 1 then .ok true
    else .error (.notConvertible (Value.integer n).kindName .boolean)
  | .text s =>
    let word := Text.asciiLower (Text.trim s)
    if word = "true" then .ok true
    else if word = "false" then .ok false
    else .error (.notBoolean s)
  | other => .error (.notConvertible other.kindName .boolean)

/-- An integer counts the milliseconds since the start of 1970. -/
def toTimestamp : Value → Except ConversionFault Instant
  | .timestamp t => .ok t
  | .integer n =>
    match Instant.ofMillis? n.toInt with
    | some t => .ok t
    | none => .error (.notMillisecond n)
  | .text s =>
    match InternetTime.read (Text.trim s) with
    | .ok t => .ok t
    | .error cause => .error (.notTimestamp s cause)
  | other => .error (.notConvertible other.kindName .timestamp)

/-- The UUID that a value stands for. -/
def toUuid : Value → Except ConversionFault Uuid
  | .uuid u => .ok u
  | .text s =>
    match Uuid.read? (Text.trimChars s.toList) with
    | some u => .ok u
    | none => .error (.notUuid s)
  | other => .error (.notConvertible other.kindName .uuid)

/-- Maps convert as they are, to maps and to components alike. -/
def toMap (target : DataType) : Value → Except ConversionFault Value
  | .map entries => .ok (.map entries)
  | other => .error (.notConvertible other.kindName target)

/-- Converts a value that is not null. An association takes every value: the associated object or its
identifier. -/
def convertPresent : DataType → Value → Except ConversionFault Value
  | .integer, value => .integer <$> toInteger value
  | .long, value => .integer <$> toLong value
  | .float, value => .float <$> toFloat value
  | .text, value => .text <$> toText value
  | .boolean, value => .boolean <$> toBoolean value
  | .timestamp, value => .timestamp <$> toTimestamp value
  | .uuid, value => .uuid <$> toUuid value
  | .list element, .list items =>
    .list <$> items.mapM fun item => if item.isNull then .ok .null else element.convertPresent item
  | .list element, value => .error (.notConvertible value.kindName (.list element))
  | .map, value => toMap .map value
  | .embedded name, value => toMap (.embedded name) value
  | .entity _, value => .ok value

/-- Converts a value to a type. -/
def convert (target : DataType) (value : Value) : Except ConversionFault Value :=
  if value.isNull then .ok .null else target.convertPresent value

end DataType

end Persistence
