import Persistence.Json.Document

/-!
Records in JSON documents. A record is an object whose members are fields, in any order and each at most once, or
an array of its fields in their fixed order, of which the last ones may be missing. Members that are no fields are
skipped without a look at what they hold.
-/

namespace Persistence.Json.Document

/-- The one document that an object holds under a field, if there is any; a second one makes the record
unreadable. -/
def fieldOf? (members : List (Option String × Document)) (field : String) : Option (Option Document) :=
  match members.filter fun member => member.1 == some field with
  | [] => some none
  | [(_, found)] => some (some found)
  | _ => none

/-- What a document holds under each field of a record. -/
def record? (fields : List String) : Document → Option (List (Option Document))
  | .object members =>
    if members.all fun member => member.1.isSome then fields.mapM (fieldOf? members) else none
  | .array items =>
    if items.length ≤ fields.length then
      some (items.map some ++ List.replicate (fields.length - items.length) none)
    else none
  | _ => none

/-- A field that takes a default when it is missing. -/
def field? {α : Type} (read : Document → Option α) (default : α) : Option Document → Option α
  | none => some default
  | some found => read found

/-- A value that may be null. -/
def nullable? {α : Type} (read : Document → Option α) : Document → Option (Option α)
  | .null => some none
  | found => (read found).map some

/-- The truth value that a document is. -/
def boolean? : Document → Option Bool
  | .boolean b => some b
  | _ => none

/-- The text that a document is. -/
def string? : Document → Option String
  | .text s => s
  | _ => none

/-- The texts of an array that has nothing but texts in it. -/
def strings? : Document → Option (List String)
  | .array items => items.mapM string?
  | _ => none

/-- One of several words: the word itself, or an object whose only member has its name and null for its value. -/
def word? {α : Type} (words : List (String × α)) : Document → Option α
  | .text (some word) => words.lookup word
  | .object [(some word, .null)] => words.lookup word
  | _ => none

/-- The members of an object, each under its own name. -/
def entries? {α : Type} (read : Document → Option α) : Document → Option (List (String × α))
  | .object members => members.mapM fun member =>
    match member.1, read member.2 with
    | some name, some found => some (name, found)
    | _, _ => none
  | _ => none

end Persistence.Json.Document
