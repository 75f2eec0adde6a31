import Persistence.Value.Basic
import Persistence.Number.DecimalText
import Persistence.Time.InternetTime

/-!
The text that stands for a value in messages and in text properties. It is not quoted, so that the text of a text
value is the value itself.
-/

namespace Persistence.Value

mutual

/-- The text of a value as it is shown. -/
def display : Value → String
  | .null => "null"
  | .integer n => toString n.toInt
  | .float x => x.text Binary64.fullWords
  | .text s => s
  | .boolean b => if b then "true" else "false"
  | .timestamp t => InternetTime.text t
  | .uuid u => u.text
  | .list items => "[" ++ String.intercalate ", " (displayItems items) ++ "]"
  | .map entries => "\x7b" ++ String.intercalate ", " (displayEntries entries) ++ "\x7d"

/-- The texts of the items of a list. -/
def displayItems : List Value → List String
  | [] => []
  | item :: rest => display item :: displayItems rest

/-- The texts of the entries of a map. -/
def displayEntries : List (String × Value) → List String
  | [] => []
  | (name, item) :: rest => (name ++ ": " ++ display item) :: displayEntries rest

end

end Persistence.Value
