import Persistence.Text.CodeRange

/-!
Ends of texts: blank characters and trimming, and starts that are taken off. A character is blank when Unicode gives
it the White_Space property; no other character is removed at the ends of a text.
-/

namespace Persistence.Text

/-- The code points with the White_Space property. -/
def blankRanges : List CodeRange :=
  [(0x09, 0x0D), (0x20, 0x20), (0x85, 0x85), (0xA0, 0xA0), (0x1680, 0x1680), (0x2000, 0x200A),
   (0x2028, 0x2029), (0x202F, 0x202F), (0x205F, 0x205F), (0x3000, 0x3000)]

/-- Whether a character is white space. -/
def isBlank (c : Char) : Bool := inRanges blankRanges c

/-- The characters between the first and the last one that is not blank. -/
def trimChars (cs : List Char) : List Char :=
  ((cs.dropWhile isBlank).reverse.dropWhile isBlank).reverse

/-- The text without blanks at its ends. -/
def trim (s : String) : String :=
  String.ofList (trimChars s.toList)

/-- Whether there is nothing but blanks in a text. -/
def isBlankText (s : String) : Bool :=
  s.toList.all isBlank

/-- The rest of a row of characters after a given start. -/
def afterStart? : List Char → List Char → Option (List Char)
  | [], cs => some cs
  | _ :: _, [] => none
  | s :: start, c :: cs => if s = c then afterStart? start cs else none

/-- Lower-cases the letters A to Z and leaves every other character alone. -/
def asciiLower (s : String) : String :=
  String.ofList (s.toList.map Char.toLower)

/-- Upper-cases the letters a to z and leaves every other character alone. -/
def asciiUpper (s : String) : String :=
  String.ofList (s.toList.map Char.toUpper)

theorem isBlank_of_graphic {c : Char} (low : 0x20 < c.toNat) (high : c.toNat < 0x85) : isBlank c = false := by
  simp only [isBlank, blankRanges, inRanges, List.any_cons, List.any_nil, Bool.or_eq_false_iff, Bool.and_eq_false_iff,
    decide_eq_false_iff_not, and_true]
  omega

/-- A row without blanks is left as it is. -/
theorem trimChars_eq_self {cs : List Char} (h : ∀ c ∈ cs, isBlank c = false) : trimChars cs = cs := by
  have kept {row : List Char} (h : ∀ c ∈ row, isBlank c = false) : row.dropWhile isBlank = row := by
    cases row with
    | nil => rfl
    | cons c rest => rw [List.dropWhile_cons_of_neg (by simp [h c])]
  rw [trimChars, kept h, kept (fun c hc => h c (List.mem_reverse.mp hc)), List.reverse_reverse]

theorem toList_trim (s : String) : (trim s).toList = trimChars s.toList :=
  String.toList_ofList

theorem afterStart?_eq_some_iff {start cs rest : List Char} : afterStart? start cs = some rest ↔ cs = start ++ rest := by
  induction start generalizing cs with
  | nil => exact Option.some_inj
  | cons s start ih =>
    cases cs with
    | nil => exact iff_of_false nofun nofun
    | cons c cs =>
      rw [afterStart?, List.cons_append, List.cons.injEq, ← ih]
      split
      next same => exact (and_iff_right same.symm).symm
      next other => exact iff_of_false nofun fun found => other found.1.symm

end Persistence.Text
