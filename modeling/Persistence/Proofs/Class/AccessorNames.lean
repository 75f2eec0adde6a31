import Mathlib
import Persistence.Class.Naming

/-! Which properties their accessors name. The names of the accessors of a property begin with an upper-case letter after
    `get`, `is` or `set`, so that nothing tells `title` from `Title`, and a row of two upper-case letters is left alone
    when a property is read off the name. Getters and setters come to the same, whatever the type. -/

namespace Persistence

/-! ### Case of letters -/

-- The laws of `Char.toUpper` and `Char.toLower` are in Batteries; no smaller part of Mathlib brings them along.
namespace Text

theorem toNat_toUpper_lt {c : Char} (low : c.toNat < 128) : c.toUpper.toNat < 128 := by
  by_cases lower : c.isLower = true
  · rw [Char.toUpper_eq_of_isLower lower, Char.toNat_ofNat]
    split <;> omega
  · rwa [Char.toUpper_eq_of_not_isLower lower]

/-- Upper case leaves just the upper-case letters as they are. -/
theorem toUpper_eq_self_iff {c : Char} (letter : c.isAlpha = true) : c.toUpper = c ↔ c.isUpper = true := by
  constructor
  · intro same
    rw [← letter, ← Char.isUpper_toUpper_eq_isAlpha, same]
  · exact fun upper => Char.toUpper_eq_of_not_isLower (Char.not_isLower_of_isUpper upper)

theorem toLower_eq_self_iff {c : Char} (letter : c.isAlpha = true) : c.toLower = c ↔ c.isLower = true := by
  constructor
  · intro same
    rw [← letter, ← Char.isLower_toLower_eq_isAlpha, same]
  · exact fun lower => Char.toLower_eq_of_not_isUpper (Char.not_isUpper_of_isLower lower)

end Text

namespace Naming

/-! ### Names of accessors -/

/-- The property that is read off the names of the accessors of a property. -/
def carried (property : String) : Option String := ofCapitalized? (capitalizeChars property.toList)

theorem toList_capitalize (property : String) : (capitalize property).toList = capitalizeChars property.toList :=
  String.toList_ofList

theorem propertyOfSetter?_setterName (property : String) : propertyOfSetter? (setterName property) = carried property := by
  rw [propertyOfSetter?, setterName, String.toList_append, toList_capitalize, Text.afterStart?_eq_some_iff.mpr rfl]
  rfl

/-- Neither prefix of a getter is one of the other. -/
theorem propertyOfGetter?_getterName (property : String) (type : DataType) :
    propertyOfGetter? (getterName property type) = carried property := by
  have get : propertyOfGetter? ("get" ++ capitalize property) = carried property := by
    rw [propertyOfGetter?, String.toList_append, toList_capitalize, Text.afterStart?_eq_some_iff.mpr rfl]
    rfl
  have is : propertyOfGetter? ("is" ++ capitalize property) = carried property := by
    have other : Text.afterStart? "get".toList ("is".toList ++ capitalizeChars property.toList) = none := rfl
    rw [propertyOfGetter?, String.toList_append, toList_capitalize, other, Text.afterStart?_eq_some_iff.mpr rfl]
    rfl
  cases type with
  | boolean => exact is
  | _ => exact get

/-! ### Properties that are read off -/

/-- The name begins with a character of the kind. -/
def startsWith (kind : Char → Bool) (property : String) : Bool := property.toList.head?.any kind

/-- The second character of a name is an upper-case letter. -/
def secondIsUpper (property : String) : Bool := property.toList[1]?.any Char.isUpper

/-- A name that begins with a lower-case letter and goes on without an upper-case one, or begins with two upper-case
letters. -/
def isKept (property : String) : Bool :=
  startsWith Char.isLower property && !secondIsUpper property ||
    startsWith Char.isUpper property && secondIsUpper property

theorem startsWith_cons {property : String} {first : Char} {rest : List Char} (parts : property.toList = first :: rest)
    (kind : Char → Bool) : startsWith kind property = kind first := by
  rw [startsWith, parts]
  rfl

theorem exists_parts_of_startsWith {kind : Char → Bool} {property : String} (h : startsWith kind property = true) :
    ∃ first rest, property.toList = first :: rest ∧ kind first = true := by
  rw [startsWith] at h
  cases parts : property.toList with
  | nil =>
    rw [parts] at h
    cases h
  | cons first rest =>
    rw [parts] at h
    exact ⟨first, rest, rfl, h⟩

theorem startsWith_letter_of_isKept {property : String} (kept : isKept property = true) :
    startsWith Char.isAlpha property = true := by
  rw [isKept, Bool.or_eq_true, Bool.and_eq_true, Bool.and_eq_true] at kept
  rcases kept with ⟨lower, -⟩ | ⟨upper, -⟩
  · obtain ⟨first, rest, parts, lower⟩ := exists_parts_of_startsWith lower
    rw [startsWith_cons parts]
    exact (Bool.or_eq_true _ _).mpr (Or.inr lower)
  · obtain ⟨first, rest, parts, upper⟩ := exists_parts_of_startsWith upper
    rw [startsWith_cons parts]
    exact (Bool.or_eq_true _ _).mpr (Or.inl upper)

/-- A name that begins with a letter is read off its accessors with this letter in upper case before another upper-case
letter, and else in lower case. -/
theorem carried_of_letter {property : String} {first : Char} {rest : List Char} (parts : property.toList = first :: rest)
    (low : ∀ c ∈ property.toList, c.toNat < 128) (letter : first.isAlpha = true) : carried property =
      some (String.ofList ((if secondIsUpper property then first.toUpper else first.toLower) :: rest)) := by
  rw [parts] at low
  have firstLow : first.toNat < 128 := low first List.mem_cons_self
  have upperLow : first.toUpper.toNat < 128 := Text.toNat_toUpper_lt firstLow
  have capital : capitalizeChars (first :: rest) = first.toUpper :: rest := by
    rw [capitalizeChars, Text.upperChars, if_pos firstLow, List.singleton_append]
  have upper : Text.isUpperChar first.toUpper = true := by
    rw [Text.isUpperChar, if_pos upperLow, Char.isUpper_toUpper_eq_isAlpha, letter]
  have lower : Text.lowerChars first.toUpper = [first.toLower] := by
    rw [Text.lowerChars, if_pos upperLow, Char.toLower_toUpper_eq_toLower]
  rw [carried, parts, capital, ofCapitalized?, if_pos upper, secondIsUpper, parts]
  refine congrArg (fun cs => some (String.ofList cs)) ?_
  cases rest with
  | nil => exact lower
  | cons second rest =>
    have secondLow : second.toNat < 128 := low second (List.mem_cons_of_mem _ List.mem_cons_self)
    have acronym : Text.isUpperChar second = second.isUpper := by rw [Text.isUpperChar, if_pos secondLow]
    rw [decapitalizeChars, upper, acronym, lower, Bool.true_and]
    change _ = (if second.isUpper = true then first.toUpper else first.toLower) :: second :: rest
    split <;> rfl

/-- A name that does not begin with a letter is read off no accessor. -/
theorem carried_of_not_letter {property : String} (low : ∀ c ∈ property.toList, c.toNat < 128)
    (other : startsWith Char.isAlpha property = false) : carried property = none := by
  rw [carried]
  cases parts : property.toList with
  | nil => rfl
  | cons first rest =>
    have firstLow : first.toNat < 128 := low first (parts ▸ List.mem_cons_self)
    have upper : Text.isUpperChar first.toUpper = false := by
      rw [Text.isUpperChar, if_pos (Text.toNat_toUpper_lt firstLow), Char.isUpper_toUpper_eq_isAlpha,
        ← startsWith_cons parts Char.isAlpha, other]
    rw [capitalizeChars, Text.upperChars, if_pos firstLow, List.singleton_append, ofCapitalized?, upper,
      if_neg Bool.false_ne_true]

/-- A name is read as itself just if it is kept. -/
theorem carried_eq_self_iff {property : String} (low : ∀ c ∈ property.toList, c.toNat < 128) :
    carried property = some property ↔ isKept property = true := by
  cases letter : startsWith Char.isAlpha property
  · rw [carried_of_not_letter low letter]
    refine iff_of_false nofun fun kept => ?_
    rw [startsWith_letter_of_isKept kept] at letter
    cases letter
  · obtain ⟨first, rest, parts, letter⟩ := exists_parts_of_startsWith letter
    have firstLow : first.toNat < 128 := low first (parts ▸ List.mem_cons_self)
    have whole : property = String.ofList (first :: rest) := by rw [← parts, String.ofList_toList]
    have same (c : Char) : some (String.ofList (c :: rest)) = some property ↔ c = first := by
      rw [Option.some.injEq, whole, String.ofList_inj, List.cons.injEq, and_iff_left rfl]
    rw [carried_of_letter parts low letter, same, isKept, startsWith_cons parts, startsWith_cons parts]
    cases secondIsUpper property
    · simpa using Text.toLower_eq_self_iff letter
    · simpa using Text.toUpper_eq_self_iff letter

/-- The name of a property is read off the names of its accessors just if it is kept. Otherwise a name that begins with a
letter is read as another one, and any other name is not read at all. -/
theorem accessors_carry (property : String) (low : ∀ c ∈ property.toList, c.toNat < 128) (type : DataType) :
    (propertyOfSetter? (setterName property) = some property ↔ isKept property = true) ∧
    (propertyOfGetter? (getterName property type) = some property ↔ isKept property = true) ∧
    (startsWith Char.isAlpha property = true → isKept property = false → ∃ other, other ≠ property ∧
      propertyOfSetter? (setterName property) = some other ∧ propertyOfGetter? (getterName property type) = some other) ∧
    (startsWith Char.isAlpha property = false →
      propertyOfSetter? (setterName property) = none ∧ propertyOfGetter? (getterName property type) = none) := by
  rw [propertyOfSetter?_setterName, propertyOfGetter?_getterName]
  have kept := carried_eq_self_iff low
  refine ⟨kept, kept, fun letter lost => ?_, fun other => ?_⟩
  · obtain ⟨first, rest, parts, letter⟩ := exists_parts_of_startsWith letter
    have read := carried_of_letter parts low letter
    refine ⟨_, fun same => ?_, read, read⟩
    rw [same, kept, lost] at read
    cases read
  · have unread := carried_of_not_letter low other
    exact ⟨unread, unread⟩

/-- An acronym, a name with an upper-case letter after the first one, and a name that begins with an underscore. -/
theorem accessors_carry_acronym :
    propertyOfSetter? (setterName "URL") = some "URL" ∧
    (∃ other, other ≠ "eMail" ∧ propertyOfSetter? (setterName "eMail") = some other ∧
      propertyOfGetter? (getterName "eMail" .boolean) = some other) ∧
    propertyOfGetter? (getterName "_id" .long) = none := by
  have low (property : String) (each : property.toList.all (·.toNat < 128) = true) :
      ∀ c ∈ property.toList, c.toNat < 128 := by simpa using each
  obtain ⟨acronym, -⟩ := accessors_carry "URL" (low _ (by decide)) .text
  obtain ⟨-, -, lost, -⟩ := accessors_carry "eMail" (low _ (by decide)) .boolean
  obtain ⟨-, -, -, unread⟩ := accessors_carry "_id" (low _ (by decide)) .long
  exact ⟨acronym.mpr (by decide), lost (by decide) (by decide), (unread (by decide)).2⟩

end Naming
end Persistence
