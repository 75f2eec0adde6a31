import Persistence.DataType.Conversion
import Persistence.Proofs.Outcome

/-! Conversion as a projection. What comes out of a conversion is compatible with the type and stays as it is when it is
    converted once more, and every compatible value converts, to the form that the type gives it: under a floating point
    type an integer becomes the nearest number, and all else is kept. A list does to its elements what the type of the
    elements does. -/

namespace Persistence.DataType

/-- A value in the form of a type: integers are numbers under a floating point type, in lists of any depth too. -/
def formed : DataType → Value → Value
  | .float, .integer n => .float (Binary64.ofInt n.toInt)
  | .list element, .list items => .list (items.map element.formed)
  | _, value => value

/-! ### Null and lists -/

/-- Null is converted by no type, and all else by its type. -/
theorem convert_eq_ok {type : DataType} {value w : Value} (h : type.convert value = .ok w) :
    w = .null ∨ type.convertPresent value = .ok w := by
  rw [convert] at h
  split at h
  · cases h
    exact Or.inl rfl
  · exact Or.inr h

theorem convert_items (element : DataType) (items : List Value) :
    (DataType.list element).convert (.list items) = Value.list <$> items.mapM element.convert := rfl

/-! ### Numbers and maps -/

theorem toInteger_integer_iff (n : Int64) : toInteger (.integer n) = .ok n ↔ fitsInteger n = true := by
  have run : toInteger (.integer n) = if fitsInteger n then .ok n else .error (.outOfIntegerRange n) := rfl
  rw [run]
  split <;> simp_all

theorem fitsInteger_of_toInteger {value : Value} {n : Int64} (h : toInteger value = .ok n) : fitsInteger n = true := by
  obtain ⟨m, -, h⟩ := bind_eq_ok.mp h
  split at h
  next fits =>
    cases h
    exact fits
  · cases h

theorem eq_map_of_toMap {target : DataType} {value w : Value} (h : toMap target value = .ok w) :
    ∃ entries, w = .map entries := by
  cases value with
  | map entries => exact ⟨entries, (Except.ok.inj h).symm⟩
  | _ => cases h

/-! ### Conversions -/

/-- What comes out of a conversion is compatible and stays as it is. -/
theorem projected_of_convert {type : DataType} {value w : Value} (h : type.convert value = .ok w) :
    type.isCompatible w = true ∧ type.convert w = .ok w := by
  -- By the type: a list hands its elements on to another one, and for every other type the result shows its kind.
  induction type generalizing value w with
  | list element ih =>
    rcases convert_eq_ok h with rfl | h
    · exact ⟨rfl, rfl⟩
    cases value with
    | list items =>
      obtain ⟨backs, walk, rfl⟩ := map_eq_ok.mp h
      have projected : ∀ back ∈ backs, element.isCompatible back = true ∧ element.convert back = .ok back := by
        intro back hback
        obtain ⟨item, -, converted⟩ := exists_of_mem_mapM walk hback
        exact ih converted
      refine ⟨List.all_eq_true.mpr fun back hback => (projected back hback).1, ?_⟩
      rw [convert_items, mapM_eq_self_iff.mpr fun back hback => (projected back hback).2]
      rfl
    | _ => cases h
  | integer =>
    rcases convert_eq_ok h with rfl | h
    · exact ⟨rfl, rfl⟩
    obtain ⟨n, hn, rfl⟩ := map_eq_ok.mp h
    have fits := fitsInteger_of_toInteger hn
    exact ⟨fits, map_eq_ok.mpr ⟨n, (toInteger_integer_iff n).mpr fits, rfl⟩⟩
  | map | embedded name =>
    rcases convert_eq_ok h with rfl | h
    · exact ⟨rfl, rfl⟩
    obtain ⟨entries, rfl⟩ := eq_map_of_toMap h
    exact ⟨rfl, rfl⟩
  | entity name => cases w <;> exact ⟨rfl, rfl⟩
  | _ =>
    rcases convert_eq_ok h with rfl | h
    · exact ⟨rfl, rfl⟩
    obtain ⟨part, -, rfl⟩ := map_eq_ok.mp h
    exact ⟨rfl, rfl⟩

/-- A compatible value converts, to its form. -/
theorem convert_of_isCompatible {type : DataType} {value : Value} (h : type.isCompatible value = true) :
    type.convert value = .ok (type.formed value) := by
  induction type generalizing value with
  | list element ih =>
    cases value with
    | null => rfl
    | list items =>
      have each : ∀ item ∈ items, element.convert item = .ok (element.formed item) :=
        fun item mem => ih (List.all_eq_true.mp h item mem)
      rw [convert_items, mapM_eq_ok_map each, formed]
      rfl
    | _ => cases h
  | integer =>
    cases value with
    | null => rfl
    | integer n => exact map_eq_ok.mpr ⟨n, (toInteger_integer_iff n).mpr h, rfl⟩
    | _ => cases h
  | _ =>
    -- Only values of the kind of the type are left, and these convert by evaluation.
    cases value <;> simp only [isCompatible, Bool.false_eq_true] at h <;> rfl

/-- Conversion projects all values that convert onto the compatible ones in the form of the type: these are just the ones
that it leaves as they are. -/
theorem convert_projects (type : DataType) :
    (∀ value w, type.convert value = .ok w → type.isCompatible w = true ∧ type.convert w = .ok w) ∧
    (∀ value, type.isCompatible value = true → type.convert value = .ok (type.formed value)) ∧
    ∀ value, type.convert value = .ok value ↔ type.isCompatible value = true ∧ type.formed value = value := by
  refine ⟨fun value w => projected_of_convert, fun value => convert_of_isCompatible, fun value => ⟨fun kept => ?_, ?_⟩⟩
  · have compatible := (projected_of_convert kept).1
    exact ⟨compatible, Except.ok.inj ((convert_of_isCompatible compatible).symm.trans kept)⟩
  · rintro ⟨compatible, same⟩
    rw [convert_of_isCompatible compatible, same]

/-- Integers in a list of lists become numbers, and after that nothing changes any more. -/
theorem convert_projects_nested :
    let type : DataType := .list (.list .float)
    let counted : Value := .list [.null, .list [.integer 3, .null]]
    let w : Value := .list [.null, .list [.float ⟨0x4008000000000000⟩, .null]]
    type.isCompatible counted = true ∧ type.convert counted = .ok w ∧ type.isCompatible w = true ∧
      type.convert w = .ok w ∧ type.formed w = w := by
  intro type counted w
  have compatible : type.isCompatible counted = true := rfl
  have three : Binary64.ofInt (3 : Int64).toInt = ⟨0x4008000000000000⟩ := by decide +kernel
  obtain ⟨projected, forms, fixed⟩ := convert_projects type
  have converted : type.convert counted = .ok w := by
    simp only [forms counted compatible, type, counted, w, formed, List.map_cons, List.map_nil, three]
  obtain ⟨taken, kept⟩ := projected counted w converted
  exact ⟨compatible, converted, taken, kept, ((fixed w).mp kept).2⟩

end Persistence.DataType
