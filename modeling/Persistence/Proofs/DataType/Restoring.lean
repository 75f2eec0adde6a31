import Persistence.Proofs.DataType.Projection
import Persistence.Proofs.Time.InternetText
import Persistence.Proofs.Value.Plain
import Persistence.Proofs.Value.UuidText

/-! Which values a declared type restores from their JSON. The type tells timestamps and identifiers among the texts,
    also as elements of a list; within a map nothing does, nor is there a JSON number for one that is not finite. -/

namespace Persistence

theorem Value.ofJsonItems_toJsonItems (items : List Value) :
    ofJsonItems (toJsonItems items) = items.map fun item => ofJson item.toJson := by
  induction items with
  | nil => rfl
  | cons item rest ih => rw [toJsonItems, ofJsonItems, ih, List.map_cons]

namespace DataType

/-- What comes back as it was from its JSON when that is converted to the type. -/
def restores : DataType → Value → Bool
  | _, .null => true
  | .integer, .integer n => fitsInteger n
  | .long, .integer _ => true
  | .float, .float x => x.isFinite
  | .text, .text _ => true
  | .boolean, .boolean _ => true
  | .timestamp, .timestamp t => InternetTime.isLegible t
  | .uuid, .uuid _ => true
  | .list element, .list items => items.all element.restores
  | .map, .map entries => Value.holdPlain entries
  | .embedded _, .map entries => Value.holdPlain entries
  | .entity _, value => value.isPlain
  | _, _ => false

/-- What can be converted to the type from its JSON, although it may come back changed. -/
def accepts : DataType → Value → Bool
  | .float, .float _ => true
  | .list element, .list items => items.all element.accepts
  | .map, .map _ => true
  | .embedded _, .map _ => true
  | .entity _, _ => true
  | type, value => type.restores value

theorem restores_null (type : DataType) : type.restores .null = true := by
  cases type <;> rfl

/-! ### Values of the form of a type -/

theorem toTimestamp_text_iff (t : Instant) :
    toTimestamp (.text (InternetTime.text t)) = .ok t ↔ InternetTime.isLegible t = true := by
  rw [toTimestamp, InternetTime.trim_text, ← InternetTime.read_text_iff]
  cases InternetTime.read (InternetTime.text t) <;> simp

@[simp]
theorem toUuid_text (u : Uuid) : toUuid (.text u.text) = .ok u := by
  rw [toUuid, Uuid.text, String.toList_ofList, Uuid.trimChars_write, Uuid.read?_write]

/-- A number that is not finite is null in JSON. -/
theorem ofJson_toJson_float (x : Binary64) :
    Value.ofJson (Value.float x).toJson = if x.isFinite then .float x else .null := by
  rw [Value.toJson]
  split <;> rfl

theorem convert_float_iff (type : DataType) (x : Binary64) :
    type.convert (Value.ofJson (Value.float x).toJson) = .ok (.float x) ↔ type.restores (.float x) = true := by
  rw [ofJson_toJson_float]
  cases finite : x.isFinite <;> cases type <;>
    simp [convert, Value.isNull, convertPresent, map_eq_ok, restores, Value.isPlain, toFloat, toMap, finite]

theorem convert_list (element : DataType) (items : List Value) :
    (DataType.list element).convert (Value.ofJson (Value.list items).toJson) =
      Value.list <$> items.mapM fun item => element.convert (Value.ofJson item.toJson) := by
  rw [Value.toJson, Value.ofJson, Value.ofJsonItems_toJsonItems]
  change Value.list <$> (List.mapM _ _) = _
  rw [List.mapM_map]
  rfl

theorem convert_entity (name : String) (value : Value) : (DataType.entity name).convert value = .ok value := by
  unfold convert
  cases value <;> rfl

/-! ### Values of any form -/

/-- The JSON of a value is converted back to it just if its type restores it. -/
theorem convert_ofJson_toJson_iff (type : DataType) (value : Value) :
    type.convert (Value.ofJson value.toJson) = .ok value ↔ type.restores value = true := by
  -- By the type: a list hands its elements on to another one, and all the rest of a value is settled at once.
  induction type generalizing value with
  | list element ih =>
    cases value with
    | float x => exact convert_float_iff _ x
    | list items =>
      rw [convert_list, map_eq_ok, restores, List.all_eq_true]
      simp only [Value.list.injEq, exists_eq_right, mapM_eq_self_iff, ih]
    | _ => simp [convert, Value.toJson, Value.ofJson, Value.isNull, convertPresent, restores]
  | entity name =>
    rw [convert_entity, restores.eq_def]
    cases value <;> simp [Value.ofJson_toJson_iff, Value.isPlain]
  | _ =>
    cases value with
    | float x => exact convert_float_iff _ x
    | _ => simp [convert, Value.toJson, Value.ofJson, Value.isNull, convertPresent, map_eq_ok, restores,
      toInteger_integer_iff, toLong, toText, toBoolean, toTimestamp_text_iff, toMap, Value.ofJsonMembers_toJsonEntries_iff]

/-- The JSON of a value is converted, be it not to the same value, if the type accepts it. -/
theorem exists_convert_of_accepts {type : DataType} {value : Value} (h : type.accepts value = true) :
    ∃ back, type.convert (Value.ofJson value.toJson) = .ok back := by
  induction type generalizing value with
  | list element ih =>
    cases value with
    | list items =>
      rw [accepts, List.all_eq_true] at h
      obtain ⟨backs, walk⟩ := exists_mapM_eq_ok fun item mem => ih (h item mem)
      exact ⟨.list backs, by rw [convert_list, walk]; rfl⟩
    | _ => exact ⟨_, (convert_ofJson_toJson_iff _ _).mpr h⟩
  | entity name => exact ⟨_, convert_entity name _⟩
  | float =>
    cases value with
    | float x =>
      rw [ofJson_toJson_float]
      split <;> exact ⟨_, rfl⟩
    | _ => exact ⟨_, (convert_ofJson_toJson_iff _ _).mpr h⟩
  | map =>
    cases value with
    | map entries => exact ⟨_, rfl⟩
    | _ => exact ⟨_, (convert_ofJson_toJson_iff _ _).mpr h⟩
  | embedded name =>
    cases value with
    | map entries => exact ⟨_, rfl⟩
    | _ => exact ⟨_, (convert_ofJson_toJson_iff _ _).mpr h⟩
  | _ => exact ⟨value, (convert_ofJson_toJson_iff _ _).mpr h⟩

end DataType
end Persistence
