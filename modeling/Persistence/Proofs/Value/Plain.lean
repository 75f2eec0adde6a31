import Persistence.Proofs.Number.Rounding
import Persistence.Value.JsonForm

/-! Values that survive as JSON. Plain values come back as they were, integers over the whole range of 64 bits and
    numbers to the last bit; a timestamp or an identifier comes back as a text, and a number that is not finite as
    null, wherever in a value they stand. JSON itself has finite numbers only, so that whatever is read from it is
    plain, and what is written of that is read as the same again. -/

namespace Persistence

/-- An integer of 64 bits is read back from its number. -/
@[simp]
theorem JsonNumber.toLong?_ofLong (n : Int64) : (ofLong n).toLong? = some n := by
  have upper := Int64.toInt_lt n
  unfold ofLong
  split
  next natural =>
    have fits : n.toInt.toNat < UInt64.size := by
      change n.toInt.toNat < 18446744073709551616
      omega
    have same : ((n.toInt.toNat : Nat) : Int) = n.toInt := Int.toNat_of_nonneg natural
    have bound : n.toInt ≤ Text.greatestLong := by
      change n.toInt ≤ 9223372036854775807
      omega
    rw [toLong?, UInt64.toNat_ofNat_of_lt' fits, same, if_pos bound, Int64.ofInt_toInt]
  · rfl

/-! ### JSON with finite numbers -/

/-- The number is one that JSON has. -/
def JsonNumber.isFinite : JsonNumber → Bool
  | .natural _ | .negative _ => true
  | .real x => x.isFinite

theorem JsonNumber.isFinite_toReal (n : JsonNumber) : n.toReal.isFinite = n.isFinite := by
  cases n with
  | natural n =>
    have bound : n.toNat < 2 ^ 64 := n.toNat_lt
    exact Binary64.isFinite_ofInt_of_le (by omega)
  | negative n => exact Binary64.isFinite_ofInt n
  | real x => rfl

/-- A number that is an integer of 64 bits is no other one. -/
theorem JsonNumber.isFinite_of_toLong? {n : JsonNumber} {i : Int64} (h : n.toLong? = some i) : n.isFinite = true := by
  cases n with
  | natural n => rfl
  | negative n => rfl
  | real x => cases h

@[simp]
theorem JsonNumber.isFinite_ofLong (n : Int64) : (ofLong n).isFinite = true :=
  isFinite_of_toLong? (toLong?_ofLong n)

namespace Json

mutual

/-- All numbers anywhere in the value are finite. -/
def isFinite : Json → Bool
  | .null | .boolean _ | .text _ => true
  | .number n => n.isFinite
  | .array items => areFinite items
  | .object members => holdFinite members

def areFinite : List Json → Bool
  | [] => true
  | item :: rest => item.isFinite && areFinite rest

def holdFinite : List (String × Json) → Bool
  | [] => true
  | (_, item) :: rest => item.isFinite && holdFinite rest

end

end Json

namespace Value

mutual

/-- There is no timestamp, no identifier and no number beyond the finite ones in the value. -/
def isPlain : Value → Bool
  | .null | .integer _ | .text _ | .boolean _ => true
  | .float x => x.isFinite
  | .timestamp _ | .uuid _ => false
  | .list items => arePlain items
  | .map entries => holdPlain entries

def arePlain : List Value → Bool
  | [] => true
  | item :: rest => item.isPlain && arePlain rest

def holdPlain : List (String × Value) → Bool
  | [] => true
  | (_, item) :: rest => item.isPlain && holdPlain rest

end

mutual

/-- Just the plain values come back as they were. -/
theorem ofJson_toJson_iff : ∀ value : Value, ofJson value.toJson = value ↔ value.isPlain = true
  | .null => by simp [toJson, ofJson, isPlain]
  | .integer n => by simp [toJson, ofJson, isPlain]
  | .float x => by
    by_cases finite : x.isFinite = true <;> simp [toJson, ofJson, isPlain, finite, JsonNumber.toLong?, JsonNumber.toReal]
  | .text s => by simp [toJson, ofJson, isPlain]
  | .boolean b => by simp [toJson, ofJson, isPlain]
  | .timestamp t => by simp [toJson, ofJson, isPlain]
  | .uuid u => by simp [toJson, ofJson, isPlain]
  | .list items => by
    rw [toJson, ofJson, isPlain, Value.list.injEq]
    exact ofJsonItems_toJsonItems_iff items
  | .map entries => by
    rw [toJson, ofJson, isPlain, Value.map.injEq]
    exact ofJsonMembers_toJsonEntries_iff entries

theorem ofJsonItems_toJsonItems_iff : ∀ items : List Value,
    ofJsonItems (toJsonItems items) = items ↔ arePlain items = true
  | [] => by simp [toJsonItems, ofJsonItems, arePlain]
  | item :: rest => by
    rw [toJsonItems, ofJsonItems, arePlain, List.cons.injEq, ofJson_toJson_iff item, ofJsonItems_toJsonItems_iff rest,
      Bool.and_eq_true]

theorem ofJsonMembers_toJsonEntries_iff : ∀ entries : List (String × Value),
    ofJsonMembers (toJsonEntries entries) = entries ↔ holdPlain entries = true
  | [] => by simp [toJsonEntries, ofJsonMembers, holdPlain]
  | (name, item) :: rest => by
    rw [toJsonEntries, ofJsonMembers, holdPlain, List.cons.injEq, Prod.mk.injEq, ofJson_toJson_iff item,
      ofJsonMembers_toJsonEntries_iff rest, Bool.and_eq_true, eq_self_iff_true, true_and]

end

/-! ### What is read and what is written -/

mutual

/-- What is written is JSON. -/
theorem isFinite_toJson : ∀ value : Value, value.toJson.isFinite = true
  | .null => by rw [toJson, Json.isFinite]
  | .integer n => by rw [toJson, Json.isFinite, JsonNumber.isFinite_ofLong]
  | .float x => by
    rw [toJson]
    split
    next finite => exact finite
    · rfl
  | .text s => by rw [toJson, Json.isFinite]
  | .boolean b => by rw [toJson, Json.isFinite]
  | .timestamp t => by rw [toJson, Json.isFinite]
  | .uuid u => by rw [toJson, Json.isFinite]
  | .list items => by rw [toJson, Json.isFinite, areFinite_toJsonItems items]
  | .map entries => by rw [toJson, Json.isFinite, holdFinite_toJsonEntries entries]

theorem areFinite_toJsonItems : ∀ items : List Value, Json.areFinite (toJsonItems items) = true
  | [] => rfl
  | item :: rest => by
    rw [toJsonItems, Json.areFinite, isFinite_toJson item, areFinite_toJsonItems rest, Bool.and_self]

theorem holdFinite_toJsonEntries : ∀ entries : List (String × Value), Json.holdFinite (toJsonEntries entries) = true
  | [] => rfl
  | (name, item) :: rest => by
    rw [toJsonEntries, Json.holdFinite, isFinite_toJson item, holdFinite_toJsonEntries rest, Bool.and_self]

end

mutual

/-- What is read is plain just if it is JSON that it is read from. -/
theorem isPlain_ofJson : ∀ json : Json, (ofJson json).isPlain = json.isFinite
  | .null => by rw [ofJson, isPlain, Json.isFinite]
  | .boolean b => by rw [ofJson, isPlain, Json.isFinite]
  | .number n => by
    rw [ofJson, Json.isFinite]
    split
    next i long => rw [isPlain, JsonNumber.isFinite_of_toLong? long]
    · rw [isPlain, JsonNumber.isFinite_toReal]
  | .text s => by rw [ofJson, isPlain, Json.isFinite]
  | .array items => by rw [ofJson, isPlain, Json.isFinite, arePlain_ofJsonItems items]
  | .object members => by rw [ofJson, isPlain, Json.isFinite, holdPlain_ofJsonMembers members]

theorem arePlain_ofJsonItems : ∀ items : List Json, arePlain (ofJsonItems items) = Json.areFinite items
  | [] => rfl
  | item :: rest => by
    rw [ofJsonItems, arePlain, Json.areFinite, isPlain_ofJson item, arePlain_ofJsonItems rest]

theorem holdPlain_ofJsonMembers : ∀ members : List (String × Json),
    holdPlain (ofJsonMembers members) = Json.holdFinite members
  | [] => rfl
  | (name, item) :: rest => by
    rw [ofJsonMembers, holdPlain, Json.holdFinite, isPlain_ofJson item, holdPlain_ofJsonMembers rest]

end

/-- A value comes back from its JSON as it was just if it is plain; and JSON is read as a value that comes back, which
includes all JSON that is written of values, whatever they hold. -/
theorem json_roundTrips :
    (∀ value : Value, ofJson value.toJson = value ↔ value.isPlain = true) ∧
    (∀ json : Json, ofJson (ofJson json).toJson = ofJson json ↔ json.isFinite = true) ∧
    ∀ value : Value, value.toJson.isFinite = true := by
  refine ⟨ofJson_toJson_iff, fun json => ?_, isFinite_toJson⟩
  rw [ofJson_toJson_iff, isPlain_ofJson]

/-- One is an integer or a number as it is written, and 2^63 is no integer of 64 bits any more. -/
example : (JsonNumber.natural 1).toLong? = some 1 ∧ (JsonNumber.real ⟨0x3ff0000000000000⟩).toLong? = none ∧
    (JsonNumber.natural 0x8000000000000000).toLong? = none ∧
    (JsonNumber.natural 0x8000000000000000).toReal = ⟨0x43e0000000000000⟩ := by
  decide +kernel

end Value
end Persistence
