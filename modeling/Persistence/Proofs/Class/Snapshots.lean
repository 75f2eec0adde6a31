import Persistence.Access.EntityAccess
import Persistence.Metamodel.Entity
import Persistence.Proofs.DataType.Restoring

/-! Objects and their snapshots. A snapshot has the names of the slots in their order, so that restoring writes each slot
    behind the ones before it, and the object comes back just if every slot does: one of a declared field by the type of
    the field, any other one as plain data. Objects that accessors of fields have filled are of this kind, whatever was
    written and in whatever order. -/

namespace Persistence

/-- What a slot of an object of the class holds again after its snapshot. -/
def Outline.restores (cls : Outline) (name : String) (value : Value) : Bool :=
  match cls.field? name with
  | some field => field.type.restores value
  | none => value.isPlain

@[simp]
theorem Outline.restores_null (cls : Outline) (name : String) : cls.restores name .null = true := by
  rw [restores]
  cases cls.field? name with
  | none => rfl
  | some field => exact DataType.restores_null field.type

namespace Instance

variable {cls : Outline}

/-! ### Restoring slot by slot -/

/-- What a member of a snapshot is restored to. -/
def restoredSlot (cls : Outline) (member : String × Json) : Except Fault (String × Value) :=
  match cls.field? member.1 with
  | none => .ok (member.1, Value.ofJson member.2)
  | some field =>
    match field.type.convert (Value.ofJson member.2) with
    | .ok converted => .ok (member.1, converted)
    | .error cause => .error (.creation cls.name (.field member.1 cause))

theorem restore_eq (slots : Slots) (member : String × Json) :
    restore cls slots member = (fun entry => slots.write entry.1 entry.2) <$> restoredSlot cls member := by
  rw [restore, restoredSlot]
  cases cls.field? member.1 with
  | none => rfl
  | some field =>
    dsimp only
    cases field.type.convert (Value.ofJson member.2) <;> rfl

theorem fst_restoredSlot {member : String × Json} {entry : String × Value} (h : restoredSlot cls member = .ok entry) :
    entry.1 = member.1 := by
  rw [restoredSlot] at h
  split at h
  · cases h
    rfl
  · split at h
    · cases h
      rfl
    · cases h

/-- A slot is restored to what it held just if the class restores that. -/
theorem restoredSlot_toJson_iff (name : String) (value : Value) :
    restoredSlot cls (name, value.toJson) = .ok (name, value) ↔ cls.restores name value = true := by
  cases found : cls.field? name with
  | none => simp [restoredSlot, Outline.restores, found, Value.ofJson_toJson_iff]
  | some field =>
    simp only [restoredSlot, Outline.restores, found, ← DataType.convert_ofJson_toJson_iff]
    cases field.type.convert (Value.ofJson value.toJson) <;> simp

/-- Members whose names ascend are restored one behind the other. -/
theorem foldlM_restore {members : List (String × Json)} (sorted : Keyed.Sorted members) {slots : Slots}
    (after : ∀ entry ∈ slots, ∀ member ∈ members, entry.1 < member.1) :
    members.foldlM (restore cls) slots = (slots ++ ·) <$> members.mapM (restoredSlot cls) := by
  induction members generalizing slots with
  | nil =>
    rw [List.foldlM_nil, List.mapM_nil, map_pure, List.append_nil]
  | cons member rest ih =>
    obtain ⟨first, later⟩ := List.pairwise_cons.mp sorted
    rw [List.foldlM_cons, List.mapM_cons, restore_eq]
    cases restored : restoredSlot cls member with
    | error fault => rfl
    | ok entry =>
      -- All names so far are below this one, so that writing it is appending, and it is below all that are left.
      have name : entry.1 = member.1 := fst_restoredSlot restored
      have last : slots.write entry.1 entry.2 = slots ++ [entry] :=
        Keyed.put_eq_append (fun e he => name ▸ after e he member List.mem_cons_self) entry.2
      have beyond : ∀ e ∈ slots ++ [entry], ∀ m ∈ rest, e.1 < m.1 := by
        intro e he m hm
        rcases List.mem_append.mp he with he | he
        · exact after e he m (List.mem_cons_of_mem _ hm)
        · rw [List.mem_singleton.mp he, name]
          exact first m hm
      change rest.foldlM (restore cls) (slots.write entry.1 entry.2) = _
      rw [last, ih later beyond]
      cases rest.mapM (restoredSlot cls) with
      | error fault => rfl
      | ok entries => simp [Functor.map, Except.map, bind, Except.bind, pure, Except.pure]

/-- An object whose slots are in order is restored slot by slot. -/
theorem ofJson_toJson_eq {slots : Slots} (sorted : Keyed.Sorted slots) : ofJson cls (Instance.plain cls slots).toJson =
    Instance.plain cls <$> slots.mapM fun entry : String × Value => restoredSlot cls (entry.1, entry.2.toJson) := by
  have ascending : Keyed.Sorted (slots.map fun entry => (entry.1, entry.2.toJson)) := List.pairwise_map.mpr sorted
  rw [toJson, ofJson, Instance.slots, foldlM_restore ascending (by simp), List.mapM_map]
  simp only [List.nil_append, id_map', bind_pure_comp]
  rfl

section Walk
variable {slots restored : Slots}
  (h : (slots.mapM fun entry : String × Value => restoredSlot cls (entry.1, entry.2.toJson)) = .ok restored)
include h

/-- Each slot holds again what its member was restored to, and what has no slot has none again. -/
theorem get?_restored (name : String) : slots.get? name = none ∧ restored.get? name = none ∨
    ∃ value back, slots.get? name = some value ∧ restored.get? name = some back ∧
      restoredSlot cls (name, value.toJson) = .ok (name, back) := by
  induction slots generalizing restored with
  | nil =>
    cases h
    exact Or.inl ⟨rfl, rfl⟩
  | cons entry rest ih =>
    rw [List.mapM_cons] at h
    obtain ⟨first, hfirst, h⟩ := bind_eq_ok.mp h
    obtain ⟨later, hlater, h⟩ := bind_eq_ok.mp h
    cases h
    obtain ⟨k, value⟩ := entry
    obtain ⟨k', back⟩ := first
    obtain rfl : k' = k := fst_restoredSlot hfirst
    by_cases same : k' = name
    · subst same
      exact Or.inr ⟨value, back, if_pos rfl, if_pos rfl, hfirst⟩
    · simp only [Keyed.get?, if_neg same]
      exact ih hlater

theorem read_restored_iff (name : String) :
    restored.read name = slots.read name ↔ cls.restores name (slots.read name) = true := by
  rw [Slots.read, Slots.read]
  rcases get?_restored h name with ⟨absent, absent'⟩ | ⟨value, back, held, held', slot⟩
  · rw [absent, absent', Option.getD_none, Outline.restores_null, eq_self_iff_true, eq_self_iff_true]
  · rw [held, held', Option.getD_some, Option.getD_some, ← restoredSlot_toJson_iff, slot, Except.ok.injEq, Prod.mk.injEq,
      eq_self_iff_true, true_and]

end Walk

/-- What an object holds that is restored from the snapshot of another one: slots of the same names, and in each of them
what the other one holds there, where that is restored. -/
structure Returns (cls : Outline) (obj back : Instance) : Prop where
  kind : back.cls = cls
  plain : back.isProxy = false
  names : Keyed.keys back.slots = Keyed.keys obj.slots
  declared : ∀ name field, cls.field? name = some field →
    (back.get name = obj.get name ↔ field.type.restores (obj.get name) = true)
  others : ∀ name, cls.field? name = none → (obj.get name).isPlain = true → back.get name = obj.get name

theorem returns_of_ofJson_toJson {slots : Slots} {back : Instance} (sorted : Keyed.Sorted slots)
    (h : ofJson cls (Instance.plain cls slots).toJson = .ok back) : Returns cls (.plain cls slots) back := by
  rw [ofJson_toJson_eq sorted] at h
  obtain ⟨restored, walk, rfl⟩ := map_eq_ok.mp h
  have slot (name : String) : (Instance.plain cls restored).get name = (Instance.plain cls slots).get name ↔
      cls.restores name ((Instance.plain cls slots).get name) = true := read_restored_iff walk name
  refine ⟨rfl, rfl, ?_, fun name field hfield => ?_, fun name hfield held => ?_⟩
  · exact map_eq_of_mapM (fun entry back hback => fst_restoredSlot hback) walk
  · rw [slot, Outline.restores, hfield]
  · rw [slot, Outline.restores, hfield]
    exact held

theorem get_plain (slots : Slots) (name : String) :
    (Instance.plain cls slots).get name = (Keyed.get? slots name).getD .null := rfl

theorem get_of_mem {slots : Slots} (sorted : Keyed.Sorted slots) {entry : String × Value} (mem : entry ∈ slots) :
    (Instance.plain cls slots).get entry.1 = entry.2 := by
  rw [get_plain, sorted.get?_of_mem mem, Option.getD_some]

/-- There is something to restore if the declared fields accept what their slots hold. -/
theorem exists_ofJson_toJson {slots : Slots} (sorted : Keyed.Sorted slots)
    (h : ∀ name field, cls.field? name = some field →
      field.type.accepts ((Instance.plain cls slots).get name) = true) :
    ∃ back, ofJson cls (Instance.plain cls slots).toJson = .ok back := by
  have walk : ∀ entry ∈ slots, ∃ back, restoredSlot cls (entry.1, entry.2.toJson) = .ok back := by
    intro entry mem
    cases hfield : cls.field? entry.1 with
    | none => exact ⟨_, by rw [restoredSlot, hfield]⟩
    | some field =>
      have accepted := h entry.1 field hfield
      rw [get_of_mem sorted mem] at accepted
      obtain ⟨back, converted⟩ := DataType.exists_convert_of_accepts accepted
      exact ⟨(entry.1, back), by simp only [restoredSlot, hfield, converted]⟩
  obtain ⟨restored, walk⟩ := exists_mapM_eq_ok walk
  exact ⟨.plain cls restored, by rw [ofJson_toJson_eq sorted, walk]; rfl⟩

/-- An object comes back as it was if the class restores what each slot holds. -/
theorem ofJson_toJson_of_restores {slots : Slots} (sorted : Keyed.Sorted slots)
    (h : ∀ name, cls.restores name ((Instance.plain cls slots).get name) = true) :
    ofJson cls (Instance.plain cls slots).toJson = .ok (.plain cls slots) := by
  rw [ofJson_toJson_eq sorted, map_eq_ok]
  refine ⟨slots, mapM_eq_self_iff.mpr fun entry mem => ?_, rfl⟩
  have held := h entry.1
  rw [get_of_mem sorted mem] at held
  exact (restoredSlot_toJson_iff entry.1 entry.2).mpr held

end Instance
end Persistence
