import Persistence.Proofs.Class.Snapshots
import Persistence.Proofs.Metamodel.Regularity

/-! Objects that are filled through the accessors of an entity. Nothing but entries of slots is ever written by fields,
    also where changes are recorded and where an identifier is taken apart; so the object stays one of the class, with
    its slots in order, and it comes back from its snapshot just if the class restores its slots. -/

namespace Persistence

/-- Writing goes to a field, if there is a writer at all. -/
def PropertyWriter.IsBacked (found : Except Fault PropertyWriter) : Prop :=
  ∀ writer, found = .ok writer → writer.field?.isSome = true

theorem PropertyWriter.isBacked_of_field? {found : Except Fault PropertyWriter} {slot : String}
    (h : found.toOption.map (·.field?) = some (some slot)) : IsBacked found := by
  rintro writer rfl
  have field : writer.field? = some slot := by simpa [Except.toOption] using h
  rw [field]
  rfl

/-- New objects of an initialized entity that were written just by its accessors and just to fields, whether all went well
or not. -/
inductive Entity.Filled (e : Entity) (access : EntityAccess) : Instance → Prop
  | created {obj : Instance} (accessed : e.access = .ok access) (new : e.newInstance = .ok obj) : Filled e access obj
  | property {obj : Instance} (filled : Filled e access obj) (name : String) (value : Value)
      (backed : PropertyWriter.IsBacked (access.reflector.writer name)) :
      Filled e access (access.setProperty name value obj).2
  | identifier {obj : Instance} (filled : Filled e access obj) (value : Value)
      (backed : ∀ member ∈ access.reflector.identity.members,
        PropertyWriter.IsBacked (access.reflector.writerOf member.name member.pair)) :
      Filled e access (access.setIdentifier value obj).2

namespace Instance

/-- An object of a class, with its slots in order. -/
def Ordered (cls : Outline) (obj : Instance) : Prop :=
  ∃ slots, obj = .plain cls slots ∧ Keyed.Sorted slots

namespace Ordered

variable {cls : Outline} {obj : Instance} {r : Reflector} {value : Value}

theorem set (h : Ordered cls obj) (field : String) (value : Value) : Ordered cls (obj.set field value) := by
  obtain ⟨slots, rfl, sorted⟩ := h
  exact ⟨slots.write field value, rfl, sorted.put field value⟩

/-- There is no proxy before the object, so that a change is one of the object itself. -/
theorem change {α : Type} {f : Instance → α × Instance} (h : Ordered cls obj) (keeps : Ordered cls (f obj).2)
    (handling : ProxyHandling) : Ordered cls (handling.change f obj).2 := by
  obtain ⟨slots, rfl, -⟩ := h
  rw [ProxyHandling.change]
  cases (handling.writes (.plain cls slots)).val <;> exact keeps

theorem write (h : Ordered cls obj) {writer : PropertyWriter} (field : writer.field?.isSome = true) :
    Ordered cls (writer.write value obj).2 := by
  cases writer with
  | field property slot type kept => exact h.set slot value
  | method property type setter => cases field

theorem markChanged (h : Ordered cls obj) (property : String) (previous : Value) :
    Ordered cls (r.markChanged property previous obj).2 := by
  rw [Reflector.markChanged]
  split
  · exact h
  · exact h.change (h.set ..) r.handling

theorem writeBy (h : Ordered cls obj) {found : Except Fault PropertyWriter} (backed : PropertyWriter.IsBacked found) :
    Ordered cls (r.writeBy found value obj).2 := by
  cases found with
  | ok writer => exact h.change (h.write (backed writer rfl)) r.handling
  | error fault => exact h

theorem writeMembers (h : Ordered cls obj) (members : List (IdentifierAccess × Value))
    (backed : ∀ m ∈ members, PropertyWriter.IsBacked (r.writerOf m.1.name m.1.pair)) :
    Ordered cls (r.writeMembers members obj).2 := by
  induction members generalizing obj with
  | nil => exact h
  | cons m rest ih =>
    obtain ⟨member, value⟩ := m
    have rest := fun (m : IdentifierAccess × Value) hm => backed m (List.mem_cons_of_mem _ hm)
    rw [Reflector.writeMembers]
    split
    · exact h
    next writer found =>
      have written : Ordered cls (writer.write value obj).2 := h.write (backed _ List.mem_cons_self writer found)
      split
      next ran =>
        rw [ran] at written
        exact ih written rest
      next ran =>
        rw [ran] at written
        exact written

theorem setIdentifier (h : Ordered cls obj)
    (backed : ∀ member ∈ r.identity.members, PropertyWriter.IsBacked (r.writerOf member.name member.pair)) :
    Ordered cls (r.setIdentifier value obj).2 := by
  rw [Reflector.setIdentifier]
  split
  next members paired =>
    exact h.change (h.writeMembers members fun m hm => backed m.1 (Reflector.mem_of_pairedIdentifier paired hm)) r.handling
  · exact h

end Ordered
end Instance

namespace Entity

variable {e : Entity} {access : EntityAccess} {obj : Instance}

/-- What accessors of fields have filled is an object of the class, with its slots in order. -/
theorem Filled.ordered (filled : e.Filled access obj) : obj.Ordered e.cls := by
  induction filled with
  | created accessed new =>
    rw [newInstance, Outline.newInstance] at new
    split at new
    · cases new
    · split at new
      · cases new
      · cases new
        refine ⟨_, rfl, ?_⟩
        split
        · exact Keyed.Sorted.put List.Pairwise.nil ..
        · exact List.Pairwise.nil
  | property filled name value backed ih =>
    rw [EntityAccess.setProperty]
    split
    · exact ih
    · refine Instance.Ordered.writeBy ?_ backed
      split
      · exact ih
      · exact ih.markChanged ..
  | identifier filled value backed ih =>
    rw [EntityAccess.setIdentifier]
    split
    · exact ih.setIdentifier backed
    · exact ih

/-- A filled object comes back from its snapshot if each field that the class declares has a value that its type restores
and all else is plain data. If the types do no more than accept the values, there is still an object, of the same slots,
and it holds in a slot of a declared field the same value just if the type restores it. -/
theorem Filled.ofJson_toJson (filled : e.Filled access obj) :
    ((∀ name field, e.cls.field? name = some field → field.type.restores (obj.get name) = true) →
      (∀ name, e.cls.field? name = none → (obj.get name).isPlain = true) →
      Instance.ofJson e.cls obj.toJson = .ok obj) ∧
    ((∀ name field, e.cls.field? name = some field → field.type.accepts (obj.get name) = true) →
      ∃ back, Instance.ofJson e.cls obj.toJson = .ok back) ∧
    ∀ back, Instance.ofJson e.cls obj.toJson = .ok back → obj.Returns e.cls back := by
  obtain ⟨slots, rfl, sorted⟩ := filled.ordered
  refine ⟨fun declared others => ?_, Instance.exists_ofJson_toJson sorted, fun back h => ?_⟩
  · refine Instance.ofJson_toJson_of_restores sorted fun name => ?_
    cases hfield : e.cls.field? name with
    | some field => simpa only [Outline.restores, hfield] using declared name field hfield
    | none => simpa only [Outline.restores, hfield] using others name hfield
  · exact Instance.returns_of_ofJson_toJson sorted h

/-- A book whose identifier is inherited and whose changes are recorded. Its codes and its date are texts in the snapshot,
and the types of their fields bring them back. -/
theorem Filled.ofJson_toJson_recorded :
    let base : Class := { stamp := 1, name := "Base", isEntity := true, fields := [{ name := "id", type := .long }] }
    let cls : Class := Class.trackChanges
      { stamp := 2, name := "Book", superclass := some "Base", isEntity := true
        fields := [{ name := "codes", type := .list .uuid }, { name := "released", type := .timestamp }] }
    let slots : Slots := [("codes", .list [.uuid ⟨0⟩, .null]), ("id", .integer 7),
      (Naming.changesField, .map [("codes", .null), ("released", .null)]), ("released", .timestamp ⟨0, 0⟩)]
    let opened : Workspace := ({} : Workspace).openContext 0 "c" {}
    let ws := ((opened.run 0 (Call.add base).perform).2.2.run 0 (Call.add cls).perform).2.2
    ∃ (ctx : Context) (e : Entity) (access : EntityAccess), ws.context? 0 = some ctx ∧ ctx.entity? "Book" = some e ∧
      e.cls = cls ∧ e.Filled access (.plain cls slots) ∧
      Instance.ofJson cls (Instance.plain cls slots).toJson = .ok (.plain cls slots) := by
  intro base cls slots opened ws
  have described : ((ws.context? 0).bind fun ctx => (ctx.entity? "Book").map (·.cls)) = some cls := by
    revert base cls slots opened ws
    rfl
  have shown : ((ws.context? 0).bind fun ctx => (ctx.entity? "Book").bind fun e => e.access.toOption.bind fun access =>
      e.newInstance.toOption.map fun new =>
        let r := access.reflector
        let named := (access.setIdentifier (.integer 7) new).2
        let coded := (access.setProperty "codes" (.list [.uuid ⟨0⟩, .null]) named).2
        (r.identity.members.map fun member => (r.writerOf member.name member.pair).toOption.map (·.field?),
          (r.writer "codes").toOption.map (·.field?), (r.writer "released").toOption.map (·.field?),
          (access.setProperty "released" (.timestamp ⟨0, 0⟩) coded).2)) =
      some ([some (some "id")], some (some "codes"), some (some "released"), .plain cls slots) := by
    decide +kernel
  obtain ⟨ctx, hctx, shown⟩ := Option.bind_eq_some_iff.mp shown
  obtain ⟨e, he, shown⟩ := Option.bind_eq_some_iff.mp shown
  obtain ⟨access, accessed, shown⟩ := Option.bind_eq_some_iff.mp shown
  obtain ⟨new, created, shown⟩ := Option.map_eq_some_iff.mp shown
  obtain ⟨members, codes, released, held⟩ := by simpa only [Prod.mk.injEq] using shown
  have kind : e.cls = cls := by simpa [hctx, he] using described
  have identified : ∀ member ∈ access.reflector.identity.members,
      PropertyWriter.IsBacked (access.reflector.writerOf member.name member.pair) := by
    intro member hmember
    have one := members ▸ List.mem_map_of_mem hmember
    exact PropertyWriter.isBacked_of_field? (List.mem_singleton.mp one)
  have filled := (((Filled.created (toOption_eq_some.mp accessed) (toOption_eq_some.mp created)).identifier (.integer 7)
    identified).property "codes" (.list [.uuid ⟨0⟩, .null]) (PropertyWriter.isBacked_of_field? codes)).property
    "released" (.timestamp ⟨0, 0⟩) (PropertyWriter.isBacked_of_field? released)
  rw [held] at filled
  obtain ⟨restores, -⟩ := filled.ofJson_toJson
  rw [kind] at restores
  refine ⟨ctx, e, access, hctx, he, kind, filled, restores ?_ ?_⟩
  · have all : ∀ field ∈ cls.fields, field.type.restores ((Instance.plain cls slots).get field.name) = true := by decide
    intro name field hfield
    obtain rfl : field.name = name := by simpa using List.find?_some hfield
    exact all field (List.mem_of_find?_eq_some hfield)
  · have all : ∀ entry ∈ slots, cls.field? entry.1 = none → entry.2.isPlain = true := by decide
    intro name absent
    cases held : Keyed.get? slots name with
    | none =>
      rw [Instance.get_plain, held]
      rfl
    | some value =>
      rw [Instance.get_plain, held]
      exact all _ (Keyed.mem_of_get? held) absent

/-- A number that is not finite is lost, and a component is restored without the date in it. -/
theorem Filled.not_ofJson_toJson :
    let cls : Class :=
      { stamp := 1, name := "A", isEntity := true
        fields := [{ name := "id", type := .long }, { name := "price", type := .float },
          { name := "details", type := .embedded "Details" }] }
    let obj : Instance :=
      .plain cls [("details", .map [("since", .timestamp ⟨0, 0⟩)]), ("price", .float Binary64.nan)]
    let opened : Workspace := ({} : Workspace).openContext 0 "c" {}
    let ws := (opened.run 0 (Call.add cls).perform).2.2
    ws.Reached ∧ ∃ (ctx : Context) (e : Entity) (access : EntityAccess), ws.context? 0 = some ctx ∧
      ctx.entity? "A" = some e ∧ e.cls = cls ∧ e.Filled access obj ∧ ∀ back, Instance.ofJson cls obj.toJson = .ok back →
        back.get "price" ≠ obj.get "price" ∧ back.get "details" ≠ obj.get "details" := by
  intro cls obj opened ws
  have described : ((ws.context? 0).bind fun ctx => (ctx.entity? "A").map (·.cls)) = some cls := by
    revert cls obj opened ws
    rfl
  have shown : ((ws.context? 0).bind fun ctx => (ctx.entity? "A").bind fun e => e.access.toOption.bind fun access =>
      e.newInstance.toOption.map fun new =>
        let priced := (access.setProperty "price" (.float Binary64.nan) new).2
        ((access.reflector.writer "price").toOption.map (·.field?),
          (access.reflector.writer "details").toOption.map (·.field?),
          (access.setProperty "details" (.map [("since", .timestamp ⟨0, 0⟩)]) priced).2)) =
      some (some (some "price"), some (some "details"), obj) := by
    decide +kernel
  have begun : opened.Reached := Workspace.Reached.start.opened 0 "c" {} {} .transparent
  obtain ⟨ctx, hctx, shown⟩ := Option.bind_eq_some_iff.mp shown
  obtain ⟨e, he, shown⟩ := Option.bind_eq_some_iff.mp shown
  obtain ⟨access, accessed, shown⟩ := Option.bind_eq_some_iff.mp shown
  obtain ⟨new, created, shown⟩ := Option.map_eq_some_iff.mp shown
  obtain ⟨price, details, held⟩ := by simpa only [Prod.mk.injEq] using shown
  have kind : e.cls = cls := by simpa [hctx, he] using described
  have filled := ((Filled.created (toOption_eq_some.mp accessed) (toOption_eq_some.mp created)).property "price"
    (.float Binary64.nan) (PropertyWriter.isBacked_of_field? price)).property "details"
    (.map [("since", .timestamp ⟨0, 0⟩)]) (PropertyWriter.isBacked_of_field? details)
  rw [held] at filled
  refine ⟨begun.called 0 (.add cls), ctx, e, access, hctx, he, kind, filled, fun back restored => ?_⟩
  obtain ⟨slots, same, sorted⟩ := filled.ordered
  obtain ⟨-, rfl⟩ := Instance.plain.inj same
  have returns := Instance.returns_of_ofJson_toJson sorted restored
  exact ⟨fun same => absurd ((returns.declared "price" _ rfl).mp same) (by decide),
    fun same => absurd ((returns.declared "details" _ rfl).mp same) (by decide)⟩

end Entity
end Persistence
