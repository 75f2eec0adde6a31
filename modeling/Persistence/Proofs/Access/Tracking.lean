import Persistence.Proofs.Access.Refused

/-! Changes over runs of writes. The record of changes lies in a field of the object that is written, and each write
    reads it, extends it and writes it back. As long as the properties go to other fields, the record of a new object
    holds for each property that was changed what it held just before its first change, also where the object began
    without a record because only a superclass asks for one. -/

namespace Persistence

/-! ### Objects that are no proxies -/

theorem Instance.isProxy_set (obj : Instance) (field : String) (value : Value) :
    (obj.set field value).isProxy = obj.isProxy := by
  cases obj <;> rfl

namespace ProxyHandling

variable {α : Type} {obj : Instance} (handling : ProxyHandling)

theorem unwrap_of_plain (plain : obj.isProxy = false) : handling.unwrap obj = obj := by
  cases obj with
  | plain cls slots => rw [unwrap]; cases (handling.reads (.plain cls slots)).val <;> rfl
  | proxy cls slots target => cases plain

theorem change_of_plain (plain : obj.isProxy = false) (f : Instance → α × Instance) :
    handling.change f obj = f obj := by
  cases obj with
  | plain cls slots => rw [change]; cases (handling.writes (.plain cls slots)).val <;> rfl
  | proxy cls slots target => cases plain

end ProxyHandling

/-- The first value that is recorded for a property stays. -/
theorem Reflector.get?_recordFirst (changes : Keyed Value) (property name : String) (previous : Value) :
    (recordFirst changes property previous).get? name =
      (changes.get? name).or (if property = name then some previous else none) := by
  rw [recordFirst]
  split
  next held =>
    split
    next same =>
      obtain ⟨first, found⟩ := Option.isSome_iff_exists.mp held
      rw [← same, found, Option.some_or]
    · rw [Option.or_none]
  next absent =>
    rw [Keyed.get?_put]
    split
    next same =>
      rw [Bool.not_eq_true, Keyed.contains, Option.isSome_eq_false_iff, Option.isNone_iff_eq_none] at absent
      rw [same, absent, if_pos rfl, Option.none_or]
    next other => rw [if_neg (Ne.symm other), Option.or_none]

/-! ### Histories -/

/-- A write that went through: what was asked for, what the property held before and what it was given. -/
structure Assignment where
  property : String
  value : Value
  held : Value
  converted : Value

def Assignment.isChange (a : Assignment) : Bool := !a.held.alike a.converted

/-- What a property held just before it was changed for the first time. -/
def Assignment.firstHeld? (history : List Assignment) (name : String) : Option Value :=
  (history.find? fun a => a.property == name && a.isChange).map (·.held)

theorem Assignment.firstHeld?_append (history rest : List Assignment) (name : String) :
    firstHeld? (history ++ rest) name = (firstHeld? history name).or (firstHeld? rest name) := by
  rw [firstHeld?, List.find?_append, Option.map_or]
  rfl

theorem Assignment.firstHeld?_singleton (a : Assignment) (name : String) :
    firstHeld? [a] name = if a.isChange then if a.property = name then some a.held else none else none := by
  rw [firstHeld?, List.find?_singleton]
  cases a.isChange <;> simp

theorem Assignment.firstHeld?_eq_none {history : List Assignment} {name : String}
    (absent : ∀ a ∈ history, a.property ≠ name) : firstHeld? history name = none := by
  rw [firstHeld?, Option.map_eq_none_iff, List.find?_eq_none]
  intro a ha
  simp [absent a ha]

namespace EntityAccess

/-- A write goes through at an object and leaves another one. -/
structure Assigns (access : EntityAccess) (obj : Instance) (a : Assignment) (left : Instance) : Prop where
  held : access.getProperty a.property obj = .ok a.held
  converted : ∃ writer, access.reflector.writer a.property = .ok writer ∧ writer.type.convert a.value = .ok a.converted
  done : access.setProperty a.property a.value obj = (.ok (), left)

/-- Writes that go through one after the other. -/
inductive Run (access : EntityAccess) : Instance → List Assignment → Instance → Prop
  | nil (obj : Instance) : Run access obj [] obj
  | cons {obj mid left : Instance} {a : Assignment} {rest : List Assignment} (first : access.Assigns obj a mid)
    (onward : Run access mid rest left) : Run access obj (a :: rest) left

/-- Sets properties one after the other, up to the first one that fails. -/
def setEach (access : EntityAccess) : List (String × Value) → Instance → Except Fault Unit × Instance
  | [], obj => (.ok (), obj)
  | (name, value) :: rest, obj =>
    match access.setProperty name value obj with
    | (.ok (), obj) => access.setEach rest obj
    | (.error fault, obj) => (.error fault, obj)

/-- What the record of changes has for a property. -/
def previous? (access : EntityAccess) (name : String) (obj : Instance) : Option Value :=
  (access.changes? obj).bind (·.get? name)

/-- The property is written to a field, and not to that of the record. -/
def WritesApart (access : EntityAccess) (name : String) : Prop :=
  ∃ writer slot, access.reflector.writer name = .ok writer ∧ writer.field? = some slot ∧
    access.reflector.changesField ≠ some slot

/-- There is a record, and it has for each property just what the property held before its first change. -/
structure Recorded (access : EntityAccess) (history : List Assignment) (obj : Instance) : Prop where
  present : (access.changes? obj).isSome = true
  first : ∀ name, access.previous? name obj = Assignment.firstHeld? history name

/-- What writes leave of a record: all of its entries, and nothing new for a property that is not among them. -/
structure Extends (access : EntityAccess) (obj : Instance) (history : List Assignment) (left : Instance) : Prop where
  kept : ∀ name value, access.previous? name obj = some value → access.previous? name left = some value
  apart : ∀ name, (∀ a ∈ history, a.property ≠ name) → access.previous? name left = access.previous? name obj

variable {access : EntityAccess} {obj mid left : Instance} {name field : String} {a : Assignment}
  {history : List Assignment} {steps : List (String × Value)}

/-- A write that goes through is an assignment. -/
theorem exists_assigns {value : Value} (done : access.setProperty name value obj = (.ok (), left)) :
    ∃ a : Assignment, (a.property, a.value) = (name, value) ∧ access.Assigns obj a left := by
  have prepared := done
  rw [setProperty] at prepared
  split at prepared
  · cases prepared
  next held converted found =>
    obtain ⟨writer, hwriter, found⟩ := bind_eq_ok.mp found
    obtain ⟨given, hgiven, found⟩ := bind_eq_ok.mp found
    obtain ⟨previous, hprevious, found⟩ := bind_eq_ok.mp found
    cases found
    refine ⟨⟨name, value, held, converted⟩, rfl, hprevious, ⟨writer, hwriter, ?_⟩, done⟩
    rw [EntityAccess.converted] at hgiven
    split at hgiven
    next conversion =>
      cases hgiven
      exact conversion
    · cases hgiven

/-- A run that goes through has a history. -/
theorem exists_run (ran : access.setEach steps obj = (.ok (), left)) :
    ∃ history : List Assignment,
      history.map (fun a => (a.property, a.value)) = steps ∧ access.Run obj history left := by
  induction steps generalizing obj with
  | nil =>
    cases ran
    exact ⟨[], rfl, .nil _⟩
  | cons step rest ih =>
    rw [setEach] at ran
    split at ran
    next mid done =>
      obtain ⟨a, asked, assigns⟩ := exists_assigns done
      obtain ⟨history, rfl, run⟩ := ih ran
      exact ⟨a :: history, congrArg (· :: _) asked, .cons assigns run⟩
    · cases ran

/-! ### The record -/

theorem previous?_of_plain (tracked : access.reflector.changesField = some field) (plain : obj.isProxy = false) :
    access.previous? name obj = (Reflector.entriesOf (obj.get field)).get? name := by
  rw [previous?, changes?, Reflector.changes?, tracked, ProxyHandling.unwrap_of_plain _ plain]
  rfl

/-- A property that goes to a field of an object without a proxy is written after its change is recorded. -/
theorem Assigns.left_eq (h : access.Assigns obj a left) (tracked : access.reflector.changesField = some field)
    (plain : obj.isProxy = false) {writer : PropertyWriter} {slot : String}
    (found : access.reflector.writer a.property = .ok writer) (backed : writer.field? = some slot) :
    left = (if a.isChange then
      obj.set field (.map (Reflector.recordFirst (Reflector.entriesOf (obj.get field)) a.property a.held))
      else obj).set slot a.converted := by
  obtain ⟨held, ⟨writer', found', conversion⟩, done⟩ := h
  cases found.symm.trans found'
  have given : access.converted a.property writer.type a.value = .ok a.converted := by
    rw [EntityAccess.converted, conversion]
  have prepared : access.preparedWrite a.property a.value obj = .ok (a.held, a.converted) :=
    bind_eq_ok.mpr ⟨writer, found, bind_eq_ok.mpr ⟨_, given, bind_eq_ok.mpr ⟨_, held, rfl⟩⟩⟩
  have written (target : Instance) (unproxied : target.isProxy = false) :
      access.reflector.setProperty a.property a.converted target = (.ok (), target.set slot a.converted) := by
    rw [Reflector.setProperty, found, Reflector.writeBy, ProxyHandling.change_of_plain _ unproxied]
    cases writer with
    | field property slot' type kept =>
      cases backed
      rfl
    | method property type setter => cases backed
  simp only [setProperty, prepared] at done
  rw [Assignment.isChange]
  cases like : a.held.alike a.converted with
  | true =>
    rw [like, if_pos rfl, written obj plain] at done
    exact (congrArg Prod.snd done).symm
  | false =>
    rw [like, if_neg Bool.false_ne_true, Reflector.markChanged, tracked] at done
    dsimp only at done
    rw [ProxyHandling.change_of_plain _ plain, written _ ((Instance.isProxy_set ..).trans plain)] at done
    exact (congrArg Prod.snd done).symm

/-- An object that goes into a write without a proxy comes out of it without one, and the record is extended by the
property that is written, if the write changes it and there is no entry yet. -/
theorem Assigns.step (h : access.Assigns obj a left) (tracked : access.reflector.changesField = some field)
    (plain : obj.isProxy = false) (apart : access.WritesApart a.property) :
    left.isProxy = false ∧
      ∀ name, access.previous? name left = (access.previous? name obj).or (Assignment.firstHeld? [a] name) := by
  obtain ⟨writer, slot, found, backed, ne⟩ := apart
  have ne : field ≠ slot := fun same => ne (tracked.trans (congrArg some same))
  have written := h.left_eq tracked plain found backed
  have unproxied : left.isProxy = false := by
    rw [written, Instance.isProxy_set]
    split
    · exact (Instance.isProxy_set ..).trans plain
    · exact plain
  refine ⟨unproxied, fun name => ?_⟩
  rw [previous?_of_plain tracked unproxied, previous?_of_plain tracked plain, written, Instance.get_set_of_ne _ _ ne,
    Assignment.firstHeld?_singleton]
  cases a.isChange with
  | true =>
    rw [if_pos rfl, Instance.get_set_self, if_pos rfl]
    exact Reflector.get?_recordFirst ..
  | false => exact Option.or_none.symm

/-- Whatever is recorded when writes begin stays, and each property that has no entry gets the one of its first
change. -/
theorem Run.step (h : access.Run obj history left) (tracked : access.reflector.changesField = some field)
    (plain : obj.isProxy = false) (apart : ∀ a ∈ history, access.WritesApart a.property) :
    left.isProxy = false ∧
      ∀ name, access.previous? name left = (access.previous? name obj).or (Assignment.firstHeld? history name) := by
  induction h with
  | nil obj => exact ⟨plain, fun name => Option.or_none.symm⟩
  | cons first onward ih =>
    obtain ⟨foremost, others⟩ := List.forall_mem_cons.mp apart
    obtain ⟨unproxied, recorded⟩ := first.step tracked plain foremost
    obtain ⟨unproxied, onward⟩ := ih unproxied others
    refine ⟨unproxied, fun name => ?_⟩
    rw [onward, recorded, Option.or_assoc, ← Assignment.firstHeld?_append, List.singleton_append]

/-- A new object has no entries in its record, whether its class begins one or not. -/
theorem previous?_newInstance {cls : Class} (tracked : access.reflector.changesField = some field)
    (new : cls.newInstance = .ok obj) : obj.isProxy = false ∧ ∀ name, access.previous? name obj = none := by
  rw [Outline.newInstance] at new
  split at new
  · cases new
  · split at new
    · cases new
    · cases new
      refine ⟨rfl, fun name => ?_⟩
      rw [previous?_of_plain tracked rfl, Instance.get, Instance.slots, Slots.read]
      split
      · rw [Slots.write, Keyed.get?_put]
        split <;> rfl
      · rfl

/-- Over any run of writes to fields of a new object that go through, the record holds for each property that was
changed what the property held just before its first change. At any point of the run it is the record of the writes up
to there; the writes after it leave its entries as they are, and leave alone all properties but their own. -/
theorem setEach_records {cls : Class} (tracking : access.reflector.tracksChanges = true)
    (new : cls.newInstance = .ok obj) (apart : ∀ step ∈ steps, access.WritesApart step.1)
    (ran : access.setEach steps obj = (.ok (), left)) :
    ∃ history : List Assignment, history.map (fun a => (a.property, a.value)) = steps ∧
      access.Run obj history left ∧ access.Recorded history left ∧
      ∀ before after mid, history = before ++ after → access.Run obj before mid → access.Run mid after left →
        access.Recorded before mid ∧ access.Extends mid after left := by
  obtain ⟨field, tracked⟩ := Option.isSome_iff_exists.mp tracking
  obtain ⟨plain, blank⟩ := previous?_newInstance tracked new
  obtain ⟨history, rfl, run⟩ := exists_run ran
  have apart : ∀ a ∈ history, access.WritesApart a.property := fun a ha => apart _ (List.mem_map_of_mem ha)
  have recorded {before : List Assignment} {mid : Instance} (run : access.Run obj before mid)
      (apart : ∀ a ∈ before, access.WritesApart a.property) : access.Recorded before mid := by
    refine ⟨?_, fun name => ?_⟩
    · rw [changes?, Reflector.changes?, tracked]
      rfl
    · rw [(run.step tracked plain apart).2, blank, Option.none_or]
  refine ⟨history, rfl, run, recorded run apart, ?_⟩
  rintro before after mid rfl first onward
  obtain ⟨apart, later⟩ := List.forall_mem_append.mp apart
  obtain ⟨-, extended⟩ := onward.step tracked (first.step tracked plain apart).1 later
  refine ⟨recorded first apart, fun name value held => ?_, fun name absent => ?_⟩
  · rw [extended, held, Option.some_or]
  · rw [extended, Assignment.firstHeld?_eq_none absent, Option.or_none]

/-- Only the superclass asks for a record, so that a new book begins without one. Its title is recorded once, with what
it was before the first of the two writes to it. -/
theorem setEach_records_inherited :
    let base : Class := Class.trackChanges
      { stamp := 1, name := "Item", isEntity := true, fields := [{ name := "id", type := .long }] }
    let cls : Class :=
      { stamp := 2, name := "Book", superclass := some "Item", isEntity := true
        fields := [{ name := "title", type := .text }, { name := "pages", type := .long }] }
    let steps : List (String × Value) :=
      [("title", .text "Emma"), ("pages", .text "474"), ("pages", .integer 474), ("title", .text "Persuasion")]
    let opened : Workspace := ({} : Workspace).openContext 0 "c" {}
    let ws := ((opened.run 0 (Call.add base).perform).2.2.run 0 (Call.add cls).perform).2.2
    ∃ (ctx : Context) (e : Entity) (access : EntityAccess) (obj left : Instance) (history : List Assignment),
      ws.context? 0 = some ctx ∧ ctx.entity? "Book" = some e ∧ e.access = .ok access ∧
      e.newInstance = .ok obj ∧ obj.slots = [] ∧ access.setEach steps obj = (.ok (), left) ∧
      history.map (fun a => (a.property, a.value)) = steps ∧ access.Run obj history left ∧
      access.Recorded history left ∧ access.changes? left = some [("pages", .null), ("title", .null)] := by
  intro base cls steps opened ws
  have shown : ((ws.context? 0).bind fun ctx => (ctx.entity? "Book").bind fun e => e.access.toOption.bind fun access =>
      e.newInstance.toOption.map fun obj =>
        (steps.map fun step => (access.reflector.writer step.1).toOption.map (·.field?),
          access.reflector.changesField, obj.slots)) =
      some (steps.map fun step => some (some step.1), some Naming.changesField, []) := by
    decide +kernel
  have written : ((ws.context? 0).bind fun ctx => (ctx.entity? "Book").bind fun e => e.access.toOption.bind fun access =>
      e.newInstance.toOption.map fun obj =>
        ((access.setEach steps obj).1.toOption, access.changes? (access.setEach steps obj).2)) =
      some (some (), some [("pages", .null), ("title", .null)]) := by
    decide +kernel
  obtain ⟨ctx, hctx, shown⟩ := Option.bind_eq_some_iff.mp shown
  obtain ⟨e, he, shown⟩ := Option.bind_eq_some_iff.mp shown
  obtain ⟨access, accessed, shown⟩ := Option.bind_eq_some_iff.mp shown
  obtain ⟨obj, new, shown⟩ := Option.map_eq_some_iff.mp shown
  obtain ⟨writers, tracked, blank⟩ := by simpa only [Prod.mk.injEq] using shown
  simp only [hctx, he, accessed, new, Option.bind_some, Option.map_some, Option.some.injEq, Prod.mk.injEq] at written
  have done : (access.setEach steps obj).1 = .ok () := toOption_eq_some.mp written.1
  have tracking : access.reflector.tracksChanges = true := by rw [Reflector.tracksChanges, tracked]; rfl
  have others : ∀ step ∈ steps, Naming.changesField ≠ step.1 := by decide
  have apart : ∀ step ∈ steps, access.WritesApart step.1 := by
    intro step hstep
    obtain ⟨writer, found, backed⟩ := Option.map_eq_some_iff.mp (List.map_inj_left.mp writers step hstep)
    refine ⟨writer, step.1, toOption_eq_some.mp found, backed, fun same => ?_⟩
    exact others step hstep (Option.some.inj (tracked.symm.trans same))
  obtain ⟨history, asked, run, recorded, -⟩ :=
    setEach_records tracking (toOption_eq_some.mp new) apart (Prod.ext done rfl)
  exact ⟨ctx, e, access, obj, _, history, hctx, he, toOption_eq_some.mp accessed, toOption_eq_some.mp new, blank,
    Prod.ext done rfl, asked, run, recorded, written.2⟩

end EntityAccess
end Persistence
