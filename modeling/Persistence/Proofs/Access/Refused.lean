import Persistence.Proofs.Access.Handled
import Persistence.Proofs.Metamodel.Regularity

/-! Writes that fail. A property is recorded as changed before it is written, and the members of an identity are written
    one after the other; so a setter that fails, although it leaves the object alone itself, may leave behind a record
    of a change that was none, and a member that cannot be written leaves those before it written. In all other ways to
    fail the object stays as it was. -/

namespace Persistence

/-! ### Writers that leave an object alone when they fail -/

/-- The body leaves the slots as they are when it fails. -/
def Setter.Careful (setter : Setter) : Prop :=
  ∀ value obj fault, (setter value obj).1 = .error fault → (setter value obj).2 = obj.slots

/-- The body of the setter is careful, where there is one; to write a field never fails. -/
def PropertyWriter.Careful : PropertyWriter → Prop
  | .field _ _ _ _ => True
  | .method _ _ setter => setter.Careful

theorem PropertyWriter.Careful.unchanged {writer : PropertyWriter} (careful : writer.Careful) {value : Value}
    {obj : Instance} {fault : Fault} (failed : (writer.write value obj).1 = .error fault) :
    (writer.write value obj).2 = obj := by
  cases writer with
  | field property slot type kept => cases failed
  | method property type setter =>
    have kept : (setter value obj).2 = obj.slots := careful value obj fault failed
    change obj.withSlots (setter value obj).2 = obj
    rw [kept, obj.withSlots_slots]

theorem Setter.careful_failing (text : String) : (Setter.failing text).Careful := fun _ _ _ _ => rfl

theorem PropertyWriter.careful_of_field? {writer : PropertyWriter} (field : writer.field?.isSome = true) :
    writer.Careful := by
  cases writer with
  | field property slot type kept => trivial
  | method property type setter => cases field

/-- The field that a member of an identity goes to, if it does not go to a setter. -/
def IdentifierAccess.slot? (member : IdentifierAccess) : Option String := member.pair.writer.bind (·.field?)

theorem IdentifierAccess.careful_of_fields {members : List IdentifierAccess}
    (fields : members.all (fun member => member.pair.writer.all (·.field?.isSome)) = true) :
    ∀ member ∈ members, ∀ writer, member.pair.writer = some writer → writer.Careful := by
  intro member hmember writer held
  have field := List.all_eq_true.mp fields member hmember
  rw [held, Option.all_some] at field
  exact PropertyWriter.careful_of_field? field

theorem PropertyWriter.careful_of_setter? {found : Except Fault PropertyWriter} {setter : Setter}
    (held : found.toOption.map (·.setter?) = some (some setter)) (careful : setter.Careful) :
    ∀ writer, found = .ok writer → writer.Careful := by
  rintro writer rfl
  have held : writer.setter? = some setter := Option.some.inj held
  cases writer with
  | field property slot type kept => trivial
  | method property type body =>
    cases held
    exact careful

namespace Reflector

variable {r : Reflector} {name : String} {value previous : Value} {obj left target : Instance} {fault : Fault}

theorem setProperty_unchanged (careful : ∀ writer, r.writer name = .ok writer → writer.Careful)
    (failed : (r.setProperty name value obj).1 = .error fault) : (r.setProperty name value obj).2 = obj := by
  rw [setProperty] at failed ⊢
  cases found : r.writer name with
  | error fault => rfl
  | ok writer =>
    rw [found, writeBy, ProxyHandling.fst_change] at failed
    rw [writeBy, ProxyHandling.snd_change_eq_iff]
    exact (careful writer found).unchanged failed

/-! ### Records of changes -/

theorem contains_recordFirst (changes : Keyed Value) (name : String) (previous : Value) :
    (recordFirst changes name previous).contains name = true := by
  rw [recordFirst]
  split
  next held => exact held
  · rw [Keyed.contains, Keyed.get?_put_self]
    rfl

/-- A value with entries is a map. -/
theorem eq_map_of_contains {value : Value} (held : (entriesOf value).contains name = true) :
    value = .map (entriesOf value) := by
  cases value with
  | map entries => rfl
  | _ => cases held

/-- To record a change leaves an object as it is just if the class tracks no changes or the property is recorded
already. -/
theorem markChanged_eq_iff (sorted : Keyed.Sorted (r.handling.target obj).slots) :
    (r.markChanged name previous obj).2 = obj ↔ ∀ field, r.changesField = some field →
      (entriesOf ((r.handling.target obj).get field)).contains name = true := by
  rw [markChanged]
  cases tracked : r.changesField with
  | none => simp
  | some field =>
    simp only [Option.some.injEq, forall_eq', ProxyHandling.snd_change_eq_iff]
    generalize r.handling.target obj = target at sorted ⊢
    constructor
    · intro same
      have written : (target.set field (.map (recordFirst (entriesOf (target.get field)) name previous))).get field =
          .map (recordFirst (entriesOf (target.get field)) name previous) := target.get_set_self ..
      rw [same] at written
      rw [written]
      exact contains_recordFirst ..
    · intro held
      rw [recordFirst, if_pos held, ← eq_map_of_contains held]
      exact Instance.set_get_self sorted (by rw [eq_map_of_contains held]; rfl)

/-! ### Identifiers -/

/-- Writing stops at a part: the parts before it are written and leave an object at which this one is refused. -/
def HaltsAfter (r : Reflector) (parts before : List (IdentifierAccess × Value)) (target left : Instance) : Prop :=
  ∃ part after fault, parts = before ++ part :: after ∧ r.writeMembers before target = (.ok (), left) ∧
    (r.writeMembers [part] left).1 = .error fault

theorem writeMembers_append {before : List (IdentifierAccess × Value)} (rest : List (IdentifierAccess × Value))
    (written : r.writeMembers before target = (.ok (), left)) :
    r.writeMembers (before ++ rest) target = r.writeMembers rest left := by
  induction before generalizing target with
  | nil =>
    cases written
    rfl
  | cons part before ih =>
    rw [List.cons_append, writeMembers]
    rw [writeMembers] at written
    split at written
    · cases written
    next writer found =>
      rcases ran : writer.write part.2 target with ⟨outcome, next⟩
      rw [ran] at written
      cases outcome with
      | error fault => cases written
      | ok => exact ih written

/-- A part that is refused leaves the object, and no further part is written. -/
theorem writeMembers_refused {part : IdentifierAccess × Value}
    (careful : ∀ writer, part.1.pair.writer = some writer → writer.Careful)
    (refused : (r.writeMembers [part] left).1 = .error fault) (after : List (IdentifierAccess × Value)) :
    (r.writeMembers (part :: after) left).2 = left := by
  rw [writeMembers, writerOf] at refused ⊢
  cases held : part.1.pair.writer with
  | none => rfl
  | some writer =>
    simp only [held] at refused ⊢
    have kept (fault : Fault) : (writer.write part.2 left).1 = .error fault → (writer.write part.2 left).2 = left :=
      (careful writer held).unchanged
    rcases ran : writer.write part.2 left with ⟨outcome, next⟩
    rw [ran] at refused kept
    cases outcome with
    | error fault => exact kept fault rfl
    | ok => cases refused

theorem HaltsAfter.left_eq {parts before : List (IdentifierAccess × Value)}
    (careful : ∀ part ∈ parts, ∀ writer, part.1.pair.writer = some writer → writer.Careful)
    (halts : r.HaltsAfter parts before target left) : (r.writeMembers parts target).2 = left := by
  obtain ⟨part, after, fault, rfl, written, refused⟩ := halts
  rw [writeMembers_append _ written]
  exact writeMembers_refused (careful part (by simp)) refused after

/-- Writing that fails stops somewhere. -/
theorem exists_haltsAfter {parts : List (IdentifierAccess × Value)}
    (failed : (r.writeMembers parts target).1 = .error fault) : ∃ before left, r.HaltsAfter parts before target left := by
  induction parts generalizing target with
  | nil => cases failed
  | cons part rest ih =>
    rcases one : r.writeMembers [part] target with ⟨outcome, next⟩
    cases outcome with
    | error fault => exact ⟨[], target, part, rest, fault, rfl, rfl, congrArg Prod.fst one⟩
    | ok =>
      have onward : r.writeMembers (part :: rest) target = r.writeMembers rest next := writeMembers_append rest one
      rw [onward] at failed
      obtain ⟨before, left, refusing, after, fault, rfl, written, refused⟩ := ih failed
      refine ⟨part :: before, left, refusing, after, fault, rfl, ?_, refused⟩
      exact (writeMembers_append before one).trans written

/-- Wherever the writing of an identifier stops, what was written before leaves the object as it was. -/
def WritesNothing (r : Reflector) (value : Value) (obj : Instance) : Prop :=
  ∀ parts before left, r.pairedIdentifier value = .ok parts → r.HaltsAfter parts before (r.handling.target obj) left →
    left = r.handling.target obj

section Fields
variable {part : IdentifierAccess × Value} {parts before : List (IdentifierAccess × Value)} {slot : String}

/-- A part that goes to a field is written there. -/
theorem writeMembers_cons_field (field : part.1.slot? = some slot) (rest : List (IdentifierAccess × Value)) :
    r.writeMembers (part :: rest) target = r.writeMembers rest (target.set slot part.2) := by
  obtain ⟨writer, held, field⟩ := Option.bind_eq_some_iff.mp field
  rw [writeMembers, writerOf, held]
  cases writer with
  | field property slot' type kept =>
    cases field
    rfl
  | method property type setter => cases field

/-- Parts that all go to other fields leave a field as it is. -/
theorem get?_writeMembers (fields : ∀ part ∈ parts, part.1.slot?.isSome = true)
    (apart : some slot ∉ parts.map (·.1.slot?)) :
    Keyed.get? (r.writeMembers parts target).2.slots slot = Keyed.get? target.slots slot := by
  induction parts generalizing target with
  | nil => rfl
  | cons part rest ih =>
    obtain ⟨first, others⟩ := List.forall_mem_cons.mp fields
    obtain ⟨field, hfield⟩ := Option.isSome_iff_exists.mp first
    rw [List.map_cons, List.mem_cons, not_or, hfield] at apart
    have ne : slot ≠ field := fun same => apart.1 (congrArg some same)
    rw [writeMembers_cons_field hfield, ih others apart.2, Instance.get?_set_of_ne _ _ ne]

/-- Parts that go to fields of their own leave the object as it is just if their fields hold them already. -/
theorem writeMembers_eq_self_iff (sorted : Keyed.Sorted target.slots)
    (fields : ∀ part ∈ parts, part.1.slot?.isSome = true) (distinct : (parts.map (·.1.slot?)).Nodup) :
    (r.writeMembers parts target).2 = target ↔
      ∀ part ∈ parts, ∀ slot, part.1.slot? = some slot → Keyed.get? target.slots slot = some part.2 := by
  induction parts with
  | nil => simp [writeMembers]
  | cons part rest ih =>
    obtain ⟨first, others⟩ := List.forall_mem_cons.mp fields
    obtain ⟨field, hfield⟩ := Option.isSome_iff_exists.mp first
    rw [List.map_cons, List.nodup_cons, hfield] at distinct
    rw [writeMembers_cons_field hfield, List.forall_mem_cons, hfield]
    simp only [Option.some.injEq, forall_eq']
    constructor
    · intro same
      -- No later part goes to the field of the first one, which therefore held it before.
      have held : Keyed.get? target.slots field = some part.2 := by
        rw [← same, get?_writeMembers others distinct.1, Instance.get?_set_self]
      rw [Instance.set_eq_self sorted held] at same
      exact ⟨held, (ih others distinct.2).mp same⟩
    · rintro ⟨held, rest⟩
      rw [Instance.set_eq_self sorted held]
      exact (ih others distinct.2).mpr rest

theorem HaltsAfter.left_eq_iff (halts : r.HaltsAfter parts before target left) (sorted : Keyed.Sorted target.slots)
    (fields : ∀ part ∈ before, part.1.slot?.isSome = true) (distinct : (before.map (·.1.slot?)).Nodup) :
    left = target ↔
      ∀ part ∈ before, ∀ slot, part.1.slot? = some slot → Keyed.get? target.slots slot = some part.2 := by
  obtain ⟨part, after, fault, -, written, -⟩ := halts
  have left : (r.writeMembers before target).2 = left := congrArg Prod.snd written
  rw [← writeMembers_eq_self_iff sorted fields distinct, left]

end Fields

/-- If all members but the first go to fields, then only the first one can be refused, and nothing is written before. -/
theorem writesNothing_of_fields (fields : ∀ member ∈ r.identity.members.tail, member.slot?.isSome = true)
    (value : Value) (obj : Instance) : r.WritesNothing value obj := by
  rintro parts before left paired ⟨part, after, fault, rfl, written, refused⟩
  cases before with
  | nil =>
    cases written
    rfl
  | cons first before =>
    have members := map_fst_of_pairedIdentifier paired
    obtain ⟨slot, field⟩ := Option.isSome_iff_exists.mp (fields part.1 (by simp [← members]))
    rw [writeMembers_cons_field field] at refused
    cases refused

theorem setIdentifier_unchanged_iff
    (careful : ∀ member ∈ r.identity.members, ∀ writer, member.pair.writer = some writer → writer.Careful)
    (failed : (r.setIdentifier value obj).1 = .error fault) :
    (r.setIdentifier value obj).2 = obj ↔ r.WritesNothing value obj := by
  rw [setIdentifier] at failed ⊢
  cases paired : r.pairedIdentifier value with
  | error fault =>
    simp only [true_iff]
    intro parts before left found
    cases paired.symm.trans found
  | ok parts =>
    simp only [paired, ProxyHandling.fst_change] at failed
    simp only [ProxyHandling.snd_change_eq_iff]
    have careful : ∀ part ∈ parts, ∀ writer, part.1.pair.writer = some writer → writer.Careful :=
      fun part hpart => careful part.1 (mem_of_pairedIdentifier paired hpart)
    constructor
    · intro same parts' before left found halts
      cases paired.symm.trans found
      exact (halts.left_eq careful).symm.trans same
    · intro nothing
      obtain ⟨before, left, halts⟩ := exists_haltsAfter failed
      rw [halts.left_eq careful]
      exact nothing parts before left paired halts

end Reflector

/-- The entity of a name in a context, with its accessors. -/
theorem Workspace.exists_access {α : Type} {ws : Workspace} {id : Nat} {name : String} {f : EntityAccess → α} {a : α}
    (shown : ((ws.context? id).bind fun ctx => (ctx.entity? name).bind fun e => e.access.toOption.map f) = some a) :
    ∃ (ctx : Context) (e : Entity) (access : EntityAccess), ws.context? id = some ctx ∧ ctx.entity? name = some e ∧
      e.access = .ok access ∧ f access = a := by
  obtain ⟨ctx, hctx, shown⟩ := Option.bind_eq_some_iff.mp shown
  obtain ⟨e, he, shown⟩ := Option.bind_eq_some_iff.mp shown
  obtain ⟨access, accessed, shown⟩ := Option.map_eq_some_iff.mp shown
  exact ⟨ctx, e, access, hctx, he, toOption_eq_some.mp accessed, shown⟩

namespace EntityAccess

variable {access : EntityAccess} {name : String} {value : Value} {obj : Instance} {fault : Fault}

/-- A change of the property is about to be recorded for the first time, and nothing but its setter is left to fail. -/
def RecordsFirst (access : EntityAccess) (name : String) (value : Value) (obj : Instance) : Prop :=
  ∃ field previous converted, access.reflector.changesField = some field ∧
    access.preparedWrite name value obj = .ok (previous, converted) ∧ previous.alike converted = false ∧
    (Reflector.entriesOf ((access.reflector.handling.target obj).get field)).contains name = false

/-- A write that fails leaves the object as it was just if it has not recorded a change on the way. -/
theorem setProperty_unchanged_iff (careful : ∀ writer, access.reflector.writer name = .ok writer → writer.Careful)
    (sorted : Keyed.Sorted (access.reflector.handling.target obj).slots)
    (failed : (access.setProperty name value obj).1 = .error fault) :
    (access.setProperty name value obj).2 = obj ↔ ¬access.RecordsFirst name value obj := by
  rw [RecordsFirst]
  rw [setProperty] at failed ⊢
  cases prepared : access.preparedWrite name value obj with
  | error fault => simp
  | ok pair =>
    obtain ⟨previous, converted⟩ := pair
    simp only [prepared] at failed ⊢
    rw [Reflector.setProperty_unchanged careful failed]
    cases like : previous.alike converted with
    | true => simp [like]
    | false =>
      rw [if_neg Bool.false_ne_true, Reflector.markChanged_eq_iff sorted]
      simp [like]

/-- The change of the note was recorded before, so that a setter which refuses a new one leaves all as it was. -/
theorem setProperty_unchanged_recorded :
    let cls : Class := Class.trackChanges
      { stamp := 1, name := "A", isEntity := true, fields := [{ name := "id", type := .long }]
        methods := [⟨"getNote", "note", .text, .getter (Getter.constant (.text "old")), .declared⟩,
          ⟨"setNote", "note", .text, .setter (Setter.failing "refused"), .declared⟩] }
    let inner : Instance := .plain cls [(Naming.changesField, .map [("note", .text "first")])]
    let opened : Workspace := ({} : Workspace).openContext 0 "c" {}
    let ws := (opened.run 0 (Call.add cls).perform).2.2
    ∃ (ctx : Context) (e : Entity) (access : EntityAccess), ws.context? 0 = some ctx ∧ ctx.entity? "A" = some e ∧
      e.access = .ok access ∧ access.reflector.changesField = some Naming.changesField ∧
      (access.setProperty "note" (.text "new") (.proxied inner)).1 = .error (.configuration (.stated "refused")) ∧
      (access.setProperty "note" (.text "new") (.proxied inner)).2 = .proxied inner := by
  intro cls inner opened ws
  have shown : ((ws.context? 0).bind fun ctx => (ctx.entity? "A").bind fun e => e.access.toOption.map fun access =>
      (access.reflector.changesField, (access.reflector.writer "note").toOption.map (·.setter?),
        access.reflector.handling.target (.proxied inner),
        (access.setProperty "note" (.text "new") (.proxied inner)).1)) =
      some (some Naming.changesField, some (some (Setter.failing "refused")), inner,
        .error (.configuration (.stated "refused"))) := by
    revert cls inner opened ws
    rfl
  obtain ⟨ctx, e, access, hctx, he, accessed, shown⟩ := Workspace.exists_access shown
  obtain ⟨tracked, refusing, target, failed⟩ := by simpa only [Prod.mk.injEq] using shown
  have careful := PropertyWriter.careful_of_setter? refusing (Setter.careful_failing "refused")
  have sorted : Keyed.Sorted (access.reflector.handling.target (.proxied inner)).slots := by
    rw [target]
    exact List.pairwise_singleton ..
  refine ⟨ctx, e, access, hctx, he, accessed, tracked, failed, ?_⟩
  rw [setProperty_unchanged_iff careful sorted failed]
  rintro ⟨field, previous, converted, hfield, -, -, unrecorded⟩
  rw [target] at unrecorded
  cases tracked.symm.trans hfield
  exact absurd unrecorded (by decide)

/-- A setter refuses a note, and it is recorded that the note was changed. -/
theorem not_setProperty_unchanged :
    ¬∀ (ws : Workspace) (id : Nat) (ctx : Context) (entity : String) (e : Entity) (access : EntityAccess)
      (name : String) (value : Value) (obj : Instance) (fault : Fault), ws.Reached → ws.context? id = some ctx →
      ctx.entity? entity = some e → e.access = .ok access → Keyed.Sorted obj.slots →
      (∀ writer, access.reflector.writer name = .ok writer → writer.Careful) →
      (access.setProperty name value obj).1 = .error fault → (access.setProperty name value obj).2 = obj := by
  intro always
  let cls : Class := Class.trackChanges
    { stamp := 1, name := "A", isEntity := true, fields := [{ name := "id", type := .long }]
      methods := [⟨"getNote", "note", .text, .getter (Getter.constant (.text "old")), .declared⟩,
        ⟨"setNote", "note", .text, .setter (Setter.failing "refused"), .declared⟩] }
  let obj : Instance := .plain cls [(Naming.changesField, .map [])]
  let opened : Workspace := ({} : Workspace).openContext 0 "c" {}
  let ws := (opened.run 0 (Call.add cls).perform).2.2
  have shown : ((ws.context? 0).bind fun ctx => (ctx.entity? "A").bind fun e => e.access.toOption.map fun access =>
      ((access.reflector.writer "note").toOption.map (·.setter?), (access.setProperty "note" (.text "new") obj).1,
        access.isChanged "note" obj, access.isChanged "note" (access.setProperty "note" (.text "new") obj).2)) =
      some (some (some (Setter.failing "refused")), .error (.configuration (.stated "refused")), false, true) := by
    revert cls obj opened ws
    rfl
  obtain ⟨ctx, e, access, hctx, he, accessed, shown⟩ := Workspace.exists_access shown
  obtain ⟨refusing, failed, unchanged, changed⟩ := by simpa only [Prod.mk.injEq] using shown
  have begun : opened.Reached := Workspace.Reached.start.opened 0 "c" {} {} .transparent
  have careful := PropertyWriter.careful_of_setter? refusing (Setter.careful_failing "refused")
  have same := always ws 0 ctx "A" e access "note" (.text "new") obj _ (begun.called 0 (.add cls)) hctx he
    accessed (List.pairwise_singleton ..) careful failed
  rw [same, unchanged] at changed
  cases changed

/-- An identifier that cannot be written, with conversion or without, leaves the object as it was just if the members
before the one that is refused have changed nothing. Members that go to fields of their own change nothing just if the
fields hold their parts already, and nothing ever changes where only the first member can be refused. -/
theorem identifier_unchanged_iff (careful : ∀ member ∈ access.reflector.identity.members, ∀ writer,
    member.pair.writer = some writer → writer.Careful) :
    (∀ fault, (access.reflector.setIdentifier value obj).1 = .error fault →
      ((access.reflector.setIdentifier value obj).2 = obj ↔ access.reflector.WritesNothing value obj)) ∧
    (∀ fault, (access.setIdentifier value obj).1 = .error fault →
      ((access.setIdentifier value obj).2 = obj ↔ ∀ converted, access.convertedIdentifier value = .ok converted →
        access.reflector.WritesNothing converted obj)) ∧
    (∀ parts before target left, access.reflector.HaltsAfter parts before target left → Keyed.Sorted target.slots →
      (∀ part ∈ before, part.1.slot?.isSome = true) → (before.map (·.1.slot?)).Nodup →
        (left = target ↔
          ∀ part ∈ before, ∀ slot, part.1.slot? = some slot → Keyed.get? target.slots slot = some part.2)) ∧
    ((∀ member ∈ access.reflector.identity.members.tail, member.slot?.isSome = true) →
      ∀ value, access.reflector.WritesNothing value obj) := by
  refine ⟨fun fault => Reflector.setIdentifier_unchanged_iff careful, fun fault failed => ?_,
    fun _ _ _ _ halts => halts.left_eq_iff, fun fields value => Reflector.writesNothing_of_fields fields value obj⟩
  rw [setIdentifier] at failed ⊢
  cases found : access.convertedIdentifier value with
  | error fault => simp
  | ok converted =>
    simp only [found] at failed ⊢
    simpa using Reflector.setIdentifier_unchanged_iff careful failed

/-- The shop is read only and comes first, so that nothing is written. -/
theorem identifier_unchanged_first :
    let cls : Class :=
      { stamp := 1, name := "A", isEntity := true, mapping := some { identifier := some { names := ["shop", "code"] } }
        fields := [{ name := "code", type := .text }]
        methods := [⟨"getShop", "shop", .text, .getter (Getter.constant (.text "main")), .declared⟩] }
    let obj : Instance := .plain cls [("code", .text "a")]
    let opened : Workspace := ({} : Workspace).openContext 0 "c" {}
    let ws := (opened.run 0 (Call.add cls).perform).2.2
    ∃ (ctx : Context) (e : Entity) (access : EntityAccess), ws.context? 0 = some ctx ∧ ctx.entity? "A" = some e ∧
      e.access = .ok access ∧
      (access.setIdentifier (.list [.text "main", .text "x"]) obj).1 = .error (.readOnly "shop" "A") ∧
      (access.setIdentifier (.list [.text "main", .text "x"]) obj).2 = obj := by
  intro cls obj opened ws
  have shown : ((ws.context? 0).bind fun ctx => (ctx.entity? "A").bind fun e => e.access.toOption.map fun access =>
      (access.reflector.identity.members.all fun member => member.pair.writer.all (·.field?.isSome),
        access.reflector.identity.members.tail.map (·.slot?),
        (access.setIdentifier (.list [.text "main", .text "x"]) obj).1)) =
      some (true, [some "code"], .error (.readOnly "shop" "A")) := by
    revert cls obj opened ws
    rfl
  obtain ⟨ctx, e, access, hctx, he, accessed, shown⟩ := Workspace.exists_access shown
  obtain ⟨written, others, failed⟩ := by simpa only [Prod.mk.injEq] using shown
  obtain ⟨code, tail, field⟩ := List.map_eq_singleton_iff.mp others
  obtain ⟨-, converting, -, fields⟩ := identifier_unchanged_iff (IdentifierAccess.careful_of_fields written)
  refine ⟨ctx, e, access, hctx, he, accessed, failed, ?_⟩
  refine (converting _ failed).mpr fun converted _ => fields (fun member hmember => ?_) converted
  rw [tail] at hmember
  cases List.mem_singleton.mp hmember
  rw [field, Option.isSome_some]

/-- The code is written, and then the shop turns out to be read only. -/
theorem not_identifier_unchanged :
    ¬∀ (ws : Workspace) (id : Nat) (ctx : Context) (entity : String) (e : Entity) (access : EntityAccess)
      (value : Value) (obj : Instance), ws.Reached → ws.context? id = some ctx → ctx.entity? entity = some e →
      e.access = .ok access →
      (∀ member ∈ access.reflector.identity.members, ∀ writer, member.pair.writer = some writer → writer.Careful) →
      (∀ fault, (access.reflector.setIdentifier value obj).1 = .error fault →
        (access.reflector.setIdentifier value obj).2 = obj) ∧
      ∀ fault, (access.setIdentifier value obj).1 = .error fault → (access.setIdentifier value obj).2 = obj := by
  intro always
  let cls : Class :=
    { stamp := 1, name := "A", isEntity := true, mapping := some { identifier := some { names := ["code", "shop"] } }
      fields := [{ name := "code", type := .text }]
      methods := [⟨"getShop", "shop", .text, .getter (Getter.constant (.text "main")), .declared⟩] }
  let obj : Instance := .plain cls []
  let opened : Workspace := ({} : Workspace).openContext 0 "c" {}
  let ws := (opened.run 0 (Call.add cls).perform).2.2
  have shown : ((ws.context? 0).bind fun ctx => (ctx.entity? "A").bind fun e => e.access.toOption.map fun access =>
      (access.reflector.identity.members.all fun member => member.pair.writer.all (·.field?.isSome),
        (access.setIdentifier (.list [.text "x", .text "main"]) obj).1,
        ((access.setIdentifier (.list [.text "x", .text "main"]) obj).2).get "code")) =
      some (true, .error (.readOnly "shop" "A"), .text "x") := by
    revert cls obj opened ws
    rfl
  obtain ⟨ctx, e, access, hctx, he, accessed, shown⟩ := Workspace.exists_access shown
  obtain ⟨written, failed, left⟩ := by simpa only [Prod.mk.injEq] using shown
  have begun : opened.Reached := Workspace.Reached.start.opened 0 "c" {} {} .transparent
  have same := (always ws 0 ctx "A" e access (.list [.text "x", .text "main"]) obj (begun.called 0 (.add cls)) hctx he
    accessed (IdentifierAccess.careful_of_fields written)).2 _ failed
  rw [same] at left
  cases left

end EntityAccess
end Persistence
