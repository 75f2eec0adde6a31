import Persistence.Access.Reflector

/-! What the handling of proxies makes of accesses. An access to an object is one to the object at which the handling
    ends up, and of that it changes the slots alone; so reflectors that have the same accessors come to the same in an
    access just if they end up at one object, or if it makes no difference to the access at which of two it is made. -/

namespace Persistence

/-- What may be done to an object through the accessors of its entity. -/
inductive Access where
  | read (name : String)
  | readAt (index : Nat)
  | write (name : String) (value : Value)
  | writeAt (index : Nat) (value : Value)
  | identifier
  | members
  | identify (value : Value)
  | changes
  | mark (property : String) (previous : Value)

def Access.isWrite : Access → Bool
  | .write _ _ | .writeAt _ _ | .identify _ | .mark _ _ => true
  | .read _ | .readAt _ | .identifier | .members | .changes => false

inductive AccessAnswer where
  | value (found : Except Fault Value)
  | members (found : Except Fault (Option (List Value)))
  | changes (found : Option (Keyed Value))
  | outcome (outcome : Except Fault Unit)
  | marked (tracked : Bool)

/-- What comes of an access, and the object that it leaves. -/
def Reflector.access (r : Reflector) (obj : Instance) : Access → AccessAnswer × Instance
  | .read name => (.value (r.getProperty name obj), obj)
  | .readAt index => (.value (r.getPropertyAt index obj), obj)
  | .write name value => Prod.map .outcome id (r.setProperty name value obj)
  | .writeAt index value => Prod.map .outcome id (r.setPropertyAt index value obj)
  | .identifier => (.value (r.getIdentifier obj), obj)
  | .members => (.members (r.compositeIdentifier obj), obj)
  | .identify value => Prod.map .outcome id (r.setIdentifier value obj)
  | .changes => (.changes (r.changes? obj), obj)
  | .mark property previous => Prod.map .marked id (r.markChanged property previous obj)

/-! ### Changes of slots -/

namespace Instance

variable {α β : Type}

/-- What is done to an object changes nothing of it but its own slots. -/
def Slotwise (f : Instance → α × Instance) : Prop :=
  ∀ obj, (f obj).2 = obj.withSlots (f obj).2.slots

theorem Slotwise.map {f : Instance → α × Instance} (hf : Slotwise f) (g : α → β) :
    Slotwise fun obj => Prod.map g id (f obj) :=
  hf

theorem slotwise_read (f : Instance → α) : Slotwise fun obj => (f obj, obj) :=
  fun obj => obj.withSlots_slots.symm

/-- Of two steps the second one is taken where the first one ends, unless that fails. -/
theorem Slotwise.andThen {f g : Instance → Except Fault Unit × Instance} (hf : Slotwise f) (hg : Slotwise g) :
    Slotwise fun obj =>
      match f obj with
      | (.ok (), left) => g left
      | (.error fault, left) => (.error fault, left) := by
  intro obj
  have first := hf obj
  dsimp only
  rcases hrun : f obj with ⟨outcome, left⟩
  rw [hrun] at first
  cases outcome with
  | error fault => exact first
  | ok =>
    dsimp only at first ⊢
    calc (g left).2 = left.withSlots (g left).2.slots := hg left
      _ = (obj.withSlots left.slots).withSlots (g left).2.slots := congrArg (withSlots _) first
      _ = obj.withSlots (g left).2.slots := obj.withSlots_withSlots left.slots _

/-! ### Changes along a chain -/

theorem mapAlong_read (f : Instance → α) (n : Nat) (obj : Instance) :
    obj.mapAlong (fun target => (f target, target)) n = (f (obj.along n), obj) := by
  induction n generalizing obj with
  | zero => rfl
  | succ n ih =>
    cases obj with
    | plain cls slots => rfl
    | proxy cls slots target => rw [mapAlong, ih, along]

theorem mapAlong_map (f : Instance → α × Instance) (g : α → β) (n : Nat) (obj : Instance) :
    obj.mapAlong (fun target => Prod.map g id (f target)) n = Prod.map g id (obj.mapAlong f n) := by
  induction n generalizing obj with
  | zero => rfl
  | succ n ih =>
    cases obj with
    | plain cls slots => rfl
    | proxy cls slots target =>
      rw [mapAlong, ih, mapAlong]
      rfl

theorem mapAlong_fst (f : Instance → α × Instance) (n : Nat) (obj : Instance) :
    (obj.mapAlong f n).1 = (f (obj.along n)).1 := by
  induction n generalizing obj with
  | zero => rfl
  | succ n ih =>
    cases obj with
    | plain cls slots => rfl
    | proxy cls slots target => exact ih target

/-- A chain stays as it is just if the object that is changed does. -/
theorem mapAlong_snd_eq_iff (f : Instance → α × Instance) (n : Nat) (obj : Instance) :
    (obj.mapAlong f n).2 = obj ↔ (f (obj.along n)).2 = obj.along n := by
  induction n generalizing obj with
  | zero => rfl
  | succ n ih =>
    cases obj with
    | plain cls slots => rfl
    | proxy cls slots target =>
      rw [mapAlong, along, ← ih target]
      exact ⟨fun h => (Instance.proxy.inj h).2.2, fun h => congrArg (Instance.proxy cls slots) h⟩

theorem mapAlong_snd_congr {f : Instance → α × Instance} {g : Instance → β × Instance} {n : Nat} {obj : Instance}
    (same : (f (obj.along n)).2 = (g (obj.along n)).2) : (obj.mapAlong f n).2 = (obj.mapAlong g n).2 := by
  induction n generalizing obj with
  | zero => exact same
  | succ n ih =>
    cases obj with
    | plain cls slots => exact same
    | proxy cls slots target => exact congrArg (Instance.proxy cls slots) (ih same)

/-- Along a chain that is long enough the object that was changed is found at its place. -/
theorem along_mapAlong (f : Instance → α × Instance) {n : Nat} {obj : Instance} (le : n ≤ obj.depth) :
    (obj.mapAlong f n).2.along n = (f (obj.along n)).2 := by
  induction n generalizing obj with
  | zero => rfl
  | succ n ih =>
    cases obj with
    | plain cls slots => cases le
    | proxy cls slots target => exact ih (Nat.le_of_succ_le_succ le)

theorem depth_mapAlong {f : Instance → α × Instance} (kept : ∀ target, (f target).2.depth = target.depth) (n : Nat)
    (obj : Instance) : (obj.mapAlong f n).2.depth = obj.depth := by
  induction n generalizing obj with
  | zero => exact kept obj
  | succ n ih =>
    cases obj with
    | plain cls slots => exact kept _
    | proxy cls slots target => exact congrArg Nat.succ (ih target)

/-- What is done answers the same for two objects and changes neither of them. -/
def Indifferent (f : Instance → α × Instance) (s t : Instance) : Prop :=
  (f s).1 = (f t).1 ∧ (f s).2 = s ∧ (f t).2 = t

theorem Indifferent.comm {f : Instance → α × Instance} {s t : Instance} :
    Indifferent f s t ↔ Indifferent f t s :=
  ⟨fun ⟨answers, left, right⟩ => ⟨answers.symm, right, left⟩,
    fun ⟨answers, left, right⟩ => ⟨answers.symm, right, left⟩⟩

/-- What is done to the slots of a proxy leaves the object that it stands for as it is. -/
theorem Slotwise.eq_mapAlong_iff {f : Instance → α × Instance} (hf : Slotwise f) (n : Nat) (cls : Outline)
    (slots : Slots) (target : Instance) :
    f (.proxy cls slots target) = (Instance.proxy cls slots target).mapAlong f (n + 1) ↔
      Indifferent f (.proxy cls slots target) (target.along n) := by
  have own := hf (.proxy cls slots target)
  unfold Indifferent
  rw [← mapAlong_snd_eq_iff f n target, ← mapAlong_fst f n target, mapAlong, Prod.ext_iff]
  refine and_congr_right fun _ => ⟨fun h => ?_, fun ⟨here, there⟩ => ?_⟩
  · rw [own] at h ⊢
    obtain ⟨-, kept, still⟩ := Instance.proxy.inj h
    exact ⟨congrArg (fun slots => Instance.proxy cls slots target) kept, still.symm⟩
  · exact here.trans (congrArg (Instance.proxy cls slots) there.symm)

/-- What is done at two places of a chain comes to the same just if it is one place or it makes no difference. -/
theorem Slotwise.mapAlong_eq_iff {f : Instance → α × Instance} (hf : Slotwise f) {obj : Instance} {m n : Nat}
    (hm : m ≤ obj.depth) (hn : n ≤ obj.depth) :
    obj.mapAlong f m = obj.mapAlong f n ↔ m = n ∨ Indifferent f (obj.along m) (obj.along n) := by
  induction obj generalizing m n with
  | plain cls slots =>
    rw [Nat.le_zero.mp hm, Nat.le_zero.mp hn]
    simp
  | proxy cls slots target ih =>
    cases m with
    | zero =>
      cases n with
      | zero => simp
      | succ n => exact (hf.eq_mapAlong_iff n cls slots target).trans (or_iff_right (by omega)).symm
    | succ m =>
      cases n with
      | zero =>
        rw [eq_comm, Indifferent.comm]
        exact (hf.eq_mapAlong_iff m cls slots target).trans (or_iff_right (by omega)).symm
      | succ n =>
        have deeper := ih (Nat.le_of_succ_le_succ hm) (Nat.le_of_succ_le_succ hn)
        rw [along, along, Nat.add_right_cancel_iff, ← deeper, mapAlong, mapAlong]
        refine ⟨fun h => ?_, fun h => by rw [h]⟩
        obtain ⟨answers, objects⟩ := Prod.mk.inj h
        exact Prod.ext answers (Instance.proxy.inj objects).2.2

end Instance

/-- How far along a chain of proxies an access is made. -/
def ProxyHandling.steps (handling : ProxyHandling) (a : Access) (obj : Instance) : Fin (obj.depth + 1) :=
  if a.isWrite then handling.writes obj else handling.reads obj

namespace ProxyHandling

variable {α : Type} (handling : ProxyHandling) (f : Instance → α × Instance) (obj : Instance)

/-- The object that is changed in place of another one. -/
def target : Instance := obj.along (handling.writes obj)

theorem fst_change : (handling.change f obj).1 = (f (handling.target obj)).1 := Instance.mapAlong_fst ..

theorem snd_change_eq_iff : (handling.change f obj).2 = obj ↔ (f (handling.target obj)).2 = handling.target obj :=
  Instance.mapAlong_snd_eq_iff ..

end ProxyHandling

namespace Reflector

variable {r : Reflector} {value : Value} {obj : Instance}

/-- The accessors alone: with a number of no meaning, and taking every object as it is. -/
def bare (r : Reflector) : Reflector := { r with number := 0, handling := .direct }

theorem writeBy_eq_change (found : Except Fault PropertyWriter) :
    r.writeBy found value obj = r.handling.change (r.bare.writeBy found value) obj := by
  cases found with
  | error fault => exact (Instance.mapAlong_read (fun _ => (Except.error fault : Except Fault Unit)) _ obj).symm
  | ok writer => rfl

theorem writeMembers_bare (members : List (IdentifierAccess × Value)) :
    r.bare.writeMembers members obj = r.writeMembers members obj := by
  induction members generalizing obj with
  | nil => rfl
  | cons entry rest ih =>
    have same : r.bare.writerOf entry.1.name entry.1.pair = r.writerOf entry.1.name entry.1.pair := rfl
    unfold writeMembers
    rw [same]
    cases r.writerOf entry.1.name entry.1.pair with
    | error fault => rfl
    | ok writer =>
      dsimp only
      rcases writer.write entry.2 obj with ⟨outcome, left⟩
      cases outcome with
      | ok => exact ih
      | error fault => rfl

/-- The parts of an identifier go to the members of the identity, one to each. -/
theorem map_fst_of_pairedIdentifier {parts : List (IdentifierAccess × Value)} (h : r.pairedIdentifier value = .ok parts) :
    parts.map (·.1) = r.identity.members := by
  rw [pairedIdentifier] at h
  cases identity : r.identity with
  | single access =>
    simp only [identity] at h
    cases h
    rfl
  | composite members =>
    simp only [identity] at h
    cases value with
    | list values =>
      rw [pairedMembers] at h
      split at h
      next length =>
        cases h
        exact List.map_fst_zip (Nat.le_of_eq length.symm)
      · cases h
    | _ => cases h

theorem mem_of_pairedIdentifier {parts : List (IdentifierAccess × Value)} (h : r.pairedIdentifier value = .ok parts)
    {part : IdentifierAccess × Value} (hpart : part ∈ parts) : part.1 ∈ r.identity.members := by
  rw [← map_fst_of_pairedIdentifier h]
  exact List.mem_map_of_mem hpart

theorem setIdentifier_bare : r.bare.setIdentifier value = fun obj =>
    match r.pairedIdentifier value with
    | .ok members => r.writeMembers members obj
    | .error fault => (.error fault, obj) := by
  funext obj
  have same : r.bare.pairedIdentifier value = r.pairedIdentifier value := by
    unfold pairedIdentifier
    cases hidentity : r.identity with
    | single access => simp only [bare, hidentity]
    | composite members =>
      simp only [bare, hidentity]
      cases value <;> rfl
  unfold setIdentifier
  rw [same]
  cases r.pairedIdentifier value with
  | error fault => rfl
  | ok members => exact writeMembers_bare members

theorem setIdentifier_eq_change :
    r.setIdentifier value obj = r.handling.change (r.bare.setIdentifier value) obj := by
  rw [setIdentifier_bare]
  unfold setIdentifier
  cases r.pairedIdentifier value with
  | error fault => exact (Instance.mapAlong_read (fun _ => (Except.error fault : Except Fault Unit)) _ obj).symm
  | ok members => rfl

theorem markChanged_bare {property : String} : r.bare.markChanged property value = fun obj =>
    match r.changesField with
    | none => (false, obj)
    | some field => (true, obj.set field (.map (recordFirst (entriesOf (obj.get field)) property value))) := by
  funext obj
  cases hfield : r.changesField with
  | none => simp only [markChanged, bare, hfield]
  | some field =>
    simp only [markChanged, bare, hfield]
    rfl

theorem markChanged_eq_change (property : String) :
    r.markChanged property value obj = r.handling.change (r.bare.markChanged property value) obj := by
  rw [markChanged_bare]
  unfold markChanged
  cases r.changesField with
  | none => exact (Instance.mapAlong_read (fun _ => false) _ obj).symm
  | some field => rfl

/-- An access is made at the object at which the handling ends up. -/
theorem access_eq_mapAlong (r : Reflector) (obj : Instance) (a : Access) :
    r.access obj a = obj.mapAlong (fun target => r.bare.access target a) (r.handling.steps a obj) := by
  have read {f : Instance → AccessAnswer} :
      (f (r.handling.unwrap obj), obj) = obj.mapAlong (fun target => (f target, target)) (r.handling.reads obj) :=
    (Instance.mapAlong_read f _ obj).symm
  have written {α : Type} {f : Instance → α × Instance} {g : α → AccessAnswer} :
      Prod.map g id (r.handling.change f obj) =
        obj.mapAlong (fun target => Prod.map g id (f target)) (r.handling.writes obj) :=
    (Instance.mapAlong_map f g _ obj).symm
  cases a with
  | read name => exact read (f := fun target => .value (r.bare.getProperty name target))
  | readAt index => exact read (f := fun target => .value (r.bare.getPropertyAt index target))
  | identifier => exact read (f := fun target => .value (r.bare.getIdentifier target))
  | members => exact read (f := fun target => .members (r.bare.compositeIdentifier target))
  | changes => exact read (f := fun target => .changes (r.bare.changes? target))
  | write name value => exact (congrArg _ (writeBy_eq_change (r.writer name))).trans written
  | writeAt index value => exact (congrArg _ (writeBy_eq_change (r.writerAt index))).trans written
  | identify value => exact (congrArg _ setIdentifier_eq_change).trans written
  | mark property previous => exact (congrArg _ (markChanged_eq_change property)).trans written

/-! ### Accesses to slots -/

theorem slotwise_write (writer : PropertyWriter) (value : Value) : Instance.Slotwise (writer.write value) := by
  intro obj
  cases writer <;> cases obj <;> rfl

theorem slotwise_writeMembers (members : List (IdentifierAccess × Value)) :
    Instance.Slotwise (r.writeMembers members) := by
  induction members with
  | nil => exact Instance.slotwise_read fun _ => Except.ok ()
  | cons entry rest ih =>
    change Instance.Slotwise fun obj => r.writeMembers (entry :: rest) obj
    simp only [writeMembers]
    cases r.writerOf entry.1.name entry.1.pair with
    | error fault => exact Instance.slotwise_read fun _ => Except.error fault
    | ok writer => exact (slotwise_write writer entry.2).andThen ih

theorem slotwise_writeBy (found : Except Fault PropertyWriter) : Instance.Slotwise (r.bare.writeBy found value) := by
  cases found with
  | error fault => exact Instance.slotwise_read fun _ => Except.error fault
  | ok writer => exact slotwise_write writer value

theorem slotwise_setIdentifier : Instance.Slotwise (r.bare.setIdentifier value) := by
  rw [setIdentifier_bare]
  cases r.pairedIdentifier value with
  | error fault => exact Instance.slotwise_read fun _ => Except.error fault
  | ok members => exact slotwise_writeMembers members

theorem slotwise_markChanged (property : String) : Instance.Slotwise (r.bare.markChanged property value) := by
  rw [markChanged_bare]
  cases r.changesField with
  | none => exact Instance.slotwise_read fun _ => false
  | some field =>
    intro obj
    cases obj <;> rfl

/-- An access that takes every object as it is changes nothing of it but the slots. -/
theorem slotwise_access (r : Reflector) (a : Access) : Instance.Slotwise fun obj => r.bare.access obj a := by
  cases a with
  | read | readAt | identifier | members | changes => exact Instance.slotwise_read _
  | write name value => exact (slotwise_writeBy (r.bare.writer name)).map AccessAnswer.outcome
  | writeAt index value => exact (slotwise_writeBy (r.bare.writerAt index)).map AccessAnswer.outcome
  | identify value => exact slotwise_setIdentifier.map AccessAnswer.outcome
  | mark property previous => exact (slotwise_markChanged property).map AccessAnswer.marked

/-! ### Reflectors that differ in the handling -/

/-- Reflectors with the same accessors come to the same in an access just if it is made at one object by both, or if
it makes no difference to it at which of the two objects it is made. -/
theorem access_eq_iff {r' : Reflector} (same : r.bare = r'.bare) (obj : Instance) (a : Access) :
    r.access obj a = r'.access obj a ↔ r.handling.steps a obj = r'.handling.steps a obj ∨
      Instance.Indifferent (fun target => r'.bare.access target a) (obj.along (r.handling.steps a obj))
        (obj.along (r'.handling.steps a obj)) := by
  rw [access_eq_mapAlong r, access_eq_mapAlong r', same, Fin.ext_iff]
  exact (r'.slotwise_access a).mapAlong_eq_iff (Nat.le_of_lt_succ (r.handling.steps a obj).isLt)
    (Nat.le_of_lt_succ (r'.handling.steps a obj).isLt)

end Reflector
end Persistence
