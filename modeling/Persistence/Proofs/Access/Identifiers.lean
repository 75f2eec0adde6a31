import Mathlib.Data.List.Forall2
import Persistence.Proofs.Access.Backing
import Persistence.Proofs.Access.Refused

/-! Identifiers that read back. A value is converted by the members that the entity has, and then it is taken apart and
    written by the members that the accessors were compiled for. Those are as many and of the same types, so whatever
    the first step lets through although it is no identifier the second one refuses. Members with fields of their own
    hold all that was converted, and no other field changes. -/

namespace Persistence

/-- A walk of a list succeeds just if each step gives what stands in its place. -/
theorem mapM_eq_ok_iff {ε α β : Type} {f : α → Except ε β} {as : List α} {bs : List β} :
    as.mapM f = .ok bs ↔ List.Forall₂ (fun a b => f a = .ok b) as bs := by
  induction as generalizing bs with
  | nil =>
    rw [List.mapM_nil, List.forall₂_nil_left_iff]
    exact ⟨fun h => (Except.ok.inj h).symm, fun h => congrArg Except.ok h.symm⟩
  | cons a as ih =>
    rw [List.mapM_cons, bind_eq_ok, List.forall₂_cons_left_iff]
    constructor
    · rintro ⟨b, first, h⟩
      obtain ⟨others, rest, same⟩ := bind_eq_ok.mp h
      exact ⟨b, others, first, ih.mp rest, (Except.ok.inj same).symm⟩
    · rintro ⟨b, others, first, rest, rfl⟩
      exact ⟨b, first, bind_eq_ok.mpr ⟨others, ih.mpr rest, rfl⟩⟩

/-! ### Values that are identifiers -/

/-- A value is converted to an identifier, which has one part for each member of the identity: a single one to the type of
the member, and a composite one is a list with a value for each member, which is converted to the type of the member. -/
inductive Identity.Converts : Identity → Value → Value → List Value → Prop where
  | single {p : Property} {value part : Value} (converted : p.type.convert value = .ok part) :
    Converts (.single p) value part [part]
  | composite {members : List Property} {values parts : List Value} (length : values.length = members.length)
    (each : List.Forall₂ (fun entry part => entry.1.type.convert entry.2 = .ok part) (members.zip values) parts) :
    Converts (.composite members) (.list values) (.list parts) parts

theorem Identity.Converts.length_parts {identity : Identity} {value converted : Value} {parts : List Value}
    (h : identity.Converts value converted parts) : parts.length = identity.members.length := by
  cases h with
  | single converted => rfl
  | composite length each =>
    rw [← each.length_eq, List.length_zip, length, Nat.min_self]
    rfl

namespace EntityAccess

variable {access : EntityAccess}

theorem converted_eq_ok_iff {name : String} {type : DataType} {value part : Value} :
    access.converted name type value = .ok part ↔ type.convert value = .ok part := by
  rw [converted]
  split
  next found => simp [found]
  next failed => simp [failed]

/-- Values that are not one for each member are let through as they are. -/
theorem convertedMembers_eq_ok_iff {members : List Property} {values parts : List Value}
    (identity : access.identity = .composite members) :
    access.convertedMembers values = .ok parts ∧ parts.length = members.length ↔
      values.length = members.length ∧
        List.Forall₂ (fun entry part => entry.1.type.convert entry.2 = .ok part) (members.zip values) parts := by
  rw [convertedMembers, identity]
  dsimp only
  split
  next even =>
    simp only [mapM_eq_ok_iff, converted_eq_ok_iff]
    exact ⟨fun h => ⟨even.symm, h.1⟩, fun h => ⟨h.2, (Identity.Converts.composite h.1 h.2).length_parts⟩⟩
  next uneven =>
    constructor
    · rintro ⟨⟨⟩, length⟩
      exact absurd length.symm uneven
    · intro h
      exact absurd h.1.symm uneven

end EntityAccess

/-! ### Identifiers that are taken apart -/

/-- Accessors have the form of an identity: a single one has the type of its member, and a composite one as many
members. -/
inductive IdentityAccess.Of : Identity → IdentityAccess → Prop where
  | single {p : Property} {member : IdentifierAccess} (type : member.type = p.type) : Of (.single p) (.single member)
  | composite {ps : List Property} {members : List IdentifierAccess} (length : members.length = ps.length) :
    Of (.composite ps) (.composite members)

/-- Each member is compiled in its place. -/
theorem Reflector.of_compileIdentity {hierarchy : List Class} {entity : String} {identity : Identity}
    {compiled : IdentityAccess} (h : compileIdentity hierarchy entity identity = .ok compiled) :
    IdentityAccess.Of identity compiled ∧
      List.Forall₂ (fun p member => compileIdentifier hierarchy entity p = .ok member) identity.members
        compiled.members := by
  cases identity with
  | single p =>
    obtain ⟨member, found, same⟩ := bind_eq_ok.mp h
    cases same
    refine ⟨?_, .cons found .nil⟩
    obtain ⟨pair, resolved, found⟩ := bind_eq_ok.mp found
    cases found
    exact .single rfl
  | composite ps =>
    obtain ⟨members, found, same⟩ := bind_eq_ok.mp h
    cases same
    have each := mapM_eq_ok_iff.mp found
    exact ⟨.composite each.length_eq.symm, each⟩

namespace EntityAccess

open Reflector

variable {access : EntityAccess} {value converted : Value} {parts : List Value} {obj : Instance}
  (compiled : IdentityAccess.Of access.identity access.reflector.identity)
include compiled

/-- What is converted to an identifier is taken apart into its parts. -/
theorem paired_of_converts (h : access.identity.Converts value converted parts) :
    access.convertedIdentifier value = .ok converted ∧
      access.reflector.pairedIdentifier converted = .ok (access.reflector.identity.members.zip parts) := by
  unfold convertedIdentifier pairedIdentifier
  generalize declared : access.identity = identity at compiled h
  generalize access.reflector.identity = accessors at compiled
  cases compiled with
  | single type =>
    cases h with
    | single h => exact ⟨converted_eq_ok_iff.mpr (by rw [type, h]), rfl⟩
  | composite length =>
    cases h with
    | composite even each =>
      obtain ⟨partwise, count⟩ := (convertedMembers_eq_ok_iff declared).mpr ⟨even, each⟩
      refine ⟨map_eq_ok.mpr ⟨_, partwise, rfl⟩, ?_⟩
      dsimp only [pairedMembers]
      rw [if_pos (count.trans length.symm)]
      rfl

/-- Only what is converted to an identifier can be taken apart. -/
theorem exists_converts {paired : List (IdentifierAccess × Value)}
    (found : access.convertedIdentifier value = .ok converted)
    (taken : access.reflector.pairedIdentifier converted = .ok paired) :
    ∃ parts, access.identity.Converts value converted parts := by
  unfold convertedIdentifier at found
  unfold pairedIdentifier at taken
  generalize declared : access.identity = identity at compiled ⊢
  generalize access.reflector.identity = accessors at compiled found taken
  cases compiled with
  | @single p member type =>
    have found : p.type.convert value = .ok converted := by rw [← type, ← converted_eq_ok_iff, ← found]
    exact ⟨_, .single found⟩
  | @composite ps members length =>
    cases value with
    | list values =>
      obtain ⟨parts, partwise, rfl⟩ := map_eq_ok.mp found
      dsimp only [pairedMembers] at taken
      split at taken
      next count =>
        obtain ⟨even, each⟩ := (convertedMembers_eq_ok_iff declared).mp ⟨partwise, count.trans length⟩
        exact ⟨parts, .composite even each⟩
      · cases taken
    | _ =>
      cases found
      cases taken

end EntityAccess

/-! ### Fields that are written one after the other -/

namespace Instance

variable {obj : Instance} {slots : List String} {parts : List Value}

/-- Writes values to slots, one after the other. -/
def setAll (obj : Instance) (entries : List (String × Value)) : Instance :=
  entries.foldl (fun obj entry => obj.set entry.1 entry.2) obj

theorem get?_setAll_of_notMem {entries : List (String × Value)} {other : String} (apart : other ∉ entries.map (·.1)) :
    Keyed.get? (obj.setAll entries).slots other = Keyed.get? obj.slots other := by
  induction entries generalizing obj with
  | nil => rfl
  | cons entry rest ih =>
    rw [List.map_cons, List.mem_cons, not_or] at apart
    exact (ih apart.2).trans (Instance.get?_set_of_ne _ _ apart.1)

/-- Slots that are all different hold what was written to them. -/
theorem map_get_setAll (distinct : slots.Nodup) (length : parts.length = slots.length) :
    slots.map (obj.setAll (slots.zip parts)).get = parts := by
  induction slots generalizing obj parts with
  | nil => exact (List.length_eq_zero_iff.mp length).symm
  | cons slot slots ih =>
    obtain ⟨part, parts, rfl⟩ := List.exists_cons_of_length_eq_add_one length
    have length : parts.length = slots.length := Nat.succ.inj length
    obtain ⟨apart, distinct⟩ := List.nodup_cons.mp distinct
    have first : ((obj.set slot part).setAll (slots.zip parts)).get slot = part := by
      rw [get, Slots.read, get?_setAll_of_notMem (by rwa [List.map_fst_zip (Nat.le_of_eq length.symm)]),
        get?_set_self, Option.getD_some]
    exact List.cons_eq_cons.mpr ⟨first, ih distinct length⟩

/-- What is done to the slots of one object in a chain leaves those of the others as they are. -/
theorem Slotwise.slots_along {α : Type} {f : Instance → α × Instance} (hf : Slotwise f) {m n : Nat} (hm : m ≤ obj.depth)
    (hn : n ≤ obj.depth) (ne : n ≠ m) : ((obj.mapAlong f m).2.along n).slots = (obj.along n).slots := by
  induction obj generalizing m n with
  | plain cls slots => exact absurd ((Nat.le_zero.mp hn).trans (Nat.le_zero.mp hm).symm) ne
  | proxy cls slots target ih =>
    cases m with
    | zero =>
      cases n with
      | zero => exact absurd rfl ne
      | succ n =>
        rw [mapAlong, hf (.proxy cls slots target)]
        rfl
    | succ m =>
      cases n with
      | zero => rfl
      | succ n => exact ih (Nat.le_of_succ_le_succ hm) (Nat.le_of_succ_le_succ hn) fun same => ne (congrArg _ same)

/-- Two changes at one place of a chain that is long enough are one. -/
theorem mapAlong_mapAlong {α β : Type} {f : Instance → α × Instance} {g : Instance → β × Instance} {n : Nat}
    (le : n ≤ obj.depth) : (obj.mapAlong f n).2.mapAlong g n = obj.mapAlong (fun target => g (f target).2) n := by
  induction n generalizing obj with
  | zero => rfl
  | succ n ih =>
    cases obj with
    | plain cls slots => cases le
    | proxy cls slots target =>
      simp only [mapAlong]
      rw [ih (Nat.le_of_succ_le_succ le)]

end Instance

namespace ProxyHandling

variable {α : Type} {handling : ProxyHandling} {obj : Instance}

theorem Resolves.unwrap_setAll (h : handling.Resolves) (entries : List (String × Value)) :
    handling.unwrap (handling.change (fun target => ((), target.setAll entries)) obj).2 =
      (handling.unwrap obj).setAll entries := by
  induction entries generalizing obj with
  | nil =>
    have same : handling.change (fun target => ((), target)) obj = ((), obj) := Instance.mapAlong_read (fun _ => ()) _ obj
    exact congrArg (fun changed => handling.unwrap changed.2) same
  | cons entry rest ih =>
    let left := (handling.change (fun target => ((), target.set entry.1 entry.2)) obj).2
    -- The rest is written where the first entry was, since the object is resolved as before.
    have place : (handling.writes left).val = (handling.writes obj).val := by
      rw [← h.one, h.steady, h.one]
    have onward : handling.change (fun target => ((), target.setAll (entry :: rest))) obj =
        handling.change (fun target => ((), target.setAll rest)) left := by
      rw [change, change, place]
      exact (Instance.mapAlong_mapAlong (f := fun target => ((), target.set entry.1 entry.2))
        (g := fun target => ((), target.setAll rest)) (Nat.le_of_lt_succ (handling.writes obj).isLt)).symm
    rw [onward, ih, h.unwrap_change rfl]
    rfl

/-- Several fields are written to the one object that is reached. -/
theorem Resolves.unwrap_change_setAll (h : handling.Resolves) {f : Instance → α × Instance}
    {entries : List (String × Value)} (writes : (f (handling.unwrap obj)).2 = (handling.unwrap obj).setAll entries) :
    handling.unwrap (handling.change f obj).2 = (handling.unwrap obj).setAll entries := by
  have same : (handling.change f obj).2 = (handling.change (fun target => ((), target.setAll entries)) obj).2 := by
    refine Instance.mapAlong_snd_congr ?_
    rw [← target, h.target_eq]
    exact writes
  rw [same, h.unwrap_setAll]

/-- Along a chain a slot stays as it is wherever the change does not reach it. -/
theorem get?_along_change {f : Instance → α × Instance} (hf : Instance.Slotwise f) {n : Nat} (le : n ≤ obj.depth)
    {other : String} (kept : n = (handling.writes obj).val →
      Keyed.get? (f (handling.target obj)).2.slots other = Keyed.get? (handling.target obj).slots other) :
    Keyed.get? ((handling.change f obj).2.along n).slots other = Keyed.get? (obj.along n).slots other := by
  have inside : (handling.writes obj).val ≤ obj.depth := Nat.le_of_lt_succ (handling.writes obj).isLt
  by_cases here : n = (handling.writes obj).val
  · rw [here, change, Instance.along_mapAlong f inside]
    exact kept here
  · rw [change, hf.slots_along inside le here]

end ProxyHandling

/-! ### Members with fields -/

/-- A member of an identity is read from a field and written to it. -/
def IdentifierAccess.At (member : IdentifierAccess) (slot : String) : Prop :=
  member.pair.reader.field? = some slot ∧ member.slot? = some slot

theorem PropertyReader.read_of_field? {reader : PropertyReader} {slot : String} {obj : Instance}
    (field : reader.field? = some slot) : reader.read obj = .ok (obj.get slot) := by
  cases reader with
  | field property slot' type kept =>
    cases field
    rfl
  | method property type getter => cases field

namespace Reflector

variable {r : Reflector} {hierarchy : List Class} {entity : String} {members : List IdentifierAccess} {slots : List String}
  {obj : Instance}

theorem readMembers_at (fields : List.Forall₂ IdentifierAccess.At members slots) :
    readMembers members obj = .ok (slots.map obj.get) := by
  rw [readMembers, mapM_eq_ok_iff, List.forall₂_map_right_iff]
  exact fields.imp fun member slot field => PropertyReader.read_of_field? field.1

theorem writeMembers_at (fields : List.Forall₂ IdentifierAccess.At members slots) (parts : List Value) :
    r.writeMembers (members.zip parts) obj = (.ok (), obj.setAll (slots.zip parts)) := by
  induction fields generalizing parts obj with
  | nil => rfl
  | cons field rest ih =>
    cases parts with
    | nil => rfl
    | cons part parts =>
      rw [List.zip_cons_cons, writeMembers_cons_field field.2, ih]
      rfl

theorem at_of_compileIdentifier {p : Property} {member : IdentifierAccess} {slot : String}
    (h : compileIdentifier hierarchy entity p = .ok member) (backs : Hierarchy.Backs hierarchy p.name slot) :
    member.At slot := by
  rw [compileIdentifier, AccessorPair.resolve_of_backs backs] at h
  cases h
  exact ⟨rfl, rfl⟩

/-- Members that have fields behind them are read from those and written to them. -/
theorem at_of_compileIdentity {identity : Identity} {compiled : IdentityAccess}
    (h : compileIdentity hierarchy entity identity = .ok compiled)
    (backs : List.Forall₂ (fun p slot => Hierarchy.Backs hierarchy p.name slot) identity.members slots) :
    List.Forall₂ IdentifierAccess.At compiled.members slots := by
  obtain ⟨-, each⟩ := of_compileIdentity h
  generalize compiled.members = members at each ⊢
  generalize identity.members = ps at backs each
  induction backs generalizing members with
  | nil =>
    cases each
    exact .nil
  | cons first rest ih =>
    cases each with
    | cons found others => exact .cons (at_of_compileIdentifier found first) (ih _ others)

end Reflector

/-! ### Reading an identifier that was set -/

/-- The identifier of an object is set just if the value is one for the identity, and any other value leaves the object as
it is. What was set reads back as it was converted, as a whole and by each member, and in all the objects of the chain no
slot changes but those of the members in the object that is reached. -/
structure EntityAccess.IdentifierRoundTrips (access : EntityAccess) (slots : List String) (value : Value)
    (obj : Instance) : Prop where
  succeeds : (access.setIdentifier value obj).1 = .ok () ↔
    ∃ converted parts, access.identity.Converts value converted parts
  refused : (¬∃ converted parts, access.identity.Converts value converted parts) →
    ∃ fault, access.setIdentifier value obj = (.error fault, obj)
  written : access.reflector.handling.Resolves → ∀ converted parts, access.identity.Converts value converted parts →
    ∃ left, access.setIdentifier value obj = (.ok (), left) ∧ access.identifier left = .ok converted ∧
      List.Forall₂ (fun p part => access.getProperty p.name left = .ok part) access.identity.members parts ∧
      ∀ n ≤ obj.depth, ∀ other, (n = (access.reflector.handling.reads obj).val → other ∉ slots) →
        Keyed.get? (left.along n).slots other = Keyed.get? (obj.along n).slots other

namespace EntityAccess

variable {access : EntityAccess} {slots : List String} {value converted : Value} {parts : List Value} {obj : Instance}

section Set
variable (compiled : IdentityAccess.Of access.identity access.reflector.identity)
include compiled

theorem setIdentifier_of_converts (h : access.identity.Converts value converted parts) :
    access.setIdentifier value obj = access.reflector.handling.change
      (access.reflector.writeMembers (access.reflector.identity.members.zip parts)) obj := by
  obtain ⟨found, taken⟩ := paired_of_converts compiled h
  rw [setIdentifier, found]
  dsimp only
  rw [Reflector.setIdentifier, taken]

/-- A value that is no identifier is refused by the conversion or when it is taken apart, before anything is written. -/
theorem setIdentifier_refused (h : ¬∃ converted parts, access.identity.Converts value converted parts) :
    ∃ fault, access.setIdentifier value obj = (.error fault, obj) := by
  rw [setIdentifier]
  cases found : access.convertedIdentifier value with
  | error fault => exact ⟨fault, rfl⟩
  | ok converted =>
    dsimp only
    rw [Reflector.setIdentifier]
    cases taken : access.reflector.pairedIdentifier converted with
    | error fault => exact ⟨fault, rfl⟩
    | ok paired => exact absurd ⟨converted, exists_converts compiled found taken⟩ h

end Set

/-- An object whose fields hold the parts of an identifier has that identifier. -/
theorem identifier_eq_ok (compiled : IdentityAccess.Of access.identity access.reflector.identity)
    (fields : List.Forall₂ IdentifierAccess.At access.reflector.identity.members slots)
    (held : slots.map (access.reflector.handling.unwrap obj).get = parts)
    (h : access.identity.Converts value converted parts) : access.identifier obj = .ok converted := by
  rw [identifier]
  unfold Reflector.getIdentifier
  generalize access.identity = identity at compiled h
  generalize access.reflector.identity = accessors at compiled fields
  cases compiled with
  | single type =>
    obtain ⟨slot, rest, field, ⟨⟩, rfl⟩ := List.forall₂_cons_left_iff.mp fields
    cases h with
    | single h =>
      rw [← List.singleton_inj.mp held]
      exact PropertyReader.read_of_field? field.1
  | composite length =>
    cases h with
    | composite even each =>
      rw [← held]
      exact map_eq_ok.mpr ⟨_, Reflector.readMembers_at fields, rfl⟩

theorem identifierRoundTrips {hierarchy : List Class}
    (compiled : IdentityAccess.Of access.identity access.reflector.identity)
    (fields : List.Forall₂ IdentifierAccess.At access.reflector.identity.members slots)
    (reached : List.Forall₂ (fun p slot => access.reflector.pair p.name = .ok (AccessorPair.ofField hierarchy p slot))
      access.identity.members slots)
    (distinct : slots.Nodup) (value : Value) (obj : Instance) : access.IdentifierRoundTrips slots value obj := by
  have written (parts : List Value) (target : Instance) :
      access.reflector.writeMembers (access.reflector.identity.members.zip parts) target =
        (.ok (), target.setAll (slots.zip parts)) := Reflector.writeMembers_at fields parts
  have set {converted : Value} {parts : List Value} (h : access.identity.Converts value converted parts) :
      (access.setIdentifier value obj).1 = .ok () := by
    rw [setIdentifier_of_converts compiled h, ProxyHandling.fst_change, written]
  refine ⟨⟨fun ok => ?_, fun ⟨converted, parts, h⟩ => set h⟩, setIdentifier_refused compiled, ?_⟩
  · by_contra unconverted
    obtain ⟨fault, failed⟩ : ∃ fault, access.setIdentifier value obj = (.error fault, obj) :=
      setIdentifier_refused compiled unconverted
    rw [failed] at ok
    cases ok
  · intro resolves converted parts h
    have left : access.reflector.handling.unwrap (access.setIdentifier value obj).2 =
        (access.reflector.handling.unwrap obj).setAll (slots.zip parts) := by
      rw [setIdentifier_of_converts compiled h]
      exact resolves.unwrap_change_setAll (congrArg Prod.snd (written parts _))
    have held : slots.map (access.reflector.handling.unwrap (access.setIdentifier value obj).2).get = parts := by
      rw [left]
      exact Instance.map_get_setAll distinct (h.length_parts.trans reached.length_eq)
    refine ⟨(access.setIdentifier value obj).2, Prod.ext (set h) rfl, identifier_eq_ok compiled fields held h, ?_, ?_⟩
    · rw [← held, List.forall₂_map_right_iff]
      exact reached.imp fun p slot found => Reflector.getProperty_ofField found
    · intro n le other apart
      rw [setIdentifier_of_converts compiled h]
      refine ProxyHandling.get?_along_change (Reflector.slotwise_writeMembers _) le fun here => ?_
      have notIn : other ∉ (slots.zip parts).map (·.1) := by
        rw [List.map_fst_zip (Nat.le_of_eq (h.length_parts.trans reached.length_eq).symm)]
        exact apart (here.trans (resolves.one obj).symm)
      rw [written, Instance.get?_setAll_of_notMem notIn]

end EntityAccess

namespace Entity

/-- The identity of an entity is that of its accessors. Its members with a field of a hierarchy behind them are those that
are read from that field, and if all of them have fields of their own, then its identifiers read as they are set. -/
structure IdentifierRoundTrips (e : Entity) (hierarchy : List Class) (access : EntityAccess) : Prop where
  identity : e.identity? = some access.identity
  backed : ∀ p ∈ access.identity.members, ∀ slot, Hierarchy.Backs hierarchy p.name slot ↔
    ∃ reader, access.reflector.reader p.name = .ok reader ∧ reader.field? = some slot
  set : ∀ slots, List.Forall₂ (fun p slot => Hierarchy.Backs hierarchy p.name slot) access.identity.members slots →
    slots.Nodup → ∀ value obj, access.IdentifierRoundTrips slots value obj

theorem identifierRoundTrips_of_compiledFor {cls : Class} {model : EntityModel} {hierarchy : List Class}
    (h : model.reflector.CompiledFor hierarchy model.layout) :
    Entity.IdentifierRoundTrips { cls, phase := .ready model } hierarchy
      ⟨cls.name, model.layout.identity, model.reflector⟩ where
  identity := rfl
  backed p hp := (roundTrips_of_compiledFor h).backed p (.inr ⟨_, rfl, hp⟩)
  set slots backs distinct := by
    have compiled := h.assembled.identity
    have reached : List.Forall₂ (fun p slot => model.reflector.pair p.name = .ok (AccessorPair.ofField hierarchy p slot))
        model.layout.identity.members slots := by
      refine ((List.forall₂_and_left _ _).mpr ⟨fun p hp => hp, backs⟩).imp fun p slot ⟨hp, backs⟩ => ?_
      obtain ⟨pair, found, resolved⟩ := h.pair_eq_ok (List.mem_append_right _ hp)
      cases (AccessorPair.resolve_of_backs backs).symm.trans resolved
      exact found
    exact EntityAccess.identifierRoundTrips (Reflector.of_compileIdentity compiled).1
      (Reflector.at_of_compileIdentity compiled backs) reached distinct

end Entity

namespace Workspace

/-- Whatever contexts there are and whatever caches they share, the identifiers of an entity that has its model read as
they are set, if the hierarchy that the model was built of has a field of its own for each member of the identity. -/
theorem ReachedWith.identifier_roundTrips {described : Class → Prop} {ws : Workspace} {id : Nat} {ctx : Context}
    {name : String} {e : Entity} (told : ToldApart described) (reached : ws.ReachedWith described)
    (hctx : ws.context? id = some ctx) (he : ctx.entity? name = some e) (ready : e.isInitialized = true) :
    ∃ (origin : Context) (hierarchy : List Class) (access : EntityAccess), origin.settings = ctx.settings ∧
      origin.strategy = ctx.strategy ∧ origin.hierarchy e.name = .ok hierarchy ∧ (∀ cls ∈ hierarchy, described cls) ∧
      e.access = .ok access ∧ e.IdentifierRoundTrips hierarchy access := by
  exact reached.of_compiledFor told hctx he ready fun _ _ _ => Entity.identifierRoundTrips_of_compiledFor

/-- The shelf is a field of the class itself, and the number comes along with a trait of the superclass. The identifier is
set through a proxy. -/
theorem ReachedWith.identifier_roundTrips_composite :
    let item : Class := Class.addTraitProperty { stamp := 1, name := "Item" } "app.Numbered" "number" .long
    let book : Class :=
      { stamp := 2, name := "Book", superclass := some "Item", isEntity := true
        mapping := some { identifier := some { names := ["shelf", "number"] } }
        fields := [{ name := "shelf", type := .text }] }
    let opened : Workspace := ({} : Workspace).openContext 0 "c" {}
    let ws := ((opened.run 0 (Call.register item).perform).2.2.run 0 (Call.add book).perform).2.2
    let obj : Instance := .plain book [("title", .text "t")]
    ∃ (ctx : Context) (e : Entity) (access : EntityAccess) (left : Instance), ws.context? 0 = some ctx ∧
      ctx.entity? "Book" = some e ∧ e.access = .ok access ∧
      access.setIdentifier (.list [.text "a", .text "120"]) (.proxied obj) = (.ok (), left) ∧
      access.identifier left = .ok (.list [.text "a", .integer 120]) ∧
      access.getProperty "shelf" left = .ok (.text "a") ∧ access.getProperty "number" left = .ok (.integer 120) ∧
      (∀ other, Keyed.get? left.slots other = none) ∧ ∀ other ∉ ["shelf", "app_Numbered__number"],
        Keyed.get? (left.along 1).slots other = Keyed.get? obj.slots other := by
  intro item book opened ws obj
  have shown : ((ws.context? 0).bind fun ctx => (ctx.entity? "Book").bind fun e => e.access.toOption.map fun access =>
        (e.isInitialized, access.identity.composite?.map (·.map fun p => (p.name, p.type)),
          (access.reflector.reader "shelf").toOption.map (·.field?),
          (access.reflector.reader "number").toOption.map (·.field?), access.reflector.handling)) =
      some (true, some [("shelf", .text), ("number", .long)], some (some "shelf"),
        some (some "app_Numbered__number"), .transparent) := by
    revert item book opened ws obj
    rfl
  obtain ⟨ctx, hctx, shown⟩ := Option.bind_eq_some_iff.mp shown
  obtain ⟨e, he, shown⟩ := Option.bind_eq_some_iff.mp shown
  obtain ⟨access, accessed, shown⟩ := Option.map_eq_some_iff.mp shown
  simp only [Prod.mk.injEq] at shown
  obtain ⟨ready, composite, shelfRead, numberRead, handling⟩ := shown
  have told : ToldApart fun cls => cls = item ∨ cls = book := .pair (by decide)
  have begun : opened.ReachedWith fun cls => cls = item ∨ cls = book := .opened .start 0 "c" {} {} .transparent
  have registered := begun.called 0 (.register item) fun cls brought => Or.inl (Option.some.inj brought).symm
  have reached := registered.called 0 (.add book) fun cls brought => Or.inr (Option.some.inj brought).symm
  obtain ⟨origin, hierarchy, access', -, -, -, -, accessed', trips⟩ :=
    ReachedWith.identifier_roundTrips told reached hctx he ready
  cases (toOption_eq_some.mp accessed).symm.trans accessed'
  obtain ⟨shelf, number, identity, named, typed⟩ : ∃ p q, access.identity = .composite [p, q] ∧
      (p.name = "shelf" ∧ q.name = "number") ∧ p.type = .text ∧ q.type = .long := by
    cases identity : access.identity with
    | single p =>
      rw [identity] at composite
      cases composite
    | composite members =>
      rw [identity] at composite
      obtain ⟨p, rest, rfl, first, others⟩ := List.map_eq_cons_iff.mp (Option.some.inj composite)
      obtain ⟨q, rfl, second⟩ := List.map_eq_singleton_iff.mp others
      simp only [Prod.mk.injEq] at first second
      exact ⟨p, q, rfl, ⟨first.1, second.1⟩, first.2, second.2⟩
  have backed (p : Property) (hp : p ∈ access.identity.members) (slot : String)
      (read : (access.reflector.reader p.name).toOption.map (·.field?) = some (some slot)) :
      Hierarchy.Backs hierarchy p.name slot := by
    obtain ⟨reader, found, field⟩ := Option.map_eq_some_iff.mp read
    exact (trips.backed p hp slot).mpr ⟨reader, toOption_eq_some.mp found, field⟩
  have backs : List.Forall₂ (fun p slot => Hierarchy.Backs hierarchy p.name slot) access.identity.members
      ["shelf", "app_Numbered__number"] := by
    have first := backed shelf (by rw [identity]; exact List.mem_cons_self) "shelf" (by rw [named.1, shelfRead])
    have second := backed number (by rw [identity]; exact List.mem_cons_of_mem _ (List.mem_singleton_self _))
      "app_Numbered__number" (by rw [named.2, numberRead])
    rw [identity]
    exact .cons first (.cons second .nil)
  have resolves : access.reflector.handling.Resolves := by
    rw [handling]
    exact ProxyHandling.resolves_transparent
  have converts : access.identity.Converts (.list [.text "a", .text "120"]) (.list [.text "a", .integer 120])
      [.text "a", .integer 120] := by
    rw [identity]
    refine .composite rfl (.cons ?_ (.cons ?_ .nil))
    · rw [typed.1]
      rfl
    · rw [typed.2]
      rfl
  obtain ⟨left, set, back, parts, kept⟩ := (trips.set _ backs (by decide) (.list [.text "a", .text "120"])
    (.proxied obj)).written resolves _ _ converts
  rw [identity] at parts
  obtain ⟨shelfIs, rest⟩ := List.forall₂_cons.mp parts
  obtain ⟨numberIs, -⟩ := List.forall₂_cons.mp rest
  rw [named.1] at shelfIs
  rw [named.2] at numberIs
  refine ⟨ctx, e, access, left, hctx, he, accessed', set, back, shelfIs, numberIs, fun other => ?_, fun other apart => ?_⟩
  · refine kept 0 (Nat.zero_le _) other fun zero => ?_
    rw [handling] at zero
    cases zero
  · exact kept 1 (Nat.le_refl 1) other fun _ => apart

end Workspace
end Persistence
