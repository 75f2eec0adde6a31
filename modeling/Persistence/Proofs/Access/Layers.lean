import Persistence.Access.EntityAccess
import Persistence.Metamodel.Initialization
import Persistence.Proofs.Access.Handled
import Persistence.Proofs.Metamodel.Action
import Persistence.Proofs.Outcome

/-! Proxies that nobody sees. Where the handling of proxies goes to the end of a chain, all that is done to an object is
    done to the one at its end, be it by one step or by several; so it comes to the same behind any number of proxies,
    and no slot of a proxy is ever written. -/

namespace Persistence

namespace Instance

variable {α β : Type} {obj inner : Instance}

/-! ### Chains of proxies -/

/-- The object behind so many proxies. -/
def layered (obj : Instance) : Nat → Instance
  | 0 => obj
  | n + 1 => (obj.layered n).proxied

/-- The proxies of a chain, each by its class and its slots. -/
def layers : Instance → List (Outline × Slots)
  | .plain _ _ => []
  | .proxy cls slots target => (cls, slots) :: target.layers

/-- The object at the end of a chain. -/
def innermost : Instance → Instance
  | .plain cls slots => .plain cls slots
  | .proxy _ _ target => target.innermost

/-- The chain with another object at its end. -/
def withInnermost : Instance → Instance → Instance
  | .plain _ _, inner => inner
  | .proxy cls slots target, inner => .proxy cls slots (target.withInnermost inner)

theorem exists_innermost_eq (obj : Instance) : ∃ cls slots, obj.innermost = .plain cls slots := by
  induction obj with
  | plain cls slots => exact ⟨cls, slots, rfl⟩
  | proxy cls slots target ih => exact ih

theorem isProxy_innermost (obj : Instance) : obj.innermost.isProxy = false := by
  obtain ⟨cls, slots, plain⟩ := exists_innermost_eq obj
  rw [plain]
  rfl

theorem innermost_innermost (obj : Instance) : obj.innermost.innermost = obj.innermost := by
  induction obj with
  | plain cls slots => rfl
  | proxy cls slots target ih => exact ih

theorem innermost_layered (obj : Instance) (n : Nat) : (obj.layered n).innermost = obj.innermost := by
  induction n with
  | zero => rfl
  | succ n ih => exact ih

theorem cls_layered (obj : Instance) (n : Nat) : (obj.layered n).cls = obj.cls := by
  induction n with
  | zero => rfl
  | succ n ih => exact ih

theorem along_depth (obj : Instance) : obj.along obj.depth = obj.innermost := by
  induction obj with
  | plain cls slots => rfl
  | proxy cls slots target ih => exact ih

theorem mapAlong_depth (f : Instance → α × Instance) (obj : Instance) :
    obj.mapAlong f obj.depth = ((f obj.innermost).1, obj.withInnermost (f obj.innermost).2) := by
  induction obj with
  | plain cls slots => rfl
  | proxy cls slots target ih =>
    rw [depth, mapAlong, ih]
    rfl

theorem withInnermost_innermost (obj : Instance) : obj.withInnermost obj.innermost = obj := by
  induction obj with
  | plain cls slots => rfl
  | proxy cls slots target ih => exact congrArg (Instance.proxy cls slots) ih

section Exchange
variable (obj) {cls : Outline} {slots : Slots}

theorem innermost_withInnermost : (obj.withInnermost (.plain cls slots)).innermost = .plain cls slots := by
  induction obj with
  | plain _ _ => rfl
  | proxy _ _ target ih => exact ih

theorem withInnermost_withInnermost :
    (obj.withInnermost (.plain cls slots)).withInnermost inner = obj.withInnermost inner := by
  induction obj with
  | plain _ _ => rfl
  | proxy above held target ih => exact congrArg (Instance.proxy above held) ih

theorem layers_withInnermost : (obj.withInnermost (.plain cls slots)).layers = obj.layers := by
  induction obj with
  | plain _ _ => rfl
  | proxy above held target ih => exact congrArg ((above, held) :: ·) ih

end Exchange

theorem cls_withInnermost (same : inner.cls = obj.innermost.cls) : (obj.withInnermost inner).cls = obj.cls := by
  cases obj with
  | plain cls slots => exact same
  | proxy cls slots target => rfl

theorem withInnermost_layered (same : (obj.withInnermost inner).cls = obj.cls) (n : Nat) :
    (obj.layered n).withInnermost inner = (obj.withInnermost inner).layered n := by
  induction n with
  | zero => rfl
  | succ n ih =>
    have above : (obj.layered n).cls = ((obj.withInnermost inner).layered n).cls := by
      rw [cls_layered, cls_layered, same]
    rw [layered, proxied, withInnermost, ih, layered, proxied, above]

/-! ### What goes to the end of a chain -/

/-- Whatever is done to an object is done to the one at the end of its chain, which stays an object of its class. -/
structure Inward (f : Instance → α × Instance) : Prop where
  reaches : ∀ obj, f obj = ((f obj.innermost).1, obj.withInnermost (f obj.innermost).2)
  keeps : ∀ cls slots, ∃ left, (f (.plain cls slots)).2 = .plain cls left

/-- Proxies make no difference to what is done, and it leaves them as they are. -/
structure SeesThrough (f : Instance → α × Instance) : Prop where
  layered : ∀ n obj, f (obj.layered n) = ((f obj).1, (f obj).2.layered n)
  layers : ∀ obj, (f obj).2.layers = obj.layers

namespace Inward

theorem seesThrough {f : Instance → α × Instance} (hf : Inward f) : SeesThrough f where
  layered n obj := by
    obtain ⟨cls, slots, plain⟩ := exists_innermost_eq obj
    obtain ⟨left, kept⟩ := hf.keeps cls slots
    have same : (obj.withInnermost (.plain cls left)).cls = obj.cls := cls_withInnermost (by rw [plain]; rfl)
    rw [hf.reaches (obj.layered n), hf.reaches obj, innermost_layered, plain, kept, withInnermost_layered same]
  layers obj := by
    obtain ⟨cls, slots, plain⟩ := exists_innermost_eq obj
    obtain ⟨left, kept⟩ := hf.keeps cls slots
    rw [hf.reaches obj, plain, kept, layers_withInnermost]

theorem read {g : Instance → α} (hg : ∀ obj, g obj = g obj.innermost) : Inward fun obj => (g obj, obj) where
  reaches obj := by rw [← hg, withInnermost_innermost]
  keeps cls slots := ⟨slots, rfl⟩

theorem map {f : Instance → α × Instance} (hf : Inward f) (g : α → β) : Inward fun obj => Prod.map g id (f obj) where
  reaches obj := by
    rw [hf.reaches obj]
    rfl
  keeps := hf.keeps

/-- A second step, which may depend on what comes of the first one. -/
theorem bind {f : Instance → α × Instance} {g : α → Instance → β × Instance} (hf : Inward f) (hg : ∀ a, Inward (g a)) :
    Inward fun obj => g (f obj).1 (f obj).2 where
  reaches obj := by
    obtain ⟨cls, slots, plain⟩ := exists_innermost_eq obj
    obtain ⟨left, kept⟩ := hf.keeps cls slots
    rw [hf.reaches obj, plain, kept, (hg _).reaches, innermost_withInnermost, withInnermost_withInnermost]
  keeps cls slots := by
    obtain ⟨left, kept⟩ := hf.keeps cls slots
    rw [kept]
    exact (hg _).keeps cls left

theorem change {f : Instance → α × Instance} (hf : Slotwise f) : Inward (ProxyHandling.transparent.change f) where
  reaches obj := by
    obtain ⟨cls, slots, plain⟩ := exists_innermost_eq obj
    have ends : ProxyHandling.transparent.change f obj.innermost = f obj.innermost := by
      rw [plain]
      rfl
    rw [ends]
    exact mapAlong_depth f obj
  keeps cls slots := ⟨(f (.plain cls slots)).2.slots, hf (.plain cls slots)⟩

end Inward

end Instance

open Instance

theorem ProxyHandling.unwrap_transparent (obj : Instance) : transparent.unwrap obj = obj.innermost := along_depth obj

/-! ### Accesses through proxies -/

namespace Reflector

variable {α : Type} {r : Reflector} (handled : r.handling = .transparent)
include handled

theorem inward_read (g : Instance → α) : Inward fun obj => (g (r.handling.unwrap obj), obj) :=
  .read fun obj => by
    rw [handled, ProxyHandling.unwrap_transparent, ProxyHandling.unwrap_transparent, innermost_innermost]

/-- A change of slots that goes where the handling goes. -/
theorem inward_of_eq_change {f g : Instance → α × Instance} (goes : ∀ obj, f obj = r.handling.change g obj)
    (slots : Slotwise g) : Inward f := by
  have inside : f = r.handling.change g := funext goes
  rw [inside, handled]
  exact .change slots

theorem inward_writeBy (found : Except Fault PropertyWriter) (value : Value) : Inward (r.writeBy found value) :=
  inward_of_eq_change handled (fun _ => writeBy_eq_change found) (slotwise_writeBy found)

theorem inward_setIdentifier (value : Value) : Inward (r.setIdentifier value) :=
  inward_of_eq_change handled (fun _ => setIdentifier_eq_change) slotwise_setIdentifier

theorem inward_markChanged (property : String) (previous : Value) : Inward (r.markChanged property previous) :=
  inward_of_eq_change handled (fun _ => markChanged_eq_change property) (slotwise_markChanged property)

theorem inward_access (a : Access) : Inward fun obj => r.access obj a := by
  cases a with
  | read name => exact inward_read handled fun target => AccessAnswer.value (r.bare.getProperty name target)
  | readAt index => exact inward_read handled fun target => AccessAnswer.value (r.bare.getPropertyAt index target)
  | write name value => exact (inward_writeBy handled (r.writer name) value).map AccessAnswer.outcome
  | writeAt index value => exact (inward_writeBy handled (r.writerAt index) value).map AccessAnswer.outcome
  | identifier => exact inward_read handled fun target => AccessAnswer.value (r.bare.getIdentifier target)
  | members => exact inward_read handled fun target => AccessAnswer.members (r.bare.compositeIdentifier target)
  | identify value => exact (inward_setIdentifier handled value).map AccessAnswer.outcome
  | changes => exact inward_read handled fun target => AccessAnswer.changes (r.bare.changes? target)
  | mark property previous => exact (inward_markChanged handled property previous).map AccessAnswer.marked

end Reflector

namespace EntityAccess

variable {access : EntityAccess}

/-- The end of a write: the change is recorded if there is one, and the value is written. -/
def writePrepared (access : EntityAccess) (name : String) : Except Fault (Value × Value) → Instance →
    Except Fault Unit × Instance
  | .error fault, obj => (.error fault, obj)
  | .ok (previous, converted), obj =>
    access.reflector.setProperty name converted
      (if previous.alike converted then obj else (access.reflector.markChanged name previous obj).2)

theorem setProperty_eq (name : String) (value : Value) (obj : Instance) :
    access.setProperty name value obj = access.writePrepared name (access.preparedWrite name value obj) obj := by
  rw [setProperty]
  cases access.preparedWrite name value obj <;> rfl

section Transparent
variable (handled : access.reflector.handling = .transparent)
include handled

theorem inward_writePrepared (name : String) (prepared : Except Fault (Value × Value)) :
    Inward (access.writePrepared name prepared) := by
  have write (value : Value) : Inward (access.reflector.setProperty name value) :=
    Reflector.inward_writeBy handled (access.reflector.writer name) value
  cases prepared with
  | error fault => exact .read fun _ => rfl
  | ok prepared =>
    obtain ⟨previous, converted⟩ := prepared
    have run : access.writePrepared name (.ok (previous, converted)) = fun obj =>
      access.reflector.setProperty name converted
        (if previous.alike converted then obj else (access.reflector.markChanged name previous obj).2) := rfl
    rw [run]
    cases previous.alike converted with
    | true => exact write converted
    | false => exact (Reflector.inward_markChanged handled name previous).bind fun _ => write converted

theorem inward_setProperty (name : String) (value : Value) : Inward (access.setProperty name value) := by
  have held (obj : Instance) :
      access.reflector.getProperty name obj = access.reflector.getProperty name obj.innermost :=
    congrArg Prod.fst ((Reflector.inward_read handled (access.reflector.bare.getProperty name)).reaches obj)
  have prepared (obj : Instance) :
      access.preparedWrite name value obj = access.preparedWrite name value obj.innermost := by
    rw [preparedWrite, held, ← preparedWrite]
  have run : access.setProperty name value = fun obj =>
      access.writePrepared name (access.preparedWrite name value obj) obj := funext (setProperty_eq name value)
  rw [run]
  exact (Inward.read prepared).bind (inward_writePrepared handled name)

theorem inward_setIdentifier (value : Value) : Inward (access.setIdentifier value) := by
  change Inward fun obj => access.setIdentifier value obj
  unfold setIdentifier
  cases access.convertedIdentifier value with
  | error fault => exact .read fun _ => rfl
  | ok converted => exact Reflector.inward_setIdentifier handled converted

end Transparent

/-- Nothing that is done through an access shows the proxies before an object. -/
structure SeesThrough (access : EntityAccess) : Prop where
  reflector : ∀ a, Instance.SeesThrough fun obj => access.reflector.access obj a
  getProperty : ∀ name, Instance.SeesThrough fun obj => (access.getProperty name obj, obj)
  setProperty : ∀ name value, Instance.SeesThrough (access.setProperty name value)
  setPropertyUnconverted : ∀ name value, Instance.SeesThrough (access.setPropertyUnconverted name value)
  identifier : Instance.SeesThrough fun obj => (access.identifier obj, obj)
  setIdentifier : ∀ value, Instance.SeesThrough (access.setIdentifier value)
  setIdentifierUnconverted : ∀ value, Instance.SeesThrough (access.setIdentifierUnconverted value)
  changes? : Instance.SeesThrough fun obj => (access.changes? obj, obj)
  isChanged : ∀ name, Instance.SeesThrough fun obj => (access.isChanged name obj, obj)

theorem seesThrough (handled : access.reflector.handling = .transparent) : access.SeesThrough where
  reflector a := (Reflector.inward_access handled a).seesThrough
  getProperty name := (Reflector.inward_read handled (access.reflector.bare.getProperty name)).seesThrough
  setProperty name value := (inward_setProperty handled name value).seesThrough
  setPropertyUnconverted name value :=
    (Reflector.inward_writeBy handled (access.reflector.writer name) value).seesThrough
  identifier := (Reflector.inward_read handled access.reflector.bare.getIdentifier).seesThrough
  setIdentifier value := (inward_setIdentifier handled value).seesThrough
  setIdentifierUnconverted value := (Reflector.inward_setIdentifier handled value).seesThrough
  changes? := (Reflector.inward_read handled access.reflector.bare.changes?).seesThrough
  isChanged name :=
    (Reflector.inward_read handled
      (EntityAccess.isChanged { access with reflector := access.reflector.bare } name)).seesThrough

end EntityAccess

/-! ### Entities of objects behind proxies -/

theorem Context.isInstance_layered {ctx : Context} (handled : ctx.handling = .transparent) (e : Entity) (n : Nat)
    (obj : Instance) : ctx.isInstance e (obj.layered n) = ctx.isInstance e obj := by
  simp only [isInstance, handled, ProxyHandling.unwrap_transparent, innermost_layered]

theorem Action.run_accessTo_layered {σ : Site} (handled : σ.context.handling = .transparent) (n : Nat)
    (obj : Instance) : σ.run (accessTo (obj.layered n)) = σ.run (accessTo obj) := by
  simp only [accessTo, Site.run_bind, Action.run_ask, handled, ProxyHandling.unwrap_transparent, innermost_layered]

/-- Where proxies are handled by going to the end of the chain, nobody sees them: not who reads or writes through the
accessors of an entity, converting or not, nor who asks for the entity. Reading and writing end up at the same object,
which is no proxy, and no slot of a proxy is written. -/
theorem EntityAccess.seesThrough_transparent {access : EntityAccess} {σ : Site}
    (handled : access.reflector.handling = .transparent) (context : σ.context.handling = .transparent) :
    access.SeesThrough ∧
    (∀ e n obj, σ.context.isInstance e (obj.layered n) = σ.context.isInstance e obj) ∧
    (∀ n obj, σ.run (Action.accessTo (obj.layered n)) = σ.run (Action.accessTo obj)) ∧
    ∀ obj, access.reflector.handling.unwrap obj = obj.innermost ∧ obj.innermost.isProxy = false ∧
      ∀ (α : Type) (f : Instance → α × Instance), access.reflector.handling.change f obj =
        ((f obj.innermost).1, obj.withInnermost (f obj.innermost).2) := by
  refine ⟨seesThrough handled, Context.isInstance_layered context, Action.run_accessTo_layered context, fun obj => ?_⟩
  rw [handled]
  exact ⟨ProxyHandling.unwrap_transparent obj, isProxy_innermost obj, fun α f => mapAlong_depth f obj⟩

/-- Behind two proxies the pages of a book are written from a text and recorded as changed, as they are without them. -/
theorem EntityAccess.seesThrough_transparent_twice :
    let book : Class := Class.trackChanges
      { stamp := 1, name := "Book", isEntity := true
        fields := [{ name := "id", type := .long }, { name := "pages", type := .long }] }
    let σ : Site := (({} : Site).run (Action.add book)).2
    let obj : Instance := .plain book [("id", .integer 1)]
    let left : Instance :=
      .plain book [("id", .integer 1), ("pages", .integer 730), (Naming.changesField, .map [("pages", .null)])]
    ∃ access : EntityAccess, (σ.run (Action.accessTo (obj.layered 2))).1 = .ok access ∧
      access.setProperty "pages" (.text "730") (obj.layered 2) = (.ok (), left.layered 2) ∧
      access.isChanged "pages" (left.layered 2) = true ∧
      σ.context.isInstance { cls := book } (obj.layered 2) = true := by
  intro book σ obj left
  have shown : ((σ.run (Action.accessTo obj)).1.toOption.map fun access =>
      (access.reflector.handling, σ.context.handling, access.setProperty "pages" (.text "730") obj,
        access.isChanged "pages" left, σ.context.isInstance { cls := book } obj)) =
      some (.transparent, .transparent, (.ok (), left), true, true) := by
    revert book σ obj left
    rfl
  obtain ⟨access, found, shown⟩ := Option.map_eq_some_iff.mp shown
  obtain ⟨handled, context, written, changed, belongs⟩ := by simpa only [Prod.mk.injEq] using shown
  obtain ⟨through, instances, same, -⟩ := seesThrough_transparent handled context
  refine ⟨access, ?_, ?_, ?_, ?_⟩
  · rw [same]
    exact toOption_eq_some.mp found
  · rw [(through.setProperty "pages" (.text "730")).layered, written]
  · exact (congrArg Prod.fst ((through.isChanged "pages").layered 2 left)).trans changed
  · rw [instances, belongs]

end Persistence
