import Persistence.Proofs.Metamodel.Depth

/-! Calls from outside, one after the other, on one context. Whatever class is registered when, whichever of the calls
    fail and however properties are searched for, every call comes to an end; after it every entity is either idle or
    has its model, once it has its model it keeps it, and its parents have theirs, up to one without a parent. -/

namespace Persistence

open Persistence.Action

/-! ### Calls -/

/-- What may be asked of a context. -/
inductive Call where
  | register (cls : Class)
  | add (cls : Class)
  | addNamed (name : String)
  | require (name : String)

namespace Call

/-- The name that a call is about. -/
def target : Call → String
  | .register cls | .add cls => cls.name
  | .addNamed name | .require name => name

def perform : Call → Action (Option Entity)
  | .register cls => do change (·.register cls); return none
  | .add cls => some <$> Action.add cls
  | .addNamed name => some <$> Action.addNamed name
  | .require name => some <$> Action.require name

/-- Performs a call by a way to search, with something to be done below the last level. -/
def performBy (look : Look) (last : String → Action Unit) : Call → Action (Option Entity)
  | .register cls => do change (·.register cls); return none
  | .add cls => some <$> addBy look last cls
  | .addNamed name => some <$> addNamedBy look last name
  | .require name => some <$> requireBy look last name

theorem performBy_own (call : Call) : call.performBy Look.own exhausted = call.perform := by
  cases call with
  | register cls => rfl
  | add cls => rw [performBy, addBy_own, perform]
  | addNamed name => rw [performBy, addNamedBy_own, perform]
  | require name => rw [performBy, requireBy_own, perform]

end Call

/-- The sites that calls lead to from a context without classes and entities. Each call may search in its own way, and
between the calls the cache may be used by others. -/
inductive Site.Reached : Site → Prop where
  | start {σ : Site} (classless : σ.context.classes = []) (empty : σ.context.entities = []) : Reached σ
  | call {σ : Site} (before : Reached σ) (look : Look) (call : Call) : Reached (σ.run (call.performBy look exhausted)).2
  | elsewhere {σ : Site} (before : Reached σ) (cache : ReflectorCache) (reports : List Diagnostic) :
    Reached { σ with cache, reports }

/-- A sound context in which no initialization is underway. -/
structure Context.Settled (ctx : Context) : Prop where
  sound : ctx.Sound
  resting : ∀ e ∈ ctx.entities, e.phase = .idle ∨ e.isInitialized = true

namespace Context.Settled

variable {ctx old new : Context} {e : Entity} {name : String}

theorem not_populating (h : ctx.Settled) (he : ctx.entity? name = some e) : e.phase ≠ .populating := by
  intro populating
  rcases h.resting e (mem_of_entity? he) with idle | ready
  · cases idle.symm.trans populating
  · simp [Entity.isInitialized, Entity.model?, populating] at ready

theorem evolve (h : old.Settled) (evolved : old.Evolves new) : new.Settled := by
  obtain ⟨sound, grown⟩ := evolved h.sound
  refine ⟨sound, fun e he => ?_⟩
  cases hphase : e.phase with
  | idle => exact Or.inl rfl
  | ready model => exact Or.inr (by simp [Entity.isInitialized, Entity.model?, hphase])
  | populating => exact absurd hphase (h.not_populating (grown.marked _ e (entity?_of_mem sound.distinct he) hphase))

theorem register (h : ctx.Settled) (cls : Class) : (ctx.register cls).Settled := ⟨h.sound.register cls, h.resting⟩

theorem underway (h : ctx.Settled) : ctx.Underway ctx.classes [] := ⟨h.sound, rfl, List.nodup_nil, by simp⟩

theorem of_empty (classless : ctx.classes = []) (empty : ctx.entities = []) : ctx.Settled where
  sound := by
    refine ⟨?_, ?_, ?_, ?_⟩
    · rw [empty]
      exact List.nodup_nil
    · rw [classless]
      exact fun _ _ h => by cases h
    · rw [empty]
      exact fun _ h => by cases h
    · rw [empty]
      exact fun _ h => by cases h
  resting := by
    rw [empty]
    exact fun _ h => by cases h

end Context.Settled

namespace Action

variable {α β : Type} {σ τ : Site} {look : Look} {add last : String → Action Unit} {name : String}

/-- What a request for an entity does before it gives the entity: it settles whether the entity has its model. -/
structure Decides (x : Action Unit) (name : String) : Prop where
  evolves : Keeps Context.Evolves x
  ready : ∀ {σ τ : Site}, σ.context.Sound → σ.run x = (.ok (), τ) →
    ∃ e, τ.context.entity? name = some e ∧ e.isInitialized = true
  idle : ∀ {σ τ : Site} {fault : Fault}, σ.context.Settled → σ.run x = (.error fault, τ) →
    ∀ e, τ.context.entity? name = some e → e.phase = .idle

theorem decides_makeReadyBy (hadd : Adds add) (name : String) : Decides (makeReadyBy look add name) name where
  evolves := Keeps.makeReadyBy hadd name
  ready := ready_makeReadyBy hadd
  idle settled h := idle_makeReadyBy hadd settled.sound h fun _ he => settled.not_populating he

theorem decides_addFrom (levels : Nat) (name : String) : Decides (addFrom look exhausted (levels + 1) name) name where
  evolves := (adds_addFrom (levels + 1)).evolves name
  ready := (adds_addFrom (levels + 1)).readies
  idle {σ τ fault} settled h := by
    unfold addFrom at h
    rw [Site.run_bind] at h
    intro e he
    obtain ⟨-, enrolled⟩ | ⟨fresh, refusal, refused⟩ | ⟨-, cls, -, -, enrolled⟩ := enroll_cases settled.sound name
    · rw [enrolled] at h
      exact (decides_makeReadyBy (adds_addFrom levels) name).idle settled h e he
    · rw [refused] at h
      cases h
      cases fresh.symm.trans he
    · have after := settled.evolve ((Keeps.enroll name).of_eq enrolled)
      rw [enrolled] at h
      exact (decides_makeReadyBy (adds_addFrom levels) name).idle after h e he

theorem run_map (f : α → β) (x : Action α) : σ.run (f <$> x) = ((σ.run x).1.map f, (σ.run x).2) := by
  rw [map_eq_pure_bind, Site.run_bind]
  rcases σ.run x with ⟨answer, ρ⟩
  cases answer <;> rfl

theorem run_addNamedBy : σ.run (addNamedBy look last name) =
    σ.run (addFrom look last (σ.context.classes.length + 1) name >>= fun _ => tryAsk (·.requireEntity name)) := by
  have hlevels : σ.run levels = (.ok (σ.context.classes.length + 1), σ) := rfl
  unfold addNamedBy
  rw [Site.run_bind, hlevels]

theorem run_addBy (cls : Class) : σ.run (addBy look last cls) =
    (registered σ cls).run (addFrom look last ((registered σ cls).context.classes.length + 1) cls.name >>=
      fun _ => tryAsk (·.requireEntity cls.name)) := by
  rw [← run_addNamedBy]
  unfold addBy
  rw [Site.run_bind, run_change]
  rfl

theorem run_requireBy : σ.run (requireBy look last name) =
    σ.run (makeReadyBy look (addFrom look last (σ.context.classes.length + 1)) name >>=
      fun _ => tryAsk (·.requireEntity name)) := by
  have hlevels : σ.run levels = (.ok (σ.context.classes.length + 1), σ) := rfl
  unfold requireBy
  rw [Site.run_bind, hlevels]

/-- A request that gives the entity at last leaves a settled context, and the entity is what it was decided to be. -/
theorem Decides.settles {x : Action Unit} {answer : Except Fault Entity} (hx : Decides x name)
    (settled : σ.context.Settled) (h : σ.run (x >>= fun _ => tryAsk (·.requireEntity name)) = (answer, τ)) :
    τ.context.Settled ∧ σ.context.Grown τ.context ∧
      (∀ fault, answer = .error fault → ∀ e, τ.context.entity? name = some e → e.phase = .idle) ∧
      ∀ e, answer = .ok e → τ.context.entity? name = some e ∧ e.isInitialized = true := by
  rw [Site.run_bind] at h
  rcases hrun : σ.run x with ⟨decided, ρ⟩
  have evolved := hx.evolves.of_eq hrun
  rw [hrun] at h
  cases decided with
  | error fault =>
    cases h
    exact ⟨settled.evolve evolved, (evolved settled.sound).2, fun _ _ => hx.idle settled hrun, fun _ same => by cases same⟩
  | ok =>
    obtain ⟨e, he, ready⟩ := hx.ready settled.sound hrun
    have given : ρ.context.requireEntity name = .ok e := by
      unfold Context.requireEntity
      rw [he]
    dsimp only at h
    rw [run_tryAsk, given] at h
    cases h
    refine ⟨settled.evolve evolved, (evolved settled.sound).2, (fun _ same => by cases same), fun _ same => ?_⟩
    cases same
    exact ⟨he, ready⟩

end Action

/-- A call registers a class, or it may register one and then requests an entity, in the same way whatever is done
below the last level. -/
theorem Call.performBy_cases (call : Call) (look : Look) (σ : Site) :
    (∃ cls, call = .register cls ∧ ∀ last, σ.run (call.performBy look last) = (.ok none, registered σ cls)) ∨
    ∃ (begun : Site) (decide : (String → Action Unit) → Action Unit),
      (begun = σ ∨ ∃ cls, begun = registered σ cls) ∧ Decides (decide exhausted) call.target ∧
      (∀ last, Alike (Context.Underway begun.context.classes []) (decide exhausted) (decide last)) ∧
      ∀ last, σ.run (call.performBy look last) =
        begun.run (some <$> (decide last >>= fun _ => tryAsk (·.requireEntity call.target))) := by
  cases call with
  | register cls => exact Or.inl ⟨cls, rfl, fun _ => rfl⟩
  | add cls =>
    refine Or.inr ⟨registered σ cls, fun last => addFrom look last ((registered σ cls).context.classes.length + 1) cls.name,
      Or.inr ⟨cls, rfl⟩, decides_addFrom _ _, fun last => alike_addFrom _ (Nat.lt_succ_self _) _, fun last => ?_⟩
    rw [performBy, run_map, run_map, run_addBy, target]
  | addNamed name =>
    refine Or.inr ⟨σ, fun last => addFrom look last (σ.context.classes.length + 1) name, Or.inl rfl, decides_addFrom _ _,
      fun last => alike_addFrom _ (Nat.lt_succ_self _) _, fun last => ?_⟩
    rw [performBy, run_map, run_map, run_addNamedBy, target]
  | require name =>
    refine Or.inr ⟨σ, fun last => makeReadyBy look (addFrom look last (σ.context.classes.length + 1)) name, Or.inl rfl,
      decides_makeReadyBy (adds_addFrom _) _, fun last => ?_, fun last => ?_⟩
    · exact alike_makeReadyBy (adds_addFrom _) fun n => alike_addFrom _ (Nat.lt_add_right _ (Nat.lt_succ_self _)) n
    · rw [performBy, run_map, run_map, run_requireBy, target]

/-- What a call leaves of a settled context. -/
theorem Call.settles {σ τ : Site} {look : Look} {call : Call} {answer : Except Fault (Option Entity)}
    (settled : σ.context.Settled) (h : σ.run (call.performBy look exhausted) = (answer, τ)) :
    τ.context.Settled ∧ (∀ last, σ.run (call.performBy look last) = (answer, τ)) ∧
      σ.context.entities.map (·.cls) <+: τ.context.entities.map (·.cls) ∧
      (∀ n e, σ.context.entity? n = some e → e.isInitialized = true → τ.context.entity? n = some e) ∧
      (∀ fault, answer = .error fault → ∀ e, τ.context.entity? call.target = some e → e.phase = .idle) ∧
      ∀ e, answer = .ok (some e) → τ.context.entity? call.target = some e ∧ e.isInitialized = true := by
  obtain ⟨cls, rfl, run⟩ | ⟨begun, decide, from?, decides, alike, run⟩ := call.performBy_cases look σ
  · rw [run] at h
    cases h
    exact ⟨settled.register cls, run, List.prefix_rfl, fun _ _ he _ => he, (fun _ same => by cases same),
      fun _ same => by cases same⟩
  · -- Registering a class changes nothing that is said of entities.
    have ready : begun.context.Settled ∧ begun.context.entities = σ.context.entities := by
      rcases from? with rfl | ⟨cls, rfl⟩
      · exact ⟨settled, rfl⟩
      · exact ⟨settled.register cls, rfl⟩
    obtain ⟨ready, same⟩ := ready
    rw [run, run_map] at h
    rcases hrun : begun.run (decide exhausted >>= fun _ => tryAsk (·.requireEntity call.target)) with ⟨found, ρ⟩
    rw [hrun] at h
    obtain ⟨rfl, rfl⟩ := Prod.mk.inj h
    obtain ⟨after, grown, idle, made⟩ := decides.settles ready hrun
    refine ⟨after, fun last => ?_, ?_, fun n e he hready => ?_, fun fault failed => ?_, fun e given => ?_⟩
    · have requested : Alike (Context.Underway begun.context.classes [])
          (decide exhausted >>= fun _ => tryAsk (·.requireEntity call.target))
          (decide last >>= fun _ => tryAsk (·.requireEntity call.target)) :=
        Alike.bind (alike last) fun _ => Alike.of_run fun _ => by rw [run_tryAsk]
      rw [run, run_map, ← (requested begun ready.underway).1, hrun]
    · rw [← same]
      exact grown.order
    · refine grown.ready ?_ hready
      unfold Context.entity? at he ⊢
      rw [same]
      exact he
    · cases found with
      | error fault => exact idle fault rfl
      | ok e => cases failed
    · cases found with
      | error fault => cases given
      | ok x =>
        cases given
        exact made e rfl

namespace Site.Reached

theorem settled {σ : Site} (h : σ.Reached) : σ.context.Settled := by
  induction h with
  | start classless empty => exact .of_empty classless empty
  | call before look call ih => exact (Call.settles ih rfl).1
  | elsewhere before cache reports ih => exact ih

/-- Every call ends: it comes out the same whatever is done below the last level, and the walks along superclasses that
it makes come out the same with more steps. After it the order lists every entity once and has only grown at its end;
every entity is idle or has its model, and the one of a call that failed is idle; a model that was there before is
there still; and the parents of every entity have their models, up to a root, which is where the walk along them
ends. -/
theorem performBy_settles {σ τ : Site} {answer : Except Fault (Option Entity)} (reached : σ.Reached) (look : Look)
    (call : Call) (h : σ.run (call.performBy look exhausted) = (answer, τ)) :
    (look = Look.own → σ.run call.perform = (answer, τ)) ∧
    (∀ last, σ.run (call.performBy look last) = (answer, τ)) ∧
    (∀ start name more, τ.context.chainFrom start (τ.context.classes.length + 1 + more) [] name =
      τ.context.chainFrom start (τ.context.classes.length + 1) [] name) ∧
    (τ.context.entities.map (·.name)).Nodup ∧
    σ.context.entities.map (·.cls) <+: τ.context.entities.map (·.cls) ∧
    (∀ e ∈ τ.context.entities, e.phase = .idle ∨ e.isInitialized = true) ∧
    (∀ fault, answer = .error fault → ∀ e, τ.context.entity? call.target = some e → e.phase = .idle) ∧
    (∀ e, answer = .ok (some e) → τ.context.entity? call.target = some e ∧ e.isInitialized = true) ∧
    (∀ n e, σ.context.entity? n = some e → e.isInitialized = true → τ.context.entity? n = some e) ∧
    ∀ e ∈ τ.context.entities, τ.context.Lineage e (τ.context.ancestors e) ∧ (τ.context.root e).isRoot = true ∧
      ∀ more, τ.context.lineFrom (τ.context.entities.length + more) e.parent? = τ.context.ancestors e := by
  obtain ⟨after, ends, order, kept, idle, made⟩ := Call.settles reached.settled h
  refine ⟨?_, ends, fun start name more => ?_, after.sound.distinct, order, after.resting, idle, made, kept, ?_⟩
  · rintro rfl
    rw [← call.performBy_own]
    exact h
  · exact Context.chainFrom_add more List.nodup_nil (by simp) (Nat.lt_succ_self _)
  · intro e he
    obtain ⟨line, lineage⟩ := after.sound.descended e he
    rw [lineage.ancestors_eq]
    exact ⟨lineage, lineage.isRoot_root, fun more =>
      lineage.lineFrom_eq (Nat.le_trans lineage.length_le (Nat.le_add_right _ _))⟩

/-- Two classes that extend each other cannot be added. Once one of them is registered anew without a superclass, the
other one can: its superclass is added for it, and that touches a third one. -/
theorem performBy_settles_after_cycle :
    let identity : Field := { name := "id", type := .long }
    let child : Class := { stamp := 1, name := "A", superclass := some "B", isEntity := true, fields := [identity] }
    let cycle : Class := { stamp := 2, name := "B", superclass := some "A", isEntity := true }
    let root : Class := { stamp := 3, name := "A", isEntity := true, fields := [identity] }
    let touched : Class := { stamp := 4, name := "C", isEntity := true, fields := [identity] }
    let after (σ : Site) (call : Call) : Site := (σ.run (call.performBy Look.own exhausted)).2
    let begun := after { context := { strategy := { touched := [("A", ["C"])] } } } (.register child)
    let σ := after (after (after begun (.add cycle)) (.register root)) (.register touched)
    (begun.run ((Call.add cycle).performBy Look.own exhausted)).1.isOk = false ∧ σ.Reached ∧
      ∃ (e : Entity) (τ : Site), σ.run ((Call.require "B").performBy Look.own exhausted) = (.ok (some e), τ) ∧
        τ.context.entities.map (·.name) = ["B", "A", "C"] ∧ (τ.context.ancestors e).map (·.name) = ["A"] ∧
        τ.context.Lineage e (τ.context.ancestors e) ∧ ∀ x ∈ τ.context.entities, x.phase = .idle ∨ x.isInitialized = true := by
  intro identity child cycle root touched after begun σ
  have start : Reached { context := { strategy := { touched := [("A", ["C"])] } } } := .start rfl rfl
  have reached : σ.Reached :=
    (((start.call Look.own (.register child)).call Look.own (.add cycle)).call Look.own (.register root)).call Look.own
      (.register touched)
  have refused : (begun.run ((Call.add cycle).performBy Look.own exhausted)).1.isOk = false := by decide
  have succeeds : (σ.run ((Call.require "B").performBy Look.own exhausted)).1.isOk = true := by decide
  have listed : (σ.run ((Call.require "B").performBy Look.own exhausted)).2.context.entities.map (·.name) =
      ["B", "A", "C"] := by decide
  have line : (σ.run ((Call.require "B").performBy Look.own exhausted)).1.toOption.map (fun found => found.map fun e =>
      ((σ.run ((Call.require "B").performBy Look.own exhausted)).2.context.ancestors e).map (·.name)) =
      some (some ["A"]) := by decide
  obtain ⟨found, run⟩ := Site.run_of_isOk succeeds
  rw [run] at line
  dsimp only at line
  obtain ⟨e, rfl, ancestors⟩ := Option.map_eq_some_iff.mp (Option.some.inj line)
  obtain ⟨-, -, -, -, -, resting, -, made, -, descended⟩ := performBy_settles reached Look.own (.require "B") run
  have registered := Context.mem_of_entity? (made e rfl).1
  exact ⟨refused, reached, e, _, run, listed, ancestors, (descended e registered).1, resting⟩

end Site.Reached

end Persistence
