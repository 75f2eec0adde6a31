import Persistence.Proofs.Access.Backing
import Persistence.Proofs.Metamodel.Identification

/-! Inherited properties. A property is asked whether an ancestor of its owner has one of its name; the answer is kept
    once the owner is initialized, and it stays right, since the owner and its ancestors do not change any more. But
    the ancestors are asked as anybody would ask for a property, so that one of them that merely goes by the name as
    its target name counts, too. -/

namespace Persistence

/-! ### Names and target names -/

section Layout
variable {properties : List Property} {entries : Keyed Property} {pairs : List (String × Property)} {n : String}
  {q : Property}

namespace Layout

theorem mem_of_mem_enter {entry : String × Property} (h : entry ∈ enter entries pairs) :
    entry ∈ entries ∨ entry ∈ pairs := by
  induction pairs generalizing entries with
  | nil => exact Or.inl h
  | cons pair rest ih =>
    rcases ih h with h | h
    · rcases Keyed.mem_put h with rfl | h
      · exact Or.inr List.mem_cons_self
      · exact Or.inl h
    · exact Or.inr (List.mem_cons_of_mem _ h)

theorem mem_targeted (h : (n, q) ∈ targeted properties) : q ∈ properties ∧ q.targetName? = some n ∧ q.name ≠ n := by
  obtain ⟨p, hp, found⟩ := List.mem_filterMap.mp h
  split at found
  next target named =>
    split at found
    · cases found
    next other =>
      cases found
      exact ⟨hp, named, Ne.symm other⟩
  · cases found

/-- What a layout has under a target name is listed or a member of the identity, and it has the target name. -/
theorem of_get?_byTarget {settings : Settings} {mapping : EntityMapping} {scanned : List Property} {identity : Identity}
    {tenant : Option Property} {layout : Layout} (arranged : layout = arrange settings mapping scanned identity tenant)
    (h : layout.byTarget.get? n = some q) :
    (q ∈ layout.properties ∨ q ∈ layout.identity.members) ∧ q.targetName? = some n ∧ q.name ≠ n := by
  subst arranged
  rcases mem_of_mem_enter (Keyed.mem_of_get? h) with listed | member
  · obtain ⟨scanning, listed⟩ := List.mem_filter.mp listed
    rcases mem_of_mem_enter scanning with ⟨⟨⟩⟩ | scanning
    obtain ⟨hq, target⟩ := mem_targeted scanning
    exact ⟨Or.inl (List.mem_filter.mpr ⟨hq, listed⟩), target⟩
  · obtain ⟨hq, target⟩ := mem_targeted member
    exact ⟨Or.inr hq, target⟩

end Layout
end Layout

namespace Entity

variable {e : Entity} {n : String}

/-- What the index of target names has for a name. -/
def targeted? (e : Entity) (name : String) : Option Property := e.layout?.bind (·.byTarget.get? name)

theorem property?_eq : e.property? n = (e.indexed? n).or (e.targeted? n) := by
  rw [property?, indexed?, targeted?]
  cases e.layout? <;> rfl

/-- The entity has a property or a member of the identity that bears the name itself. -/
def Bears (e : Entity) (name : String) : Prop := ∃ q, e.Has q ∧ q.name = name

theorem ViewsAgree.isSome_indexed?_iff {identity : Identity} {identifier : String} {discovered : List String}
    (views : e.ViewsAgree identity identifier discovered) : (e.indexed? n).isSome = true ↔ e.Bears n := by
  rw [views.indexed, Bears]
  constructor
  · rintro (listed | member)
    · obtain ⟨q, hq, named⟩ := List.mem_map.mp listed
      exact ⟨q, Or.inl hq, named⟩
    · obtain ⟨q, hq, named⟩ := List.mem_map.mp member
      exact ⟨q, Or.inr ⟨identity, views.held, hq⟩, named⟩
  · rintro ⟨q, listed | ⟨identity', held, member⟩, rfl⟩
    · exact Or.inl (List.mem_map_of_mem listed)
    · cases views.held.symm.trans held
      exact Or.inr (List.mem_map_of_mem member)

end Entity

namespace EntityModel.Built

variable {model : EntityModel} {ctx : Context} {cls : Class} {p : Property}

/-- Whatever an entity has belongs to it. -/
theorem owner_eq (h : model.Built ctx cls) (has : Entity.Has { cls, phase := .ready model } p) :
    p.owner = cls.name := by
  obtain ⟨hierarchy, -, -, laid⟩ := h.layout
  have held : p ∈ model.layout.properties ++ model.layout.identity.members := by
    refine List.mem_append.mpr (has.imp id ?_)
    rintro ⟨identity, ⟨⟩, hp⟩
    exact hp
  refine Layout.forall_ofScan (P := fun p => p.owner = cls.name) (fun p hp => ?_) (fun name p found => ?_) laid p held
  · obtain ⟨c, -, rfl⟩ := List.mem_map.mp (List.mem_of_mem_filter hp)
    rfl
  · obtain ⟨c, -, -, rfl⟩ := Discovery.identityMember_eq_ok found
    rfl

/-- What goes by a target name is something that the entity has, and the target name is not its own one. -/
theorem of_targeted? (h : model.Built ctx cls) {n : String} {q : Property}
    (found : Entity.targeted? { cls, phase := .ready model } n = some q) :
    Entity.Has { cls, phase := .ready model } q ∧ q.targetName? = some n ∧ q.name ≠ n := by
  obtain ⟨hierarchy, -, -, laid⟩ := h.layout
  obtain ⟨identity, -, laid⟩ := bind_eq_ok.mp laid
  obtain ⟨tenant, -, laid⟩ := bind_eq_ok.mp laid
  obtain ⟨held, target⟩ := Layout.of_get?_byTarget (Except.ok.inj laid).symm found
  exact ⟨held.imp id fun member => ⟨_, rfl, member⟩, target⟩

end EntityModel.Built

/-! ### Answers of a context -/

/-- An ancestor is asked in the way in which anybody asks for a property. -/
theorem Context.isInherited_eq {ctx : Context} {p : Property} {e : Entity} {line : List Entity}
    (he : ctx.entity? p.owner = some e) (ready : e.isInitialized = true) (lineage : ctx.Lineage e line) :
    ctx.isInherited p = line.any fun a => (a.property? p.name).isSome := by
  rw [isInherited, he]
  dsimp only
  rw [ready, Bool.true_and, lineage.ancestors_eq]

/-! ### Answers that are kept -/

namespace Workspace

variable {ws ws' : Workspace} {id n : Nat} {ctx : Context} {name : String} {e : Entity} {p : Property}

theorem place?_closeContext : (ws.closeContext id).place? n = if n = id then none else ws.place? n := by
  rw [closeContext, place?, place?, List.find?_filter]
  split
  next same =>
    rw [List.find?_eq_none]
    simp [same]
  next other =>
    refine congrArg (List.find? · ws.places) (funext fun p => ?_)
    cases hp : p.id == n with
    | false => simp
    | true => simp [beq_iff_eq.mp hp, other]

theorem known_updateCache (f : ReflectorCache → ReflectorCache) : (ws.updateCache id f).known = ws.known := by
  rw [updateCache]
  split <;> rfl

theorem known_run {α : Type} {x : Action α} : (ws.run id x).2.2.known = ws.known := by
  rw [run]
  split
  · rfl
  · exact known_updateCache _

/-- Asking changes nothing but what is known. -/
theorem snd_isInherited (held : HeldProperty) : ∃ known, (ws.isInherited held).2 = { ws with known } := by
  rw [isInherited]
  dsimp only
  split
  · exact ⟨ws.known, rfl⟩
  · split
    · exact ⟨ws.known, rfl⟩
    · split
      · exact ⟨ws.known, rfl⟩
      · split
        · exact ⟨_, rfl⟩
        · exact ⟨ws.known, rfl⟩

/-- The contexts are settled, and what is known of a property is what its initialized owner would answer now. -/
structure Informed (ws : Workspace) : Prop where
  settled : ∀ id ctx, ws.context? id = some ctx → ctx.Settled
  known : ∀ id ctx owner name answer, ws.context? id = some ctx → ((id, owner, name), answer) ∈ ws.known →
    ∃ e line, ctx.entity? owner = some e ∧ e.isInitialized = true ∧ ctx.Lineage e line ∧
      answer = line.any fun a => (a.property? name).isSome

namespace Informed

/-- What is known stays right where contexts keep their initialized entities; of new contexts nothing is known. -/
theorem evolve (h : ws.Informed) (known : ws'.known = ws.known)
    (contexts : ∀ id ctx', ws'.context? id = some ctx' → ctx'.Settled ∧ ((∀ entry ∈ ws.known, entry.1.1 ≠ id) ∨
      ∃ ctx, ws.context? id = some ctx ∧
        ∀ n e, ctx.entity? n = some e → e.isInitialized = true → ctx'.entity? n = some e)) : ws'.Informed where
  settled id ctx' hctx' := (contexts id ctx' hctx').1
  known id ctx' owner name answer hctx' held := by
    rw [known] at held
    obtain ⟨-, unknown | ⟨ctx, hctx, kept⟩⟩ := contexts id ctx' hctx'
    · exact absurd rfl (unknown _ held)
    · obtain ⟨e, line, he, ready, lineage, right⟩ := h.known id ctx owner name answer hctx held
      exact ⟨e, line, kept owner e he ready, ready, lineage.mono kept, right⟩

/-- An entry of what is known is what its owner answers. -/
theorem eq_of_known (h : ws.Informed) (hctx : ws.context? id = some ctx) (he : ctx.entity? p.owner = some e)
    {line : List Entity} (lineage : ctx.Lineage e line) {answer : Bool}
    (found : ws.known.lookup (id, p.owner, p.name) = some answer) :
    e.isInitialized = true ∧ answer = line.any fun a => (a.property? p.name).isSome := by
  obtain ⟨before, after, split, -⟩ := List.lookup_eq_some_iff.mp found
  have held : ((id, p.owner, p.name), answer) ∈ ws.known := by simp [split]
  obtain ⟨e', line', he', ready, lineage', right⟩ := h.known id ctx p.owner p.name answer hctx held
  cases he.symm.trans he'
  cases lineage.unique lineage'
  exact ⟨ready, right⟩

/-- Asked for the first time or again, an initialized owner answers the same. -/
theorem isInherited_eq (h : ws.Informed) (hctx : ws.context? id = some ctx) (he : ctx.entity? p.owner = some e)
    (ready : e.isInitialized = true) {line : List Entity} (lineage : ctx.Lineage e line) :
    (ws.isInherited ⟨id, p⟩).1 = line.any fun a => (a.property? p.name).isSome := by
  rw [Workspace.isInherited]
  dsimp only
  cases found : ws.known.lookup (id, p.owner, p.name) with
  | some answer => exact (h.eq_of_known hctx he lineage found).2
  | none =>
    simp only [hctx, he, ready, if_true]
    exact Context.isInherited_eq he ready lineage

/-- An owner that is not initialized says no, and nothing is kept of that. -/
theorem isInherited_unready (h : ws.Informed) (hctx : ws.context? id = some ctx) (he : ctx.entity? p.owner = some e)
    (unready : e.isInitialized = false) : ws.isInherited ⟨id, p⟩ = (false, ws) := by
  rw [Workspace.isInherited]
  dsimp only
  cases found : ws.known.lookup (id, p.owner, p.name) with
  | some answer =>
    obtain ⟨line, lineage⟩ := (h.settled id ctx hctx).sound.descended e (Context.mem_of_entity? he)
    cases unready.symm.trans (h.eq_of_known hctx he lineage found).1
  | none => simp only [hctx, he, unready, if_false, Bool.false_eq_true]

theorem asked (h : ws.Informed) (held : HeldProperty) : (ws.isInherited held).2.Informed := by
  obtain ⟨place, p⟩ := held
  rw [Workspace.isInherited]
  dsimp only
  cases ws.known.lookup (place, p.owner, p.name) with
  | some answer => exact h
  | none =>
    cases hctx : ws.context? place with
    | none => exact h
    | some ctx =>
      dsimp only
      cases he : ctx.entity? p.owner with
      | none => exact h
      | some owner =>
        dsimp only
        split
        next ready =>
          refine ⟨h.settled, fun id ctx' owner' name answer hctx' held => ?_⟩
          rcases List.mem_cons.mp held with new | old
          · cases new
            cases hctx.symm.trans hctx'
            obtain ⟨line, lineage⟩ := (h.settled _ ctx hctx).sound.descended owner (Context.mem_of_entity? he)
            exact ⟨owner, line, he, ready, lineage, Context.isInherited_eq he ready lineage⟩
          · exact h.known id ctx' owner' name answer hctx' old
        · exact h

/-- A context opens without entities, and nobody has been asked about them yet. -/
theorem opened (h : ws.Informed) (unknown : ∀ entry ∈ ws.known, entry.1.1 ≠ id) (cache : String)
    (settings : Settings) (strategy : Strategy) (handling : ProxyHandling) :
    (ws.openContext id cache { settings, strategy, handling }).Informed := by
  refine h.evolve rfl fun n ctx' hctx' => ?_
  rw [context?, openContext, place?, List.find?_append, Option.map_or, Option.or_eq_some_iff] at hctx'
  rcases hctx' with hctx | ⟨-, hctx⟩
  · exact ⟨h.settled n ctx' hctx, Or.inr ⟨ctx', hctx, fun _ _ he _ => he⟩⟩
  · obtain ⟨place, found, rfl⟩ := Option.map_eq_some_iff.mp hctx
    obtain ⟨same, rfl⟩ := by simpa using found
    subst same
    exact ⟨Context.Settled.of_empty rfl rfl, Or.inl unknown⟩

theorem closed (h : ws.Informed) (id : Nat) : (ws.closeContext id).Informed := by
  refine h.evolve rfl fun n ctx' hctx' => ?_
  rw [context?, place?_closeContext] at hctx'
  split at hctx'
  · cases hctx'
  · exact ⟨h.settled n ctx' hctx', Or.inr ⟨ctx', hctx', fun _ _ he _ => he⟩⟩

theorem called (h : ws.Informed) (id : Nat) (call : Call) : (ws.run id call.perform).2.2.Informed := by
  cases hp : ws.place? id with
  | none =>
    rw [run_closed _ hp]
    exact h
  | some place =>
    refine h.evolve known_run fun n ctx' hctx' => ?_
    rw [context?, place?_run _ hp, Option.map_map] at hctx'
    obtain ⟨q, hq, rfl⟩ := Option.map_eq_some_iff.mp hctx'
    have hctx : ws.context? n = some q.context := by rw [context?, hq, Option.map_some]
    have settled := h.settled n q.context hctx
    dsimp only [Function.comp_apply]
    split
    next same =>
      subst same
      cases hp.symm.trans hq
      have ran : (ws.siteAt place).run (call.performBy Look.own Action.exhausted) =
          (((ws.siteAt place).run call.perform).1, ((ws.siteAt place).run call.perform).2) := by
        rw [call.performBy_own]
      obtain ⟨after, -, -, kept, -⟩ := Call.settles settled ran
      exact ⟨after, Or.inr ⟨_, hctx, kept⟩⟩
    · exact ⟨settled, Or.inr ⟨_, hctx, fun _ _ he _ => he⟩⟩

theorem updateCache (h : ws.Informed) (id : Nat) (f : ReflectorCache → ReflectorCache) :
    (ws.updateCache id f).Informed := by
  refine h.evolve (known_updateCache f) fun n ctx' hctx' => ?_
  rw [context?, place?_updateCache] at hctx'
  exact ⟨h.settled n ctx' hctx', Or.inr ⟨ctx', hctx', fun _ _ he _ => he⟩⟩

end Informed

/-! ### Workspaces in which properties are asked -/

/-- The workspaces that come about when contexts are opened, each with a cache that others may use too and under a
number under which nothing is known, are called and are closed, while entries of the caches are taken out and any
properties are asked whether they are inherited. -/
inductive Consulted : Workspace → Prop where
  | start : Consulted {}
  | opened {ws : Workspace} (before : Consulted ws) (id : Nat) (unknown : ∀ entry ∈ ws.known, entry.1.1 ≠ id)
    (cache : String) (settings : Settings) (strategy : Strategy) (handling : ProxyHandling) :
    Consulted (ws.openContext id cache { settings, strategy, handling })
  | closed {ws : Workspace} (before : Consulted ws) (id : Nat) : Consulted (ws.closeContext id)
  | called {ws : Workspace} (before : Consulted ws) (id : Nat) (call : Call) : Consulted (ws.run id call.perform).2.2
  | removed {ws : Workspace} (before : Consulted ws) (id : Nat) (entity : String) :
    Consulted (ws.updateCache id fun cache => (cache.remove entity).2)
  | cleared {ws : Workspace} (before : Consulted ws) (id : Nat) : Consulted (ws.updateCache id ReflectorCache.clear)
  | asked {ws : Workspace} (before : Consulted ws) (held : HeldProperty) : Consulted (ws.isInherited held).2

theorem Consulted.informed (h : ws.Consulted) : ws.Informed := by
  induction h with
  | start => exact ⟨(fun _ _ found => by cases found), fun _ _ _ _ _ found => by cases found⟩
  | opened _ id unknown cache settings strategy handling ih =>
    exact ih.opened unknown cache settings strategy handling
  | closed _ id ih => exact ih.closed id
  | called _ id call ih => exact ih.called id call
  | removed _ id entity ih => exact ih.updateCache id _
  | cleared _ id ih => exact ih.updateCache id _
  | asked _ held ih => exact ih.asked held

theorem Consulted.reached (h : ws.Consulted) : ws.Reached := by
  induction h with
  | start => exact .start
  | opened _ id unknown cache settings strategy handling ih => exact ih.opened id cache settings strategy handling
  | closed _ id ih => exact ih.closed id
  | called _ id call ih => exact ih.called id call
  | removed _ id entity ih => exact ih.removed id entity
  | cleared _ id ih => exact ih.cleared id
  | asked _ held ih =>
    obtain ⟨known, same⟩ := snd_isInherited held
    rw [same]
    exact ih.asked known

/-- An initialized entity finds what bears a name or else what has it as its target name. -/
theorem Consulted.isSome_property?_iff (consulted : ws.Consulted) (hctx : ws.context? id = some ctx)
    (he : ctx.entity? name = some e) (ready : e.isInitialized = true) (n : String) :
    ((e.property? n).isSome = true ↔ e.Bears n ∨ (e.targeted? n).isSome = true) ∧
      ∀ q, e.targeted? n = some q → e.Has q ∧ q.targetName? = some n ∧ q.name ≠ n := by
  obtain ⟨model, same, regular⟩ := consulted.reached.model hctx he ready
  obtain ⟨origin, -, built⟩ := regular.built
  obtain ⟨hierarchy, -, views⟩ := built.viewsAgree
  rw [same]
  refine ⟨?_, fun q => built.of_targeted?⟩
  rw [Entity.property?_eq, Option.isSome_or, Bool.or_eq_true, views.isSome_indexed?_iff]

/-- All that an entity has belongs to it. Once it is initialized, what belongs to it is said to be inherited just if an
ancestor has something of the same name or something else with that as its target name; so this is right of what only
the ancestors' own names make inherited, just if no target name comes in where no ancestor bears the name itself. Before
the entity is initialized the answer is no, and asking changes nothing. -/
theorem Consulted.isInherited_iff (consulted : ws.Consulted) (hctx : ws.context? id = some ctx)
    (he : ctx.entity? name = some e) :
    (e.isInitialized = true → (∀ p, e.Has p → p.owner = name) ∧ ∀ p, p.owner = name → ∃ line, ctx.Lineage e line ∧
      ((ws.isInherited ⟨id, p⟩).1 = true ↔ ∃ a ∈ line, a.Bears p.name ∨ (a.targeted? p.name).isSome = true) ∧
      (((ws.isInherited ⟨id, p⟩).1 = true ↔ ∃ a ∈ line, a.Bears p.name) ↔
        ((∃ a ∈ line, (a.targeted? p.name).isSome = true) → ∃ a ∈ line, a.Bears p.name)) ∧
      ∀ a ∈ line, ∀ q, a.targeted? p.name = some q → a.Has q ∧ q.targetName? = some p.name ∧ q.name ≠ p.name) ∧
    (e.isInitialized = false → ∀ p, p.owner = name → ws.isInherited ⟨id, p⟩ = (false, ws)) := by
  have informed := consulted.informed
  refine ⟨fun ready => ⟨fun p has => ?_, fun p owner => ?_⟩,
    fun unready p owner => informed.isInherited_unready hctx (owner ▸ he) unready⟩
  · obtain ⟨model, same, regular⟩ := consulted.reached.model hctx he ready
    obtain ⟨origin, -, built⟩ := regular.built
    rw [same] at has
    exact (built.owner_eq has).trans (Context.name_of_entity? he)
  obtain ⟨line, lineage⟩ := (informed.settled id ctx hctx).sound.descended e (Context.mem_of_entity? he)
  have answers : (ws.isInherited ⟨id, p⟩).1 = line.any fun a => (a.property? p.name).isSome :=
    informed.isInherited_eq hctx (owner ▸ he) ready lineage
  have found (a : Entity) (ha : a ∈ line) :=
    consulted.isSome_property?_iff hctx (lineage.found_of_mem a ha) (lineage.ready_of_mem a ha) p.name
  have asked : (ws.isInherited ⟨id, p⟩).1 = true ↔
      ∃ a ∈ line, a.Bears p.name ∨ (a.targeted? p.name).isSome = true := by
    rw [answers, List.any_eq_true]
    exact exists_congr fun a => and_congr_right fun ha => (found a ha).1
  refine ⟨line, lineage, asked, ?_, fun a ha => (found a ha).2⟩
  simp only [asked, and_or_left, exists_or, or_iff_left_iff_imp]

/-- A dog cannot be initialized as long as there are no animals, and its title is asked about then and later. -/
theorem Consulted.isInherited_twice :
    let animal : Class :=
      { stamp := 1, name := "Animal", isEntity := true
        fields := [{ name := "id", type := .long }, { name := "title", type := .text }] }
    let dog : Class := { stamp := 2, name := "Dog", superclass := some "Animal", isEntity := true }
    let title : Property := ⟨"title", .text, .simple, {}, "Dog"⟩
    let opened : Workspace := ({} : Workspace).openContext 0 "c" {}
    let early := (opened.run 0 (Call.add dog).perform).2.2
    let ready := (((early.isInherited ⟨0, title⟩).2.run 0 (Call.register animal).perform).2.2.run 0
      (Call.addNamed "Dog").perform).2.2
    early.isInherited ⟨0, title⟩ = (false, early) ∧ (ready.isInherited ⟨0, title⟩).1 = true ∧
      ((ready.isInherited ⟨0, title⟩).2.isInherited ⟨0, title⟩).1 = true := by
  intro animal dog title opened early ready
  have begun : opened.Consulted :=
    Consulted.start.opened 0 (fun _ h => absurd h List.not_mem_nil) "c" {} {} .transparent
  have refused : early.Consulted := begun.called 0 (.add dog)
  have made : ready.Consulted := ((refused.asked ⟨0, title⟩).called 0 (.register animal)).called 0 (.addNamed "Dog")
  have shown : ((early.context? 0).bind fun ctx => (ctx.entity? "Dog").map (·.isInitialized)) = some false := by decide
  obtain ⟨ctx, hctx, shown⟩ := Option.bind_eq_some_iff.mp shown
  obtain ⟨e, he, idle⟩ := Option.map_eq_some_iff.mp shown
  have before := (isInherited_iff refused hctx he).2 idle title rfl
  -- What the context of the ready dog shows stays the same when it is asked.
  have after (ws : Workspace) (consulted : ws.Consulted) (shown : ((ws.context? 0).bind fun ctx =>
      (ctx.entity? "Dog").map fun e => (e.isInitialized, (ctx.ancestors e).map fun a => a.properties.map (·.name))) =
      some (true, [["title"]])) : (ws.isInherited ⟨0, title⟩).1 = true := by
    obtain ⟨ctx, hctx, shown⟩ := Option.bind_eq_some_iff.mp shown
    obtain ⟨e, he, shown⟩ := Option.map_eq_some_iff.mp shown
    obtain ⟨initialized, ancestors⟩ := Prod.mk.inj shown
    obtain ⟨line, lineage, asked, -⟩ := ((isInherited_iff consulted hctx he).1 initialized).2 title rfl
    rw [lineage.ancestors_eq] at ancestors
    obtain ⟨a, rfl, names⟩ := List.map_eq_singleton_iff.mp ancestors
    obtain ⟨q, properties, named⟩ := List.map_eq_singleton_iff.mp names
    have listed : q ∈ a.properties := by
      rw [properties]
      exact List.mem_singleton_self q
    exact asked.mpr ⟨a, List.mem_singleton_self a, Or.inl ⟨q, Or.inl listed, named⟩⟩
  exact ⟨before, after ready made (by decide), after _ (made.asked ⟨0, title⟩) (by decide)⟩

/-- The title of an animal goes by the name of the label of a dog, and no animal has a label. -/
theorem Consulted.not_isInherited :
    ¬∀ (ws : Workspace) (id : Nat) (ctx : Context) (name : String) (e : Entity) (p : Property) (line : List Entity),
      ws.Consulted → ws.context? id = some ctx → ctx.entity? name = some e → e.isInitialized = true → e.Has p →
      ctx.Lineage e line → ((ws.isInherited ⟨id, p⟩).1 = true ↔ ∃ a ∈ line, a.Bears p.name) := by
  intro always
  let animal : Class :=
    { stamp := 1, name := "Animal", isEntity := true
      fields := [{ name := "id", type := .long }, { name := "title", type := .text }]
      mapping := some { properties := [("title", { targetName := some "label" })] } }
  let dog : Class :=
    { stamp := 2, name := "Dog", superclass := some "Animal", isEntity := true
      fields := [{ name := "label", type := .text }] }
  let label : Property := ⟨"label", .text, .simple, {}, "Dog"⟩
  let opened : Workspace := ({} : Workspace).openContext 0 "c" {}
  let ws := ((opened.run 0 (Call.add animal).perform).2.2.run 0 (Call.add dog).perform).2.2
  have begun : opened.Consulted :=
    Consulted.start.opened 0 (fun _ h => absurd h List.not_mem_nil) "c" {} {} .transparent
  have consulted : ws.Consulted := (begun.called 0 (.add animal)).called 0 (.add dog)
  -- The dog has its label, and it has one ancestor, with a title and an identity and nothing else.
  have shown : ((ws.context? 0).bind fun ctx => (ctx.entity? "Dog").map fun e =>
      ((e.isInitialized, decide (label ∈ e.properties)),
        (ctx.ancestors e).map fun a => (a.properties ++ (a.identity?.map Identity.members).getD []).map (·.name))) =
      some ((true, true), [["title", "id"]]) := by decide
  obtain ⟨ctx, hctx, shown⟩ := Option.bind_eq_some_iff.mp shown
  obtain ⟨e, he, shown⟩ := Option.map_eq_some_iff.mp shown
  obtain ⟨⟨ready, listed⟩, ancestors⟩ := Prod.mk.inj shown |>.imp Prod.mk.inj id
  obtain ⟨line, lineage⟩ := (consulted.informed.settled 0 ctx hctx).sound.descended e (Context.mem_of_entity? he)
  have inherited : (ws.isInherited ⟨0, label⟩).1 = true := by decide
  obtain ⟨a, ha, q, has, named⟩ := (always ws 0 ctx "Dog" e label line consulted hctx he ready
    (Or.inl (of_decide_eq_true listed)) lineage).mp inherited
  rw [lineage.ancestors_eq] at ancestors
  obtain ⟨a, rfl, names⟩ := List.map_eq_singleton_iff.mp ancestors
  obtain rfl := List.mem_singleton.mp ha
  have borne : q.name ∈ ["title", "id"] := by
    rw [← names]
    refine List.mem_map_of_mem (List.mem_append.mpr (has.imp id ?_))
    rintro ⟨identity, held, member⟩
    simpa [held] using member
  rw [named] at borne
  exact absurd borne (by decide)

end Workspace
end Persistence
