import Persistence.Proofs.Metamodel.Supply

/-! What holds of every entity that has its model, in whatever contexts are opened and closed, whatever is asked of them
    and whatever caches they share: its model was built with the settings of its context, and its reflector, wherever
    it comes from, has one index by name, of the accessors of its properties and then of the members of its
    identity. -/

namespace Persistence

/-! ### Indexes of reflectors -/

/-- The accessors by name are those of the properties and then those of the members of the identity. -/
def Reflector.Indexed (r : Reflector) : Prop :=
  r.byName = Keyed.ofList (r.pairs.map (fun pair => (pair.reader.property, pair)) ++
    r.identity.members.map fun member => (member.name, member.pair))

theorem Reflector.indexed_compile {number : Nat} {hierarchy : List Class} {properties : List Property}
    {identity : Identity} {handling : ProxyHandling} {r : Reflector}
    (h : compile number hierarchy properties identity handling = .ok r) : r.Indexed :=
  (assembled_of_compile h).byName

/-- Entries with indexes give out nothing but reflectors with indexes. -/
theorem Reflector.supply_indexed :
    Supply (fun _ => True) (·.reflector.Indexed) (fun _ _ r => r.Indexed) where
  served indexed _ _ _ := indexed
  compiled _ _ compiled := ⟨indexed_compile compiled, indexed_compile compiled⟩

/-! ### Models -/

/-- A model that was built with the given settings for a class, with a reflector that has its index. -/
structure EntityModel.Regular (model : EntityModel) (settings : Settings) (cls : Class) : Prop where
  indexed : model.reflector.Indexed
  built : ∃ ctx : Context, ctx.settings = settings ∧ model.Built ctx cls

/-! ### Workspaces -/

namespace Workspace

/-- The workspaces that come about when contexts are opened, each with a cache that others may use too, are called and
are closed, while entries of the caches are taken out. What is known of held properties has no part in it. -/
inductive Reached : Workspace → Prop where
  | start : Reached {}
  | opened {ws : Workspace} (before : Reached ws) (id : Nat) (cache : String) (settings : Settings)
    (strategy : Strategy) (handling : ProxyHandling) :
    Reached (ws.openContext id cache { settings, strategy, handling })
  | closed {ws : Workspace} (before : Reached ws) (id : Nat) : Reached (ws.closeContext id)
  | called {ws : Workspace} (before : Reached ws) (id : Nat) (call : Call) : Reached (ws.run id call.perform).2.2
  | removed {ws : Workspace} (before : Reached ws) (id : Nat) (entity : String) :
    Reached (ws.updateCache id fun cache => (cache.remove entity).2)
  | cleared {ws : Workspace} (before : Reached ws) (id : Nat) : Reached (ws.updateCache id ReflectorCache.clear)
  | asked {ws : Workspace} (before : Reached ws) (known : List ((Nat × String × String) × Bool)) :
    Reached { ws with known }

theorem Reached.reachedWith {ws : Workspace} (h : ws.Reached) : ws.ReachedWith fun _ => True := by
  induction h with
  | start => exact .start
  | opened _ id cache settings strategy handling ih => exact ih.opened id cache settings strategy handling
  | closed _ id ih => exact ih.closed id
  | called _ id call ih => exact ih.called id call fun _ _ => trivial
  | removed _ id entity ih => exact ih.removed id entity
  | cleared _ id ih => exact ih.cleared id
  | asked _ known ih => exact ih.asked known

/-- An entity with a model has a regular one. -/
theorem Reached.model {ws : Workspace} {id : Nat} {ctx : Context} {name : String} {e : Entity} (h : ws.Reached)
    (hctx : ws.context? id = some ctx) (he : ctx.entity? name = some e) (ready : e.isInitialized = true) :
    ∃ model, e = { cls := e.cls, phase := .ready model } ∧ model.Regular ctx.settings e.cls := by
  obtain ⟨model, origin, same, settings, -, suited⟩ := h.reachedWith.model Reflector.supply_indexed hctx he ready
  obtain ⟨hierarchy, -, -, indexed⟩ := suited.reflector
  exact ⟨model, same, indexed, origin, settings, suited.built⟩

end Workspace
end Persistence
