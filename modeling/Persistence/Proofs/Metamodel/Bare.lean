import Persistence.Metamodel.Context
import Persistence.Proofs.Access.Handled

/-! What a context is apart from how it handles proxies. A bare context has the accessors of its entities, but neither
    their handling nor their numbers. Nothing that initialization asks of a context depends on these, and what it does
    to a context it does to the bare one alike. -/

namespace Persistence

def EntityModel.bare (model : EntityModel) : EntityModel := { model with reflector := model.reflector.bare }

def Phase.bare : Phase → Phase
  | .ready model => .ready model.bare
  | .populating => .populating
  | .idle => .idle

namespace Entity

def bare (entity : Entity) : Entity := { entity with phase := entity.phase.bare }

variable (entity : Entity)

theorem model?_bare : entity.bare.model? = entity.model?.map EntityModel.bare := by
  obtain ⟨cls, phase⟩ := entity
  cases phase <;> rfl

theorem isInitialized_bare : entity.bare.isInitialized = entity.isInitialized := by
  unfold isInitialized
  rw [model?_bare, Option.isSome_map]

theorem parent?_bare : entity.bare.parent? = entity.parent? := by
  unfold parent?
  rw [model?_bare, Option.bind_map]
  rfl

theorem property?_bare (name : String) : entity.bare.property? name = entity.property? name := by
  unfold property? layout?
  rw [model?_bare, Option.map_map]
  rfl

theorem reflector_bare : entity.bare.reflector = Reflector.bare <$> entity.reflector := by
  obtain ⟨cls, phase⟩ := entity
  cases phase <;> rfl

end Entity

namespace Context

def bare (ctx : Context) : Context := { ctx with handling := .direct, entities := ctx.entities.map Entity.bare }

variable (ctx : Context)

/-! ### Questions -/

theorem entity?_bare (name : String) : ctx.bare.entity? name = (ctx.entity? name).map Entity.bare := by
  unfold entity? bare
  rw [List.find?_map]
  rfl

theorem requireEntity_bare (name : String) : ctx.bare.requireEntity name = Entity.bare <$> ctx.requireEntity name := by
  unfold requireEntity
  rw [entity?_bare]
  cases ctx.entity? name <;> rfl

theorem chainFrom_bare (start : String) (levels : Nat) (visited : List String) (name : String) :
    ctx.bare.chainFrom start levels visited name = ctx.chainFrom start levels visited name := by
  induction levels generalizing visited name with
  | zero => rfl
  | succ levels ih =>
    unfold chainFrom
    simp only [ih]
    rfl

theorem hierarchy_bare (name : String) : ctx.bare.hierarchy name = ctx.hierarchy name := by
  unfold hierarchy
  rw [chainFrom_bare]
  rfl

theorem lineFrom_bare (levels : Nat) (name : Option String) :
    ctx.bare.lineFrom levels name = (ctx.lineFrom levels name).map Entity.bare := by
  induction levels generalizing name with
  | zero => rfl
  | succ levels ih =>
    cases name with
    | none => rfl
    | some name =>
      unfold lineFrom
      rw [entity?_bare]
      cases ctx.entity? name with
      | none => rfl
      | some entity =>
        rw [Option.map_some]
        dsimp only
        rw [ih, entity.parent?_bare, List.map_cons]

theorem ancestors_bare (entity : Entity) : ctx.bare.ancestors entity.bare = (ctx.ancestors entity).map Entity.bare := by
  unfold ancestors
  rw [lineFrom_bare, entity.parent?_bare]
  unfold bare
  rw [List.length_map]

theorem isInherited_bare : ctx.bare.isInherited = ctx.isInherited := by
  funext p
  unfold isInherited
  rw [entity?_bare]
  cases ctx.entity? p.owner with
  | none => rfl
  | some owner =>
    rw [Option.map_some]
    dsimp only
    rw [owner.isInitialized_bare, ancestors_bare, List.any_map]
    simp only [Function.comp_def, Entity.property?_bare]

/-! ### Changes -/

theorem bare_register (cls : Class) : (ctx.register cls).bare = ctx.bare.register cls := rfl

theorem bare_enroll (cls : Class) : (ctx.enroll cls).bare = ctx.bare.enroll cls := by
  unfold enroll bare
  rw [List.map_append]
  rfl

theorem bare_setPhase (name : String) (phase : Phase) :
    (ctx.setPhase name phase).bare = ctx.bare.setPhase name phase.bare := by
  unfold setPhase bare
  rw [List.map_map, List.map_map]
  congr 1
  refine List.map_congr_left fun entity _ => ?_
  dsimp only [Function.comp_apply]
  have same : entity.bare.name = entity.name := rfl
  rw [same]
  split <;> rfl

end Context
end Persistence
