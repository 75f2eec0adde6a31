import Persistence.Proofs.Metamodel.Regularity
import Persistence.Proofs.Metamodel.Views

/-! Access by position and by name. The accessors of the properties have the positions of the properties, and the index
    by name has the same ones, because the names of the properties are distinct and none of them is that of a member
    of the identity. So it makes no difference in which of the two ways a property is reached. -/

namespace Persistence

/-- A name that one of some pairs bears, and no later one, reads as the value of that pair. -/
theorem Keyed.get?_ofList_append {α : Type} {pairs later : List (String × α)} {key : String} {value : α}
    (distinct : (pairs.map (·.1)).Nodup) (mem : (key, value) ∈ pairs) (apart : key ∉ later.map (·.1)) :
    (ofList (pairs ++ later)).get? key = some value := by
  have passed : later.reverse.find? (·.1 == key) = none := by
    refine List.find?_eq_none.mpr fun pair hpair same => apart ?_
    exact List.mem_map.mpr ⟨pair, List.mem_reverse.mp hpair, beq_iff_eq.mp same⟩
  have found : (pairs.reverse.find? (·.1 == key)).isSome = true :=
    List.find?_isSome.mpr ⟨_, List.mem_reverse.mpr mem, by simp⟩
  obtain ⟨pair, hpair⟩ := Option.isSome_iff_exists.mp found
  have same : pair.1 = key := by simpa using List.find?_some hpair
  have one : pair = (key, value) :=
    List.inj_on_of_nodup_map distinct (List.mem_reverse.mp (List.mem_of_find?_eq_some hpair)) mem same
  rw [get?_ofList, List.reverse_append, List.find?_append, passed, Option.none_or, hpair, one]
  rfl

namespace Reflector

variable {r : Reflector} {index : Nat} {pair : AccessorPair} {name : String} {obj : Instance}

/-- Each position has the accessors that the name at it has. -/
def Aligned (r : Reflector) : Prop :=
  ∀ (index : Nat) (pair : AccessorPair), r.pairs[index]? = some pair → r.byName.get? pair.reader.property = some pair

theorem Indexed.aligned (h : r.Indexed) (distinct : r.names.Nodup)
    (apart : ∀ n ∈ r.names, n ∉ r.identity.members.map (·.name)) : r.Aligned := by
  intro index pair hpair
  have member : pair ∈ r.pairs := List.mem_of_getElem? hpair
  rw [h]
  refine Keyed.get?_ofList_append ?_ (List.mem_map_of_mem member) ?_
  · rw [List.map_map]
    exact distinct
  · rw [List.map_map]
    exact apart _ (List.mem_map_of_mem member)

theorem pairAt_eq_pair (h : r.Aligned) (hname : r.names[index]? = some name) : ∃ pair, r.pairAt index = .ok pair ∧
    r.pair name = .ok pair ∧ pair.reader.property = name := by
  unfold names at hname
  rw [List.getElem?_map] at hname
  obtain ⟨pair, hpair, rfl⟩ := Option.map_eq_some_iff.mp hname
  refine ⟨pair, ?_, ?_, rfl⟩
  · rw [pairAt, hpair]
  · rw [Reflector.pair, h index pair hpair]

theorem readerAt_eq_reader (h : r.Aligned) (hname : r.names[index]? = some name) :
    r.readerAt index = r.reader name := by
  obtain ⟨pair, at_, named, -⟩ := pairAt_eq_pair h hname
  rw [readerAt, reader, at_, named]

theorem writerAt_eq_writer (h : r.Aligned) (hname : r.names[index]? = some name) :
    r.writerAt index = r.writer name := by
  obtain ⟨pair, at_, named, rfl⟩ := pairAt_eq_pair h hname
  rw [writerAt, writer, at_, named]
  rfl

theorem pairAt_of_size_le (h : r.size ≤ index) : r.pairAt index = .error (.indexOutOfBounds index r.size r.entity) := by
  unfold size at h
  rw [pairAt, List.getElem?_eq_none h, size]

end Reflector

/-- What a reflector does by position is what it does by the name of the property at the position, to any object and with
any value; beyond the last position it does nothing but fail. -/
structure Entity.PositionsAgree (e : Entity) (r : Reflector) : Prop where
  names : r.names = e.properties.map (·.name)
  size : r.size = e.properties.length
  named : ∀ index name, r.names[index]? = some name →
    r.readerAt index = r.reader name ∧ r.writerAt index = r.writer name ∧
    (∀ obj, r.getPropertyAt index obj = r.getProperty name obj) ∧
    ∀ value obj, r.setPropertyAt index value obj = r.setProperty name value obj
  beyond : ∀ index, r.size ≤ index →
    r.readerAt index = .error (.indexOutOfBounds index r.size r.entity) ∧
    r.writerAt index = .error (.indexOutOfBounds index r.size r.entity) ∧
    (∀ obj, r.getPropertyAt index obj = .error (.indexOutOfBounds index r.size r.entity)) ∧
    ∀ value obj, r.setPropertyAt index value obj = (.error (.indexOutOfBounds index r.size r.entity), obj)

theorem Entity.positionsAgree_of_aligned {e : Entity} {r : Reflector} (h : r.Aligned)
    (names : r.names = e.properties.map (·.name)) : e.PositionsAgree r where
  names := names
  size := by
    have length := congrArg List.length names
    rwa [Reflector.names, List.length_map, List.length_map] at length
  named index name hname := by
    have readers := Reflector.readerAt_eq_reader h hname
    have writers := Reflector.writerAt_eq_writer h hname
    refine ⟨readers, writers, fun obj => ?_, fun value obj => ?_⟩
    · rw [Reflector.getPropertyAt, Reflector.getProperty, readers]
    · rw [Reflector.setPropertyAt, Reflector.setProperty, writers]
  beyond index le := by
    have absent := Reflector.pairAt_of_size_le le
    have reader : r.readerAt index = .error (.indexOutOfBounds index r.size r.entity) := by
      rw [Reflector.readerAt, absent]
      rfl
    have writer : r.writerAt index = .error (.indexOutOfBounds index r.size r.entity) := by
      rw [Reflector.writerAt, absent]
      rfl
    refine ⟨reader, writer, fun obj => ?_, fun value obj => ?_⟩
    · rw [Reflector.getPropertyAt, reader]
      rfl
    · rw [Reflector.setPropertyAt, writer]
      rfl

/-- The reflector of a regular model is aligned. -/
theorem EntityModel.Regular.aligned {model : EntityModel} {settings : Settings} {cls : Class}
    (h : model.Regular settings cls) : model.reflector.Aligned := by
  obtain ⟨ctx, -, built⟩ := h.built
  obtain ⟨hierarchy, -, views⟩ := built.viewsAgree
  obtain ⟨names, members⟩ := Reflector.members_of_isCompiledFor built.reflector
  refine h.indexed.aligned ?_ ?_
  · rw [names]
    exact views.distinct
  · rw [names, members]
    intro n hn
    obtain ⟨p, hp, rfl⟩ := List.mem_map.mp hn
    exact (views.unlisted p hp).1

namespace Workspace

/-- Every entity that has its model has a reflector whose positions and names agree, in whatever contexts it is and
whatever caches they share. -/
theorem Reached.positionsAgree {ws : Workspace} {id : Nat} {ctx : Context} {name : String} {e : Entity}
    (reached : ws.Reached) (hctx : ws.context? id = some ctx) (he : ctx.entity? name = some e)
    (ready : e.isInitialized = true) : ∃ r, e.reflector = .ok r ∧ e.PositionsAgree r := by
  obtain ⟨model, same, regular⟩ := reached.model hctx he ready
  obtain ⟨origin, -, built⟩ := regular.built
  rw [same]
  exact ⟨model.reflector, rfl,
    Entity.positionsAgree_of_aligned regular.aligned (Reflector.members_of_isCompiledFor built.reflector).1⟩

/-- Two members are the identity of the second context's entity, and the only property is read only. Its reflector is
the one that the first context had compiled. -/
theorem Reached.positionsAgree_readOnly :
    let full : Getter := fun obj => .ok (obj.get "first")
    let cls : Class :=
      { stamp := 1, name := "A", isEntity := true
        fields := [{ name := "first", type := .text }, { name := "last", type := .text }]
        methods := [{ name := "getFull", property := "full", type := .text, origin := .declared, body := .getter full }]
        mapping := some { identifier := some { names := ["last", "first"] } } }
    let opened : Workspace := (({} : Workspace).openContext 0 "c" {}).openContext 1 "c" {}
    let ws := ((opened.run 0 (Call.add cls).perform).2.2.run 1 (Call.add cls).perform).2.2
    (ws.cache "c").builds = 1 ∧ ∃ (ctx : Context) (e : Entity) (r : Reflector), ws.context? 1 = some ctx ∧
      ctx.entity? "A" = some e ∧ e.reflector = .ok r ∧ r.names = ["full"] ∧
      r.readerAt 0 = r.reader "full" ∧
      (∀ value obj, r.setPropertyAt 0 value obj = (.error (.readOnly "full" "A"), obj)) ∧
      ∀ value obj, r.setPropertyAt 1 value obj = (.error (.indexOutOfBounds 1 1 "A"), obj) := by
  intro full cls opened ws
  have once : (ws.cache "c").builds = 1 := by decide
  have shown : ((ws.context? 1).bind fun ctx => (ctx.entity? "A").bind fun e => e.reflector.toOption.map fun r =>
      (e.isInitialized, r.names, r.entity, r.pairs.map (·.writer.isNone))) = some (true, ["full"], "A", [true]) := by
    decide
  have beside : opened.Reached := (Reached.start.opened 0 "c" {} {} .transparent).opened 1 "c" {} {} .transparent
  have first : (opened.run 0 (Call.add cls).perform).2.2.Reached := beside.called 0 (.add cls)
  have reached : ws.Reached := first.called 1 (.add cls)
  obtain ⟨ctx, hctx, shown⟩ := Option.bind_eq_some_iff.mp shown
  obtain ⟨e, he, shown⟩ := Option.bind_eq_some_iff.mp shown
  obtain ⟨r, hr, shown⟩ := Option.map_eq_some_iff.mp shown
  have hr : e.reflector = .ok r := toOption_eq_some.mp hr
  obtain ⟨ready, names, entity, unwritten⟩ := by simpa only [Prod.mk.injEq] using shown
  obtain ⟨r', hr', agree⟩ := reached.positionsAgree hctx he ready
  obtain rfl : r = r' := Except.ok.inj (hr.symm.trans hr')
  obtain ⟨readers, -, -, -⟩ := agree.named 0 "full" (by rw [names]; rfl)
  obtain ⟨pair, hpairs, unwritten⟩ := List.map_eq_singleton_iff.mp unwritten
  have one : r.size = 1 := by rw [Reflector.size, hpairs, List.length_singleton]
  obtain ⟨-, -, -, beyond⟩ := agree.beyond 1 (Nat.le_of_eq one)
  rw [one, entity] at beyond
  have refused : r.writerAt 0 = .error (.readOnly "full" "A") := by
    have named : pair.reader.property = "full" := by simpa [Reflector.names, hpairs] using names
    simp [Reflector.writerAt, Reflector.pairAt, hpairs, bind, Except.bind, Reflector.writerOf,
      Option.isNone_iff_eq_none.mp unwritten, named, entity]
  refine ⟨once, ctx, e, r, hctx, he, hr, names, readers, fun value obj => ?_, beyond⟩
  rw [Reflector.setPropertyAt, refused]
  rfl

end Workspace
end Persistence
