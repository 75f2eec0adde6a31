import Mathlib.Data.List.Chain
import Persistence.Proofs.Metamodel.Depth

/-! Hierarchies. The loop along superclasses comes to an end whatever the classes are, since it stops at the first name
    that it has seen before; and it ends well exactly where the superclasses lead, through different registered
    classes, to one without a superclass. The classes that it comes by are then the hierarchy, and a hierarchy that was
    found is found again as long as its classes stay registered. -/

namespace Persistence.Context

variable {ctx old new : Context} {start name : String} {visited : List String} {line : List Class}
  {answer : Except Fault (List Class)} {levels : Nat}

/-! ### The loop along superclasses -/

/-- The loop along superclasses, which may take any number of rounds: the names that it has visited, the one that it is
at, and what it ends with, the classes from there on, lowest first, or a fault. -/
inductive Walks (ctx : Context) (start : String) : List String → String → Except Fault (List Class) → Prop where
  | revisited {visited : List String} {name : String} (seen : name ∈ visited) :
    Walks ctx start visited name (.error (.configuration (.cyclicHierarchy start name)))
  | unregistered {visited : List String} {name : String} (fresh : name ∉ visited)
      (unknown : ctx.classes.get? name = none) :
    Walks ctx start visited name (.error (.configuration (.unregisteredClass name)))
  | root {visited : List String} {name : String} {cls : Class} (fresh : name ∉ visited)
      (known : ctx.classes.get? name = some cls) (top : cls.superclass = none) : Walks ctx start visited name (.ok [cls])
  | up {visited : List String} {name superclass : String} {cls : Class} {answer : Except Fault (List Class)}
      (fresh : name ∉ visited) (known : ctx.classes.get? name = some cls) (above : cls.superclass = some superclass)
      (rest : Walks ctx start (name :: visited) superclass answer) :
    Walks ctx start visited name ((cls :: ·) <$> answer)

/-- Different registered names that were visited leave a level for the next one. -/
theorem exists_level (distinct : visited.Nodup) (known : ∀ n ∈ visited, (ctx.classes.get? n).isSome = true)
    (enough : ctx.classes.length < levels + visited.length) : ∃ below, levels = below + 1 := by
  have bound := Keyed.length_le_of_known distinct known
  exact Nat.exists_eq_add_one.mpr (by omega)

/-- The loop ends, since every round visits another registered name; a level for each of them is enough for it. -/
theorem walks_chainFrom (distinct : visited.Nodup) (known : ∀ n ∈ visited, (ctx.classes.get? n).isSome = true)
    (enough : ctx.classes.length < levels + visited.length) :
    ctx.Walks start visited name (ctx.chainFrom start levels visited name) := by
  induction levels generalizing name visited with
  | zero =>
    obtain ⟨_, none_left⟩ := exists_level distinct known enough
    cases none_left
  | succ levels ih =>
    unfold chainFrom
    split
    next seen => exact .revisited (List.contains_iff_mem.mp seen)
    next fresh =>
      have fresh : name ∉ visited := fun seen => fresh (List.contains_iff_mem.mpr seen)
      cases hcls : ctx.classes.get? name with
      | none => exact .unregistered fresh hcls
      | some cls =>
        dsimp only
        cases above : cls.superclass with
        | none => exact .root fresh hcls above
        | some superclass =>
          refine .up fresh hcls above (ih (List.nodup_cons.mpr ⟨fresh, distinct⟩) ?_ ?_)
          · exact List.forall_mem_cons.mpr ⟨Option.isSome_iff_exists.mpr ⟨cls, hcls⟩, known⟩
          · rw [List.length_cons]
            omega

/-- Nothing else comes of the loop than what the walk ends with. -/
theorem Walks.chainFrom_eq (h : ctx.Walks start visited name answer) (distinct : visited.Nodup)
    (known : ∀ n ∈ visited, (ctx.classes.get? n).isSome = true)
    (enough : ctx.classes.length < levels + visited.length) :
    ctx.chainFrom start levels visited name = answer := by
  induction h generalizing levels with
  | revisited seen =>
    obtain ⟨below, rfl⟩ := exists_level distinct known enough
    rw [chainFrom, if_pos (List.contains_iff_mem.mpr seen)]
  | unregistered fresh unknown =>
    obtain ⟨below, rfl⟩ := exists_level distinct known enough
    rw [chainFrom, if_neg fun seen => fresh (List.contains_iff_mem.mp seen), unknown]
  | root fresh found top =>
    obtain ⟨below, rfl⟩ := exists_level distinct known enough
    rw [chainFrom, if_neg fun seen => fresh (List.contains_iff_mem.mp seen), found]
    dsimp only
    rw [top]
  | @up visited name superclass cls answer fresh found above _ ih =>
    obtain ⟨below, rfl⟩ := exists_level distinct known enough
    rw [chainFrom, if_neg fun seen => fresh (List.contains_iff_mem.mp seen), found]
    dsimp only
    rw [above]
    dsimp only
    rw [ih (List.nodup_cons.mpr ⟨fresh, distinct⟩)]
    · exact List.forall_mem_cons.mpr ⟨Option.isSome_iff_exists.mpr ⟨cls, found⟩, known⟩
    · rw [List.length_cons]
      omega

/-- The loop from a name on ends in one way, and the hierarchy of the name is the classes that it comes by, turned
round. -/
theorem exists_walks (ctx : Context) (name : String) :
    ∃ answer, (∀ other, ctx.Walks name [] name other ↔ other = answer) ∧ ctx.hierarchy name = List.reverse <$> answer := by
  have enough : ctx.classes.length < ctx.classes.length + 1 + ([] : List String).length := Nat.lt_succ_self _
  refine ⟨ctx.chainFrom name (ctx.classes.length + 1) [] name, fun other => ⟨fun walks => ?_, ?_⟩, rfl⟩
  · exact (walks.chainFrom_eq List.nodup_nil (by simp) enough).symm
  · rintro rfl
    exact walks_chainFrom List.nodup_nil (by simp) enough

/-! ### Where superclasses lead -/

/-- The registered classes from a name on, each followed by its superclass, up to one that has none. -/
inductive Ascends (ctx : Context) : String → List Class → Prop where
  | root {name : String} {cls : Class} (known : ctx.classes.get? name = some cls) (top : cls.superclass = none) :
    Ascends ctx name [cls]
  | up {name superclass : String} {cls : Class} {line : List Class} (known : ctx.classes.get? name = some cls)
      (above : cls.superclass = some superclass) (rest : Ascends ctx superclass line) : Ascends ctx name (cls :: line)

/-- A line is found again as long as its classes stay registered. -/
theorem Ascends.mono (kept : ∀ n cls, old.classes.get? n = some cls → new.classes.get? n = some cls)
    (h : old.Ascends name line) : new.Ascends name line := by
  induction h with
  | root known top => exact .root (kept _ _ known) top
  | up known above _ ih => exact .up (kept _ _ known) above ih

theorem Ascends.congr (same : new.classes = old.classes) (h : old.Ascends name line) : new.Ascends name line :=
  h.mono fun _ _ found => same ▸ found

theorem Ascends.unique {line' : List Class} (h : ctx.Ascends name line) (h' : ctx.Ascends name line') : line = line' := by
  induction h generalizing line' with
  | root known top =>
    cases h' with
    | root known' =>
      cases known.symm.trans known'
      rfl
    | up known' above =>
      cases known.symm.trans known'
      cases top.symm.trans above
  | up known above _ ih =>
    cases h' with
    | root known' top =>
      cases known.symm.trans known'
      cases top.symm.trans above
    | up known' above' rest' =>
      cases known.symm.trans known'
      cases above.symm.trans above'
      rw [ih rest']

theorem Ascends.superclass_getLast? (h : ctx.Ascends name line) :
    line.getLast?.map (·.superclass) = some none := by
  induction h with
  | root _ top => exact congrArg some top
  | up _ _ rest ih =>
    cases rest with
    | root => exact ih
    | up =>
      rw [List.getLast?_cons_cons]
      exact ih

section Keyed
variable (keyed : ∀ n cls, ctx.classes.get? n = some cls → cls.name = n)
include keyed

/-- A line starts with the named class. -/
theorem Ascends.exists_cons (h : ctx.Ascends name line) :
    ∃ cls above, line = cls :: above ∧ cls.name = name ∧ ctx.classes.get? name = some cls := by
  cases h with
  | root known => exact ⟨_, _, rfl, keyed _ _ known, known⟩
  | up known => exact ⟨_, _, rfl, keyed _ _ known, known⟩

theorem Ascends.isChain (h : ctx.Ascends name line) :
    line.IsChain fun lower upper => lower.superclass = some upper.name := by
  induction h with
  | root => exact .singleton _
  | up known above rest ih =>
    obtain ⟨upper, others, rfl, rfl, -⟩ := rest.exists_cons keyed
    exact .cons_cons above ih

/-- Every class of a line is registered, and from it on the line goes on as it does from its name. -/
theorem Ascends.of_mem (h : ctx.Ascends name line) {cls : Class} (hcls : cls ∈ line) :
    ctx.classes.get? cls.name = some cls ∧ ∃ above, ctx.Ascends cls.name above ∧ above <:+ line := by
  induction h with
  | root known top =>
    obtain rfl := List.mem_singleton.mp hcls
    obtain rfl := keyed _ _ known
    exact ⟨known, _, .root known top, List.suffix_rfl⟩
  | up known above rest ih =>
    rcases List.mem_cons.mp hcls with rfl | hcls
    · obtain rfl := keyed _ _ known
      exact ⟨known, _, .up known above rest, List.suffix_rfl⟩
    · obtain ⟨found, line, ascends, suffix⟩ := ih hcls
      exact ⟨found, line, ascends, suffix.trans (List.suffix_cons _ _)⟩

/-- No class comes twice in a line: what follows it would go on for as long as the line does from its first place. -/
theorem Ascends.nodup (h : ctx.Ascends name line) : (line.map (·.name)).Nodup := by
  induction h with
  | root => exact List.nodup_singleton _
  | @up name superclass cls line known above rest ih =>
    obtain rfl := keyed _ _ known
    refine List.nodup_cons.mpr ⟨fun again => ?_, ih⟩
    obtain ⟨other, hother, same⟩ := List.mem_map.mp again
    obtain ⟨-, shorter, ascends, suffix⟩ := rest.of_mem keyed hother
    rw [same] at ascends
    have bound := suffix.length_le
    rw [← (Ascends.up known above rest).unique ascends, List.length_cons] at bound
    exact Nat.not_succ_le_self _ bound

/-- The loop comes by the classes of a line, unless it has visited one of them. -/
theorem Ascends.walks (h : ctx.Ascends name line) (fresh : ∀ n ∈ line.map (·.name), n ∉ visited) :
    ctx.Walks start visited name (.ok line) := by
  induction h generalizing visited with
  | root known top =>
    obtain rfl := keyed _ _ known
    exact .root (fresh _ List.mem_cons_self) known top
  | @up name superclass cls line known above rest ih =>
    obtain ⟨once, -⟩ := List.nodup_cons.mp ((Ascends.up known above rest).nodup keyed)
    have named : cls.name = name := keyed _ _ known
    subst named
    have onward : ctx.Walks start (cls.name :: visited) superclass (.ok line) := by
      refine ih fun n hn seen => ?_
      rcases List.mem_cons.mp seen with rfl | seen
      · exact once hn
      · exact fresh n (List.mem_cons_of_mem _ hn) seen
    exact .up (fresh _ List.mem_cons_self) known above onward

omit keyed in
/-- Either the loop comes by a line of classes, or it ends with a fault of configuration. -/
theorem Walks.ascends (h : ctx.Walks start visited name answer) :
    (∃ line, answer = .ok line ∧ ctx.Ascends name line) ∨ ∃ cause, answer = .error (.configuration cause) := by
  induction h with
  | revisited => exact Or.inr ⟨_, rfl⟩
  | unregistered => exact Or.inr ⟨_, rfl⟩
  | root _ known top => exact Or.inl ⟨_, rfl, .root known top⟩
  | up _ known above _ ih =>
    obtain ⟨line, rfl, ascends⟩ | ⟨cause, rfl⟩ := ih
    · exact Or.inl ⟨_, rfl, .up known above ascends⟩
    · exact Or.inr ⟨cause, rfl⟩

/-- A hierarchy is what the superclasses lead through, turned round. -/
theorem hierarchy_eq_ok {result : List Class} :
    ctx.hierarchy name = .ok result ↔ ∃ line, ctx.Ascends name line ∧ result = line.reverse := by
  obtain ⟨answer, loop, same⟩ := ctx.exists_walks name
  rw [same]
  constructor
  · intro found
    obtain ⟨line, rfl, rfl⟩ := map_eq_ok.mp found
    obtain ⟨line', found, ascends⟩ | ⟨cause, refused⟩ := ((loop _).mpr rfl).ascends
    · cases found
      exact ⟨line, ascends, rfl⟩
    · cases refused
  · rintro ⟨line, ascends, rfl⟩
    rw [← (loop _).mp (ascends.walks keyed (by simp))]
    rfl

/-- The class at the end of a hierarchy is the registered one, and the one before it is that of its superclass. -/
theorem lowest_of_hierarchy {above : List Class} {cls : Class} (h : ctx.hierarchy name = .ok (above ++ [cls])) :
    cls.name = name ∧ ctx.classes.get? name = some cls ∧ above.getLast? = cls.superclass.bind ctx.classes.get? := by
  obtain ⟨line, ascends, same⟩ := (hierarchy_eq_ok keyed).mp h
  obtain rfl : line = cls :: above.reverse := by
    rw [← List.reverse_reverse line, ← same, List.reverse_append]
    rfl
  obtain ⟨_, _, ⟨⟩, named, known⟩ := ascends.exists_cons keyed
  refine ⟨named, known, ?_⟩
  rw [← List.head?_reverse]
  generalize above.reverse = line at ascends
  cases ascends with
  | root _ top =>
    rw [top]
    rfl
  | up _ superclass rest =>
    obtain ⟨upper, others, rfl, -, found⟩ := rest.exists_cons keyed
    rw [superclass, Option.bind_some, found]
    rfl

end Keyed

theorem hierarchy_cases (ctx : Context) (name : String) :
    (∃ result, ctx.hierarchy name = .ok result) ∨ ∃ cause, ctx.hierarchy name = .error (.configuration cause) := by
  obtain ⟨answer, loop, same⟩ := ctx.exists_walks name
  rw [same]
  obtain ⟨line, rfl, -⟩ | ⟨cause, rfl⟩ := ((loop _).mpr rfl).ascends
  · exact Or.inl ⟨_, rfl⟩
  · exact Or.inr ⟨cause, rfl⟩

theorem keyed_foldl_register {classes : List Class} (keyed : ∀ n cls, ctx.classes.get? n = some cls → cls.name = n) :
    ∀ n cls, (classes.foldl Context.register ctx).classes.get? n = some cls → cls.name = n := by
  induction classes generalizing ctx with
  | nil => exact keyed
  | cons cls rest ih => exact ih (keyed_register keyed cls)

/-- Whatever classes were registered one after the other, the loop along the superclasses of a name ends, and in one
way only. There is a hierarchy exactly where the superclasses lead through different registered classes to one without
a superclass. It consists of these classes: the one without a superclass comes first, each is the superclass of the
next, and the named class is the last. Otherwise a fault of configuration is reported. -/
theorem hierarchy_of_registered (ctx : Context) (classes : List Class) (name : String) :
    let registry := classes.foldl Context.register { ctx with classes := [] }
    (∃ answer, (∀ other, registry.Walks name [] name other ↔ other = answer) ∧
      registry.hierarchy name = List.reverse <$> answer) ∧
    (∀ result, registry.hierarchy name = .ok result ↔
      ∃ line, registry.Ascends name line ∧ (line.map (·.name)).Nodup ∧ result = line.reverse) ∧
    (∀ result, registry.hierarchy name = .ok result →
      result.getLast?.map (·.name) = some name ∧ result.head?.map (·.superclass) = some none ∧
      (result.IsChain fun upper lower => lower.superclass = some upper.name) ∧
      ∀ cls ∈ result, registry.classes.get? cls.name = some cls) ∧
    ((¬ ∃ line, registry.Ascends name line ∧ (line.map (·.name)).Nodup) →
      ∃ cause, registry.hierarchy name = .error (.configuration cause)) := by
  intro registry
  have keyed : ∀ n cls, registry.classes.get? n = some cls → cls.name = n := keyed_foldl_register (by simp)
  refine ⟨registry.exists_walks name, fun result => ⟨fun found => ?_, ?_⟩, fun result found => ?_, fun nowhere => ?_⟩
  · obtain ⟨line, ascends, same⟩ := (hierarchy_eq_ok keyed).mp found
    exact ⟨line, ascends, ascends.nodup keyed, same⟩
  · rintro ⟨line, ascends, -, same⟩
    exact (hierarchy_eq_ok keyed).mpr ⟨line, ascends, same⟩
  · obtain ⟨line, ascends, rfl⟩ := (hierarchy_eq_ok keyed).mp found
    refine ⟨?_, ?_, List.isChain_reverse.mpr (ascends.isChain keyed), fun cls hcls => ?_⟩
    · obtain ⟨cls, above, rfl, named, -⟩ := ascends.exists_cons keyed
      rw [List.getLast?_reverse]
      exact congrArg some named
    · rw [List.head?_reverse]
      exact ascends.superclass_getLast?
    · exact (ascends.of_mem keyed (List.mem_reverse.mp hcls)).1
  · refine (registry.hierarchy_cases name).resolve_left ?_
    rintro ⟨result, found⟩
    obtain ⟨line, ascends, -⟩ := (hierarchy_eq_ok keyed).mp found
    exact nowhere ⟨line, ascends, ascends.nodup keyed⟩

/-- Two classes that extend each other, one that extends itself, one whose superclass is missing, and one below a class
without a superclass. -/
example :
    let classes : List Class := [{ stamp := 1, name := "A", superclass := some "B" },
      { stamp := 2, name := "B", superclass := some "A" }, { stamp := 3, name := "C", superclass := some "C" },
      { stamp := 4, name := "D", superclass := some "E" }, { stamp := 5, name := "F" },
      { stamp := 6, name := "G", superclass := some "F" }]
    let registry := classes.foldl Context.register {}
    (["A", "C", "D", "G"].map fun name => (registry.hierarchy name).toOption.map fun found => found.map (·.name)) =
      [none, none, none, some ["F", "G"]] := by
  decide

end Persistence.Context
