import Persistence.Proofs.Metamodel.Nesting

/-! How deep initializations nest. Each level populates an entity that no level above it populates, and an entity stands
    for a class that is known; so there are never more levels than classes, and whatever would be done below the last
    one is not reached. Nor does a walk along superclasses, which visits no class twice, run out of steps. -/

namespace Persistence

theorem Keyed.mem_keys_of_get? {α : Type} {entries : Keyed α} {key : String}
    (h : (entries.get? key).isSome = true) : key ∈ entries.keys := by
  induction entries with
  | nil => cases h
  | cons entry rest ih =>
    obtain ⟨k, v⟩ := entry
    unfold get? at h
    split at h
    next same => exact List.mem_cons.mpr (Or.inl same.symm)
    · exact List.mem_cons_of_mem _ (ih h)

/-- There are no more different names than entries that have them. -/
theorem Keyed.length_le_of_known {α : Type} {entries : Keyed α} {names : List String} (distinct : names.Nodup)
    (known : ∀ n ∈ names, (entries.get? n).isSome = true) : names.length ≤ entries.length := by
  have bound := (List.subperm_of_subset distinct fun n hn => mem_keys_of_get? (known n hn)).length_le
  unfold keys at bound
  rw [List.length_map] at bound
  exact bound

namespace Context

/-! ### Walks along superclasses -/

/-- A walk that has visited different classes, and has a step left for each class that it has not, needs no more. -/
theorem chainFrom_add {ctx : Context} {start name : String} {visited : List String} {levels : Nat} (more : Nat)
    (distinct : visited.Nodup) (known : ∀ n ∈ visited, (ctx.classes.get? n).isSome = true)
    (enough : ctx.classes.length < levels + visited.length) :
    ctx.chainFrom start (levels + more) visited name = ctx.chainFrom start levels visited name := by
  induction levels generalizing name visited with
  | zero =>
    have bound := Keyed.length_le_of_known distinct known
    omega
  | succ levels ih =>
    rw [Nat.succ_add]
    unfold chainFrom
    split
    · rfl
    next fresh =>
      cases hcls : ctx.classes.get? name with
      | none => rfl
      | some cls =>
        dsimp only
        cases cls.superclass with
        | none => rfl
        | some superclass =>
          dsimp only
          rw [ih (List.nodup_cons.mpr ⟨by simpa using fresh, distinct⟩)]
          · intro n hn
            rcases List.mem_cons.mp hn with rfl | hn
            · exact Option.isSome_iff_exists.mpr ⟨cls, hcls⟩
            · exact known n hn
          · rw [List.length_cons]
            omega

/-! ### Entities that are being populated -/

/-- A sound context with the given classes, in which different entities are being populated. -/
structure Underway (classes : Keyed Class) (marked : List String) (ctx : Context) : Prop where
  sound : ctx.Sound
  classes : ctx.classes = classes
  distinct : marked.Nodup
  populating : ∀ n ∈ marked, ∃ e, ctx.entity? n = some e ∧ e.phase = .populating

namespace Underway

variable {classes : Keyed Class} {marked : List String} {ctx old new : Context} {name : String} {e : Entity}

theorem length_le (h : ctx.Underway classes marked) : marked.length ≤ classes.length := by
  refine Keyed.length_le_of_known h.distinct fun n hn => ?_
  obtain ⟨e, he, -⟩ := h.populating n hn
  have known := h.sound.known e (mem_of_entity? he)
  rw [name_of_entity? he, h.classes] at known
  exact known

theorem evolve (h : old.Underway classes marked) (evolved : old.Evolves new) : new.Underway classes marked := by
  obtain ⟨sound, grown⟩ := evolved h.sound
  refine ⟨sound, grown.classes.trans h.classes, h.distinct, fun n hn => ?_⟩
  obtain ⟨e, he, hphase⟩ := h.populating n hn
  exact ⟨e, grown.busy n e he (by simp [hphase]), hphase⟩

/-- An idle entity that is populated next is one more. -/
theorem setPhase (h : ctx.Underway classes marked) (he : ctx.entity? name = some e) (idle : e.phase = .idle) :
    (ctx.setPhase name .populating).Underway classes (name :: marked) := by
  have unmarked : ∀ n ∈ marked, n ≠ name := by
    rintro n hn rfl
    obtain ⟨x, hx, hphase⟩ := h.populating n hn
    cases he.symm.trans hx
    cases idle.symm.trans hphase
  refine ⟨h.sound.setModelless ?_ (by simp), h.classes, ?_, ?_⟩
  · intro x hx
    cases he.symm.trans hx
    exact isInitialized_of_idle idle
  · exact List.nodup_cons.mpr ⟨fun hn => unmarked name hn rfl, h.distinct⟩
  · intro n hn
    rw [entity?_setPhase]
    rcases List.mem_cons.mp hn with rfl | hn
    · rw [if_pos rfl, he]
      exact ⟨_, rfl, rfl⟩
    · rw [if_neg (unmarked n hn)]
      exact h.populating n hn

end Underway
end Context

namespace Action

variable {α β : Type} {P : Context → Prop} {σ : Site} {look : Look} {add add' last : String → Action Unit}
  {classes : Keyed Class} {marked : List String} {name : String}

/-- Two actions do the same wherever something holds, and it holds again where they end. -/
def Alike (P : Context → Prop) (x y : Action α) : Prop :=
  ∀ σ : Site, P σ.context → σ.run x = σ.run y ∧ P (σ.run x).2.context

namespace Alike

theorem of_run {x : Action α} (h : ∀ σ : Site, (σ.run x).2.context = σ.context) : Alike P x x := by
  intro σ hσ
  rw [h]
  exact ⟨rfl, hσ⟩

theorem bind {x y : Action α} {f g : α → Action β} (hxy : Alike P x y) (hfg : ∀ a, Alike P (f a) (g a)) :
    Alike P (x >>= f) (y >>= g) := by
  intro σ hσ
  obtain ⟨same, after⟩ := hxy σ hσ
  rw [Site.run_bind, Site.run_bind, ← same]
  rcases hrun : σ.run x with ⟨answer, ρ⟩
  rw [hrun] at after
  cases answer with
  | ok a => exact hfg a ρ after
  | error fault => exact ⟨rfl, after⟩

variable (hadd : ∀ name, Alike P (add name) (add' name))
include hadd

theorem parentOf (cls : Class) : Alike P (Action.parentOf add cls) (Action.parentOf add' cls) := by
  unfold Action.parentOf
  cases cls.superclass with
  | none => exact of_run fun _ => rfl
  | some superclass =>
    refine bind (of_run fun _ => by rw [run_tryAsk]) fun found => bind (of_run fun _ => rfl) fun strategy => ?_
    split
    · exact bind (hadd _) fun _ => of_run fun _ => rfl
    · exact of_run fun _ => rfl

theorem search (found : Search) : Alike P (found.run add) (found.run add') := by
  induction found with
  | settled found => exact of_run fun _ => by rw [Search.run, run_ofExcept]
  | adding name next ih =>
    intro σ hσ
    obtain ⟨same, after⟩ := hadd name σ hσ
    rw [Search.run_adding, Search.run_adding, ← same]
    exact ih _ _ _ after

theorem populateBy (cls : Class) : Alike P (Action.populateBy look add cls) (Action.populateBy look add' cls) := by
  have scanned : ∀ hierarchy mapping,
      Alike P (scanBy look add cls hierarchy mapping) (scanBy look add' cls hierarchy mapping) :=
    fun hierarchy mapping σ hσ => search hadd (look cls hierarchy mapping σ) σ hσ
  unfold Action.populateBy
  exact bind (of_run fun _ => by rw [run_tryAsk]) fun hierarchy => bind (parentOf hadd cls) fun parent =>
    bind (of_run fun _ => rfl) fun settings => bind (scanned hierarchy _) fun found =>
    bind (of_run fun _ => by rw [run_ofExcept]) fun layout => bind (of_run fun _ => rfl) fun _ =>
    bind (of_run fun _ => by rw [run_reflectorFor]) fun reflector => bind (of_run fun _ => rfl) fun owners =>
    of_run fun _ => rfl

end Alike

/-- An action under which contexts evolve keeps what is underway. -/
theorem Keeps.alike {x : Action α} (hx : Keeps Context.Evolves x) : Alike (Context.Underway classes marked) x x :=
  fun σ underway => ⟨rfl, underway.evolve (hx σ)⟩

/-- Two ways to add that are alike while one more entity is populated make that entity ready alike. -/
theorem alike_makeReadyBy (hadd : Adds add)
    (inner : ∀ n, Alike (Context.Underway classes (name :: marked)) (add n) (add' n)) :
    Alike (Context.Underway classes marked) (makeReadyBy look add name) (makeReadyBy look add' name) := by
  intro σ underway
  refine ⟨?_, underway.evolve (Keeps.makeReadyBy hadd name σ)⟩
  cases he : σ.context.entity? name with
  | none => rw [run_makeReadyBy_missing he, run_makeReadyBy_missing he]
  | some e =>
    rw [run_makeReadyBy he, run_makeReadyBy he]
    cases hphase : e.phase with
    | ready model => rfl
    | populating => rfl
    | idle =>
      have same : (populating σ name).run (populateBy look add e.cls) =
          (populating σ name).run (populateBy look add' e.cls) :=
        (Alike.populateBy inner e.cls (populating σ name) (underway.setPhase he hphase)).1
      rw [same]

/-- With a level left for every class that is not being populated, the last one is not reached. -/
theorem alike_addFrom (levels : Nat) (enough : classes.length < levels + marked.length) (name : String) :
    Alike (Context.Underway classes marked) (addFrom look exhausted levels name) (addFrom look last levels name) := by
  induction levels generalizing marked name with
  | zero =>
    intro σ underway
    have bound := underway.length_le
    omega
  | succ levels ih =>
    refine Alike.bind (Keeps.enroll name).alike fun _ => alike_makeReadyBy (adds_addFrom levels) fun n => ih ?_ n
    rw [List.length_cons]
    omega

end Action
end Persistence
