import Mathlib.Data.List.Sort
import Persistence.Class.Basic
import Persistence.Mapping.JsonForm
import Persistence.Mapping.Resolution
import Persistence.Proofs.Appearance

/-! Mapping blocks as overlays. A block laid over another one is associative: of each optional setting and of each
    property the upper declaration is taken as a whole, and the transient names are collected. Along a hierarchy this
    comes to the declaration of the class that is nearest to its leaf. -/

namespace Persistence

/-! ### Entries over entries -/

namespace Keyed

variable {α : Type} {base layer lower upper : Keyed α}

/-- Lays entries over others, name by name. -/
def overlay (base layer : Keyed α) : Keyed α := layer.foldl (fun entries entry => entries.put entry.1 entry.2) base

theorem Sorted.overlay (h : base.Sorted) (layer : Keyed α) : (base.overlay layer).Sorted := by
  induction layer generalizing base with
  | nil => exact h
  | cons entry rest ih => exact ih (h.put entry.1 entry.2)

/-- The entries of a list of pairs are in order. -/
theorem sorted_ofList (pairs : List (String × α)) : (ofList pairs).Sorted := Sorted.overlay List.Pairwise.nil pairs

theorem Sorted.get?_overlay (h : layer.Sorted) (base : Keyed α) (name : String) :
    (base.overlay layer).get? name = (layer.get? name).or (base.get? name) := by
  induction layer generalizing base with
  | nil => rfl
  | cons entry rest ih =>
    obtain ⟨k, v⟩ := entry
    obtain ⟨before, later⟩ := List.pairwise_cons.mp h
    rw [Keyed.overlay, List.foldl_cons, ← Keyed.overlay, ih later, get?_put, get?]
    split
    next same =>
      subst same
      -- The last entry of a name wins, and the entries after this one have other names.
      rw [get?_eq_none_of_lt before, if_pos rfl]
      rfl
    next other => rw [if_neg (Ne.symm other)]

/-- Entries in order are what they read as. -/
theorem Sorted.ext (lowerSorted : lower.Sorted) (upperSorted : upper.Sorted)
    (same : ∀ name, lower.get? name = upper.get? name) : lower = upper := by
  have irrefl : Std.Irrefl fun a b : String × α => a.1 < b.1 := ⟨fun a => String.lt_irrefl a.1⟩
  have antisymm : Std.Antisymm fun a b : String × α => a.1 < b.1 :=
    ⟨fun a b less greater => absurd greater (String.lt_asymm less)⟩
  refine List.Pairwise.eq_of_mem_iff lowerSorted upperSorted fun entry => ⟨fun mem => ?_, fun mem => ?_⟩
  · exact mem_of_get? ((same entry.1).symm.trans (lowerSorted.get?_of_mem mem))
  · exact mem_of_get? ((same entry.1).trans (upperSorted.get?_of_mem mem))

theorem Sorted.overlay_assoc {first middle last : Keyed α} (h : first.Sorted) (between : middle.Sorted)
    (top : last.Sorted) : (first.overlay middle).overlay last = first.overlay (middle.overlay last) := by
  refine ((h.overlay middle).overlay last).ext (h.overlay _) fun name => ?_
  rw [top.get?_overlay, between.get?_overlay, (between.overlay last).get?_overlay, top.get?_overlay, Option.or_assoc]

theorem Sorted.overlay_self (h : base.Sorted) : base.overlay base = base :=
  (h.overlay base).ext h fun name => by rw [h.get?_overlay, Option.or_self]

end Keyed

/-! ### Blocks over blocks -/

namespace EntityMapping

variable {α : Type}

/-- The configurations of properties are in the order of their names. -/
def WellFormed (block : EntityMapping) : Prop := block.properties.Sorted

theorem wellFormed_empty : WellFormed {} := List.Pairwise.nil

theorem WellFormed.setProperty {block : EntityMapping} (h : block.WellFormed) (name : String)
    (config : PropertyConfig) : (block.setProperty name config).WellFormed := by
  rw [EntityMapping.setProperty]
  split
  · exact h
  · exact h.put name config

theorem WellFormed.merge {base : EntityMapping} (h : base.WellFormed) (layer : EntityMapping) :
    (base.merge layer).WellFormed :=
  h.overlay layer.properties

theorem WellFormed.foldl_merge {base : EntityMapping} (h : base.WellFormed) (blocks : List EntityMapping) :
    (blocks.foldl EntityMapping.merge base).WellFormed := by
  induction blocks generalizing base with
  | nil => exact h
  | cons block rest ih => exact ih (h.merge block)

section Documents
open Json.Document

theorem sorted_of_properties? {found : Option Json.Document} {entries : Keyed PropertyConfig}
    (h : field? properties? [] found = some entries) : entries.Sorted := by
  cases found with
  | none =>
    cases h
    exact wellFormed_empty
  | some found =>
    obtain ⟨pairs, -, rfl⟩ := Option.map_eq_some_iff.mp h
    exact Keyed.sorted_ofList pairs

/-- A block that is read from a document is in order, in whatever order the document has its names. -/
theorem wellFormed_of_ofDocument? {found : Json.Document} {block : EntityMapping} (h : ofDocument? found = some block) :
    block.WellFormed := by
  unfold ofDocument? at h
  split at h
  · simp only [Option.bind_eq_bind, Option.bind_eq_some_iff, Option.pure_def] at h
    obtain ⟨_, -, _, -, _, -, _, -, _, -, _, -, _, -, properties, read, _, -, made⟩ := h
    cases made
    exact sorted_of_properties? read
  · cases h

end Documents

theorem merge_assoc {first middle last : EntityMapping} (h : first.WellFormed) (between : middle.WellFormed)
    (top : last.WellFormed) : (first.merge middle).merge last = first.merge (middle.merge last) := by
  have properties := Keyed.Sorted.overlay_assoc h between top
  have transients := foldl_addOnce_assoc first.transients middle.transients last.transients
  simp only [merge, Option.or_assoc, EntityMapping.mk.injEq, true_and, and_true]
  exact ⟨transients, properties⟩

theorem merge_self {block : EntityMapping} (h : block.WellFormed) : block.merge block = block := by
  have properties : block.properties.foldl (fun entries entry => entries.put entry.1 entry.2) block.properties =
    block.properties := h.overlay_self
  have transients : block.transients.foldl addName block.transients = block.transients :=
    foldl_addOnce_of_subset (List.Subset.refl _)
  simp only [merge, Option.or_self, properties, transients]

theorem merge_empty (block : EntityMapping) : block.merge {} = block := rfl

theorem config?_merge {layer : EntityMapping} (h : layer.WellFormed) (base : EntityMapping) (name : String) :
    (base.merge layer).config? name = (layer.config? name).or (base.config? name) :=
  h.get?_overlay base.properties name

/-! ### Blocks of a hierarchy -/

/-- What the class that is nearest to the leaf of a hierarchy declares, of those that declare a setting. -/
def nearest? (hierarchy : List Class) (setting : EntityMapping → Option α) : Option α :=
  hierarchy.reverse.findSome? fun cls => cls.mapping.bind setting

/-- The transient names that the classes of a hierarchy declare, with repetitions. -/
def allTransients (hierarchy : List Class) : List String :=
  hierarchy.flatMap fun cls => (cls.mapping.map (·.transients)).getD []

/-- The blocks of a hierarchy are in order. -/
def AllWellFormed (hierarchy : List Class) : Prop := ∀ cls ∈ hierarchy, ∀ block ∈ cls.mapping, block.WellFormed

theorem nearest?_cons (cls : Class) (rest : List Class) (setting : EntityMapping → Option α) :
    nearest? (cls :: rest) setting = (nearest? rest setting).or (cls.mapping.bind setting) := by
  rw [nearest?, List.reverse_cons, List.findSome?_append, nearest?, List.findSome?_singleton]

/-- A setting for which the upper block wins is that of the class nearest to the leaf. -/
theorem setting_foldl_merge (setting : EntityMapping → Option α)
    (wins : ∀ base layer, layer.WellFormed → setting (base.merge layer) = (setting layer).or (setting base))
    {hierarchy : List Class} (h : AllWellFormed hierarchy) (base : EntityMapping) :
    setting ((hierarchy.filterMap (·.mapping)).foldl merge base) = (nearest? hierarchy setting).or (setting base) := by
  induction hierarchy generalizing base with
  | nil => rfl
  | cons cls rest ih =>
    obtain ⟨first, others⟩ := List.forall_mem_cons.mp h
    rw [nearest?_cons, Option.or_assoc]
    cases declared : cls.mapping with
    | none => simp only [List.filterMap_cons, declared, ih others, Option.bind_none, Option.none_or]
    | some block =>
      simp only [List.filterMap_cons, declared]
      rw [List.foldl_cons, ih others, wins base block (first block declared), Option.bind_some]

theorem transients_foldl_merge (hierarchy : List Class) (base : EntityMapping) :
    ((hierarchy.filterMap (·.mapping)).foldl merge base).transients =
      (allTransients hierarchy).foldl addOnce base.transients := by
  induction hierarchy generalizing base with
  | nil => rfl
  | cons cls rest ih =>
    rw [allTransients, List.flatMap_cons, List.foldl_append, ← allTransients]
    cases declared : cls.mapping with
    | none =>
      simp only [List.filterMap_cons, declared]
      exact ih base
    | some block =>
      simp only [List.filterMap_cons, declared]
      exact ih (base.merge block)

/-- The mapping of the leaf of a hierarchy under some settings. Each setting and the whole configuration of each
property is the one that is declared nearest to the leaf; for want of any the settings tell the identifier, whether
there are versions, and the default property. The transient names are all those declared, each once, as they first
appear. -/
structure InForce (settings : Settings) (hierarchy : List Class) (mapping : EntityMapping) : Prop where
  identifier : mapping.identifier =
    (nearest? hierarchy (·.identifier)).or (some (IdentityMapping.single settings.identifier))
  versioned : mapping.versioned = (nearest? hierarchy (·.versioned)).or (some settings.versioned)
  external : mapping.external = nearest? hierarchy (·.external)
  table : mapping.table = nearest? hierarchy (·.table)
  tenantId : mapping.tenantId = nearest? hierarchy (·.tenantId)
  strategy : mapping.strategy = nearest? hierarchy (·.strategy)
  defaultProperty : mapping.defaultProperty = (nearest? hierarchy (·.defaultProperty)).or settings.property
  wellFormed : mapping.WellFormed
  config? : ∀ name, mapping.config? name = nearest? hierarchy (·.config? name)
  transients : mapping.transients = (allTransients hierarchy).eraseDups

theorem wellFormed_baseMapping (settings : Settings) : settings.baseMapping.WellFormed := List.Pairwise.nil

theorem inForce_entityMapping (settings : Settings) {hierarchy : List Class} (h : AllWellFormed hierarchy) :
    InForce settings hierarchy (settings.entityMapping (hierarchy.filterMap (·.mapping))) where
  identifier := setting_foldl_merge (·.identifier) (fun _ _ _ => rfl) h settings.baseMapping
  versioned := setting_foldl_merge (·.versioned) (fun _ _ _ => rfl) h settings.baseMapping
  external := (setting_foldl_merge (·.external) (fun _ _ _ => rfl) h settings.baseMapping).trans Option.or_none
  table := (setting_foldl_merge (·.table) (fun _ _ _ => rfl) h settings.baseMapping).trans Option.or_none
  tenantId := (setting_foldl_merge (·.tenantId) (fun _ _ _ => rfl) h settings.baseMapping).trans Option.or_none
  strategy := (setting_foldl_merge (·.strategy) (fun _ _ _ => rfl) h settings.baseMapping).trans Option.or_none
  defaultProperty := setting_foldl_merge (·.defaultProperty) (fun _ _ _ => rfl) h settings.baseMapping
  wellFormed := (wellFormed_baseMapping settings).foldl_merge _
  config? name :=
    (setting_foldl_merge (·.config? name) (fun base _ top => config?_merge top base name) h settings.baseMapping).trans
      Option.or_none
  transients := (transients_foldl_merge hierarchy settings.baseMapping).trans (foldl_addOnce_eraseDups [] _)

/-- Blocks are overlays: to lay one over another is associative, over itself it changes nothing, and no more does the
empty block. So the mapping in force is told by what is declared nearest to the leaf. -/
theorem overlays :
    (∀ first middle last : EntityMapping, first.WellFormed → middle.WellFormed → last.WellFormed →
      (first.merge middle).merge last = first.merge (middle.merge last)) ∧
    (∀ block : EntityMapping, block.WellFormed → block.merge block = block ∧ block.merge {} = block) ∧
    ∀ (settings : Settings) (hierarchy : List Class), AllWellFormed hierarchy →
      InForce settings hierarchy (settings.entityMapping (hierarchy.filterMap (·.mapping))) :=
  ⟨fun _ _ _ => merge_assoc, fun block h => ⟨merge_self h, merge_empty block⟩,
    fun settings _ => inForce_entityMapping settings⟩

/-- A block with a name twice, a class without a block, and one that renames a property of the first. -/
theorem overlays_renamed :
    let item : EntityMapping :=
      { versioned := some false, table := some "items", transients := ["cache", "total", "cache"]
        properties := [("title", { nullable := true })] }
    let book : EntityMapping :=
      { table := some "books", transients := ["seen", "cache"]
        properties := [("pages", {}), ("title", { targetName := some "book_title" })] }
    let hierarchy : List Class :=
      [{ stamp := 0, name := "Item", mapping := some item }, { stamp := 1, name := "Print", superclass := some "Item" },
        { stamp := 2, name := "Book", superclass := some "Print", mapping := some book }]
    let mapping := ({} : Settings).entityMapping (hierarchy.filterMap (·.mapping))
    (item.merge book).merge item = item.merge (book.merge item) ∧ item.merge item = item ∧
      mapping.table = some "books" ∧ mapping.versioned = some false ∧ mapping.identifier = some (.single "id") ∧
      mapping.strategy = none ∧ mapping.config? "title" = some { targetName := some "book_title" } ∧
      mapping.transients = ["cache", "total", "seen"] := by
  intro item book hierarchy mapping
  have itemOrdered : item.WellFormed := List.pairwise_singleton _ _
  have bookOrdered : book.WellFormed := List.pairwise_pair.mpr (by decide)
  have ordered : AllWellFormed hierarchy := by
    intro cls mem block held
    rcases List.mem_cons.mp mem with rfl | mem
    · cases held
      exact itemOrdered
    rcases List.mem_cons.mp mem with rfl | mem
    · cases held
    rcases List.mem_singleton.mp mem with rfl
    cases held
    exact bookOrdered
  obtain ⟨assoc, same, inForce⟩ := overlays
  have force := inForce {} hierarchy ordered
  refine ⟨assoc item book item itemOrdered bookOrdered itemOrdered, (same item itemOrdered).1, force.table,
    force.versioned, force.identifier, force.strategy, force.config? "title", force.transients.trans ?_⟩
  decide

/-- Where no class declares a mapping strategy there is none, whatever the settings call theirs. -/
theorem not_strategy_of_settings : ¬ ∀ (settings : Settings) (hierarchy : List Class), AllWellFormed hierarchy →
    (settings.entityMapping (hierarchy.filterMap (·.mapping))).strategy =
      (nearest? hierarchy (·.strategy)).or (some settings.strategy) := by
  intro declared
  have ordered : AllWellFormed [{ stamp := 0, name := "A" }] := by
    intro cls mem block held
    rcases List.mem_singleton.mp mem with rfl
    cases held
  exact absurd (declared {} [{ stamp := 0, name := "A" }] ordered) (by decide)

end EntityMapping
end Persistence
