import Mathlib.Data.List.Forall2
import Persistence.Class.Basic

/-! When two properties of composed traits share a field. The name of the field has an underscore for each dot of the
    trait's name, so that it tells traits apart only up to dots and underscores, and an underscore between the two names
    may belong to either of them. Traits whose names have no underscores never share a field. -/

namespace Persistence

namespace Naming

/-! ### Names of traits -/

theorem holdsSeparator_iff {cs : List Char} : holdsSeparator cs = true ↔ traitSeparator <:+: cs := by
  induction cs with
  | nil => simp [holdsSeparator, traitSeparator]
  | cons c rest ih =>
    rw [holdsSeparator, Bool.or_eq_true, List.isPrefixOf_iff_prefix, ih, List.infix_cons_iff]

theorem not_separator_iff {cs : List Char} : ¬ traitSeparator <:+: cs ↔ holdsSeparator cs = false := by
  rw [← holdsSeparator_iff, Bool.not_eq_true]

/-- Letters and single underscores, whatever the letters are. -/
structure IsIdentifier (isLetter : Char → Bool) (cs : List Char) : Prop where
  nonempty : cs ≠ []
  letters : ∀ c ∈ cs, isLetter c = true ∨ c = '_'
  single : ¬ traitSeparator <:+: cs

instance (isLetter : Char → Bool) (cs : List Char) : Decidable (IsIdentifier isLetter cs) :=
  decidable_of_iff (cs.isEmpty = false ∧ (cs.all fun c => isLetter c || c == '_') = true ∧ holdsSeparator cs = false) (by
    simp only [List.isEmpty_eq_false_iff, List.all_eq_true, Bool.or_eq_true, beq_iff_eq, ← not_separator_iff]
    exact ⟨fun ⟨nonempty, letters, single⟩ => ⟨nonempty, letters, single⟩,
      fun ⟨nonempty, letters, single⟩ => ⟨nonempty, letters, single⟩⟩)

/-- Identifiers that are joined by dots. -/
inductive IsTraitName (isLetter : Char → Bool) : List Char → Prop
  | simple {cs : List Char} (identifier : IsIdentifier isLetter cs) : IsTraitName isLetter cs
  | dotted {cs rest : List Char} (identifier : IsIdentifier isLetter cs) (name : IsTraitName isLetter rest) :
    IsTraitName isLetter (cs ++ '.' :: rest)

/-- A name of a trait does not end in a dot. -/
theorem IsTraitName.getLast?_ne {isLetter : Char → Bool} (dot : isLetter '.' = false) {cs : List Char}
    (name : IsTraitName isLetter cs) : cs ≠ [] ∧ cs.getLast? ≠ some '.' := by
  induction name with
  | simple identifier =>
    refine ⟨identifier.nonempty, fun last => ?_⟩
    rcases identifier.letters '.' (List.mem_of_getLast? last) with letter | underscore
    · rw [dot] at letter
      cases letter
    · exact absurd underscore (by decide)
  | dotted identifier name ih =>
    refine ⟨List.append_ne_nil_of_right_ne_nil _ (List.cons_ne_nil _ _), fun last => ih.2 ?_⟩
    rwa [List.getLast?_append_cons, List.getLast?_cons_of_ne_nil ih.1] at last

/-! ### Flat names -/

section Flat
variable {cs ds : List Char}

/-- A dot or an underscore. -/
def IsJoint (c : Char) : Prop := c = '.' ∨ c = '_'

/-- Names that differ at most in dots where the other has underscores. -/
def AreAlike (cs ds : List Char) : Prop := List.Forall₂ (fun c d => c = d ∨ IsJoint c ∧ IsJoint d) cs ds

theorem flatChars_eq_iff : flatChars cs = flatChars ds ↔ AreAlike cs ds := by
  have flat (c d : Char) : ((if c = '.' then '_' else c) = if d = '.' then '_' else d) ↔
      c = d ∨ IsJoint c ∧ IsJoint d := by
    unfold IsJoint
    grind
  rw [← List.forall₂_eq_eq_eq, flatChars, flatChars, List.forall₂_map_left_iff, List.forall₂_map_right_iff, AreAlike]
  simp only [flat]

theorem flatChars_concat (cs : List Char) : flatChars (cs ++ ['_']) = flatChars cs ++ ['_'] := List.map_append

/-- Where neither name has underscores, none stands for a dot. -/
theorem AreAlike.eq (alike : AreAlike cs ds) (plain : '_' ∉ cs) (plain' : '_' ∉ ds) : cs = ds := by
  induction alike with
  | nil => rfl
  | @cons c d cs ds first rest ih =>
    rw [List.mem_cons, not_or] at plain plain'
    have same : c = d := by
      rcases first with same | ⟨joint, joint'⟩
      · exact same
      · exact (joint.resolve_right (Ne.symm plain.1)).trans (joint'.resolve_right (Ne.symm plain'.1)).symm
    rw [same, ih plain.2 plain'.2]

/-- A name that is like one with an underscore at its end has a dot or an underscore there. -/
theorem AreAlike.exists_joint (alike : AreAlike cs (ds ++ ['_'])) : ∃ c, cs.getLast? = some c ∧ IsJoint c := by
  have last : (flatChars cs).getLast? = some '_' := by
    rw [flatChars_eq_iff.mpr alike, flatChars_concat, List.getLast?_concat]
  rw [flatChars, List.getLast?_map, Option.map_eq_some_iff] at last
  obtain ⟨c, last, flat⟩ := last
  refine ⟨c, last, ?_⟩
  split at flat
  next dot => exact Or.inl dot
  next => exact Or.inr flat

end Flat

/-! ### Fields -/

/-- The field of a property of a trait is known by its name. -/
theorem isTraitField_traitField (trait property : String) : isTraitField (traitField trait property) = true := by
  rw [isTraitField, traitField, String.toList_ofList, holdsSeparator_iff]
  exact List.infix_append _ _ _

section Fields
variable {front front' rest rest' : List Char}

/-- A separator that is found again further on, behind which there is none, has gone on by one underscore at most. -/
theorem eq_of_overlap {between : List Char} (single : ¬ traitSeparator <:+: rest)
    (same : traitSeparator ++ rest = between ++ (traitSeparator ++ rest')) :
    between = [] ∧ rest = rest' ∨ between = ['_'] ∧ rest = '_' :: rest' := by
  match between with
  | [] => exact Or.inl ⟨rfl, List.append_cancel_left same⟩
  | [c] =>
    simp only [traitSeparator, List.cons_append, List.nil_append, List.cons.injEq, true_and] at same
    exact Or.inr ⟨by rw [same.1], same.2⟩
  | c :: d :: more =>
    simp only [traitSeparator, List.cons_append, List.nil_append, List.cons.injEq] at same
    exact absurd ⟨more, rest', by rw [same.2.2]; simp [traitSeparator]⟩ single

/-- The separator is found at one place, or at two that are next to each other. -/
theorem separated_eq_iff (single : ¬ traitSeparator <:+: rest) (single' : ¬ traitSeparator <:+: rest') :
    front ++ traitSeparator ++ rest = front' ++ traitSeparator ++ rest' ↔ front = front' ∧ rest = rest' ∨
      (front = front' ++ ['_'] ∧ rest' = '_' :: rest) ∨ front' = front ++ ['_'] ∧ rest = '_' :: rest' := by
  constructor
  · intro same
    rw [List.append_assoc, List.append_assoc, List.append_eq_append_iff] at same
    rcases same with ⟨between, rfl, same⟩ | ⟨between, rfl, same⟩
    · rcases eq_of_overlap single same with ⟨rfl, rfl⟩ | ⟨rfl, rfl⟩
      · exact Or.inl ⟨(List.append_nil front).symm, rfl⟩
      · exact Or.inr (Or.inr ⟨rfl, rfl⟩)
    · rcases eq_of_overlap single' same with ⟨rfl, rfl⟩ | ⟨rfl, rfl⟩
      · exact Or.inl ⟨List.append_nil front', rfl⟩
      · exact Or.inr (Or.inl ⟨rfl, rfl⟩)
  · rintro (⟨rfl, rfl⟩ | ⟨rfl, rfl⟩ | ⟨rfl, rfl⟩)
    · rfl
    · simp [traitSeparator]
    · simp [traitSeparator]

end Fields

/-- The name of the first trait is like that of the second one with an underscore at its end, and the property of the
second one is that of the first one with an underscore in front. -/
def Adjoins (trait property trait' property' : String) : Prop :=
  AreAlike trait.toList (trait'.toList ++ ['_']) ∧ property'.toList = '_' :: property.toList

/-- Properties of traits for which there is one field. -/
def ShareField (trait property trait' property' : String) : Prop :=
  AreAlike trait.toList trait'.toList ∧ property = property' ∨
    Adjoins trait property trait' property' ∨ Adjoins trait' property' trait property

theorem traitField_eq_iff {trait property trait' property' : String} (single : ¬ traitSeparator <:+: property.toList)
    (single' : ¬ traitSeparator <:+: property'.toList) :
    traitField trait property = traitField trait' property' ↔ ShareField trait property trait' property' := by
  rw [traitField, traitField, String.ofList_inj, separated_eq_iff single single', ← flatChars_concat,
    ← flatChars_concat, flatChars_eq_iff, flatChars_eq_iff, flatChars_eq_iff, String.toList_inj]
  rfl

/-- Names of traits without underscores are not at fault when a field is shared. -/
theorem not_adjoins {isLetter : Char → Bool} (dot : isLetter '.' = false) {trait property trait' property' : String}
    (name : IsTraitName isLetter trait.toList) (plain : '_' ∉ trait.toList) :
    ¬ Adjoins trait property trait' property' := by
  rintro ⟨alike, -⟩
  obtain ⟨c, last, rfl | rfl⟩ := alike.exists_joint
  · exact (name.getLast?_ne dot).2 last
  · exact plain (List.mem_of_getLast? last)

/-- Properties of composed traits share a field just if the names of the traits are alike up to dots and underscores, or
an underscore between trait and property can belong to either. Without underscores in the names of the traits there is a
field for each property, and else, too, what is written to one field does not show in another. -/
theorem traitField_shared {isLetter : Char → Bool} (dot : isLetter '.' = false)
    {trait property trait' property' : String} (name : IsTraitName isLetter trait.toList)
    (name' : IsTraitName isLetter trait'.toList) (single : ¬ traitSeparator <:+: property.toList)
    (single' : ¬ traitSeparator <:+: property'.toList) :
    (traitField trait property = traitField trait' property' ↔ ShareField trait property trait' property') ∧
    ('_' ∉ trait.toList → '_' ∉ trait'.toList → traitField trait property = traitField trait' property' →
      trait = trait' ∧ property = property') ∧
    (¬ ShareField trait property trait' property' → ∀ value obj,
      Getter.slot (traitField trait' property') ((Setter.slot (traitField trait property)).run value obj).2 =
        Getter.slot (traitField trait' property') obj) := by
  have shared : traitField trait property = traitField trait' property' ↔ ShareField trait property trait' property' :=
    traitField_eq_iff single single'
  refine ⟨shared, fun plain plain' same => ?_, fun apart value obj => ?_⟩
  · rcases shared.mp same with ⟨alike, properties⟩ | adjoins | adjoins
    · exact ⟨String.toList_inj.mp (alike.eq plain plain'), properties⟩
    · exact absurd adjoins (not_adjoins dot name plain)
    · exact absurd adjoins (not_adjoins dot name' plain')
  · have other : traitField trait' property' ≠ traitField trait property := fun same => apart (shared.mp same.symm)
    exact congrArg Except.ok (obj.get_set_of_ne value other)

/-- Traits of one package whose properties have the same name, and one whose name ends in an underscore. A name that is
written through the one trait does not show in the other one. -/
theorem traitField_shared_named :
    (traitField "app.Named" "name" = traitField "app.Titled" "name" → "app.Named" = "app.Titled" ∧ "name" = "name") ∧
    traitField "app_" "name" = traitField "app" "_name" ∧
    let obj : Instance := .plain { stamp := 0, name := "app.Book" } [("app_Titled__name", .text "Dune")]
    Getter.slot (traitField "app.Titled" "name")
        ((Setter.slot (traitField "app.Named" "name")).run (.text "Frank") obj).2 =
      Getter.slot (traitField "app.Titled" "name") obj := by
  have dot : Char.isAlphanum '.' = false := by decide
  have app : IsIdentifier Char.isAlphanum "app".toList := by decide
  have marked : IsIdentifier Char.isAlphanum "app_".toList := by decide
  have named : IsIdentifier Char.isAlphanum "Named".toList := by decide
  have titled : IsIdentifier Char.isAlphanum "Titled".toList := by decide
  have single : ¬ traitSeparator <:+: "name".toList := not_separator_iff.mpr (by decide)
  have single' : ¬ traitSeparator <:+: "_name".toList := not_separator_iff.mpr (by decide)
  have adjoins : Adjoins "app_" "name" "app" "_name" := ⟨flatChars_eq_iff.mp rfl, rfl⟩
  have shares : ShareField "app_" "name" "app" "_name" := Or.inr (Or.inl adjoins)
  have first : IsTraitName Char.isAlphanum "app.Named".toList := .dotted app (.simple named)
  have second : IsTraitName Char.isAlphanum "app.Titled".toList := .dotted app (.simple titled)
  have apart : ¬ ShareField "app.Named" "name" "app.Titled" "name" := fun shared =>
    absurd ((traitField_shared dot first second single single).1.mpr shared) (by decide)
  exact ⟨(traitField_shared dot first second single single).2.1 (by decide) (by decide),
    (traitField_shared dot (.simple marked) (.simple app) single single').1.mpr shares,
    (traitField_shared dot first second single single).2.2 apart (.text "Frank") _⟩

/-- A trait of a package and one with an underscore in its name share the field of a property. -/
theorem not_traitField_injective : ¬ ∀ trait trait' property property' : String,
    IsTraitName Char.isAlphanum trait.toList → IsTraitName Char.isAlphanum trait'.toList →
    ¬ traitSeparator <:+: property.toList → ¬ traitSeparator <:+: property'.toList →
    traitField trait property = traitField trait' property' → trait = trait' ∧ property = property' := by
  intro injective
  have app : IsIdentifier Char.isAlphanum "app".toList := by decide
  have named : IsIdentifier Char.isAlphanum "Named".toList := by decide
  have joined : IsIdentifier Char.isAlphanum "app_Named".toList := by decide
  have dotted : IsTraitName Char.isAlphanum "app.Named".toList := .dotted app (.simple named)
  have single : ¬ traitSeparator <:+: "name".toList := not_separator_iff.mpr (by decide)
  have same : traitField "app.Named" "name" = traitField "app_Named" "name" := by decide
  have different : "app.Named" ≠ "app_Named" := by decide
  exact different (injective "app.Named" "app_Named" "name" "name" dotted (.simple joined) single single same).1

end Naming
end Persistence
