import Mathlib.Algebra.GroupWithZero.Nat
import Persistence.Proofs.Text.Digits
import Persistence.Text.Blank
import Persistence.Uuid

/-! The canonical texts of identifiers. A row of digits is cut into groups that make it up again, hyphens stand between
    them and nowhere in them, and so every identifier is read back from its text, blanks being removed before or not. -/

namespace Persistence.Uuid

/-! ### Groups and hyphens -/

theorem flatten_cut {lengths : List Nat} {cs : List Char} (h : cs.length = lengths.sum) : (cut lengths cs).flatten = cs := by
  induction lengths generalizing cs with
  | nil => exact (List.eq_nil_of_length_eq_zero h).symm
  | cons n rest ih =>
    rw [List.sum_cons] at h
    rw [cut, List.flatten_cons, ih (by rw [List.length_drop]; omega), List.take_append_drop]

theorem hyphenated_cons_cons (part next : List Char) (rest : List (List Char)) :
    hyphenated (part :: next :: rest) = part ++ '-' :: hyphenated (next :: rest) := by
  simp [hyphenated, List.intercalate, List.intersperse]

theorem mem_hyphenated {parts : List (List Char)} {c : Char} (h : c ∈ hyphenated parts) : c = '-' ∨ c ∈ parts.flatten := by
  induction parts with
  | nil => cases h
  | cons part rest ih =>
    cases rest with
    | nil => exact Or.inr (by simpa [hyphenated] using h)
    | cons next rest =>
      rw [hyphenated_cons_cons, List.mem_append, List.mem_cons] at h
      rcases h with here | hyphen | later
      · exact Or.inr (List.mem_append_left _ here)
      · exact Or.inl hyphen
      · exact (ih later).imp_right (List.mem_append_right part)

/-- Without its hyphens a text is the row of its groups. -/
theorem filter_hyphenated {parts : List (List Char)} (h : '-' ∉ parts.flatten) :
    (hyphenated parts).filter (· != '-') = parts.flatten := by
  have kept {row : List Char} (h : '-' ∉ row) : row.filter (· != '-') = row := by
    rw [List.filter_eq_self]
    intro c hc
    rw [bne_iff_ne]
    exact fun same => h (same ▸ hc)
  induction parts with
  | nil => rfl
  | cons part rest ih =>
    rw [List.flatten_cons, List.mem_append, not_or] at h
    cases rest with
    | nil => simpa [hyphenated] using kept h.1
    | cons next rest =>
      rw [hyphenated_cons_cons, List.filter_append, kept h.1, List.filter_cons_of_neg (by decide), ih h.2]
      rfl

/-! ### Texts of identifiers -/

section
variable (u : Uuid)

theorem flatten_cut_groups : (cut groups (Text.padded 16 32 u.number)).flatten = Text.padded 16 32 u.number :=
  flatten_cut (Text.length_padded 16 32 u.number)

variable {u} in
theorem mem_write {c : Char} (h : c ∈ u.write) : c = '-' ∨ ∃ d < 16, c = Nat.digitChar d := by
  rcases mem_hyphenated h with hyphen | digit
  · exact Or.inl hyphen
  · rw [flatten_cut_groups] at digit
    exact Or.inr (Text.exists_digit_of_mem_padded (by decide) digit)

theorem filter_write : u.write.filter (· != '-') = Text.padded 16 32 u.number := by
  have digits : ∀ d ∈ List.range 16, '-' ≠ Nat.digitChar d := by decide
  have groups := flatten_cut_groups u
  rw [write, filter_hyphenated, groups]
  intro hyphen
  rw [groups] at hyphen
  obtain ⟨d, hd, same⟩ := Text.exists_digit_of_mem_padded (by decide) hyphen
  exact digits d (List.mem_range.mpr hd) same

/-- What a character of a text is not: a blank, a brace or the start of `urn:uuid:`. -/
theorem not_mark_of_mem_write {c : Char} (h : c ∈ u.write) : Text.isBlank c = false ∧ c ≠ '{' ∧ c.toLower ≠ 'u' := by
  have digits : ∀ d ∈ List.range 16, Text.isBlank (Nat.digitChar d) = false ∧ Nat.digitChar d ≠ '{' ∧
      (Nat.digitChar d).toLower ≠ 'u' := by
    decide
  rcases mem_write h with rfl | ⟨d, hd, rfl⟩
  · decide
  · exact digits d (List.mem_range.mpr hd)

theorem trimChars_write : Text.trimChars u.write = u.write :=
  Text.trimChars_eq_self fun _ h => (not_mark_of_mem_write u h).1

theorem unwrapped_write : unwrapped u.write = u.write := by
  have marks (c : Char) (h : c ∈ u.write) := (not_mark_of_mem_write u h).2
  generalize u.write = cs at marks
  cases cs with
  | nil => rfl
  | cons c rest =>
    obtain ⟨brace, urn⟩ := marks c List.mem_cons_self
    unfold unwrapped
    split
    next same => exact absurd (List.cons.inj same).1 brace
    · rw [if_neg]
      intro same
      exact urn (List.cons.inj same).1

/-- An identifier is read back from its canonical text. -/
theorem read?_write : read? u.write = some u := by
  have number : Text.readDigits 16 (Text.padded 16 32 u.number) = some u.number.val :=
    Text.readDigits_padded (by decide) (by decide) 32 u.number.val u.number.isLt
  have compact : ofDigits? (Text.padded 16 32 u.number) = some u := by
    rw [ofDigits?, if_pos (Text.length_padded ..), number]
    simp
  have hyphen : '-' ∈ u.write := by
    simp [write, groups, cut, hyphenated_cons_cons]
  have hyphens : ofDigits? u.write = none := by
    rw [ofDigits?, Text.readDigits, Text.readDigitsFrom_eq_none hyphen (by decide)]
    simp
  simp only [read?, hyphens, unwrapped_write, ofHyphenated?, filter_write, compact]
  exact if_pos rfl

end

end Persistence.Uuid
