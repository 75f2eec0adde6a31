/-!
Entries by a key, such as a name or a datastore, in ascending order of their keys. Writing a key keeps its entry at
one place and all other entries as they are; the main statements say what a key reads as after a write or a removal.
-/

namespace Persistence

/-- Entries, each with a value under a key. A key is a name unless another type of keys is given. -/
abbrev Keyed (α : Type) (κ : Type := String) := List (κ × α)

namespace Keyed

variable {κ α : Type}

/-- The keys, in the order of their entries. -/
def keys (entries : Keyed α κ) : List κ :=
  entries.map (·.1)

/-- Keys in strictly ascending order. -/
def Sorted [LT κ] (entries : Keyed α κ) : Prop :=
  entries.Pairwise fun a b => a.1 < b.1

variable [DecidableEq κ]

/-- What the first entry of a key holds. -/
def get? : Keyed α κ → κ → Option α
  | [], _ => none
  | (k, v) :: rest, key => if k = key then some v else get? rest key

/-- Enters a value under a key, in place of the value that was there. -/
def put [LT κ] [DecidableLT κ] : Keyed α κ → κ → α → Keyed α κ
  | [], key, value => [(key, value)]
  | (k, v) :: rest, key, value =>
    if k = key then (key, value) :: rest
    else if key < k then (key, value) :: (k, v) :: rest
    else (k, v) :: put rest key value

/-- What is left without the entries of a key. -/
def erase (entries : Keyed α κ) (key : κ) : Keyed α κ :=
  entries.filter fun entry => entry.1 != key

/-- Whether there is an entry of a key. -/
def contains (entries : Keyed α κ) (key : κ) : Bool :=
  (entries.get? key).isSome

/-- Enters the pairs of a list from the left, so that the last pair of a key wins. -/
def ofList [LT κ] [DecidableLT κ] (pairs : List (κ × α)) : Keyed α κ :=
  pairs.foldl (fun entries pair => entries.put pair.1 pair.2) []

@[simp]
theorem get?_nil (key : κ) : get? ([] : Keyed α κ) key = none := rfl

theorem mem_of_get? {entries : Keyed α κ} {key : κ} {value : α} (h : entries.get? key = some value) :
    (key, value) ∈ entries := by
  induction entries with
  | nil => cases h
  | cons first rest ih =>
    obtain ⟨k, v⟩ := first
    rw [get?] at h
    split at h
    next same =>
      cases h
      exact same ▸ List.mem_cons_self
    · exact List.mem_cons_of_mem _ (ih h)

theorem isSome_get?_of_mem {entries : Keyed α κ} {entry : κ × α} (h : entry ∈ entries) :
    (entries.get? entry.1).isSome = true := by
  induction entries with
  | nil => cases h
  | cons first rest ih =>
    obtain ⟨k, v⟩ := first
    rw [get?]
    split
    · rfl
    next other =>
      rcases List.mem_cons.mp h with rfl | h
      · exact absurd rfl other
      · exact ih h

theorem erase_of_get?_eq_none {entries : Keyed α κ} {key : κ} (h : entries.get? key = none) :
    entries.erase key = entries := by
  rw [erase, List.filter_eq_self]
  intro entry hentry
  rw [bne_iff_ne]
  rintro rfl
  have found := isSome_get?_of_mem hentry
  rw [h] at found
  cases found

@[simp]
theorem get?_erase_self (entries : Keyed α κ) (key : κ) : (entries.erase key).get? key = none := by
  induction entries with
  | nil => rfl
  | cons entry rest ih =>
    obtain ⟨k, v⟩ := entry
    by_cases same : k = key
    · simpa [erase, same] using ih
    · simpa [erase, same, get?] using ih

theorem get?_erase_of_ne (entries : Keyed α κ) {key other : κ} (ne : other ≠ key) :
    (entries.erase key).get? other = entries.get? other := by
  induction entries with
  | nil => rfl
  | cons entry rest ih =>
    obtain ⟨k, v⟩ := entry
    rw [erase] at ih ⊢
    by_cases same : k = key
    · subst same
      simp [get?, Ne.symm ne, ih]
    · simp [same, get?, ih]

theorem get?_erase (entries : Keyed α κ) (key other : κ) :
    (entries.erase key).get? other = if other = key then none else entries.get? other := by
  split
  · next same => rw [same, get?_erase_self]
  · next ne => exact get?_erase_of_ne entries ne

/-! ### Writing -/

variable [LT κ] [DecidableLT κ]

@[simp]
theorem get?_put_self (entries : Keyed α κ) (key : κ) (value : α) :
    (entries.put key value).get? key = some value := by
  induction entries with
  | nil => simp [put, get?]
  | cons entry rest ih =>
    obtain ⟨k, v⟩ := entry
    simp only [put]
    split
    · simp [get?]
    · split
      · simp [get?]
      · simp_all [get?]

theorem get?_put_of_ne (entries : Keyed α κ) {key other : κ} (value : α) (ne : other ≠ key) :
    (entries.put key value).get? other = entries.get? other := by
  induction entries with
  | nil => simp [put, get?, Ne.symm ne]
  | cons entry rest ih =>
    obtain ⟨k, v⟩ := entry
    simp only [put]
    split
    · next same => subst same; simp [get?, Ne.symm ne]
    · split
      · simp [get?, Ne.symm ne]
      · simp [get?, ih]

theorem get?_put (entries : Keyed α κ) (key other : κ) (value : α) :
    (entries.put key value).get? other = if other = key then some value else entries.get? other := by
  split
  · next same => subst same; simp
  · next ne => exact get?_put_of_ne entries value ne

theorem mem_put {entries : Keyed α κ} {key : κ} {value : α} {entry : κ × α} (h : entry ∈ entries.put key value) :
    entry = (key, value) ∨ entry ∈ entries := by
  induction entries with
  | nil => exact Or.inl (List.mem_singleton.mp h)
  | cons first rest ih =>
    obtain ⟨k, v⟩ := first
    rw [put] at h
    split at h
    · exact (List.mem_cons.mp h).imp_right (List.mem_cons_of_mem _)
    · split at h
      · exact List.mem_cons.mp h
      · rcases List.mem_cons.mp h with rfl | h
        · exact Or.inr List.mem_cons_self
        · exact (ih h).imp_right (List.mem_cons_of_mem _)

theorem put_ne_nil {entries : Keyed α κ} {key : κ} {value : α} : entries.put key value ≠ [] := by
  cases entries with
  | nil => exact List.cons_ne_nil _ _
  | cons first rest =>
    obtain ⟨k, v⟩ := first
    rw [put]
    split
    · exact List.cons_ne_nil _ _
    · split <;> exact List.cons_ne_nil _ _

/-- What was entered under a new key is gone when it is removed. -/
theorem erase_put {entries : Keyed α κ} {key : κ} {value : α} (h : entries.get? key = none) :
    (entries.put key value).erase key = entries := by
  induction entries with
  | nil => simp [put, erase]
  | cons first rest ih =>
    obtain ⟨k, v⟩ := first
    have whole := erase_of_get?_eq_none h
    rw [get?] at h
    split at h
    · cases h
    next other =>
      rw [put, if_neg other]
      split
      · rw [erase, List.filter_cons_of_neg (by simp)]
        exact whole
      · rw [erase, List.filter_cons_of_pos (by simpa using other)]
        exact congrArg _ (ih h)

theorem get?_foldl_put (entries : Keyed α κ) (pairs : List (κ × α)) (key : κ) :
    (pairs.foldl (fun entries pair => entries.put pair.1 pair.2) entries).get? key =
      ((pairs.reverse.find? (·.1 == key)).map (·.2)).or (entries.get? key) := by
  induction pairs generalizing entries with
  | nil => rfl
  | cons pair rest ih =>
    rw [List.foldl_cons, ih, get?_put, List.reverse_cons, List.find?_append]
    by_cases same : key = pair.1
    · subst same
      cases rest.reverse.find? (·.1 == pair.1) <;> simp
    · simp [same, Ne.symm same]

/-- A key reads as the last of the pairs that bear it. -/
theorem get?_ofList (pairs : List (κ × α)) (key : κ) :
    (ofList pairs).get? key = (pairs.reverse.find? (·.1 == key)).map (·.2) := by
  rw [ofList, get?_foldl_put, get?_nil, Option.or_none]

theorem exists_get?_ofList {pairs : List (κ × α)} {key : κ} (h : key ∈ pairs.map (·.1)) :
    ∃ value, (ofList pairs).get? key = some value := by
  obtain ⟨pair, hpair, rfl⟩ := List.mem_map.mp h
  have found : (pairs.reverse.find? (·.1 == pair.1)).isSome = true :=
    List.find?_isSome.mpr ⟨pair, List.mem_reverse.mpr hpair, by simp⟩
  obtain ⟨entry, hentry⟩ := Option.isSome_iff_exists.mp found
  exact ⟨entry.2, by rw [get?_ofList, hentry, Option.map_some]⟩

/-! ### Names in ascending order -/

/-- A name after all others is entered at the end. -/
theorem put_eq_append {entries : Keyed α} {key : String} (h : ∀ entry ∈ entries, entry.1 < key) (value : α) :
    entries.put key value = entries ++ [(key, value)] := by
  induction entries with
  | nil => rfl
  | cons entry rest ih =>
    obtain ⟨k, v⟩ := entry
    have before : k < key := h _ List.mem_cons_self
    have other : k ≠ key := by
      rintro rfl
      exact String.lt_irrefl k before
    rw [put, if_neg other, if_neg (String.lt_asymm before), ih fun entry he => h entry (List.mem_cons_of_mem _ he)]
    rfl

theorem Sorted.put {entries : Keyed α} (h : entries.Sorted) (key : String) (value : α) :
    (entries.put key value).Sorted := by
  induction entries with
  | nil => exact List.pairwise_singleton ..
  | cons entry rest ih =>
    obtain ⟨k, v⟩ := entry
    obtain ⟨first, later⟩ := List.pairwise_cons.mp h
    rw [Keyed.put]
    split
    next same =>
      subst same
      exact List.pairwise_cons.mpr ⟨first, later⟩
    next other =>
      split
      next before =>
        refine List.pairwise_cons.mpr ⟨fun e he => ?_, h⟩
        rcases List.mem_cons.mp he with rfl | he
        · exact before
        · exact String.lt_trans before (first e he)
      next after =>
        have before : k < key := by
          rw [← String.not_le]
          exact fun le => other (String.le_antisymm (String.not_lt.mp after) le)
        refine List.pairwise_cons.mpr ⟨fun e he => ?_, ih later⟩
        rcases mem_put he with rfl | he
        · exact before
        · exact first e he

theorem Sorted.get?_of_mem {entries : Keyed α} (h : entries.Sorted) {entry : String × α} (mem : entry ∈ entries) :
    entries.get? entry.1 = some entry.2 := by
  induction entries with
  | nil => cases mem
  | cons first rest ih =>
    obtain ⟨k, v⟩ := first
    obtain ⟨before, later⟩ := List.pairwise_cons.mp h
    rw [get?]
    rcases List.mem_cons.mp mem with rfl | mem
    · exact if_pos rfl
    · have other : k ≠ entry.1 := fun same => String.lt_irrefl _ (same ▸ before entry mem)
      rw [if_neg other, ih later mem]

/-- No entry has a name that is before all of theirs. -/
theorem get?_eq_none_of_lt {entries : Keyed α} {key : String} (before : ∀ entry ∈ entries, key < entry.1) :
    entries.get? key = none := by
  rw [Option.eq_none_iff_forall_ne_some]
  exact fun value found => String.lt_irrefl key (before _ (mem_of_get? found))

/-- Where names are in order, what is left of the entries reads as it did. -/
theorem Sorted.get?_filter {entries : Keyed α} (h : entries.Sorted) (keep : String × α → Bool) (key : String) :
    get? (entries.filter keep) key = (entries.get? key).filter fun value => keep (key, value) := by
  induction entries with
  | nil => rfl
  | cons entry rest ih =>
    obtain ⟨k, v⟩ := entry
    obtain ⟨before, later⟩ := List.pairwise_cons.mp h
    have ih := ih later
    by_cases same : k = key
    · subst same
      -- No other entry has the name, so that nothing turns up in place of this one.
      have gone : get? rest k = none := get?_eq_none_of_lt before
      cases kept : keep (k, v) <;> simp [get?, Option.filter_some, kept, ih, gone]
    · cases kept : keep (k, v) <;> simp [get?, kept, same, ih]

/-- To write what a name reads as changes nothing. -/
theorem Sorted.put_eq_self {entries : Keyed α} (h : entries.Sorted) {key : String} {value : α}
    (held : entries.get? key = some value) : entries.put key value = entries := by
  induction entries with
  | nil => cases held
  | cons entry rest ih =>
    obtain ⟨k, v⟩ := entry
    obtain ⟨before, later⟩ := List.pairwise_cons.mp h
    rw [get?] at held
    rw [Keyed.put]
    split at held
    next same =>
      cases held
      rw [if_pos same, same]
    next other =>
      have below : k < key := before _ (mem_of_get? held)
      rw [if_neg other, if_neg (String.lt_asymm below), ih later held]

end Keyed

end Persistence
