import Persistence.Proofs.DataType.Restoring

/-! Conversion by way of texts. A value that a simple type gives has a text, and from its text the type gives the value
    again: an integer over its whole range, a truth value, an identifier, and an instant unless its year is written with
    a sign. Of the texts of numbers that are not integers nothing is said here. -/

namespace Persistence

/-- What is read back from its text. Only instants may have texts that are not. -/
def Value.isLegible : Value → Bool
  | .timestamp t => InternetTime.isLegible t
  | _ => true

/-- No instant of a year that is written with a sign. -/
def Value.hasPlainYear : Value → Bool
  | .timestamp t => 0 ≤ t.date.year && t.date.year ≤ 9999
  | _ => true

namespace DataType

/-! ### Texts that are read back -/

theorem toLong_text (n : Int64) : toLong (.text (toString n.toInt)) = .ok n := by
  rw [toLong, Text.trimChars_toString, Text.readLong_toString]
  exact congrArg Except.ok (Int64.ofInt_toInt n)

theorem toInteger_text {n : Int64} (fits : fitsInteger n = true) : toInteger (.text (toString n.toInt)) = .ok n :=
  bind_eq_ok.mpr ⟨n, toLong_text n, if_pos fits⟩

theorem toBoolean_text (b : Bool) : toBoolean (.text (if b then "true" else "false")) = .ok b := by
  cases b <;> decide

/-- A year with a sign is no year to the reader. -/
theorem toTimestamp_text_signed {t : Instant} (unusual : ¬ (0 ≤ t.date.year ∧ t.date.year ≤ 9999)) :
    toTimestamp (.text (InternetTime.text t)) = .error (.notTimestamp (InternetTime.text t) .invalid) := by
  rw [toTimestamp, InternetTime.trim_text, InternetTime.read_text_signed unusual]

/-! ### What a type gives -/

/-- Instants that come out of a conversion are told by milliseconds or texts, if those that go into it are. -/
theorem isTold_of_toTimestamp {source : Value} {t : Instant} (told : ∀ s, source = .timestamp s → s.IsTold)
    (h : toTimestamp source = .ok t) : t.IsTold := by
  cases source with
  | timestamp s =>
    cases h
    exact told t rfl
  | integer n =>
    refine Or.inl ⟨n, ?_⟩
    rw [toTimestamp] at h
    split at h
    next counted => exact counted.trans (congrArg some (Except.ok.inj h))
    · cases h
  | text s =>
    refine Or.inr ⟨Text.trim s, ?_⟩
    rw [toTimestamp] at h
    split at h
    next read => exact read.trans (congrArg Except.ok (Except.ok.inj h))
    · cases h
  | _ => cases h

/-- Just the type of timestamps gives instants. -/
theorem toTimestamp_of_convert {type : DataType} {source : Value} {t : Instant} (simple : type.isSimple = true)
    (h : type.convert source = .ok (.timestamp t)) : type = .timestamp ∧ toTimestamp source = .ok t := by
  rcases convert_eq_ok h with none | given
  · cases none
  cases type with
  | timestamp =>
    obtain ⟨_, read, same⟩ := map_eq_ok.mp given
    exact ⟨rfl, Value.timestamp.inj same ▸ read⟩
  | integer | long | float | text | boolean | uuid =>
    obtain ⟨_, -, other⟩ := map_eq_ok.mp given
    cases other
  | _ => cases simple

/-- A present value given by a simple type, other than that of numbers with fractions, has a text, from which the type
gives it again just if it is legible. -/
theorem convert_display {type : DataType} {source v : Value} (simple : type.isSimple = true) (whole : type ≠ .float)
    (h : type.convert source = .ok v) (present : v.isNull = false) :
    DataType.text.convert v = .ok (.text v.display) ∧
      (type.convert (.text v.display) = .ok v ↔ v.isLegible = true) := by
  rcases convert_eq_ok h with rfl | given
  · cases present
  cases type with
  | integer =>
    obtain ⟨n, counted, rfl⟩ := map_eq_ok.mp given
    have back := toInteger_text (fitsInteger_of_toInteger counted)
    exact ⟨rfl, iff_of_true (map_eq_ok.mpr ⟨n, back, rfl⟩) rfl⟩
  | long =>
    obtain ⟨n, -, rfl⟩ := map_eq_ok.mp given
    exact ⟨rfl, iff_of_true (map_eq_ok.mpr ⟨n, toLong_text n, rfl⟩) rfl⟩
  | float => exact absurd rfl whole
  | text =>
    obtain ⟨s, -, rfl⟩ := map_eq_ok.mp given
    exact ⟨rfl, iff_of_true rfl rfl⟩
  | boolean =>
    obtain ⟨b, -, rfl⟩ := map_eq_ok.mp given
    exact ⟨rfl, iff_of_true (map_eq_ok.mpr ⟨b, toBoolean_text b, rfl⟩) rfl⟩
  | timestamp =>
    obtain ⟨t, -, rfl⟩ := map_eq_ok.mp given
    have run (s : String) : DataType.timestamp.convert (.text s) = Value.timestamp <$> toTimestamp (.text s) := rfl
    refine ⟨rfl, ?_⟩
    rw [run, map_eq_ok, Value.isLegible, ← toTimestamp_text_iff]
    simp [Value.display]
  | uuid =>
    obtain ⟨u, -, rfl⟩ := map_eq_ok.mp given
    exact ⟨rfl, iff_of_true (map_eq_ok.mpr ⟨u, toUuid_text u, rfl⟩) rfl⟩
  | entity | embedded | list | map => cases simple

/-- Conversion to a text and back. Where the instants come from milliseconds or texts, just those of a year with a sign
are not given again, the sign being no digit of a year. -/
theorem text_restores {type : DataType} {source v : Value} (simple : type.isSimple = true) (whole : type ≠ .float)
    (h : type.convert source = .ok v) (present : v.isNull = false) :
    DataType.text.convert v = .ok (.text v.display) ∧
    (type.convert (.text v.display) = .ok v ↔ v.isLegible = true) ∧
    ((∀ t, source = .timestamp t → t.IsTold) → type.convert (.text v.display) =
      if v.hasPlainYear then .ok v else .error (.notTimestamp v.display .invalid)) := by
  obtain ⟨written, back⟩ := convert_display simple whole h present
  refine ⟨written, back, fun told => ?_⟩
  cases v with
  | timestamp t =>
    obtain ⟨rfl, read⟩ := toTimestamp_of_convert simple h
    have legible := (isTold_of_toTimestamp told read).isLegible_iff
    have plain : (Value.timestamp t).hasPlainYear = true ↔ 0 ≤ t.date.year ∧ t.date.year ≤ 9999 := by
      simp [Value.hasPlainYear]
    split
    next four => exact back.mpr (legible.mpr (plain.mp four))
    next signed =>
      have refused := toTimestamp_text_signed fun four => signed (plain.mpr four)
      exact congrArg (Value.timestamp <$> ·) refused
  | _ => exact back.mpr rfl

/-- A leap second that is told half past it, in another zone, is written for universal time and read again. -/
theorem text_restores_leap :
    let t : Value := .timestamp ⟨1483226999, 1500000000⟩
    let shown : Value := .text "2016-12-31T23:29:60.500+00:00"
    DataType.timestamp.convert (.text "2016-12-31T23:59:60.5+00:30") = .ok t ∧
      DataType.text.convert t = .ok shown ∧ DataType.timestamp.convert shown = .ok t := by
  intro t shown
  have read : InternetTime.read (Text.trim "2016-12-31T23:59:60.5+00:30") = .ok ⟨1483226999, 1500000000⟩ := by
    decide +kernel
  have told : DataType.timestamp.convert (.text "2016-12-31T23:59:60.5+00:30") = .ok t := by
    change Value.timestamp <$> toTimestamp (.text _) = _
    rw [toTimestamp, read]
    rfl
  have display : t.display = "2016-12-31T23:29:60.500+00:00" := rfl
  have given (s : Instant) (same : Value.text "2016-12-31T23:59:60.5+00:30" = .timestamp s) : s.IsTold := by
    cases same
  obtain ⟨written, -, back⟩ := text_restores rfl (by decide) told rfl
  rw [display] at written back
  exact ⟨told, written, (back given).trans (if_pos (by decide))⟩

/-- The first instant of the year 10000 is not given again from its text. -/
theorem not_text_restores : ¬ ∀ source v, DataType.timestamp.convert source = .ok v → v.isNull = false →
    (∀ t, source = .timestamp t → t.IsTold) →
    ∃ shown, DataType.text.convert v = .ok shown ∧ DataType.timestamp.convert shown = .ok v := by
  intro restores
  have told : DataType.timestamp.convert (.integer 253402300800000) = .ok (.timestamp ⟨253402300800, 0⟩) := rfl
  have given (t : Instant) (same : Value.integer 253402300800000 = .timestamp t) : t.IsTold := by
    cases same
  obtain ⟨shown, written, back⟩ := restores _ _ told rfl given
  cases written
  obtain ⟨t, read, -⟩ := map_eq_ok.mp back
  rw [Value.display, toTimestamp_text_signed (by decide)] at read
  cases read

end DataType
end Persistence
