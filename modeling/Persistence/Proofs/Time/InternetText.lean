import Mathlib.Data.String.Basic
import Persistence.Proofs.Outcome
import Persistence.Proofs.Text.Digits
import Persistence.Proofs.Time.Calendar
import Persistence.Text.Blank
import Persistence.Time.InternetTime

/-! Texts of instants and what they are read as. A text with a year of four digits has its parts where they are looked
    for, so that it is read as the instant that it was written for, unless that counts more nanoseconds than there are;
    any other text begins with a sign, and that is not read at all. No instant that is read, or told by its
    milliseconds, counts that many nanoseconds. -/

namespace Persistence

namespace Text

theorem length_le_utf8Len (cs : List Char) : cs.length ≤ String.utf8Len cs := by
  induction cs with
  | nil => exact Nat.le_refl 0
  | cons c rest ih =>
    have size := Char.utf8Size_pos c
    rw [List.length_cons, String.utf8Len_cons]
    omega

end Text

namespace InternetTime

/-! ### Parts of a text -/

theorem number_padded (count n : Nat) (rest : List Char) :
    number count (Text.padded 10 count n ++ rest) = .ok (n % 10 ^ count, rest) := by
  have length := Text.length_padded 10 count n
  have digits := Text.readDigits_padded_mod (show 0 < 10 by decide) (by decide) count n
  simp only [number, List.take_left' length, List.drop_left' length, digits, if_pos length]

/-- A fraction of some digits before a sign. -/
theorem fraction_padded {width zeros : Nat} (nine : width + zeros = 9) (wide : 0 < width) (n : Nat) (rest : List Char) :
    fraction ('.' :: (Text.padded 10 width n ++ '+' :: rest)) = .ok (n % 10 ^ width * 10 ^ zeros, '+' :: rest) := by
  have length := Text.length_padded 10 width n
  have all : ∀ c ∈ Text.padded 10 width n, c.isDigit = true := fun c => Text.isDigit_of_mem_padded
  have taken : (Text.padded 10 width n ++ '+' :: rest).takeWhile Char.isDigit = Text.padded 10 width n := by
    rw [List.takeWhile_append_of_pos all]
    simp
  have left : (Text.padded 10 width n ++ '+' :: rest).dropWhile Char.isDigit = '+' :: rest := by
    rw [List.dropWhile_append_of_pos all]
    simp
  have row : (Text.padded 10 width n ++ List.replicate 9 '0').take 9 =
      Text.padded 10 width n ++ List.replicate zeros '0' := by
    rw [List.take_append, length, List.take_of_length_le (by omega), List.take_replicate]
    congr 2
    omega
  simp only [fraction, taken, left]
  split
  next missing =>
    rw [missing] at length
    simp at length
    omega
  · rw [row, Text.readDigits_padded_zeros, Option.getD_some]

theorem fraction_fractionText {n : Nat} (h : n < 1000000000) (rest : List Char) :
    fraction (fractionText n ++ '+' :: rest) = .ok (n, '+' :: rest) := by
  have three := fraction_padded (show 3 + 6 = 9 from rfl) (by decide) (n / 1000000) rest
  have six := fraction_padded (show 6 + 3 = 9 from rfl) (by decide) (n / 1000) rest
  have nine := fraction_padded (show 9 + 0 = 9 from rfl) (by decide) n rest
  rw [fractionText]
  split
  next zero =>
    subst zero
    rfl
  · split
    · have millis : n / 1000000 % 10 ^ 3 * 10 ^ 6 = n := by omega
      rw [List.cons_append, three, millis]
    · split
      · have micros : n / 1000 % 10 ^ 6 * 10 ^ 3 = n := by omega
        rw [List.cons_append, six, micros]
      · have nanos : n % 10 ^ 9 * 10 ^ 0 = n := by omega
        rw [List.cons_append, nine, nanos]

/-- The digits of a fraction are fewer than those of a second. -/
theorem fraction_lt {cs rest : List Char} {n : Nat} (h : fraction cs = .ok (n, rest)) : n < 1000000000 := by
  have below (digits : List Char) : (Text.readDigits 10 (digits.take 9)).getD 0 < 10 ^ 9 := by
    cases read : Text.readDigits 10 (digits.take 9) with
    | none => exact Nat.pow_pos (by decide)
    | some n =>
      calc
        n < (0 + 1) * 10 ^ (digits.take 9).length := Text.readDigitsFrom_lt read
        _ ≤ (0 + 1) * 10 ^ 9 := Nat.mul_le_mul_left _ (Nat.pow_le_pow_right (by decide) (List.length_take_le _ _))
        _ = 10 ^ 9 := Nat.one_mul _
  unfold fraction at h
  split at h
  · split at h
    · cases h
    · cases h
      exact below _
  · cases h
    exact Nat.zero_lt_succ _

/-! ### Texts of instants -/

/-- The number of seconds in the text of an instant. -/
def secondShown (t : Instant) : Nat := (t.secondOfDay % 60 + t.nanos / 1000000000) % 100

theorem four_le_length_yearText (year : Int) : 4 ≤ (yearText year).length := by
  unfold yearText
  split
  · rw [Text.length_padded]
  · rw [List.length_cons, List.length_append, List.length_replicate]
    omega

theorem leastLength_le_text (t : Instant) : leastLength ≤ (text t).utf8ByteSize := by
  have long : leastLength ≤ (write t).length := by
    have year := four_le_length_yearText t.date.year
    simp only [write, List.length_append, List.length_cons, Text.length_padded, leastLength]
    omega
  rw [text, String.utf8ByteSize_ofList]
  exact long.trans (Text.length_le_utf8Len _)

section FourDigits
variable {t : Instant} (four : 0 ≤ t.date.year ∧ t.date.year ≤ 9999)
include four

theorem write_eq : write t =
    Text.padded 10 4 t.date.year.toNat ++ '-' :: (Text.padded 10 2 t.date.month ++ '-' :: (Text.padded 10 2 t.date.day ++
      'T' :: (Text.padded 10 2 (t.secondOfDay / 3600) ++ ':' :: (Text.padded 10 2 (t.secondOfDay / 60 % 60) ++
        ':' :: (Text.padded 10 2 (t.secondOfDay % 60 + t.nanos / 1000000000) ++
          (fractionText (t.nanos % 1000000000) ++ '+' :: "00:00".toList)))))) := by
  have signed : "+00:00".toList = '+' :: "00:00".toList := rfl
  simp only [write, yearText, if_pos four, signed, List.append_assoc, List.cons_append]

theorem date_shown : (⟨(t.date.year.toNat % 10 ^ 4 : Nat), t.date.month % 10 ^ 2, t.date.day % 10 ^ 2⟩ : Date) = t.date := by
  have valid := Date.isValid_ofDayNumber (t.seconds / 86400)
  obtain ⟨month, day⟩ := Date.le_of_isValid valid
  change t.date.month ≤ 12 at month
  change t.date.day ≤ 31 at day
  have year : ((t.date.year.toNat % 10 ^ 4 : Nat) : Int) = t.date.year := by omega
  rw [year, Nat.mod_eq_of_lt (by omega), Nat.mod_eq_of_lt (by omega)]

/-- A text with a year of four digits is read part by part; just the seconds may be too many. -/
theorem read_text : read (text t) =
    if secondShown t ≤ 60 then
      .ok ⟨t.seconds - (t.secondOfDay % 60 : Nat) + (secondShown t - secondShown t / 60 : Nat),
        t.nanos % 1000000000 + secondShown t / 60 * 1000000000⟩
    else .error .outOfRange := by
  have dash (rest : List Char) : oneOf ['-'] ('-' :: rest) = .ok rest := rfl
  have time (rest : List Char) : oneOf ['T', 't', ' '] ('T' :: rest) = .ok rest := rfl
  have colon (rest : List Char) : oneOf [':'] (':' :: rest) = .ok rest := rfl
  have universal : offset ('+' :: "00:00".toList) = .ok 0 := rfl
  have fraction := fraction_fractionText (Nat.mod_lt t.nanos (show 0 < 1000000000 by decide)) "00:00".toList
  have valid : t.date.isValid = true := Date.isValid_ofDayNumber (t.seconds / 86400)
  have day : t.date.toDayNumber = t.seconds / 86400 := Date.toDayNumber_ofDayNumber (t.seconds / 86400)
  have second : (t.secondOfDay % 60 + t.nanos / 1000000000) % 10 ^ 2 = secondShown t := rfl
  have ofDay : (t.secondOfDay : Int) = t.seconds % 86400 := Int.toNat_of_nonneg (by omega)
  have hour : t.secondOfDay / 3600 % 10 ^ 2 = t.secondOfDay / 3600 := by omega
  have minute : t.secondOfDay / 60 % 60 % 10 ^ 2 = t.secondOfDay / 60 % 60 := by omega
  have hourFits : t.secondOfDay / 3600 ≤ 23 := by omega
  have minuteFits : t.secondOfDay / 60 % 60 ≤ 59 := by omega
  -- Every part stands where it is looked for, and all of them but the seconds are of the calendar and the clock.
  rw [read, if_neg (Nat.not_lt.mpr (leastLength_le_text t)), text, String.toList_ofList, write_eq four]
  simp only [number_padded, dash, time, colon, fraction, universal, date_shown four, bind, Except.bind,
    pure, Except.pure]
  rw [if_pos valid, second, hour, minute]
  by_cases fits : secondShown t ≤ 60
  · rw [if_pos (by simp [hourFits, minuteFits, fits]), if_pos fits, day]
    congr 2
    omega
  · rw [if_neg (by simp [fits]), if_neg fits]
    rfl

end FourDigits

/-- A text with any other year begins with its sign, where a digit is looked for. -/
theorem read_text_signed {t : Instant} (unusual : ¬ (0 ≤ t.date.year ∧ t.date.year ≤ 9999)) :
    read (text t) = .error .invalid := by
  obtain ⟨sign, rest, signed, other⟩ : ∃ sign rest, write t = sign :: rest ∧ Text.digitValue? 10 sign = none := by
    simp only [write, yearText, if_neg unusual]
    split
    · exact ⟨'-', _, rfl, by decide⟩
    · exact ⟨'+', _, rfl, by decide⟩
  have missing : number 4 (write t) = .error .invalid := by
    rw [number, signed, List.take_succ_cons, Text.readDigits, Text.readDigitsFrom_eq_none List.mem_cons_self other]
  rw [read, if_neg (Nat.not_lt.mpr (leastLength_le_text t)), text, String.toList_ofList, missing]
  rfl

theorem isBlank_of_mem_fractionText {n : Nat} {c : Char} (h : c ∈ fractionText n) : Text.isBlank c = false := by
  have digits (n width : Nat) (h : c ∈ '.' :: Text.padded 10 width n) : Text.isBlank c = false := by
    rcases List.mem_cons.mp h with rfl | h
    · decide
    · exact Text.isBlank_of_isDigit (Text.isDigit_of_mem_padded h)
  rw [fractionText] at h
  split at h
  · cases h
  · split at h
    · exact digits _ _ h
    · split at h
      · exact digits _ _ h
      · exact digits _ _ h

theorem isBlank_of_mem_yearText {year : Int} {c : Char} (h : c ∈ yearText year) : Text.isBlank c = false := by
  rw [yearText] at h
  split at h
  · exact Text.isBlank_of_isDigit (Text.isDigit_of_mem_padded h)
  · rcases List.mem_cons.mp h with rfl | h
    · split <;> decide
    · rcases List.mem_append.mp h with zero | digit
      · rw [List.eq_of_mem_replicate zero]
        decide
      · exact Text.isBlank_of_isDigit (Nat.isDigit_of_mem_toDigits (by decide) (by decide) digit)

theorem trim_text (t : Instant) : Text.trim (text t) = text t := by
  rw [Text.trim, text, String.toList_ofList, Text.trimChars_eq_self]
  intro c h
  have two {n : Nat} (h : c ∈ Text.padded 10 2 n) : Text.isBlank c = false :=
    Text.isBlank_of_isDigit (Text.isDigit_of_mem_padded h)
  simp only [write, List.mem_append, List.mem_cons, List.cons_append, List.append_assoc] at h
  have universal : ("+00:00".toList.all fun c => Text.isBlank c == false) = true := by decide
  rcases h with year | rfl | month | rfl | day | rfl | hour | rfl | minute | rfl | second | fraction | offset
  exacts [isBlank_of_mem_yearText year, rfl, two month, rfl, two day, rfl, two hour, rfl, two minute, rfl, two second,
    isBlank_of_mem_fractionText fraction, beq_iff_eq.mp (List.all_eq_true.mp universal c offset)]

/-! ### Instants that can be read back -/

/-- The year has four digits, and the nanoseconds run on for a second just at the end of a minute. -/
def isLegible (t : Instant) : Bool :=
  (0 ≤ t.date.year && t.date.year ≤ 9999) &&
    (t.nanos < 1000000000 || t.nanos < 2000000000 && t.seconds % 60 == 59)

/-- Just the legible instants are read back from their texts. -/
theorem read_text_iff (t : Instant) : read (text t) = .ok t ↔ isLegible t = true := by
  by_cases four : 0 ≤ t.date.year ∧ t.date.year ≤ 9999
  · have ofDay : (t.secondOfDay : Int) = t.seconds % 86400 := Int.toNat_of_nonneg (by omega)
    have legible : isLegible t = true ↔ t.nanos < 1000000000 ∨ t.nanos < 2000000000 ∧ t.seconds % 60 = 59 := by
      simp [isLegible, four]
    have shown : secondShown t = (t.secondOfDay % 60 + t.nanos / 1000000000) % 100 := rfl
    rw [read_text four, legible]
    constructor
    · intro back
      split at back
      · obtain ⟨seconds, nanos⟩ := Instant.mk.inj (Except.ok.inj back)
        omega
      · cases back
    · intro usual
      have fits : secondShown t ≤ 60 := by omega
      have seconds : t.seconds - (t.secondOfDay % 60 : Nat) + (secondShown t - secondShown t / 60 : Nat) = t.seconds := by
        omega
      have nanos : t.nanos % 1000000000 + secondShown t / 60 * 1000000000 = t.nanos := by omega
      rw [if_pos fits, seconds, nanos]
  · have illegible : isLegible t = false := by
      simp only [isLegible, Bool.and_eq_false_iff, decide_eq_false_iff_not]
      omega
    simp [read_text_signed four, illegible]

/-! ### Instants that come from texts and from milliseconds -/

/-- What is read is a day, a time of day and an offset in minutes; a sixtieth second prolongs the last one. -/
theorem read_eq_ok {s : String} {t : Instant} (h : read s = .ok t) :
    ∃ (day minutesEast : Int) (hour minute second nanos : Nat), second ≤ 60 ∧ nanos < 1000000000 ∧
      t = ⟨day * 86400 + hour * 3600 + minute * 60 + (second - second / 60 : Nat) - minutesEast * 60,
        nanos + second / 60 * 1000000000⟩ := by
  rw [read] at h
  split at h
  · cases h
  obtain ⟨⟨year, afterYear⟩, -, h⟩ := bind_eq_ok.mp h
  obtain ⟨_, -, h⟩ := bind_eq_ok.mp h
  obtain ⟨⟨month, afterMonth⟩, -, h⟩ := bind_eq_ok.mp h
  obtain ⟨_, -, h⟩ := bind_eq_ok.mp h
  obtain ⟨⟨day, afterDay⟩, -, h⟩ := bind_eq_ok.mp h
  dsimp only at h
  split at h
  next valid =>
    obtain ⟨_, -, h⟩ := bind_eq_ok.mp h
    obtain ⟨⟨hour, afterHour⟩, -, h⟩ := bind_eq_ok.mp h
    obtain ⟨_, -, h⟩ := bind_eq_ok.mp h
    obtain ⟨⟨minute, afterMinute⟩, -, h⟩ := bind_eq_ok.mp h
    obtain ⟨_, -, h⟩ := bind_eq_ok.mp h
    obtain ⟨⟨second, afterSecond⟩, -, h⟩ := bind_eq_ok.mp h
    obtain ⟨⟨nanos, afterNanos⟩, parted, h⟩ := bind_eq_ok.mp h
    dsimp only at h
    split at h
    next fits =>
      obtain ⟨minutesEast, -, h⟩ := bind_eq_ok.mp h
      simp only [Bool.and_eq_true, decide_eq_true_eq] at fits
      cases h
      exact ⟨_, minutesEast, hour, minute, second, nanos, fits.2, fraction_lt parted, rfl⟩
    · cases h
  · cases h

end InternetTime

/-- The instant is told by a number of milliseconds or by a text. -/
def Instant.IsTold (t : Instant) : Prop :=
  (∃ n : Int64, ofMillis? n.toInt = some t) ∨ ∃ s, InternetTime.read s = .ok t

/-- An instant that is told is legible if its year has four digits. -/
theorem Instant.IsTold.isLegible_iff {t : Instant} (told : t.IsTold) :
    InternetTime.isLegible t = true ↔ 0 ≤ t.date.year ∧ t.date.year ≤ 9999 := by
  have usual : t.nanos < 1000000000 ∨ t.nanos < 2000000000 ∧ t.seconds % 60 = 59 := by
    rcases told with ⟨n, told⟩ | ⟨s, told⟩
    · rw [ofMillis?] at told
      split at told
      · cases told
        dsimp only
        omega
      · cases told
    · obtain ⟨day, minutesEast, hour, minute, second, nanos, fits, below, rfl⟩ := InternetTime.read_eq_ok told
      dsimp only
      rcases Nat.lt_or_eq_of_le fits with short | rfl <;> omega
  simp [InternetTime.isLegible, usual]

end Persistence
