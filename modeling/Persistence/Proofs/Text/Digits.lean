import Mathlib.Algebra.Group.Nat.Defs
import Persistence.Text.Blank
import Persistence.Text.Integer

/-! Digits that are read back: a row of so many digits reads as what the number is modulo the power of the base, and as
    the number itself when it fits. The decimal text of an integer of 64 bits has a sign where it needs one and as many
    digits as it takes, and it is read back over the whole range. -/

namespace Persistence.Text

/-- A padded row reads as what is left of the number beside its leading digits. -/
theorem readDigits_padded_mod {base : Nat} (low : 0 < base) (high : base ≤ 16) (width n : Nat) :
    readDigits base (padded base width n) = some (n % base ^ width) := by
  unfold readDigits
  induction width generalizing n with
  | zero => simp [padded, readDigitsFrom, Nat.mod_one]
  | succ width ih =>
    have last : n % base < base := Nat.mod_lt _ low
    rw [padded, readDigitsFrom_append, ih]
    simp only [Option.bind_some, readDigitsFrom, digitValue?_digitChar high last]
    rw [Nat.pow_succ', Nat.mod_mul, Nat.add_comm, Nat.mul_comm]

/-- Reading a padded row gives the number back when it fits. -/
theorem readDigits_padded {base : Nat} (low : 0 < base) (high : base ≤ 16) (width n : Nat)
    (fits : n < base ^ width) : readDigits base (padded base width n) = some n := by
  rw [readDigits_padded_mod low high, Nat.mod_eq_of_lt fits]

theorem isDigit_of_mem_padded {width n : Nat} {c : Char} (h : c ∈ padded 10 width n) : c.isDigit = true := by
  have digits : ∀ d ∈ List.range 10, (Nat.digitChar d).isDigit = true := by decide
  obtain ⟨d, hd, rfl⟩ := exists_digit_of_mem_padded (by decide) h
  exact digits d (List.mem_range.mpr hd)

theorem isBlank_of_isDigit {c : Char} (h : c.isDigit = true) : isBlank c = false := by
  simp only [Char.isDigit, Bool.and_eq_true, decide_eq_true_eq] at h
  obtain ⟨low, high⟩ := h
  have low : 48 ≤ c.toNat := low
  have high : c.toNat ≤ 57 := high
  exact isBlank_of_graphic (by omega) (by omega)

theorem readDigitsFrom_zeros (n count : Nat) :
    readDigitsFrom 10 n (List.replicate count '0') = some (n * 10 ^ count) := by
  induction count generalizing n with
  | zero => simp [readDigitsFrom]
  | succ count ih =>
    have zero : digitValue? 10 '0' = some 0 := by decide
    rw [List.replicate_succ, readDigitsFrom, zero]
    dsimp only
    rw [Nat.add_zero, ih, Nat.pow_succ', Nat.mul_assoc]

/-- Digits before zeros are read as a multiple. -/
theorem readDigits_padded_zeros (width n count : Nat) :
    readDigits 10 (padded 10 width n ++ List.replicate count '0') = some (n % 10 ^ width * 10 ^ count) := by
  have first := readDigits_padded_mod (show 0 < 10 by decide) (by decide) width n
  rw [readDigits] at first ⊢
  rw [readDigitsFrom_append, first, Option.bind_some, readDigitsFrom_zeros]

/-- What a row of digits stands for is below the power of the base. -/
theorem readDigitsFrom_lt {base n m : Nat} {cs : List Char} (h : readDigitsFrom base n cs = some m) :
    m < (n + 1) * base ^ cs.length := by
  induction cs generalizing n with
  | nil =>
    cases h
    simp
  | cons c rest ih =>
    rw [readDigitsFrom] at h
    cases digit : digitValue? base c with
    | none =>
      rw [digit] at h
      cases h
    | some d =>
      rw [digit] at h
      have below : d < base := by simpa using (Option.filter_eq_some_iff.mp digit).2
      calc
        m < (n * base + d + 1) * base ^ rest.length := ih h
        _ ≤ ((n + 1) * base) * base ^ rest.length := Nat.mul_le_mul_right _ (by rw [Nat.succ_mul]; omega)
        _ = (n + 1) * base ^ (rest.length + 1) := by rw [Nat.pow_succ', Nat.mul_assoc]

/-! ### Decimal texts of integers -/

/-- A number on the side of its sign. -/
def signed (negative : Bool) (n : Nat) : Int := if negative then -(n : Int) else n

/-- The number is an integer of 64 bits. -/
def IsLong (n : Int) : Prop := leastLong ≤ n ∧ n ≤ greatestLong

theorem isLong_toInt (n : Int64) : IsLong n.toInt :=
  ⟨n.le_toInt, Int.le_of_lt_add_one n.toInt_lt⟩

/-- With a number in the range are all those between it and zero. -/
theorem IsLong.of_le {negative : Bool} {m n : Nat} (long : IsLong (signed negative n)) (le : m ≤ n) :
    IsLong (signed negative m) := by
  unfold IsLong leastLong greatestLong signed at long ⊢
  cases negative <;> simp only [Bool.false_eq_true, if_true, if_false] at long ⊢ <;> omega

theorem readLongFrom_append (negative : Bool) (n : Int) (cs ds : List Char) :
    readLongFrom negative n (cs ++ ds) = (readLongFrom negative n cs).bind (readLongFrom negative · ds) := by
  induction cs generalizing n with
  | nil => rfl
  | cons c rest ih =>
    rw [List.cons_append, readLongFrom, readLongFrom]
    cases digitValue? 10 c with
    | none => rfl
    | some d =>
      dsimp only
      generalize (if negative = true then n * 10 - (d : Int) else n * 10 + d) = next
      by_cases low : next < leastLong
      · rw [if_pos low, if_pos low]
        rfl
      · by_cases high : greatestLong < next
        · rw [if_neg low, if_neg low, if_pos high, if_pos high]
          rfl
        · rw [if_neg low, if_neg low, if_neg high, if_neg high, ih]

/-- A digit takes a number further from zero, as far as the range goes. -/
theorem readLongFrom_digit {negative : Bool} {n d : Nat} (small : d < 10)
    (long : IsLong (signed negative (n * 10 + d))) :
    readLongFrom negative (signed negative n) [Nat.digitChar d] = .ok (signed negative (n * 10 + d)) := by
  have next : (if negative then signed negative n * 10 - (d : Int) else signed negative n * 10 + d) =
      signed negative (n * 10 + d) := by
    unfold signed
    cases negative <;> simp only [Bool.false_eq_true, if_true, if_false] <;> omega
  rw [readLongFrom, digitValue?_digitChar (by decide) small]
  dsimp only
  rw [next, if_neg (Int.not_lt.mpr long.1), if_neg (Int.not_lt.mpr long.2), readLongFrom]

/-- The digits of a number in the range are read as the number. -/
theorem readLongFrom_toDigits {negative : Bool} {n : Nat} (long : IsLong (signed negative n)) :
    readLongFrom negative 0 (Nat.toDigits 10 n) = .ok (signed negative n) := by
  have zero : signed negative 0 = 0 := by cases negative <;> rfl
  induction n using Nat.strongRecOn with
  | ind n ih =>
    rcases Nat.lt_or_ge n 10 with small | large
    · rw [Nat.toDigits_of_lt_base small, ← zero, readLongFrom_digit small (by rwa [Nat.zero_mul, Nat.zero_add]),
        Nat.zero_mul, Nat.zero_add]
    · have last : n % 10 < 10 := Nat.mod_lt n (by decide)
      have parts : n / 10 * 10 + n % 10 = n := Nat.div_add_mod' n 10
      have digits : Nat.toDigits 10 n = Nat.toDigits 10 (n / 10) ++ [Nat.digitChar (n % 10)] := by
        rw [← Nat.toDigits_of_lt_base last, Nat.toDigits_append_toDigits (by decide) (by omega) last, Nat.div_add_mod]
      rw [digits, readLongFrom_append, ih (n / 10) (by omega) (long.of_le (Nat.div_le_self n 10)), Except.bind,
        readLongFrom_digit last (by rwa [parts]), parts]

theorem toDigits_eq_cons (n : Nat) : ∃ c rest, Nat.toDigits 10 n = c :: rest ∧ c.isDigit = true := by
  cases digits : Nat.toDigits 10 n with
  | nil => exact absurd digits Nat.toDigits_ne_nil
  | cons c rest =>
    exact ⟨c, rest, rfl, Nat.isDigit_of_mem_toDigits (by decide) (by decide) (digits ▸ List.mem_cons_self)⟩

/-- The text of an integer: its digits, after a sign if it is below zero. -/
theorem toList_toString (n : Int) : (toString n).toList =
    if n < 0 then '-' :: Nat.toDigits 10 n.natAbs else Nat.toDigits 10 n.natAbs := by
  cases n with
  | ofNat n =>
    have text : toString (Int.ofNat n) = n.repr := rfl
    have natural : ¬Int.ofNat n < 0 := Int.not_lt.mpr (Int.natCast_nonneg n)
    rw [text, Nat.toList_repr, if_neg natural]
    rfl
  | negSucc n =>
    have text : toString (Int.negSucc n) = "-" ++ (n + 1).repr := rfl
    rw [text, String.toList_append, Nat.toList_repr, if_pos (Int.negSucc_lt_zero n), Int.natAbs_negSucc]
    rfl

/-- An integer of 64 bits is read back from its text. -/
theorem readLong_toString (n : Int64) : readLong (toString n.toInt).toList = .ok n.toInt := by
  have long := isLong_toInt n
  obtain ⟨c, rest, digits, digit⟩ := toDigits_eq_cons n.toInt.natAbs
  rw [toList_toString]
  split
  next negative =>
    have below : signed true n.toInt.natAbs = n.toInt := by
      rw [signed, if_pos rfl]
      omega
    have read := readLongFrom_toDigits (below.symm ▸ long)
    rw [below, digits] at read
    rw [digits, readLong, if_neg (by simp), splitSign]
    exact read
  next natural =>
    have above : signed false n.toInt.natAbs = n.toInt := by
      rw [signed, if_neg Bool.false_ne_true]
      omega
    have read := readLongFrom_toDigits (above.symm ▸ long)
    rw [above, digits] at read
    -- The first digit is no sign.
    have unsigned : splitSign (c :: rest) = (false, c :: rest) := by
      unfold splitSign
      split
      next same => exact absurd ((List.cons.inj same).1 ▸ digit) (by decide)
      next same => exact absurd ((List.cons.inj same).1 ▸ digit) (by decide)
      · rfl
    rw [digits, readLong, if_neg (by simp), unsigned]
    exact read

/-- There is no blank in the text of an integer. -/
theorem trimChars_toString (n : Int) : trimChars (toString n).toList = (toString n).toList := by
  have digits (c : Char) (h : c ∈ Nat.toDigits 10 n.natAbs) : isBlank c = false :=
    isBlank_of_isDigit (Nat.isDigit_of_mem_toDigits (by decide) (by decide) h)
  refine trimChars_eq_self fun c h => ?_
  rw [toList_toString] at h
  split at h
  · rcases List.mem_cons.mp h with rfl | h
    · decide
    · exact digits c h
  · exact digits c h

end Persistence.Text
