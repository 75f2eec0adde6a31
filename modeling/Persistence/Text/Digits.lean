/-!
Digits of a fixed count, and reading them back. `padded` writes the last digits of a number in a base up to
sixteen, `readDigits` reads any row of digits.
-/

namespace Persistence.Text

/-- The value of a digit, letters counting from ten in either case, if it is below the base. -/
def digitValue? (base : Nat) (c : Char) : Option Nat :=
  let value :=
    if '0' ≤ c && c ≤ '9' then some (c.toNat - 48)
    else if 'a' ≤ c && c ≤ 'f' then some (c.toNat - 87)
    else if 'A' ≤ c && c ≤ 'F' then some (c.toNat - 55)
    else none
  value.filter (· < base)

/-- The last `width` digits of `n`, the leading ones zero where `n` is short. -/
def padded (base : Nat) : Nat → Nat → List Char
  | 0, _ => []
  | width + 1, n => padded base width (n / base) ++ [Nat.digitChar (n % base)]

/-- Continues a number by a row of digits; `none` at the first character that is not a digit of the base. -/
def readDigitsFrom (base : Nat) : Nat → List Char → Option Nat
  | n, [] => some n
  | n, c :: rest =>
    match digitValue? base c with
    | some d => readDigitsFrom base (n * base + d) rest
    | none => none

/-- The number that digits of a base stand for. -/
def readDigits (base : Nat) (cs : List Char) : Option Nat :=
  readDigitsFrom base 0 cs

theorem length_padded (base width n : Nat) : (padded base width n).length = width := by
  induction width generalizing n with
  | zero => rfl
  | succ width ih => simp [padded, ih]

theorem exists_digit_of_mem_padded {base width n : Nat} (low : 0 < base) {c : Char} (h : c ∈ padded base width n) :
    ∃ d < base, c = Nat.digitChar d := by
  induction width generalizing n with
  | zero => cases h
  | succ width ih =>
    rcases List.mem_append.mp h with h | h
    · exact ih h
    · exact ⟨n % base, Nat.mod_lt _ low, List.mem_singleton.mp h⟩

theorem digitValue?_digitChar {base d : Nat} (small : base ≤ 16) (h : d < base) :
    digitValue? base (Nat.digitChar d) = some d := by
  have all : ∀ e ∈ List.range 16, ∀ b ∈ List.range 17, e < b → digitValue? b (Nat.digitChar e) = some e := by
    decide
  exact all d (List.mem_range.2 (by omega)) base (List.mem_range.2 (by omega)) h

theorem readDigitsFrom_append (base n : Nat) (cs ds : List Char) :
    readDigitsFrom base n (cs ++ ds) = (readDigitsFrom base n cs).bind (readDigitsFrom base · ds) := by
  induction cs generalizing n with
  | nil => rfl
  | cons c rest ih =>
    simp only [List.cons_append, readDigitsFrom]
    cases digitValue? base c with
    | none => rfl
    | some d => exact ih _

theorem readDigitsFrom_eq_none {base n : Nat} {c : Char} {cs : List Char} (h : c ∈ cs) (other : digitValue? base c = none) :
    readDigitsFrom base n cs = none := by
  induction cs generalizing n with
  | nil => cases h
  | cons d rest ih =>
    rw [readDigitsFrom]
    rcases List.mem_cons.mp h with rfl | h
    · rw [other]
    · cases digitValue? base d with
      | none => rfl
      | some value => exact ih h

end Persistence.Text
