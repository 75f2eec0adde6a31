import Persistence.Proofs.Value.Likeness

/-! Digests of values that are alike. These have digests of one length, part by part, so that the digests can only be
    the same if all the parts are: hashed collections find a value again under just those that are the same to the last
    bit, and lose it under all others that are like it. -/

namespace Persistence.Value

/-! ### Bytes -/

@[simp]
theorem length_bytes (count n : Nat) : (bytes count n).length = count := by
  induction count generalizing n with
  | zero => rfl
  | succ count ih => rw [bytes, List.length_cons, ih]

/-- A number is told by bytes that are enough for it. -/
theorem eq_of_bytes_eq {count m n : Nat} (hm : m < 256 ^ count) (hn : n < 256 ^ count)
    (h : bytes count m = bytes count n) : m = n := by
  induction count generalizing m n with
  | zero => omega
  | succ count ih =>
    rw [bytes, bytes, List.cons.injEq] at h
    rw [Nat.pow_succ] at hm hn
    have low : m % 256 = n % 256 := by simpa using congrArg UInt8.toNat h.1
    have high : m / 256 = n / 256 := ih (by omega) (by omega) h.2
    omega

theorem eq_of_bits_bytes_eq {x y : Binary64} (h : bytes 8 x.bits.toNat = bytes 8 y.bits.toNat) : x = y := by
  have bits : x.bits = y.bits := UInt64.toNat_inj.mp (eq_of_bytes_eq x.bits.toNat_lt y.bits.toNat_lt h)
  exact congrArg Binary64.mk bits

/-! ### Digests of one length -/

mutual

theorem length_digest_of_alike : ∀ {a b : Value}, a.alike b = true → a.digest.length = b.digest.length
  | .null, b, h => by rw [eq_of_alike rfl h]
  | .integer m, b, h => by cases b <;> first | cases h | simp [digest]
  | .float x, b, h => by cases b <;> first | cases h | simp [digest]
  | .text s, b, h => by rw [eq_of_alike rfl h]
  | .boolean p, b, h => by rw [eq_of_alike rfl h]
  | .timestamp t, b, h => by rw [eq_of_alike rfl h]
  | .uuid u, b, h => by rw [eq_of_alike rfl h]
  | .list xs, b, h => by
    cases b with
    | list ys => simp [digest, length_digestItems_of_alike h]
    | _ => cases h
  | .map xs, b, h => by
    cases b with
    | map ys => simp [digest, length_digestEntries_of_alike h]
    | _ => cases h

theorem length_digestItems_of_alike : ∀ {xs ys : List Value}, alikeItems xs ys = true →
    (digestItems xs).length = (digestItems ys).length
  | [], [], _ => rfl
  | x :: xs, y :: ys, h => by
    rw [alikeItems, Bool.and_eq_true] at h
    rw [digestItems, digestItems, List.length_append, List.length_append, length_digest_of_alike h.1,
      length_digestItems_of_alike h.2]

theorem length_digestEntries_of_alike : ∀ {xs ys : List (String × Value)}, alikeEntries xs ys = true →
    (digestEntries xs).length = (digestEntries ys).length
  | [], [], _ => rfl
  | (k, x) :: xs, (l, y) :: ys, h => by
    rw [alikeEntries, Bool.and_eq_true, Bool.and_eq_true, beq_iff_eq] at h
    rw [digestEntries, digestEntries, h.1.1]
    simp only [List.length_append, length_digest_of_alike h.1.2, length_digestEntries_of_alike h.2]

end

/-! ### Digests that are the same -/

mutual

theorem eq_of_digest_eq : ∀ {a b : Value}, a.alike b = true → a.digest = b.digest → a = b
  | .null, b, h, _ => eq_of_alike rfl h
  | .integer m, b, h, same => by
    cases b with
    | integer n =>
      rw [alike, beq_iff_eq] at h
      rw [h]
    | float y => simp [digest] at same
    | _ => cases h
  | .float x, b, h, same => by
    cases b with
    | integer n => simp [digest] at same
    | float y =>
      rw [digest, digest, List.cons.injEq] at same
      rw [eq_of_bits_bytes_eq same.2]
    | _ => cases h
  | .text s, b, h, _ => eq_of_alike rfl h
  | .boolean p, b, h, _ => eq_of_alike rfl h
  | .timestamp t, b, h, _ => eq_of_alike rfl h
  | .uuid u, b, h, _ => eq_of_alike rfl h
  | .list xs, b, h, same => by
    cases b with
    | list ys =>
      rw [digest, digest] at same
      rw [eq_of_digestItems_eq h (List.append_inj same (by simp)).2]
    | _ => cases h
  | .map xs, b, h, same => by
    cases b with
    | map ys =>
      rw [digest, digest] at same
      rw [eq_of_digestEntries_eq h (List.append_inj same (by simp)).2]
    | _ => cases h

theorem eq_of_digestItems_eq : ∀ {xs ys : List Value}, alikeItems xs ys = true → digestItems xs = digestItems ys → xs = ys
  | [], [], _, _ => rfl
  | x :: xs, y :: ys, h, same => by
    rw [alikeItems, Bool.and_eq_true] at h
    rw [digestItems, digestItems] at same
    obtain ⟨first, others⟩ := List.append_inj same (length_digest_of_alike h.1)
    rw [eq_of_digest_eq h.1 first, eq_of_digestItems_eq h.2 others]

theorem eq_of_digestEntries_eq : ∀ {xs ys : List (String × Value)}, alikeEntries xs ys = true →
    digestEntries xs = digestEntries ys → xs = ys
  | [], [], _, _ => rfl
  | (k, x) :: xs, (l, y) :: ys, h, same => by
    rw [alikeEntries, Bool.and_eq_true, Bool.and_eq_true, beq_iff_eq] at h
    rw [digestEntries, digestEntries, h.1.1, List.append_assoc, List.append_assoc] at same
    obtain ⟨first, others⟩ := List.append_inj (List.append_cancel_left same) (length_digest_of_alike h.1.2)
    rw [h.1.1, eq_of_digest_eq h.1.2 first, eq_of_digestEntries_eq h.2 others]

end

/-- Of the values that are alike, just the same ones have the same digest. -/
theorem digest_eq_iff_of_alike {a b : Value} (h : a.alike b = true) : a.digest = b.digest ↔ a = b :=
  ⟨eq_of_digest_eq h, fun same => by rw [same]⟩

/-- The two zeros are alike and so are lists of them, but as keys they are different. -/
theorem digest_eq_iff_of_alike_zeros :
    let a := Value.map [("n", .list [.float Binary64.zero])]
    let b := Value.map [("n", .list [.float Binary64.zero.neg])]
    a.alike b = true ∧ a.digest ≠ b.digest := by
  intro a b
  have like : a.alike b = true := by decide +kernel
  refine ⟨like, fun same => ?_⟩
  have equal : a = b := (digest_eq_iff_of_alike like).mp same
  simp only [a, b, Value.map.injEq, List.cons.injEq, Prod.mk.injEq, Value.list.injEq, Value.float.injEq, true_and,
    and_true] at equal
  exact absurd equal (by decide)

/-- An integer and the number of the same value are alike, but their digests begin with different kinds. -/
theorem not_digest_eq_of_alike : ¬ ∀ a b : Value, a.alike b = true → a.digest = b.digest := by
  intro agree
  have same := agree (.integer 2) (.float (Binary64.ofInt 2)) (by decide +kernel)
  simp [digest] at same

end Persistence.Value
