import Mathlib.Algebra.Order.Ring.Int
import Mathlib.Data.Int.Bitwise
import Mathlib.Tactic.Ring

/-!
# Bits of integers

An integer of either sign has a bit at every place; those of a negative one are set from some place
on. Bits that lie side by side are read as a number, and two integers with the same bits are the
same.
-/

set_option autoImplicit false

namespace Recolor.Bits

/-- The number that is made up of some bits of an integer, from a place on. -/
def field (n : ℤ) (place count : ℕ) : ℤ :=
  n / 2 ^ place % 2 ^ count

/-- Powers of two are positive. -/
theorem two_pow_pos (k : ℕ) : (0 : ℤ) < 2 ^ k :=
  pow_pos (by decide) k

/-- A bit of an integer is the remainder by two of what is left when the bits below are cut off. -/
theorem testBit_eq_decide (n : ℤ) (i : ℕ) : n.testBit i = decide (n / 2 ^ i % 2 = 1) := by
  cases n with
  | ofNat m =>
    rw [Int.testBit, Nat.testBit_eq_decide_div_mod_eq, decide_eq_decide, Int.ofNat_eq_natCast]
    norm_cast
  | negSucc m =>
    have hquotient : Int.negSucc m / 2 ^ i = -((m / 2 ^ i : ℕ) + 1 : ℤ) := by
      rw [Int.negSucc_ediv m (two_pow_pos i)]
      norm_cast
    rw [Int.testBit, Nat.testBit_eq_decide_div_mod_eq, hquotient, ← decide_not, decide_eq_decide]
    omega

/-- Dividing by a power of two moves the bits down. -/
theorem testBit_ediv (n : ℤ) (k i : ℕ) : (n / 2 ^ k).testBit i = n.testBit (k + i) := by
  rw [testBit_eq_decide, testBit_eq_decide, Int.ediv_ediv_of_nonneg (two_pow_pos k).le, pow_add]

/-- The remainder by a power of two keeps the bits below it. -/
theorem testBit_emod (n : ℤ) (k i : ℕ) :
    (n % 2 ^ k).testBit i = (decide (i < k) && n.testBit i) := by
  have hlow := Int.emod_nonneg n (two_pow_pos k).ne'
  have hhigh := Int.emod_lt_of_pos n (two_pow_pos k)
  rw [testBit_eq_decide, testBit_eq_decide]
  rcases lt_or_ge i k with hi | hi
  · -- what is taken away is a multiple of the next power after the bit
    obtain ⟨d, rfl⟩ : ∃ d, k = i + (d + 1) := ⟨k - i - 1, by omega⟩
    have hsplit : n = n % 2 ^ (i + (d + 1)) + 2 ^ i * (2 * (2 ^ d * (n / 2 ^ (i + (d + 1))))) := by
      conv_lhs => rw [← Int.emod_add_mul_ediv n (2 ^ (i + (d + 1)))]
      ring
    have hquotient : n / 2 ^ i
        = n % 2 ^ (i + (d + 1)) / 2 ^ i + 2 * (2 ^ d * (n / 2 ^ (i + (d + 1)))) := by
      conv_lhs => rw [hsplit, Int.add_mul_ediv_left _ _ (two_pow_pos i).ne']
    rw [hquotient, Int.add_mul_emod_self_left, decide_eq_true hi, Bool.true_and]
  · have hnone : n % 2 ^ k / 2 ^ i = 0 :=
      Int.ediv_eq_zero_of_lt hlow (hhigh.trans_le (pow_le_pow_right₀ (by decide) hi))
    rw [hnone, decide_eq_false (not_lt.mpr hi), Bool.false_and]
    rfl

/-- The number made up of some bits has these bits and no others. -/
theorem testBit_field (n : ℤ) (place count i : ℕ) :
    (field n place count).testBit i = (decide (i < count) && n.testBit (place + i)) := by
  rw [field, testBit_emod, testBit_ediv]

/-- Integers with the same bits are the same. -/
theorem eq_of_testBit_eq {n m : ℤ} (h : ∀ i, n.testBit i = m.testBit i) : n = m := by
  -- past the bits of both numbers those of a negative one are set, those of the other are not
  have hsigns (a b : ℕ) : ∃ i, a.testBit i = false ∧ b.testBit i = false := by
    refine ⟨a + b, Nat.testBit_lt_two_pow ?_, Nat.testBit_lt_two_pow ?_⟩
    · exact lt_of_le_of_lt (by omega : a ≤ a + b) Nat.lt_two_pow_self
    · exact lt_of_le_of_lt (by omega : b ≤ a + b) Nat.lt_two_pow_self
  cases n with
  | ofNat a =>
    cases m with
    | ofNat b => rw [Nat.eq_of_testBit_eq h]
    | negSucc b =>
      obtain ⟨i, ha, hb⟩ := hsigns a b
      have hi := h i
      simp [Int.testBit, ha, hb] at hi
  | negSucc a =>
    cases m with
    | ofNat b =>
      obtain ⟨i, ha, hb⟩ := hsigns a b
      have hi := h i
      simp [Int.testBit, ha, hb] at hi
    | negSucc b =>
      have hbits (i : ℕ) : a.testBit i = b.testBit i := by
        have hi := h i
        simpa [Int.testBit] using hi
      rw [Nat.eq_of_testBit_eq hbits]

/-- Two integers have the same bits but for one place exactly if they are the same below it and
above it. -/
theorem forall_testBit_eq_iff {n m : ℤ} {k : ℕ} :
    (∀ i, i ≠ k → n.testBit i = m.testBit i)
      ↔ n % 2 ^ k = m % 2 ^ k ∧ n / 2 ^ (k + 1) = m / 2 ^ (k + 1) := by
  constructor
  · intro h
    refine ⟨eq_of_testBit_eq fun i => ?_, eq_of_testBit_eq fun i => ?_⟩
    · rw [testBit_emod, testBit_emod]
      rcases eq_or_ne i k with rfl | hi
      · rw [decide_eq_false (lt_irrefl i), Bool.false_and, Bool.false_and]
      · rw [h i hi]
    · rw [testBit_ediv, testBit_ediv, h (k + 1 + i) (by omega)]
  · rintro ⟨hbelow, habove⟩ i hi
    rcases lt_or_gt_of_ne hi with hi | hi
    · have hbit := congrArg (fun x => x.testBit i) hbelow
      simpa only [testBit_emod, decide_eq_true hi, Bool.true_and] using hbit
    · obtain ⟨d, rfl⟩ : ∃ d, i = k + 1 + d := ⟨i - (k + 1), by omega⟩
      have hbit := congrArg (fun x => x.testBit d) habove
      simpa only [testBit_ediv] using hbit

/-- A number is read off the bits below its end. -/
theorem field_congr {n m : ℤ} {k place count : ℕ} (h : n % 2 ^ k = m % 2 ^ k)
    (hk : place + count ≤ k) : field n place count = field m place count := by
  refine eq_of_testBit_eq fun i => ?_
  rw [testBit_field, testBit_field]
  rcases lt_or_ge i count with hi | hi
  · have hbit := congrArg (fun x => x.testBit (place + i)) h
    simp only [testBit_emod, decide_eq_true (by omega : place + i < k), Bool.true_and] at hbit
    rw [hbit]
  · rw [decide_eq_false (not_lt.mpr hi), Bool.false_and, Bool.false_and]

/-- A mask acts on each number that is made up of bits by itself. -/
theorem field_land (n m : ℤ) (place count : ℕ) :
    field (n.land m) place count = (field n place count).land (field m place count) := by
  refine eq_of_testBit_eq fun i => ?_
  rw [Int.testBit_land, testBit_field, testBit_field, testBit_field, Int.testBit_land]
  cases decide (i < count)
  · rfl
  · simp only [Bool.true_and]

/-- All bits of -1 are set. -/
theorem testBit_neg_one (i : ℕ) : (-1 : ℤ).testBit i = true := by
  show (!(0 : ℕ).testBit i) = true
  rw [Nat.zero_testBit, Bool.not_false]

/-- All bits of -1 together make up the greatest number. -/
theorem field_neg_one (place count : ℕ) : field (-1) place count = 2 ^ count - 1 := by
  have hpositive := two_pow_pos count
  have hshifted : (-1 : ℤ) / 2 ^ place = (2 ^ count - 1) + 2 ^ count * -1 := by
    have hdivisor := two_pow_pos place
    rw [Int.ediv_eq_neg_one_of_neg_of_le (by decide) (by omega)]
    ring
  rw [field, hshifted, Int.add_mul_emod_self_left, Int.emod_eq_of_lt (by omega) (by omega)]

/-- A mask keeps a number all of whose bits it has. -/
theorem field_land_of_full {n mask : ℤ} {place count : ℕ}
    (h : field mask place count = 2 ^ count - 1) :
    field (n.land mask) place count = field n place count := by
  refine eq_of_testBit_eq fun i => ?_
  rw [field_land, h, ← field_neg_one place, Int.testBit_land, testBit_field, testBit_field,
    testBit_neg_one, Bool.and_true, Bool.and_right_comm, Bool.and_self]

/-- The empty mask clears all bits. -/
theorem land_zero (n : ℤ) : n.land 0 = 0 := by
  refine eq_of_testBit_eq fun i => ?_
  rw [Int.testBit_land]
  show (n.testBit i && (0 : ℕ).testBit i) = (0 : ℕ).testBit i
  rw [Nat.zero_testBit, Bool.and_false]

/-- A mask clears a number none of whose bits it has. -/
theorem field_land_of_empty {n mask : ℤ} {place count : ℕ} (h : field mask place count = 0) :
    field (n.land mask) place count = 0 := by
  rw [field_land, h, land_zero]

/-- A mask clears what lies past its own bits. -/
theorem ediv_land_of_empty {n mask : ℤ} {k : ℕ} (h : mask / 2 ^ k = 0) :
    n.land mask / 2 ^ k = 0 := by
  rw [← land_zero (n / 2 ^ k), ← h]
  refine eq_of_testBit_eq fun i => ?_
  rw [Int.testBit_land, testBit_ediv, testBit_ediv, testBit_ediv, Int.testBit_land]

end Recolor.Bits
