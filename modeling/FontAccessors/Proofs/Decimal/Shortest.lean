import FontAccessors.Decimal.Shortest
import Mathlib.Algebra.Order.Field.Power
import Mathlib.Data.Rat.Cast.Order
import Mathlib.Tactic.FieldSimp
import Mathlib.Tactic.Linarith
import Mathlib.Tactic.Positivity
import Mathlib.Tactic.Ring

namespace FontAccessors.Decimal

def Digits.value (d : Digits) : ℚ :=
  d.digits * 10 ^ d.exponent

namespace Binary

def quarters (b : Binary) (n : Nat) : ℚ :=
  n * 2 ^ (b.exponent - 2)

def lower (b : Binary) : ℚ :=
  b.quarters (4 * b.significand - if b.isNarrow then 1 else 2)

def upper (b : Binary) : ℚ :=
  b.quarters (4 * b.significand + 2)

def Rounds (b : Binary) (x : ℚ) : Prop :=
  if b.significand % 2 = 0 then b.lower ≤ x ∧ x ≤ b.upper else b.lower < x ∧ x < b.upper

variable {b : Binary} {k : Int} {d : Nat}

theorem quarters_lt {m n : Nat} : b.quarters m < b.quarters n ↔ m < n := by
  have positive : (0 : ℚ) < 2 ^ (b.exponent - 2) := by positivity
  rw [quarters, quarters, mul_lt_mul_iff_left₀ positive, Nat.cast_lt]

theorem lower_lt_upper : b.lower < b.upper :=
  quarters_lt.2 (by split <;> omega)

theorem Rounds.between {x : ℚ} (h : b.Rounds x) : b.lower ≤ x ∧ x ≤ b.upper := by
  rw [Rounds] at h
  split at h
  · exact h
  · exact ⟨h.1.le, h.2.le⟩

theorem rounds_of_between {x : ℚ} (above : b.lower < x) (below : x < b.upper) : b.Rounds x := by
  rw [Rounds]
  split
  · exact ⟨above.le, below.le⟩
  · exact ⟨above, below⟩

theorem exists_scale (b : Binary) (k : Int) : ∃ s : ℚ, 0 < s ∧ (b.gridUnit k : ℚ) = 10 ^ k * s ∧
    ∀ n, (b.onGrid k n : ℚ) = b.quarters n * s := by
  have ten : (10 : ℚ) ^ k.toNat = 10 ^ k * 10 ^ (-k).toNat := by
    rw [← zpow_natCast, ← zpow_natCast, ← zpow_add₀ (by norm_num)]
    congr 1
    omega
  have two : (2 : ℚ) ^ (b.exponent - 2).toNat =
      2 ^ (b.exponent - 2) * 2 ^ (2 - b.exponent).toNat := by
    rw [← zpow_natCast, ← zpow_natCast, ← zpow_add₀ (by norm_num)]
    congr 1
    omega
  refine ⟨10 ^ (-k).toNat * 2 ^ (2 - b.exponent).toNat, by positivity, ?_, fun n => ?_⟩
  · simp only [gridUnit, Nat.pow_eq]
    push_cast
    rw [ten]
    ring
  · simp only [onGrid, quarters, Nat.pow_eq]
    push_cast
    rw [two]
    ring

theorem readsBack_iff : b.readsBack k d = true ↔ b.Rounds (Digits.value ⟨d, k⟩) := by
  obtain ⟨s, positive, unit, grid⟩ := exists_scale b k
  have point : ((d * b.gridUnit k : Nat) : ℚ) = Digits.value ⟨d, k⟩ * s := by
    rw [Nat.cast_mul, unit, Digits.value, mul_assoc]
  have le (n : Nat) : b.onGrid k n ≤ d * b.gridUnit k ↔ b.quarters n ≤ Digits.value ⟨d, k⟩ := by
    rw [← Nat.cast_le (α := ℚ), point, grid, mul_le_mul_iff_left₀ positive]
  have ge (n : Nat) : d * b.gridUnit k ≤ b.onGrid k n ↔ Digits.value ⟨d, k⟩ ≤ b.quarters n := by
    rw [← Nat.cast_le (α := ℚ), point, grid, mul_le_mul_iff_left₀ positive]
  rw [readsBack, Rounds, lower, upper]
  split
  · rw [Bool.and_eq_true, decide_eq_true_eq, decide_eq_true_eq, le, ge]
  · rw [Bool.and_eq_true, decide_eq_true_eq, decide_eq_true_eq, ← not_le, ← not_le, le, ge,
      not_le, not_le]

theorem readsBack_of_hit (h : b.hit? k = some d) : b.readsBack k d = true := by
  rw [hit?] at h
  split at h
  · cases h
    assumption
  · cases h
    assumption
  · cases h
    split <;> assumption
  · cases h

theorem exists_hit (positive : 0 < b.significand)
    (exact : Digits.value ⟨d, k⟩ = b.quarters (4 * b.significand)) : ∃ d', b.hit? k = some d' := by
  obtain ⟨s, scale, unit, grid⟩ := exists_scale b k
  have here : b.onGrid k (4 * b.significand) = d * b.gridUnit k := by
    rw [← Nat.cast_inj (R := ℚ), Nat.cast_mul, unit, grid, ← exact, Digits.value, mul_assoc]
  have unitPositive : 0 < b.gridUnit k := by
    rw [← Nat.cast_pos (α := ℚ), unit]
    positivity
  have below : b.onGrid k (4 * b.significand) / b.gridUnit k = d := by
    rw [here, Nat.mul_div_cancel _ unitPositive]
  have reads : b.readsBack k d = true := by
    rw [readsBack_iff, exact]
    exact rounds_of_between (quarters_lt.2 (by split <;> omega)) (quarters_lt.2 (by omega))
  simp only [hit?, below, reads]
  split <;> simp_all

theorem exists_exact (b : Binary) :
    ∃ d, Digits.value ⟨d, min b.exponent 0⟩ = b.quarters (4 * b.significand) := by
  have four (e : Int) : (2 : ℚ) ^ (e - 2) * 4 = 2 ^ e := by
    rw [zpow_sub₀ (by norm_num)]
    norm_num
  rcases le_total 0 b.exponent with nonneg | negative
  · refine ⟨b.significand * 2 ^ b.exponent.toNat, ?_⟩
    have power : (2 : ℚ) ^ b.exponent.toNat = 2 ^ b.exponent := by
      rw [← zpow_natCast, Int.toNat_of_nonneg nonneg]
    rw [min_eq_right nonneg, Digits.value, quarters]
    push_cast
    rw [power, ← four]
    ring
  · refine ⟨b.significand * 5 ^ (-b.exponent).toNat, ?_⟩
    have power : (5 : ℚ) ^ (-b.exponent).toNat * 10 ^ b.exponent = 2 ^ b.exponent := by
      rw [← zpow_natCast, Int.toNat_of_nonneg (by omega), zpow_neg,
        show (10 : ℚ) = 5 * 2 by norm_num, mul_zpow]
      field_simp
    rw [min_eq_left negative, Digits.value, quarters]
    push_cast
    rw [mul_assoc, power, ← four]
    ring

theorem exists_search {n j : Nat} (within : j < n) (hit : ∃ d, b.hit? (k - j) = some d) :
    ∃ i d, i ≤ j ∧ b.hit? (k - i) = some d ∧ b.search n k = ⟨d, k - i⟩ := by
  induction n generalizing k j with
  | zero => exact absurd within (Nat.not_lt_zero j)
  | succ n ih =>
    have start : k - (0 : Nat) = k := by rw [Int.natCast_zero, sub_zero]
    rw [search]
    cases found : b.hit? k with
    | some d => exact ⟨0, d, Nat.zero_le j, by rw [start, found], by rw [start]⟩
    | none =>
      cases j with
      | zero =>
        obtain ⟨d, hit⟩ := hit
        rw [start, found] at hit
        cases hit
      | succ j =>
        have step (i : Nat) : k - (i + 1 : Nat) = k - 1 - i := by
          rw [Int.natCast_succ, ← sub_sub, sub_right_comm]
        rw [step] at hit
        obtain ⟨i, d, le, hit, result⟩ := ih (Nat.lt_of_succ_lt_succ within) hit
        exact ⟨i + 1, d, Nat.succ_le_succ le, by rw [step, hit], by rw [step]; exact result⟩

theorem exists_shortest {j : Nat} (within : j < b.startExponent + (-b.exponent).toNat + 4)
    (hit : ∃ d, b.hit? (b.startExponent - j) = some d) :
    b.Rounds b.shortest.value ∧ b.startExponent - j ≤ b.shortest.exponent := by
  obtain ⟨i, d, le, found, result⟩ := exists_search within hit
  rw [shortest, result]
  exact ⟨readsBack_iff.1 (readsBack_of_hit found), show _ ≤ _ - (i : Int) by omega⟩

theorem rounds_shortest (positive : 0 < b.significand) : b.Rounds b.shortest.value := by
  obtain ⟨d, exact⟩ := exists_exact b
  have grid : (b.startExponent : Int) - (b.startExponent + (-b.exponent).toNat : Nat) =
      min b.exponent 0 := by omega
  have hit : ∃ d, b.hit? (b.startExponent - (b.startExponent + (-b.exponent).toNat : Nat)) =
      some d := by
    rw [grid]
    exact exists_hit positive exact
  exact (exists_shortest (by omega) hit).1

end Binary
end FontAccessors.Decimal
