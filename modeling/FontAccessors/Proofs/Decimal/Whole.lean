import FontAccessors.Proofs.Decimal.Text

namespace FontAccessors.Decimal

namespace Binary

variable {b : Binary} {n : Nat}

structure IsWhole (b : Binary) (n : Nat) : Prop where
  fine : b.exponent ≤ 0
  value : b.quarters (4 * b.significand) = n

theorem IsWhole.positive (h : b.IsWhole n) (pos : 0 < n) : 0 < b.significand := by
  refine Nat.pos_of_ne_zero fun zero => pos.ne' ?_
  have value := h.value
  rw [zero, quarters, Nat.mul_zero, Nat.cast_zero, zero_mul] at value
  exact_mod_cast value.symm

theorem IsWhole.eq_of_rounds (h : b.IsWhole n) {m : Nat} (near : b.Rounds m) : m = n := by
  have quarter : (2 : ℚ) ^ (b.exponent - 2) ≤ 1 / 4 := by
    have unit : (2 : ℚ) ^ (b.exponent - 2) ≤ 2 ^ (-2 : Int) :=
      zpow_le_zpow_right₀ (by norm_num) (by linarith [h.fine])
    norm_num at unit ⊢
    exact unit
  have value := h.value
  obtain ⟨low, high⟩ := near.between
  have above : (4 * b.significand : ℚ) - 2 ≤
      (4 * b.significand - if b.isNarrow then 1 else 2 : Nat) := by
    have bound : 4 * b.significand ≤ (4 * b.significand - if b.isNarrow then 1 else 2) + 2 := by
      split <;> omega
    have := (Nat.cast_le (α := ℚ)).2 bound
    push_cast at this
    linarith
  rw [lower, quarters] at low
  rw [upper, quarters] at high
  rw [quarters] at value
  push_cast at low high value above
  have lowest := mul_le_mul_of_nonneg_right above
    (by positivity : (0 : ℚ) ≤ 2 ^ (b.exponent - 2))
  have down : (n : ℚ) < m + 1 := by linarith
  have up : (m : ℚ) < n + 1 := by linarith
  norm_cast at down up
  omega

theorem shortest_whole (h : b.IsWhole n) (pos : 0 < n) :
    0 ≤ b.shortest.exponent ∧ b.shortest.digits * 10 ^ b.shortest.exponent.toNat = n := by
  have start : (b.startExponent : Int) - b.startExponent = 0 := Int.sub_self _
  have exact : Digits.value ⟨n, 0⟩ = b.quarters (4 * b.significand) := by
    rw [h.value, Digits.value, zpow_zero, mul_one]
  have hit : ∃ d, b.hit? (b.startExponent - b.startExponent) = some d := by
    rw [start]
    exact exists_hit (h.positive pos) exact
  obtain ⟨near, whole⟩ := exists_shortest (by omega) hit
  rw [start] at whole
  have power : (10 : ℚ) ^ b.shortest.exponent = 10 ^ b.shortest.exponent.toNat := by
    rw [← zpow_natCast, Int.toNat_of_nonneg whole]
  refine ⟨whole, h.eq_of_rounds ?_⟩
  rw [Digits.value, power] at near
  exact_mod_cast near

end Binary

theorem toList_toString_mul_pow {d : Nat} (pos : 0 < d) (e : Nat) :
    (toString (d * 10 ^ e)).toList = (toString d).toList ++ List.replicate e '0' := by
  simp only [Nat.toString_eq_repr, Nat.toList_repr]
  induction e with
  | zero => rw [Nat.pow_zero, Nat.mul_one, List.replicate_zero, List.append_nil]
  | succ e ih =>
    have last : d * 10 ^ (e + 1) = 10 * (d * 10 ^ e) + 0 := by ring
    have zero : Nat.toDigits 10 0 = ['0'] := rfl
    rw [last, ← Nat.toDigits_append_toDigits (by decide) (by positivity) (by decide), ih, zero,
      List.append_assoc, List.replicate_succ']

theorem positional_of_whole {d : Digits} {n : Nat} (pos : 0 < n) (whole : 0 ≤ d.exponent)
    (value : d.digits * 10 ^ d.exponent.toNat = n) : d.positional = (toString n).toList := by
  have digits : 0 < d.digits := by
    refine Nat.pos_of_ne_zero fun zero => pos.ne' ?_
    rw [← value, zero, Nat.zero_mul]
  rw [Digits.positional, if_pos whole, ← value, toList_toString_mul_pow digits]

namespace Format

theorem text_of_whole {f : Format} {bits n : Nat} (finite : f.isSpecial bits = false)
    (unsigned : f.isNegative bits = false) (whole : (f.magnitude bits).IsWhole n) (pos : 0 < n) :
    f.text bits = toString n := by
  have number : f.isNaN bits = false := by rw [isNaN, finite, Bool.false_and]
  obtain ⟨nonneg, value⟩ := Binary.shortest_whole whole pos
  rw [← String.toList_inj, text_of_number number, unsigned, body, finite,
    if_neg (whole.positive pos).ne', positional_of_whole pos nonneg value]
  rfl

end Format

section

open Float.Model (totalExponent)
open Float.Model.UnpackedFloat (shiftToTargetExponent shiftToExponent roundWithAccuracy
  decreaseExponent packComponents)

variable {m n l : Nat} {e : Int}

theorem target_of_total (h : totalExponent m e = l + 1) :
    Float.Model.Format.binary32.targetExponent (totalExponent m e) = (l : Int) - 23 := by
  have least : Float.Model.Format.binary32.minExponent = -149 := by decide
  have bits : (Float.Model.Format.binary32.mantissaBits : Int) = 24 := by decide
  rw [h, Float.Model.Format.targetExponent, least, bits]
  omega

theorem shift_of_total (h : totalExponent m (l - 23) = l + 1) :
    shiftToTargetExponent .binary32 m (l - 23) .exact = (⟨m, false, false⟩, (l : Int) - 23) := by
  rw [shiftToTargetExponent, target_of_total h, shiftToExponent, sub_self, Int.toNat_zero,
    Int.natCast_zero, add_zero]
  rfl

theorem round_of_total (pos : 0 < m) (h : totalExponent m (l - 23) = l + 1) :
    roundWithAccuracy .binary32 .positive m (l - 23) .exact = .finite .positive m (l - 23) pos := by
  -- A number with all its 24 bits is at the target exponent, before and after it is rounded.
  have shift := shift_of_total h
  rw [roundWithAccuracy, shift]
  show (match shiftToTargetExponent .binary32 m (l - 23) .exact with
    | (significand, e) => if h : significand.mantissa = 0 then
        Float.Model.UnpackedFloat.zero .positive
      else .finite .positive significand.mantissa e (Nat.pos_of_ne_zero h)) = _
  rw [shift]
  exact dif_neg pos.ne'

theorem log2_shiftLeft (pos : 0 < n) (k : Nat) : (n <<< k).log2 = n.log2 + k := by
  have low := Nat.log2_self_le pos.ne'
  have high := Nat.lt_log2_self (n := n)
  have positive : n * 2 ^ k ≠ 0 := by positivity
  rw [Nat.shiftLeft_eq, Nat.log2_eq_iff positive, Nat.add_right_comm, Nat.pow_add, Nat.pow_add]
  exact ⟨Nat.mul_le_mul_right _ low, Nat.mul_lt_mul_of_pos_right high (by positivity)⟩

theorem leadingBit (pos : 0 < n) (small : n.log2 ≤ 23) :
    2 ^ 23 ≤ n * 2 ^ (23 - n.log2) ∧ n * 2 ^ (23 - n.log2) < 2 * 2 ^ 23 := by
  have places : 2 ^ n.log2 * 2 ^ (23 - n.log2) = 2 ^ 23 := by
    rw [← Nat.pow_add]
    congr 1
    omega
  constructor
  · rw [← places]
    exact Nat.mul_le_mul_right _ (Nat.log2_self_le pos.ne')
  · rw [← places, ← Nat.mul_assoc, ← Nat.pow_succ']
    exact Nat.mul_lt_mul_of_pos_right Nat.lt_log2_self (by positivity)

theorem ofNat_eq (pos : 0 < n) (small : n.log2 ≤ 23) : ∃ positive,
    Float.Model.UnpackedFloat.ofNat .binary32 n =
      .finite .positive (n <<< (23 - n.log2)) (n.log2 - 23) positive := by
  have above : compare (n : Int) 0 = .gt := by
    rw [Int.compare_eq_gt]
    exact_mod_cast pos
  have total : totalExponent n 0 = n.log2 + 1 := by rw [totalExponent, add_zero]
  have places : (0 - ((n.log2 : Int) - 23)).toNat = 23 - n.log2 := by omega
  have scale : 0 - ((23 - n.log2 : Nat) : Int) = n.log2 - 23 := by omega
  have total' : totalExponent (n <<< (23 - n.log2)) (n.log2 - 23) = n.log2 + 1 := by
    rw [totalExponent, log2_shiftLeft pos]
    omega
  have positive : 0 < n <<< (23 - n.log2) := by
    rw [Nat.shiftLeft_eq]
    positivity
  refine ⟨positive, ?_⟩
  rw [Float.Model.UnpackedFloat.ofNat, Float.Model.UnpackedFloat.ofInt,
    Float.Model.UnpackedFloat.normalize, above]
  show Float.Model.UnpackedFloat.round .binary32 .positive n 0 = _
  rw [Float.Model.UnpackedFloat.round, target_of_total total, decreaseExponent, places]
  show roundWithAccuracy .binary32 .positive _ (0 - ((23 - n.log2 : Nat) : Int)) .exact = _
  rw [scale]
  exact round_of_total positive total'

theorem toNat_packComponents {e : Nat} (small : e < 2 ^ 8) (m : Nat) :
    (packComponents .binary32 .positive (BitVec.ofNat _ e) (BitVec.ofNat _ m)).toNat =
      e * 2 ^ 23 + m % 2 ^ 23 := by
  rw [packComponents, BitVec.toNat_append, BitVec.toNat_append,
    ← Nat.shiftLeft_add_eq_or_of_lt (BitVec.isLt _)]
  simpa [Float.Model.UnpackedFloat.Sign.toBitVec, Nat.shiftLeft_eq] using small

theorem toNat_pack {biased : Nat} (pos : 0 < m) (normal : m.log2 + 1 = 24)
    (exponent : (e + 127 + 23).toNat = biased) (finite : biased + 1 < 2 ^ 8) :
    (Float.Model.UnpackedFloat.pack .binary32 (.finite .positive m e pos)).toNat =
      biased * 2 ^ 23 + m % 2 ^ 23 := by
  have bounded : ¬2 ^ 8 ≤ (e + 127 + 23).toNat + 1 := by omega
  have packed : Float.Model.UnpackedFloat.pack .binary32 (.finite .positive m e pos) =
      packComponents .binary32 .positive (BitVec.ofNat _ (e + 127 + 23).toNat)
        (BitVec.ofNat _ m) := (if_neg bounded).trans (if_pos normal)
  rw [packed, exponent, toNat_packComponents (by omega)]

end

section

variable {n : UInt16}

theorem log2_lt_16 (pos : 0 < n.toNat) : n.toNat.log2 < 16 :=
  (Nat.log2_lt pos.ne').2 n.toNat_lt

theorem toBits_toFloat32 (pos : 0 < n.toNat) : n.toFloat32.toBits.toNat =
    (n.toNat.log2 + 127) * 2 ^ 23 + n.toNat * 2 ^ (23 - n.toNat.log2) % 2 ^ 23 := by
  have small := log2_lt_16 pos
  have normal : (n.toNat <<< (23 - n.toNat.log2)).log2 + 1 = 24 := by
    rw [log2_shiftLeft pos]
    omega
  have exponent : ((n.toNat.log2 : Int) - 23 + 127 + 23).toNat = n.toNat.log2 + 127 := by omega
  obtain ⟨positive, exact⟩ := ofNat_eq pos (by omega)
  show (Float.Model.UnpackedFloat.pack .binary32 (.ofNat .binary32 n.toNat)).toNat = _
  rw [exact, toNat_pack positive normal exponent (by omega), Nat.shiftLeft_eq]

theorem exponent_toFloat32 (pos : 0 < n.toNat) :
    binary32.exponent n.toFloat32.toBits.toNat = n.toNat.log2 + 126 + 1 := by
  have small := log2_lt_16 pos
  have bits := toBits_toFloat32 pos
  show _ / 2 ^ 23 % 2 ^ 8 = _
  omega

theorem fraction_toFloat32 (pos : 0 < n.toNat) :
    binary32.fraction n.toFloat32.toBits.toNat + 2 ^ 23 =
      n.toNat * 2 ^ (23 - n.toNat.log2) := by
  have small := log2_lt_16 pos
  obtain ⟨low, high⟩ := leadingBit pos (by omega)
  have bits := toBits_toFloat32 pos
  show _ % 2 ^ 23 + 2 ^ 23 = _
  omega

theorem isSpecial_toFloat32 (pos : 0 < n.toNat) :
    binary32.isSpecial n.toFloat32.toBits.toNat = false := by
  have small := log2_lt_16 pos
  rw [Format.isSpecial, exponent_toFloat32 pos, beq_eq_false_iff_ne]
  show _ ≠ 2 ^ 8 - 1
  omega

theorem isNegative_toFloat32 (pos : 0 < n.toNat) :
    binary32.isNegative n.toFloat32.toBits.toNat = false := by
  have small := log2_lt_16 pos
  have bits := toBits_toFloat32 pos
  rw [Format.isNegative, beq_eq_false_iff_ne]
  show _ / 2 ^ 31 % 2 ≠ 1
  omega

theorem isWhole_toFloat32 (pos : 0 < n.toNat) :
    (binary32.magnitude n.toFloat32.toBits.toNat).IsWhole n.toNat := by
  have scale : ((n.toNat.log2 + 126 : Nat) : Int) + binary32.leastExponent =
      -((23 - n.toNat.log2 : Nat) : Int) := by
    have small := log2_lt_16 pos
    have least : binary32.leastExponent = -149 := by decide
    omega
  rw [Format.magnitude_normal (exponent_toFloat32 pos), scale]
  refine ⟨Int.neg_nonpos_of_nonneg (Int.natCast_nonneg _), ?_⟩
  show Binary.quarters _ (4 * (_ + 2 ^ 23)) = _
  -- The bits below the number's last one are as many as the exponent is below zero.
  rw [fraction_toFloat32 pos, Binary.quarters]
  push_cast
  rw [zpow_sub₀ two_ne_zero, zpow_neg, zpow_natCast]
  field_simp
  norm_num

end

/-- Numbers of 16 bits are exact as floats, and written as they are. -/
theorem text_toFloat32 (n : UInt16) :
    binary32.text n.toFloat32.toBits.toNat = toString n.toNat := by
  rcases Nat.eq_zero_or_pos n.toNat with zero | pos
  · obtain rfl : n = 0 := UInt16.toNat_inj.1 zero
    decide +kernel
  · exact Format.text_of_whole (isSpecial_toFloat32 pos) (isNegative_toFloat32 pos)
      (isWhole_toFloat32 pos) pos

end FontAccessors.Decimal
