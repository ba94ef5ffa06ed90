import FontAccessors.Proofs.Decimal.Shortest
import Mathlib.Data.List.TakeWhile

/-!
# The text of a float

* `Format.eq_of_rounds`: no rational is nearest to two numbers of a format.
* `valueOf_positional`: positional notation is read as the number that it stands for.
* `Format.text_eq_iff`: two bit patterns have one text if they are equal or no numbers, and
  otherwise two.
-/

namespace FontAccessors.Decimal

/-! ## Numbers of a format -/

namespace Format

variable (f : Format)

def size : Nat :=
  2 ^ (f.fractionBits + f.exponentBits)

variable {f} {m n : Nat}

def leastExponent (f : Format) : Int :=
  2 - Nat.pow 2 (f.exponentBits - 1) - f.fractionBits

theorem magnitude_subnormal (h : f.exponent n = 0) :
    f.magnitude n = ⟨f.fraction n, f.leastExponent, false⟩ := by
  rw [magnitude, h]
  rfl

theorem magnitude_normal {e : Nat} (h : f.exponent n = e + 1) : f.magnitude n =
    ⟨f.fraction n + 2 ^ f.fractionBits, e + f.leastExponent, f.fraction n == 0 && e != 0⟩ := by
  rw [magnitude, h]
  rfl

theorem exponent_of_lt (h : n < f.size) : f.exponent n = n / 2 ^ f.fractionBits := by
  rw [exponent, Nat.pow_eq, Nat.pow_eq, Nat.mod_eq_of_lt]
  rw [Nat.div_lt_iff_lt_mul (by positivity), ← Nat.pow_add, Nat.add_comm]
  exact h

theorem next_fraction (n : Nat) :
    ((n + 1) / 2 ^ f.fractionBits = n / 2 ^ f.fractionBits ∧
        f.fraction (n + 1) = f.fraction n + 1) ∨
      ((n + 1) / 2 ^ f.fractionBits = n / 2 ^ f.fractionBits + 1 ∧
        f.fraction (n + 1) = 0 ∧ f.fraction n + 1 = 2 ^ f.fractionBits) := by
  simp only [fraction, Nat.pow_eq]
  have positive : 0 < 2 ^ f.fractionBits := by positivity
  have below := Nat.mod_lt n positive
  have parts := Nat.div_add_mod n (2 ^ f.fractionBits)
  rcases Nat.lt_or_eq_of_le (Nat.succ_le_of_lt below) with room | full
  · left
    have sum :
        n + 1 = n % 2 ^ f.fractionBits + 1 + 2 ^ f.fractionBits * (n / 2 ^ f.fractionBits) := by
      omega
    rw [sum, Nat.add_mul_div_left _ _ positive, Nat.div_eq_of_lt room, Nat.add_mul_mod_self_left,
      Nat.mod_eq_of_lt room]
    omega
  · right
    have sum : n + 1 = 2 ^ f.fractionBits * (n / 2 ^ f.fractionBits + 1) := by
      rw [Nat.mul_add]
      omega
    rw [sum, Nat.mul_div_cancel_left _ positive, Nat.mul_mod_right]
    exact ⟨rfl, rfl, full⟩

/-- Between a number and the next one there is one boundary. -/
theorem upper_eq_lower (h : n + 1 < f.size) :
    (f.magnitude n).upper = (f.magnitude (n + 1)).lower := by
  have here := exponent_of_lt (f := f) (n := n) (by omega)
  have next := exponent_of_lt h
  rcases next_fraction (f := f) n with ⟨same, fraction⟩ | ⟨carry, fraction, full⟩
  · -- Under one exponent the significands are next to each other.
    rw [same, ← here] at next
    cases exponent : f.exponent n with
    | zero =>
      rw [exponent] at next
      rw [magnitude_subnormal exponent, magnitude_subnormal next, fraction]
      rfl
    | succ e =>
      rw [exponent] at next
      have apart : (f.fraction n + 1 == 0 && e != 0) = false := rfl
      rw [magnitude_normal exponent, magnitude_normal next, fraction, apart]
      simp only [Binary.upper, Binary.lower, Binary.quarters, Bool.false_eq_true, if_false]
      congr 2
      omega
  · -- Above a power of two the distances double, unless they are those of subnormal numbers.
    rw [carry, ← here] at next
    rw [magnitude_normal next, fraction]
    cases exponent : f.exponent n with
    | zero =>
      have quarters : 4 * f.fraction n + 2 = 4 * (0 + 2 ^ f.fractionBits) - 2 := by omega
      rw [magnitude_subnormal exponent]
      simp only [Binary.upper, Binary.lower, Binary.quarters, Bool.false_eq_true, if_false,
        bne_self_eq_false, Bool.and_false, quarters, Nat.cast_zero, zero_add]
    | succ e =>
      have quarters : 4 * (f.fraction n + 2 ^ f.fractionBits) + 2 =
          2 * (4 * (0 + 2 ^ f.fractionBits) - 1) := by omega
      have scale : ((e + 1 : Nat) : Int) + f.leastExponent - 2 = e + f.leastExponent - 2 + 1 := by
        omega
      have narrow : ((0 : Nat) == 0 && e + 1 != 0) = true := rfl
      rw [magnitude_normal exponent, narrow]
      simp only [Binary.upper, Binary.lower, Binary.quarters, if_true, quarters, scale,
        zpow_add_one₀ (two_ne_zero : (2 : ℚ) ≠ 0), Nat.cast_mul, Nat.cast_ofNat]
      ring

theorem even_magnitude (h : 0 < f.fractionBits) :
    (f.magnitude n).significand % 2 = n % 2 := by
  have even : 2 ∣ 2 ^ f.fractionBits := dvd_pow_self 2 h.ne'
  have fraction : f.fraction n % 2 = n % 2 := by
    rw [fraction, Nat.pow_eq, Nat.mod_mod_of_dvd n even]
  cases exponent : f.exponent n with
  | zero => rw [magnitude_subnormal exponent, fraction]
  | succ e =>
    rw [magnitude_normal exponent]
    show (f.fraction n + 2 ^ f.fractionBits) % 2 = n % 2
    omega

theorem upper_le_lower (less : m < n) (h : n < f.size) :
    (f.magnitude m).upper ≤ (f.magnitude n).lower := by
  induction n, less using Nat.le_induction with
  | base => exact (upper_eq_lower h).le
  | succ n less ih =>
    calc
      (f.magnitude m).upper ≤ (f.magnitude n).lower := ih (by omega)
      _ ≤ (f.magnitude n).upper := Binary.lower_lt_upper.le
      _ = (f.magnitude (n + 1)).lower := upper_eq_lower h

theorem not_rounds_both (wide : 0 < f.fractionBits) (less : m < n) (h : n < f.size) {x : ℚ}
    (hm : (f.magnitude m).Rounds x) (hn : (f.magnitude n).Rounds x) : False := by
  have up := hm.between.2
  have low := hn.between.1
  rcases Nat.lt_or_eq_of_le (less : m + 1 ≤ n) with far | near
  · have := upper_le_lower far h
    have := upper_eq_lower (n := m) (by omega : m + 1 < f.size)
    have := Binary.lower_lt_upper (b := f.magnitude (m + 1))
    linarith
  · obtain rfl : n = m + 1 := near.symm
    have ends := upper_eq_lower h
    have parity := even_magnitude (n := m) wide
    have parity' := even_magnitude (n := m + 1) wide
    rw [Binary.Rounds] at hm hn
    split at hm
    · rw [if_neg (by omega)] at hn
      linarith [hn.1, hm.2]
    · linarith [hm.2]

theorem eq_of_rounds (wide : 0 < f.fractionBits) (hm : m < f.size) (hn : n < f.size) {x : ℚ}
    (rounds : (f.magnitude m).Rounds x) (rounds' : (f.magnitude n).Rounds x) : m = n := by
  rcases Nat.lt_trichotomy m n with less | same | more
  · exact (not_rounds_both wide less hn rounds rounds').elim
  · exact same
  · exact (not_rounds_both wide more hm rounds' rounds).elim

end Format

/-! ## Positional notation -/

def valueOf (cs : List Char) : ℚ :=
  Nat.ofDigitChars 10 (cs.filter (· ≠ '.')) 0 / 10 ^ ((cs.dropWhile (· ≠ '.')).length - 1)

section

variable {front back : List Char}

theorem not_point {c : Char} (digit : c.isDigit = true) : decide (c ≠ '.') = true := by
  refine decide_eq_true ?_
  rintro rfl
  cases digit

theorem filter_digits (h : ∀ c ∈ front, c.isDigit = true) : front.filter (· ≠ '.') = front :=
  List.filter_eq_self.2 fun c mem => not_point (h c mem)

theorem valueOf_whole (h : ∀ c ∈ front, c.isDigit = true) :
    valueOf front = Nat.ofDigitChars 10 front 0 := by
  have noPoint : front.dropWhile (· ≠ '.') = [] :=
    List.dropWhile_eq_nil_iff.2 fun c mem => not_point (h c mem)
  rw [valueOf, filter_digits h, noPoint]
  simp

theorem valueOf_point (h : ∀ c ∈ front ++ back, c.isDigit = true) :
    valueOf (front ++ '.' :: back) = Nat.ofDigitChars 10 (front ++ back) 0 / 10 ^ back.length := by
  obtain ⟨hf, hb⟩ := List.forall_mem_append.1 h
  have point : (front ++ '.' :: back).dropWhile (· ≠ '.') = '.' :: back := by
    rw [List.dropWhile_append_of_pos fun c mem => not_point (hf c mem)]
    rfl
  have digits : (front ++ '.' :: back).filter (· ≠ '.') = front ++ back := by
    rw [List.filter_append, filter_digits hf, List.filter_cons_of_neg (by decide),
      filter_digits hb]
  rw [valueOf, digits, point]
  rfl

end

section

variable {d : Digits}

theorem isDigit_toString (n : Nat) : ∀ c ∈ (toString n).toList, c.isDigit = true := by
  rw [Nat.toString_eq_repr, Nat.toList_repr]
  exact fun c mem => Nat.isDigit_of_mem_toDigits (by decide) (by decide) mem

theorem ofDigitChars_toString (n : Nat) : Nat.ofDigitChars 10 (toString n).toList 0 = n := by
  rw [Nat.toString_eq_repr, Nat.toList_repr, Nat.ofDigitChars_toDigits (by decide) (by decide)]

theorem isDigit_zeros (n : Nat) : ∀ c ∈ List.replicate n '0', c.isDigit = true := by
  intro c mem
  rw [List.eq_of_mem_replicate mem]
  rfl

theorem positional_whole (h : 0 ≤ d.exponent) : ∃ front, d.positional = front ∧
    (∀ c ∈ front, c.isDigit = true) ∧
    Nat.ofDigitChars 10 front 0 = 10 ^ d.exponent.toNat * d.digits := by
  refine ⟨_, if_pos h, List.forall_mem_append.2 ⟨isDigit_toString _, isDigit_zeros _⟩, ?_⟩
  rw [Nat.ofDigitChars_append, Nat.ofDigitChars_replicate_zero, ofDigitChars_toString]

theorem positional_point (h : d.exponent < 0) : ∃ front back,
    d.positional = front ++ '.' :: back ∧ (∀ c ∈ front ++ back, c.isDigit = true) ∧
    Nat.ofDigitChars 10 (front ++ back) 0 = d.digits ∧ back.length = (-d.exponent).toNat := by
  refine ⟨_, _, if_neg (by omega), ?_, ?_, ?_⟩
  · rw [List.take_append_drop]
    exact List.forall_mem_append.2 ⟨isDigit_zeros _, isDigit_toString _⟩
  · rw [List.take_append_drop, Nat.ofDigitChars_append, Nat.ofDigitChars_replicate_zero,
      Nat.mul_zero, ofDigitChars_toString]
  · rw [List.length_drop, List.length_append, List.length_replicate]
    omega

theorem valueOf_positional (d : Digits) : valueOf d.positional = d.value := by
  rw [Digits.value]
  rcases le_or_gt 0 d.exponent with whole | point
  · obtain ⟨front, text, digits, number⟩ := positional_whole whole
    have power : (10 : ℚ) ^ d.exponent = 10 ^ d.exponent.toNat := by
      rw [← zpow_natCast, Int.toNat_of_nonneg whole]
    rw [text, valueOf_whole digits, number, power]
    push_cast
    ring
  · obtain ⟨front, back, text, digits, number, places⟩ := positional_point point
    have power : (10 : ℚ) ^ d.exponent = (10 ^ (-d.exponent).toNat)⁻¹ := by
      rw [← zpow_natCast, Int.toNat_of_nonneg (by omega), zpow_neg, inv_inv]
    rw [text, valueOf_point digits, number, places, power, div_eq_mul_inv]

theorem mem_positional {c : Char} (mem : c ∈ d.positional) : c.isDigit = true ∨ c = '.' := by
  rcases le_or_gt 0 d.exponent with whole | point
  · obtain ⟨front, text, digits, -⟩ := positional_whole whole
    rw [text] at mem
    exact .inl (digits c mem)
  · obtain ⟨front, back, text, digits, -⟩ := positional_point point
    rw [text, List.mem_append, List.mem_cons] at mem
    rcases mem with mem | rfl | mem
    · exact .inl (digits c (List.mem_append_left _ mem))
    · exact .inr rfl
    · exact .inl (digits c (List.mem_append_right _ mem))

end

/-! ## The text of a bit pattern -/

namespace Format

variable {f : Format}

def body (f : Format) (bits : Nat) : List Char :=
  if f.isSpecial bits then ['i', 'n', 'f']
  else if (f.magnitude bits).significand = 0 then ['0']
  else (f.magnitude bits).shortest.positional

theorem text_of_isNaN {bits : Nat} (h : f.isNaN bits = true) :
    (f.text bits).toList = ['N', 'a', 'N'] := by
  simp only [text, h, if_true]
  rfl

theorem text_of_number {bits : Nat} (h : f.isNaN bits = false) :
    (f.text bits).toList = (if f.isNegative bits then ['-'] else []) ++ f.body bits := by
  have sign : (if f.isNegative bits then "-" else "").toList =
      if f.isNegative bits then ['-'] else [] := by
    split <;> rfl
  simp only [text, body, h, Bool.false_eq_true, if_false]
  split
  · rw [String.toList_append, sign]
    rfl
  split
  · rw [String.toList_append, sign]
    rfl
  · rw [String.toList_append, sign, String.toList_ofList]

/-! ### Characters -/

theorem mem_body {c : Char} {bits : Nat} (mem : c ∈ f.body bits) :
    c.isDigit = true ∨ c ∈ ['.', 'i', 'n', 'f'] := by
  rw [body] at mem
  split at mem
  · exact .inr (List.mem_cons_of_mem _ mem)
  split at mem
  · cases List.mem_singleton.1 mem
    exact .inl rfl
  · refine (mem_positional mem).imp_right ?_
    rintro rfl
    exact List.mem_cons_self

theorem not_mem_body {c : Char} (digit : c.isDigit = false) (other : c ∉ ['.', 'i', 'n', 'f'])
    (bits : Nat) : c ∉ f.body bits := fun mem =>
  (mem_body mem).elim (fun h => absurd (digit.symm.trans h) Bool.false_ne_true) other

theorem isNaN_iff {bits : Nat} : f.isNaN bits = true ↔ 'N' ∈ (f.text bits).toList := by
  have letter := not_mem_body (f := f) (c := 'N') rfl (by decide) bits
  cases number : f.isNaN bits with
  | true => simp [text_of_isNaN number]
  | false =>
    rw [text_of_number number]
    split <;> simp [letter]

theorem isNegative_iff {bits : Nat} (number : f.isNaN bits = false) :
    f.isNegative bits = true ↔ '-' ∈ (f.text bits).toList := by
  have sign := not_mem_body (f := f) (c := '-') rfl (by decide) bits
  rw [text_of_number number]
  cases f.isNegative bits <;> simp [sign]

theorem space_not_mem_text (f : Format) (bits : Nat) : ' ' ∉ (f.text bits).toList := by
  have space := not_mem_body (f := f) (c := ' ') rfl (by decide) bits
  cases number : f.isNaN bits with
  | true =>
    rw [text_of_isNaN number]
    decide
  | false =>
    rw [text_of_number number]
    split <;> simp [space]

/-! ### Numbers -/

theorem fraction_mod (bits : Nat) : f.fraction (bits % f.size) = f.fraction bits := by
  rw [fraction, fraction, size, Nat.pow_add, Nat.pow_eq, Nat.mod_mul_right_mod]

theorem exponent_mod (bits : Nat) : f.exponent (bits % f.size) = f.exponent bits := by
  rw [exponent, exponent, size, Nat.pow_add, Nat.pow_eq, Nat.pow_eq,
    Nat.mod_mul_right_div_self, Nat.mod_mod]

theorem body_mod (bits : Nat) : f.body (bits % f.size) = f.body bits := by
  have magnitude : f.magnitude (bits % f.size) = f.magnitude bits := by
    rw [magnitude, magnitude, exponent_mod, fraction_mod]
  rw [body, body, isSpecial, isSpecial, exponent_mod, magnitude]

theorem rounds_body {n : Nat} (h : f.isSpecial n = false) :
    (f.magnitude n).Rounds (valueOf (f.body n)) := by
  rw [body, h, if_neg Bool.false_ne_true]
  split
  · rename_i zero
    have none : valueOf ['0'] = 0 := by
      rw [valueOf_whole (by simp)]
      rfl
    have ends : (f.magnitude n).lower = 0 := by
      rw [Binary.lower, zero, Nat.mul_zero, Nat.zero_sub, Binary.quarters, Nat.cast_zero, zero_mul]
    rw [none, Binary.Rounds, zero, if_pos rfl, ends]
    exact ⟨le_refl 0, ends ▸ Binary.lower_lt_upper.le⟩
  · rename_i positive
    rw [valueOf_positional]
    exact Binary.rounds_shortest (Nat.pos_of_ne_zero positive)

theorem body_of_special {n : Nat} (h : f.isSpecial n = true) : f.body n = ['i', 'n', 'f'] := by
  rw [body, if_pos h]

theorem body_ne_special {n : Nat} (h : f.isSpecial n = false) : f.body n ≠ ['i', 'n', 'f'] := by
  intro letters
  rw [body, h, if_neg Bool.false_ne_true] at letters
  split at letters
  · cases letters
  · have mem : 'i' ∈ (f.magnitude n).shortest.positional := letters ▸ List.mem_cons_self
    rcases mem_positional mem with digit | point
    · cases digit
    · cases point

theorem eq_of_special {n : Nat} (h : n < f.size) (special : f.isSpecial n = true)
    (number : f.isNaN n = false) : n = (2 ^ f.exponentBits - 1) * 2 ^ f.fractionBits := by
  rw [isNaN, special, Bool.true_and, bne_eq_false_iff_eq, fraction, Nat.pow_eq] at number
  rw [isSpecial, beq_iff_eq, exponent_of_lt h, Nat.pow_eq] at special
  rw [← special, ← Nat.div_add_mod' n (2 ^ f.fractionBits), number, Nat.add_zero,
    Nat.mul_div_cancel _ (by positivity)]

theorem body_injective (wide : 0 < f.fractionBits) {m n : Nat} (hm : m < f.size) (hn : n < f.size)
    (number : f.isNaN m = false) (number' : f.isNaN n = false) (h : f.body m = f.body n) :
    m = n := by
  cases special : f.isSpecial m <;> cases special' : f.isSpecial n
  case false.false =>
    have rounds := rounds_body special
    rw [h] at rounds
    exact eq_of_rounds wide hm hn rounds (rounds_body special')
  case false.true => exact absurd (h.trans (body_of_special special')) (body_ne_special special)
  case true.false =>
    exact absurd (h.symm.trans (body_of_special special)) (body_ne_special special')
  case true.true => rw [eq_of_special hm special number, eq_of_special hn special' number']

/-! ### Patterns -/

theorem isNaN_mod (bits : Nat) : f.isNaN (bits % f.size) = f.isNaN bits := by
  rw [isNaN, isNaN, isSpecial, isSpecial, exponent_mod, fraction_mod]

theorem size_pos (f : Format) : 0 < f.size := by
  rw [size]
  positivity

theorem eq_of_sign {a b : Nat} (ha : a < 2 * f.size) (hb : b < 2 * f.size)
    (sign : f.isNegative a = f.isNegative b) (rest : a % f.size = b % f.size) : a = b := by
  have top {n : Nat} (h : n < 2 * f.size) : n / f.size < 2 :=
    (Nat.div_lt_iff_lt_mul f.size_pos).2 h
  have bit : a / f.size = b / f.size := by
    have low := top ha
    have low' := top hb
    rw [isNegative, isNegative, Nat.pow_eq, ← size, Nat.mod_eq_of_lt low, Nat.mod_eq_of_lt low',
      Bool.eq_iff_iff, beq_iff_eq, beq_iff_eq] at sign
    generalize a / f.size = x at *
    generalize b / f.size = y at *
    omega
  rw [← Nat.div_add_mod a f.size, ← Nat.div_add_mod b f.size, bit, rest]

theorem text_eq_iff (wide : 0 < f.fractionBits) {a b : Nat} (ha : a < 2 * f.size)
    (hb : b < 2 * f.size) :
    f.text a = f.text b ↔ a = b ∨ f.isNaN a = true ∧ f.isNaN b = true := by
  constructor
  · intro h
    have same : f.isNaN a = f.isNaN b := by rw [Bool.eq_iff_iff, isNaN_iff, isNaN_iff, h]
    cases number : f.isNaN a with
    | true => exact .inr ⟨rfl, same ▸ number⟩
    | false =>
      have number' := same.symm.trans number
      have signs : f.isNegative a = f.isNegative b := by
        rw [Bool.eq_iff_iff, isNegative_iff number, isNegative_iff number', h]
      have texts := congrArg String.toList h
      rw [text_of_number number, text_of_number number', signs] at texts
      refine .inl (eq_of_sign ha hb signs (body_injective wide (Nat.mod_lt _ f.size_pos)
        (Nat.mod_lt _ f.size_pos) ?_ ?_ ?_))
      · rw [isNaN_mod, number]
      · rw [isNaN_mod, number']
      · rw [body_mod, body_mod, List.append_cancel_left texts]
  · rintro (rfl | ⟨nan, nan'⟩)
    · rfl
    · rw [← String.toList_inj, text_of_isNaN nan, text_of_isNaN nan']

end Format

end FontAccessors.Decimal
