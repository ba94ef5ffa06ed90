import FontAccessors.Proofs.Text.CamelCase

namespace FontAccessors.Text

variable {c : Char} {cs : List Char}

def joinsWords (c : Char) : Bool :=
  c == '-' || c == '_'

/-- How many capitals have a small letter or a digit right before them. -/
def innerCapitals (cs : List Char) : Nat :=
  (cs.zip cs.tail).countP fun (b, c) => (b.isLower || b.isDigit) && c.isUpper

theorem innerCapitals_cons (b c : Char) (cs : List Char) :
    innerCapitals (b :: c :: cs) =
      innerCapitals (c :: cs) + if (b.isLower || b.isDigit) && c.isUpper then 1 else 0 := by
  simp only [innerCapitals, List.tail_cons, List.zip_cons_cons, List.countP_cons]

theorem unhyphenated_toLower_beq (ascii : isAscii c = true) :
    (unhyphenated c.toLower == '_') = joinsWords c := by
  have each : ∀ c, isAscii c = true → (unhyphenated c.toLower == '_') = joinsWords c :=
    forall_ascii (by decide)
  exact each c ascii

def IsSnake (cs : List Char) : Prop :=
  ∀ c ∈ cs, isUpperCase c = false ∧ c ≠ '-'

theorem isSnake_snakeChars (ascii : ∀ c ∈ cs, isAscii c = true) (afterWord : Bool) :
    IsSnake (snakeChars afterWord cs) := by
  induction cs generalizing afterWord with
  | nil => exact List.forall_mem_nil _
  | cons c cs ih =>
    obtain ⟨first, rest⟩ := List.forall_mem_cons.1 ascii
    have small : ∀ c, isAscii c = true →
        isUpperCase (unhyphenated c.toLower) = false ∧ unhyphenated c.toLower ≠ '-' :=
      forall_ascii (by decide)
    have underscore : isUpperCase '_' = false ∧ '_' ≠ '-' := by decide
    rw [snakeChars_cons first, IsSnake, List.forall_mem_append, List.forall_mem_cons]
    refine ⟨?_, small c first, ih rest _⟩
    split <;> simp [underscore]

theorem snakeChars_eq_self (h : IsSnake cs) (afterWord : Bool) : snakeChars afterWord cs = cs := by
  induction cs generalizing afterWord with
  | nil => rfl
  | cons c cs ih =>
    obtain ⟨⟨small, noHyphen⟩, rest⟩ := List.forall_mem_cons.1 h
    rw [snakeChars, if_neg (Bool.eq_false_iff.1 small), if_neg noHyphen, ih rest]

theorem snakeChars_filter (ascii : ∀ c ∈ cs, isAscii c = true) (afterWord : Bool) :
    (snakeChars afterWord cs).filter (· != '_') =
      (cs.filter (!joinsWords ·)).map Char.toLower := by
  induction cs generalizing afterWord with
  | nil => rfl
  | cons c cs ih =>
    obtain ⟨first, rest⟩ := List.forall_mem_cons.1 ascii
    have front : (if afterWord && c.isUpper then ['_'] else []).filter (· != '_') = [] := by
      split <;> rfl
    have letters : ∀ c, isAscii c = true → joinsWords c = false →
        unhyphenated c.toLower = c.toLower := forall_ascii (by decide)
    rw [snakeChars_cons first, List.filter_append, front, List.nil_append, List.filter_cons,
      List.filter_cons, ih rest, bne, unhyphenated_toLower_beq first]
    cases joint : joinsWords c with
    | true => rfl
    | false => rw [letters c first joint]; rfl

theorem count_snakeChars_cons (ascii : isAscii c = true) (afterWord : Bool) :
    (snakeChars afterWord (c :: cs)).count '_' =
      (if afterWord && c.isUpper then 1 else 0) + (if joinsWords c then 1 else 0) +
        (snakeChars (c.isLower || c.isDigit) cs).count '_' := by
  have front : (if afterWord && c.isUpper then ['_'] else []).count '_' =
      if afterWord && c.isUpper then 1 else 0 := by
    split <;> rfl
  rw [snakeChars_cons ascii, List.count_append, front, List.count_cons,
    unhyphenated_toLower_beq ascii]
  omega

theorem count_snakeChars_after (ascii : ∀ c ∈ cs, isAscii c = true) (b : Char) :
    (snakeChars (b.isLower || b.isDigit) cs).count '_' =
      cs.countP joinsWords + innerCapitals (b :: cs) := by
  induction cs generalizing b with
  | nil => rfl
  | cons c cs ih =>
    obtain ⟨first, rest⟩ := List.forall_mem_cons.1 ascii
    rw [count_snakeChars_cons first, ih rest, innerCapitals_cons, List.countP_cons]
    omega

theorem count_snakeChars (ascii : ∀ c ∈ cs, isAscii c = true) :
    (snakeChars false cs).count '_' = cs.countP joinsWords + innerCapitals cs := by
  cases cs with
  | nil => rfl
  | cons c cs =>
    obtain ⟨first, rest⟩ := List.forall_mem_cons.1 ascii
    rw [count_snakeChars_cons first, count_snakeChars_after rest, List.countP_cons,
      Bool.false_and, if_neg Bool.false_ne_true]
    omega

theorem head?_snakeChars (ascii : ∀ c ∈ cs, isAscii c = true) :
    (snakeChars false cs).head?.any (· == '_') = cs.head?.any joinsWords := by
  cases cs with
  | nil => rfl
  | cons c cs =>
    have first := ascii c List.mem_cons_self
    rw [snakeChars_cons first, Bool.false_and, if_neg Bool.false_ne_true, List.nil_append]
    exact unhyphenated_toLower_beq first

/-- A name in snake case has no capital and no hyphen and stays what it is. Without its underscores
it is the given name in small letters without hyphens and underscores. It has an underscore for each
hyphen and underscore of that name and for each capital after a small letter or a digit, and so it
begins with one only if the name begins with a hyphen or an underscore. -/
theorem snakeCase_normalForm {s : String} (ascii : ∀ c ∈ s.toList, isAscii c = true) :
    (∀ c ∈ (snakeCase s).toList, isUpperCase c = false ∧ c ≠ '-') ∧
      snakeCase (snakeCase s) = snakeCase s ∧
      (snakeCase s).toList.filter (· != '_') =
        (s.toList.filter (!joinsWords ·)).map Char.toLower ∧
      (snakeCase s).toList.count '_' = s.toList.countP joinsWords + innerCapitals s.toList ∧
      (snakeCase s).toList.head?.any (· == '_') = s.toList.head?.any joinsWords := by
  have chars : (snakeCase s).toList = snakeChars false s.toList := String.toList_ofList
  have normal := isSnake_snakeChars ascii false
  have again : snakeCase (snakeCase s) = snakeCase s := by
    rw [snakeCase, chars, snakeChars_eq_self normal, snakeCase]
  rw [chars]
  exact ⟨normal, again, snakeChars_filter ascii false, count_snakeChars ascii,
    head?_snakeChars ascii⟩

theorem snakeCase_normalForm_mixed :
    (∀ c ∈ "-v2Big_fieldXY".toList, isAscii c = true) ∧
      snakeCase "-v2Big_fieldXY" = "_v2_big_field_xy" ∧
      snakeCase "_v2_big_field_xy" = "_v2_big_field_xy" ∧
      "_v2_big_field_xy".toList.count '_' =
        "-v2Big_fieldXY".toList.countP joinsWords + innerCapitals "-v2Big_fieldXY".toList ∧
      innerCapitals "-v2Big_fieldXY".toList = 2 := by
  have ascii : ∀ c ∈ "-v2Big_fieldXY".toList, isAscii c = true := List.all_eq_true.1 (by decide)
  have words : snakeCase "-v2Big_fieldXY" = "_v2_big_field_xy" := by decide +kernel
  obtain ⟨-, again, -, underscores, -⟩ := snakeCase_normalForm ascii
  rw [words] at again underscores
  exact ⟨ascii, words, again, underscores, by decide⟩

end FontAccessors.Text
