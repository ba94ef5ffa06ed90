import FontAccessors.Token.Lexer
import FontAccessors.Proofs.Text.Quoted

namespace FontAccessors
open Text

-- Comes before the instance that goes through all characters there are.
instance (priority := high) decidableForallMem {α : Type} (p : α → Prop) [DecidablePred p]
    (l : List α) : Decidable (∀ a ∈ l, p a) :=
  List.decidableBAll p l

def separators : List Char :=
  [' ', '\n', ':', ',', '(']

def Separated (t : List Char) : Prop :=
  ∀ c, t.head? = some c → c ∈ separators

theorem separated_nil : Separated [] := by
  intro c h
  cases h

theorem separated_cons {c : Char} (h : c ∈ separators) (t : List Char) : Separated (c :: t) := by
  intro d hd
  cases hd
  exact h

theorem separated_of_head {t : List Char} (h : t.head?.all separators.contains = true) :
    Separated t := by
  cases t with
  | nil => exact separated_nil
  | cons c cs => exact separated_cons (by simpa using h) cs

namespace Separated

variable {t : List Char}

theorem append {s : List Char} (hs : Separated s) (ht : Separated t) : Separated (s ++ t) := by
  cases s with
  | nil => exact ht
  | cons c cs =>
    intro d hd
    exact hs d hd

theorem any_head (ht : Separated t) {p : Char → Bool} (h : ∀ c ∈ separators, p c = false) :
    t.head?.any p = false := by
  cases t with
  | nil => rfl
  | cons c cs => exact h c (ht c rfl)

theorem dropWhile_append (ht : Separated t) {p : Char → Bool}
    (h : ∀ c ∈ separators, p c = false) (s : List Char) :
    (s ++ t).dropWhile p = s.dropWhile p ++ t := by
  rw [List.dropWhile_append]
  split
  · rename_i empty
    rw [List.isEmpty_iff.1 empty]
    cases t with
    | nil => rfl
    | cons c cs => simp [h c (ht c rfl)]
  · rfl

end Separated

/-! ## Looking ahead -/

namespace Lexeme

theorem isPrefixOf_append {t : List Char} (ht : Separated t) (lead : List Char)
    (h : ∀ c ∈ separators, c ∉ lead) (s : List Char) :
    lead.isPrefixOf (s ++ t) = lead.isPrefixOf s := by
  induction lead generalizing s with
  | nil => simp
  | cons l ls ih =>
    have tail : ∀ c ∈ separators, c ∉ ls := fun c hc mem => h c hc (List.mem_cons_of_mem _ mem)
    cases s with
    | cons x xs => simp [List.isPrefixOf, ih tail]
    | nil =>
      cases t with
      | nil => rfl
      | cons c cs =>
        have : l ≠ c := by
          rintro rfl
          exact h l (ht l rfl) List.mem_cons_self
        simp [List.isPrefixOf, this]

theorem startsWith_append {t : List Char} {lead : String} (ht : Separated t)
    (h : ∀ c ∈ separators, c ∉ lead.toList) (s : List Char) :
    startsWith (s ++ t) lead = startsWith s lead :=
  isPrefixOf_append ht _ h s

end Lexeme

namespace Literal
open Text.Quoted

variable {t : List Char}

/-! ## Suffixes -/

theorem afterName_append (ht : Separated t) (s : List Char) :
    afterName (s ++ t) = (afterName s).map (· ++ t) := by
  cases s with
  | cons c cs =>
    simp only [List.cons_append, afterName]
    split
    · rw [ht.dropWhile_append (by decide)]
      rfl
    · rfl
  | nil =>
    cases t with
    | nil => rfl
    | cons c cs =>
      have : isIdentStart c = false := ht.any_head (p := isIdentStart) (by decide)
      simp [afterName, this]

theorem dropSuffix_append (ht : Separated t) (s : List Char) :
    dropSuffix (s ++ t) = dropSuffix s ++ t := by
  rw [dropSuffix, afterName_append ht, dropSuffix]
  cases afterName s <;> rfl

theorem atWordBreak_append (ht : Separated t) (s : List Char) :
    atWordBreak (s ++ t) = atWordBreak s := by
  cases s with
  | cons c cs => rfl
  | nil =>
    cases t with
    | nil => rfl
    | cons c cs =>
      have : isIdentContinue c = false := ht.any_head (p := isIdentContinue) (by decide)
      simp [atWordBreak, this]

/-! ## Numbers -/

theorem afterNumberSuffix_append (ht : Separated t) (s : List Char) :
    afterNumberSuffix (s ++ t) = (afterNumberSuffix s).map (· ++ t) := by
  simp only [afterNumberSuffix, dropSuffix_append ht, atWordBreak_append ht]
  split <;> rfl

theorem afterExponent_append (ht : Separated t) (s : List Char) (signed valued : Bool) :
    afterExponent signed valued (s ++ t) = (afterExponent signed valued s).map (· ++ t) := by
  induction s generalizing signed valued with
  | cons c cs ih =>
    simp only [List.cons_append, afterExponent, ih]
    split
    · rfl
    split
    · rfl
    split
    · split <;> rfl
    split <;> rfl
  | nil =>
    cases t with
    | nil => cases valued <;> rfl
    | cons c cs =>
      have digit : c.isDigit = false := ht.any_head (p := Char.isDigit) (by decide)
      have sign : (c == '_' || c == '+' || c == '-') = false :=
        ht.any_head (p := fun c => c == '_' || c == '+' || c == '-') (by decide)
      simp only [Bool.or_eq_false_iff, beq_eq_false_iff_ne] at sign
      cases valued <;> simp [afterExponent, digit, sign]

theorem afterScale_of_head {s : List Char} (h : ∀ c, s.head? = some c → c ≠ 'e' ∧ c ≠ 'E')
    (dotted : Bool) : afterScale dotted s = if dotted then some s else none := by
  unfold afterScale
  split
  · exact absurd rfl (h 'e' rfl).1
  · exact absurd rfl (h 'E' rfl).2
  · rfl

theorem afterScale_append (ht : Separated t) (dotted : Bool) (s : List Char) :
    afterScale dotted (s ++ t) = (afterScale dotted s).map (· ++ t) := by
  have plain {s' : List Char} (h : ∀ c, s'.head? = some c → c ≠ 'e' ∧ c ≠ 'E')
      (h' : ∀ c, (s' ++ t).head? = some c → c ≠ 'e' ∧ c ≠ 'E') :
      afterScale dotted (s' ++ t) = (afterScale dotted s').map (· ++ t) := by
    rw [afterScale_of_head h, afterScale_of_head h']
    cases dotted <;> rfl
  cases s with
  | cons c cs =>
    by_cases h : c = 'e' ∨ c = 'E'
    · rcases h with rfl | rfl
      all_goals
        simp only [List.cons_append, afterScale, afterExponent_append ht]
        cases afterExponent false false cs
        · cases dotted <;> rfl
        · rfl
    · rw [not_or] at h
      exact plain (by simpa using h) (by simpa using h)
  | nil =>
    refine plain (by simp) fun c hc => ?_
    have sep : ∀ c ∈ separators, c ≠ 'e' ∧ c ≠ 'E' := by decide
    exact sep c (ht c hc)

theorem any_head_append (ht : Separated t) {p : Char → Bool}
    (h : ∀ c ∈ separators, p c = false) (s : List Char) :
    (s ++ t).head?.any p = s.head?.any p := by
  cases s with
  | nil => exact ht.any_head h
  | cons c cs => rfl

theorem afterFloatDigits_append (ht : Separated t) (s : List Char) :
    afterFloatDigits (s ++ t) = (afterFloatDigits s).map (· ++ t) := by
  cases s with
  | nil =>
    cases t with
    | nil => rfl
    | cons c cs =>
      have : c.isDigit = false := ht.any_head (p := Char.isDigit) (by decide)
      simp [afterFloatDigits, this]
  | cons c cs =>
    simp only [List.cons_append, afterFloatDigits]
    split
    · rw [ht.dropWhile_append (by decide)]
      cases hd : cs.dropWhile isDigitOrGap with
      | nil =>
        have sep : ∀ c ∈ separators, c ≠ '.' := by decide
        cases t with
        | nil => rfl
        | cons d ds =>
          have dot := sep d (ht d rfl)
          have scale := afterScale_append ht false []
          simp only [List.nil_append] at scale ⊢
          split
          · rename_i eq
            cases eq
            exact absurd rfl dot
          · exact scale
      | cons d ds =>
        by_cases dot : d = '.'
        · subst dot
          simp only [List.cons_append]
          rw [any_head_append ht (by decide), ht.dropWhile_append (by decide)]
          split
          · rfl
          · exact afterScale_append ht true _
        · simp only [List.cons_append]
          split
          · rename_i eq
            cases eq
            exact absurd rfl dot
          · split
            · rename_i eq
              cases eq
              exact absurd rfl dot
            · exact afterScale_append ht false (d :: ds)
    · rfl

theorem afterDigits_append (ht : Separated t) (base : Nat) (seen : Bool) (s : List Char) :
    afterDigits base seen (s ++ t) = (afterDigits base seen s).map (· ++ t) := by
  induction s generalizing seen with
  | nil =>
    cases t with
    | nil => cases seen <;> rfl
    | cons c cs =>
      have digit : c.isDigit = false := ht.any_head (p := Char.isDigit) (by decide)
      have gap : c ≠ '_' := by
        have sep : ∀ c ∈ separators, c ≠ '_' := by decide
        exact sep c (ht c rfl)
      have hex : (hexValue? c).isSome = false :=
        ht.any_head (p := fun c => (hexValue? c).isSome) (by decide)
      cases seen <;> simp [afterDigits, digit, gap, hex]
  | cons c cs ih =>
    simp only [List.cons_append, afterDigits, ih]
    split
    · split <;> rfl
    split
    · split <;> rfl
    split
    · rfl
    split <;> rfl

theorem afterIntegerDigits_decimal {s : List Char}
    (h : ∀ c cs, s = '0' :: c :: cs → c ≠ 'x' ∧ c ≠ 'o' ∧ c ≠ 'b') :
    afterIntegerDigits s = afterDigits 10 false s := by
  unfold afterIntegerDigits
  split
  · exact absurd rfl (h _ _ rfl).1
  · exact absurd rfl (h _ _ rfl).2.1
  · exact absurd rfl (h _ _ rfl).2.2
  · rfl

theorem afterIntegerDigits_append (ht : Separated t) (s : List Char) :
    afterIntegerDigits (s ++ t) = (afterIntegerDigits s).map (· ++ t) := by
  have decimal {s' : List Char}
      (h : ∀ c cs, s' = '0' :: c :: cs → c ≠ 'x' ∧ c ≠ 'o' ∧ c ≠ 'b')
      (h' : ∀ c cs, s' ++ t = '0' :: c :: cs → c ≠ 'x' ∧ c ≠ 'o' ∧ c ≠ 'b') :
      afterIntegerDigits (s' ++ t) = (afterIntegerDigits s').map (· ++ t) := by
    rw [afterIntegerDigits_decimal h, afterIntegerDigits_decimal h', afterDigits_append ht]
  have sep : ∀ c ∈ separators, c ≠ '0' ∧ c ≠ 'x' ∧ c ≠ 'o' ∧ c ≠ 'b' := by decide
  match s with
  | [] =>
    refine decimal (by simp) fun c cs eq => ?_
    exact absurd rfl (sep '0' (ht '0' (by simp_all))).1
  | [c] =>
    refine decimal (by simp) fun d ds eq => ?_
    have mem : d ∈ separators := ht d (by simp_all)
    exact (sep d mem).2
  | c :: d :: cs =>
    by_cases h : c = '0' ∧ (d = 'x' ∨ d = 'o' ∨ d = 'b')
    · obtain ⟨rfl, rfl | rfl | rfl⟩ := h <;>
        simp only [List.cons_append, afterIntegerDigits, afterDigits_append ht]
    · have other (e : Char) (es ds : List Char) (eq : c :: d :: ds = '0' :: e :: es) :
          e ≠ 'x' ∧ e ≠ 'o' ∧ e ≠ 'b' := by
        cases eq
        simpa using h
      exact decimal (fun e es eq => other e es _ eq) fun e es eq => other e es _ eq

theorem afterNumber_append (ht : Separated t) (s : List Char) :
    afterNumber (s ++ t) = (afterNumber s).map (· ++ t) := by
  have suffixed (o : Option (List Char)) :
      (o.map (· ++ t)).bind afterNumberSuffix = (o.bind afterNumberSuffix).map (· ++ t) := by
    cases o with
    | none => rfl
    | some r => exact afterNumberSuffix_append ht r
  rw [afterNumber, afterFloatDigits_append ht, afterIntegerDigits_append ht, suffixed, suffixed,
    afterNumber]
  cases (afterFloatDigits s).bind afterNumberSuffix <;> rfl

/-! ## Quoted literals -/

theorem afterCooked_append {k : Kind} {s rest : List Char} (ht : Separated t)
    (h : afterCooked k s = some rest) : afterCooked k (s ++ t) = some (rest ++ t) := by
  obtain ⟨r, hr, rfl⟩ := Option.map_eq_some_iff.1 h
  simp [afterCooked, read_append hr, dropSuffix_append ht]

theorem afterHashed_append {k : Kind} {s rest : List Char} (ht : Separated t)
    (h : afterHashed k s = some rest) : afterHashed k (s ++ t) = some (rest ++ t) := by
  obtain ⟨r, hr, rfl⟩ := Option.map_eq_some_iff.1 h
  simp [afterHashed, readHashed_append hr, dropSuffix_append ht]

theorem afterApostrophe_append {k : Kind} {s rest : List Char} (ht : Separated t)
    (h : afterApostrophe k s = some rest) : afterApostrophe k (s ++ t) = some (rest ++ t) := by
  obtain ⟨r, hr, rfl⟩ := Option.map_eq_some_iff.1 h
  simp [afterApostrophe, afterCharacter_append hr, dropSuffix_append ht]

theorem afterQuoted_append {s rest : List Char} (ht : Separated t)
    (h : afterQuoted s = some rest) : afterQuoted (s ++ t) = some (rest ++ t) := by
  unfold afterQuoted at h
  split at h
  · exact afterCooked_append ht h
  · exact afterHashed_append ht h
  · exact afterCooked_append ht h
  · exact afterHashed_append ht h
  · exact afterApostrophe_append ht h
  · exact afterCooked_append ht h
  · exact afterHashed_append ht h
  · exact afterApostrophe_append ht h
  · cases h

theorem afterQuoted_of_digit {c : Char} (h : c.isDigit = true) (cs : List Char) :
    afterQuoted (c :: cs) = none := by
  unfold afterQuoted
  split <;> simp_all +decide

theorem afterNumber_of_not_digit {c : Char} (h : c.isDigit = false) (cs : List Char) :
    afterNumber (c :: cs) = none := by
  have zero (d : Char) (ds : List Char) (eq : c :: cs = '0' :: d :: ds) :
      d ≠ 'x' ∧ d ≠ 'o' ∧ d ≠ 'b' := by
    cases eq
    exact absurd h (by decide)
  rw [afterNumber, afterIntegerDigits_decimal zero]
  by_cases gap : c = '_' <;> simp [afterFloatDigits, afterDigits, h, gap]

theorem after_append {s rest : List Char} (ht : Separated t) (h : after s = some rest) :
    after (s ++ t) = some (rest ++ t) := by
  cases hq : afterQuoted s with
  | some r =>
    rw [after, hq, Option.some_or, Option.some.injEq] at h
    subst h
    rw [after, afterQuoted_append ht hq, Option.some_or]
  | none =>
    rw [after, hq, Option.none_or] at h
    cases s with
    | nil => cases h
    | cons c cs =>
      have digit : c.isDigit = true := by
        cases hd : c.isDigit with
        | true => rfl
        | false =>
          rw [afterNumber_of_not_digit hd] at h
          cases h
      have number := afterNumber_append ht (c :: cs)
      rw [h, List.cons_append] at number
      rw [after, List.cons_append, afterQuoted_of_digit digit, number]
      rfl

/-! ## What is no literal -/

theorem after_of_head {c : Char} (h : c ∉ ['"', 'r', 'b', 'c', '\'']) (digit : c.isDigit = false)
    (cs : List Char) : after (c :: cs) = none := by
  have quoted : afterQuoted (c :: cs) = none := by
    unfold afterQuoted
    split <;> simp_all
  rw [after, quoted, afterNumber_of_not_digit digit]
  rfl

end Literal

namespace Lexeme
open Literal

variable {t : List Char}

/-! ## Names -/

theorem take_front_append (s rest t : List Char) :
    (s ++ t).take ((s ++ t).length - (rest ++ t).length) = s.take (s.length - rest.length) := by
  rw [List.length_append, List.length_append, Nat.add_sub_add_right,
    List.take_append_of_le_length (Nat.sub_le _ _)]

theorem cutIdent_append (ht : Separated t) (s : List Char) :
    cutIdent (s ++ t) = (cutIdent s).map fun r => (r.1, r.2 ++ t) := by
  have raw : startsWith (s ++ t) "r#" = startsWith s "r#" := startsWith_append ht (by decide) s
  have body : (if startsWith s "r#" then (s ++ t).drop 2 else s ++ t) =
      (if startsWith s "r#" then s.drop 2 else s) ++ t := by
    split
    · rename_i lead
      match s with
      | [] => cases lead
      | [c] => simp [startsWith, List.isPrefixOf] at lead
      | _ :: _ :: _ => rfl
    · rfl
  simp only [cutIdent, raw, body]
  generalize (if startsWith s "r#" then s.drop 2 else s) = b
  rw [afterName_append ht]
  cases hb : afterName b with
  | none => rfl
  | some rest =>
    simp only [Option.map_some, Option.bind_some, take_front_append]
    split <;> rfl

/-! ## Marks -/

theorem startsMark_append (ht : Separated t) {s : List Char} (hs : s ≠ []) :
    startsMark (s ++ t) = startsMark s := by
  rw [startsMark, startsWith_append ht (by decide), startsWith_append ht (by decide), startsMark]
  cases s with
  | nil => exact absurd rfl hs
  | cons c cs => rfl

theorem cutMark_of_ne {c : Char} (h : c ≠ '\'') (cs : List Char) :
    cutMark (c :: cs) =
      if startsMark (c :: cs) then some (.punct c (if startsMark cs then .joint else .alone), cs)
      else none := by
  unfold cutMark
  split
  · rename_i eq
    cases eq
    exact absurd rfl h
  · rename_i eq
    cases eq
    rfl
  · rename_i eq
    cases eq

theorem cutMark_append {s rest : List Char} {m : Token} (ht : Separated t)
    (h : cutMark s = some (m, rest)) :
    ∃ c spacing spacing', m = .punct c spacing ∧
      cutMark (s ++ t) = some (.punct c spacing', rest ++ t) := by
  cases s with
  | nil => cases h
  | cons c cs =>
    by_cases apostrophe : c = '\''
    · subst apostrophe
      rw [cutMark] at h
      obtain ⟨r, hr, ends⟩ := Option.bind_eq_some_iff.1 h
      split at ends
      · cases ends
      · rename_i lifetime
        cases ends
        refine ⟨_, _, .joint, rfl, ?_⟩
        rw [List.cons_append, cutMark, cutIdent_append ht, hr, Option.map_some, Option.bind_some,
          startsWith_append ht (by decide), startsWith_append ht (by decide),
          startsWith_append ht (by decide), if_neg lifetime]
    · rw [cutMark_of_ne apostrophe] at h
      split at h
      · rename_i mark
        cases h
        have mark' := (startsMark_append ht (List.cons_ne_nil c rest)).trans mark
        rw [List.cons_append] at mark' ⊢
        exact ⟨_, _, _, rfl, by rw [cutMark_of_ne apostrophe, if_pos mark']⟩
      · cases h

end Lexeme

end FontAccessors
