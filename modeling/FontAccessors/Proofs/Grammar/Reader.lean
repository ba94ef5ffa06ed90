import FontAccessors.Grammar.Basic

namespace FontAccessors.Grammar
open Token

variable {α β : Type}

@[simp] theorem run_bind (x : Reader α) (f : α → Reader β) (ts : List Token) :
    (x >>= f) ts = (x ts).bind fun r => f r.1 r.2 := rfl

@[simp] theorem run_map (f : α → β) (x : Reader α) (ts : List Token) :
    (f <$> x) ts = (x ts).map fun r => (f r.1, r.2) := by
  show (x ts).bind _ = _
  cases x ts <;> rfl

@[simp] theorem run_pure (a : α) (ts : List Token) : (pure a : Reader α) ts = some (a, ts) := rfl

@[simp] theorem run_get (ts : List Token) : (get : Reader (List Token)) ts = some (ts, ts) := rfl

@[simp] theorem run_set (ss ts : List Token) :
    (set ss : Reader PUnit) ts = some (PUnit.unit, ss) := rfl

@[simp] theorem run_failure (ts : List Token) : (failure : Reader α) ts = none := rfl

@[simp] theorem run_reading (f : List Token → Option (α × List Token)) (ts : List Token) :
    reading f ts = f ts := rfl

@[simp] theorem run_ite (c : Prop) [Decidable c] (x y : Reader α) (ts : List Token) :
    (if c then x else y) ts = if c then x ts else y ts := by
  split <;> rfl

@[simp] theorem enter_nil : enter [] = [] := by
  rw [enter]
  intro content rest eq
  cases eq

@[simp] theorem enter_ident (i : Ident) (ts : List Token) :
    enter (.ident i :: ts) = .ident i :: ts := by
  rw [enter]
  intro content rest eq
  cases eq

@[simp] theorem enter_punct (c : Char) (s : Spacing) (ts : List Token) :
    enter (.punct c s :: ts) = .punct c s :: ts := by
  rw [enter]
  intro content rest eq
  cases eq

@[simp] theorem enter_literal (text : String) (ts : List Token) :
    enter (.literal text :: ts) = .literal text :: ts := by
  rw [enter]
  intro content rest eq
  cases eq

theorem enter_group {d : Delimiter} (h : d ≠ .invisible) (content ts : List Token) :
    enter (.group d content :: ts) = .group d content :: ts := by
  rw [enter]
  rintro content' rest eq
  cases eq
  exact h rfl

@[simp] theorem enter_brace (content ts : List Token) :
    enter (.group .brace content :: ts) = .group .brace content :: ts :=
  enter_group (by decide) content ts

@[simp] theorem identAt_ident (i : Ident) (ts : List Token) :
    identAt? (.ident i :: ts) = some (i, ts) := by
  simp [identAt?]

theorem name_ident {i : Ident} (h : isName i = true) (ts : List Token) :
    name (.ident i :: ts) = some (i, ts) := by
  rw [name, run_reading, identAt_ident, Option.filter_some, if_pos h]

theorem word_ident (w : String) (ts : List Token) :
    word w (.ident (.plain w) :: ts) = some ([.ident (.plain w)], ts) := by
  rw [word, run_reading, identAt_ident, Option.filter_some, if_pos (by simp)]
  rfl

@[simp] theorem identAt_punct (c : Char) (s : Spacing) (ts : List Token) :
    identAt? (.punct c s :: ts) = none := by
  simp [identAt?]

@[simp] theorem identAt_brace (content ts : List Token) :
    identAt? (.group .brace content :: ts) = none := by
  simp [identAt?]

@[simp] theorem markAt_nil : markAt? [] = none := by
  simp [markAt?]

@[simp] theorem markAt_ident (i : Ident) (ts : List Token) : markAt? (.ident i :: ts) = none := by
  simp [markAt?]

@[simp] theorem markAt_literal (text : String) (ts : List Token) :
    markAt? (.literal text :: ts) = none := by
  simp [markAt?]

@[simp] theorem markAt_brace (content ts : List Token) :
    markAt? (.group .brace content :: ts) = none := by
  simp [markAt?]

@[simp] theorem groupAt_ident (d : Delimiter) (i : Ident) (ts : List Token) :
    groupAt? d (.ident i :: ts) = none := by
  simp [groupAt?]

@[simp] theorem groupAt_punct (d : Delimiter) (c : Char) (s : Spacing) (ts : List Token) :
    groupAt? d (.punct c s :: ts) = none := by
  simp [groupAt?]

@[simp] theorem groupAt_brace (content ts : List Token) :
    groupAt? .brace (.group .brace content :: ts) = some (content, ts) := by
  simp [groupAt?]

theorem length_le_totalWeight (ts : List Token) : ts.length ≤ totalWeight ts := by
  induction ts with
  | nil => exact Nat.le_refl _
  | cons t ts ih =>
    have := t.weight_pos
    rw [List.length_cons, totalWeight_cons]
    omega

theorem atMark_of_none {ts : List Token} (h : markAt? ts = none) (m : String) :
    atMark m ts = false := by
  rw [atMark]
  match m.toList with
  | [] => rfl
  | [c] => simp [operatorAt?, h]
  | c :: d :: cs => simp [operatorAt?, h]

theorem atMark_of_ne {c : Char} {s : Spacing} {ts : List Token} {m : String}
    (h : m.toList.head? ≠ some c) : atMark m (.punct c s :: ts) = false := by
  have other (d : Char) (ds : List Char) (eq : m.toList = d :: ds) : c ≠ d := by
    rintro rfl
    rw [eq] at h
    exact h rfl
  rw [atMark]
  match hm : m.toList with
  | [] => rfl
  | [d] =>
    have ne := other d [] hm
    by_cases tick : c = '\'' <;> simp [operatorAt?, markAt?, tick, ne]
  | d :: e :: cs =>
    have ne := other d (e :: cs) hm
    by_cases tick : c = '\'' <;> simp [operatorAt?, markAt?, tick, ne]

theorem mark_ok {m : String} {ts out rest : List Token} (h : mark m ts = some (out, rest)) :
    out = operatorTokens m.toList := by
  obtain ⟨after, -, eq⟩ := Option.map_eq_some_iff.1 h
  cases eq
  rfl

end FontAccessors.Grammar
