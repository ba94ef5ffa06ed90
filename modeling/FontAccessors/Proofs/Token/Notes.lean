import FontAccessors.Proofs.Token.Spacing

namespace FontAccessors.Token

def isNote : List Token → Bool
  | .ident i :: .punct '=' _ :: _ => i = .plain "doc"
  | [.ident i] => i = .plain "inline"
  | _ => false

mutual
def bareToken : Token → Token
  | .group d content => .group d (bare content)
  | t => t
def bare : List Token → List Token
  | [] => []
  | .punct '#' s :: .group .bracket content :: ts =>
    if isNote content then bare ts else .punct '#' s :: .group .bracket (bare content) :: bare ts
  | t :: ts => bareToken t :: bare ts
end

@[simp] theorem bare_nil : bare [] = [] := by
  rw [bare]

def Unbracketed (ts : List Token) : Prop :=
  ∀ content rest, ts ≠ .group .bracket content :: rest

theorem unbracketed_cons {t : Token} (h : ∀ content, t ≠ .group .bracket content)
    (ts : List Token) : Unbracketed (t :: ts) := by
  intro content rest eq
  cases eq
  exact h content rfl

theorem unbracketed_nil : Unbracketed [] :=
  nofun

theorem Unbracketed.append {ss ts : List Token} (hs : Unbracketed ss) (ht : Unbracketed ts) :
    Unbracketed (ss ++ ts) := by
  cases ss with
  | nil => exact ht
  | cons s ss =>
    intro content rest eq
    cases eq
    exact hs content ss rfl

theorem bare_attribute (s : Spacing) (content ts : List Token) :
    bare (.punct '#' s :: .group .bracket content :: ts) =
      if isNote content then bare ts
      else .punct '#' s :: .group .bracket (bare content) :: bare ts := by
  rw [bare]

theorem bare_note {content : List Token} (h : isNote content = true) (s : Spacing)
    (ts : List Token) : bare (.punct '#' s :: .group .bracket content :: ts) = bare ts := by
  rw [bare_attribute, if_pos h]

theorem bare_cons {t : Token} {ts : List Token}
    (h : ∀ s content rest, t = .punct '#' s → ts ≠ .group .bracket content :: rest) :
    bare (t :: ts) = bareToken t :: bare ts := by
  rw [bare]
  exact h

theorem bare_append (ss : List Token) {ts : List Token} (h : Unbracketed ts) :
    bare (ss ++ ts) = bare ss ++ bare ts := by
  fun_cases bare ss with
  | case1 => rfl
  | case2 s content ss note =>
    rw [List.cons_append, List.cons_append, bare_attribute, if_pos note, bare_append ss h]
  | case3 s content ss note =>
    rw [List.cons_append, List.cons_append, bare_attribute, if_neg note, bare_append ss h]
    rfl
  | case4 t ss other =>
    have other' : ∀ s content rest, t = .punct '#' s →
        ss ++ ts ≠ .group .bracket content :: rest := by
      intro s content rest hash eq
      cases ss with
      | nil => exact h content rest eq
      | cons u ss =>
        cases eq
        exact other s content ss hash rfl
    rw [List.cons_append, bare_cons other', bare_append ss h]
    rfl
termination_by ss.length

theorem bare_flatMap {α : Type} {l : List α} {f : α → List Token}
    (h : ∀ a ∈ l, Unbracketed (f a)) :
    bare (l.flatMap f) = l.flatMap (fun a => bare (f a)) ∧ Unbracketed (l.flatMap f) := by
  induction l with
  | nil => exact ⟨bare_nil, unbracketed_nil⟩
  | cons a l ih =>
    obtain ⟨parts, begin_⟩ := ih fun b mem => h b (List.mem_cons_of_mem _ mem)
    rw [List.flatMap_cons, bare_append _ begin_, parts, List.flatMap_cons]
    exact ⟨rfl, (h a List.mem_cons_self).append begin_⟩

theorem isNote_allUnspaced (content : List Token) :
    isNote (allUnspaced content) = isNote content := by
  match content with
  | [] => rfl
  | [t] => cases t <;> rfl
  | .ident i :: .punct c s :: rest =>
    by_cases equals : c = '='
    · subst equals
      rfl
    · simp [isNote, allUnspaced, unspaced, equals]
  | .ident _ :: .ident _ :: _ | .ident _ :: .literal _ :: _ | .ident _ :: .group _ _ :: _ => rfl
  | .punct _ _ :: _ :: _ | .literal _ :: _ :: _ | .group _ _ :: _ :: _ => rfl

mutual
theorem unspaced_bareToken (t : Token) : (bareToken t).unspaced = bareToken t.unspaced := by
  cases t with
  | group d content =>
    rw [bareToken, unspaced, allUnspaced_bare content, unspaced, bareToken]
  | ident => rfl
  | punct => rfl
  | literal => rfl
termination_by (t.weight, 0)
decreasing_by simp [weight, Prod.lex_def]
theorem allUnspaced_bare (ts : List Token) : allUnspaced (bare ts) = bare (allUnspaced ts) := by
  fun_cases bare ts with
  | case1 => rfl
  | case2 s content ts note =>
    rw [allUnspaced, allUnspaced, unspaced, unspaced, bare_attribute, isNote_allUnspaced,
      if_pos note, allUnspaced_bare ts]
  | case3 s content ts note =>
    rw [allUnspaced, allUnspaced, unspaced, unspaced, allUnspaced, allUnspaced, unspaced, unspaced,
      bare_attribute, isNote_allUnspaced, if_neg note, allUnspaced_bare ts,
      allUnspaced_bare content]
  | case4 t ts other =>
    have other' : ∀ s content rest, t.unspaced = .punct '#' s →
        allUnspaced ts ≠ .group .bracket content :: rest := by
      intro s content rest hash eq
      cases t <;> cases hash
      cases ts with
      | nil => cases eq
      | cons u ts =>
        cases u <;> cases eq
        exact other _ _ _ rfl rfl
    rw [allUnspaced, allUnspaced, bare_cons other', unspaced_bareToken t, allUnspaced_bare ts]
termination_by (totalWeight ts, 1)
decreasing_by
  all_goals
    subst_vars
    simp only [totalWeight_cons, weight, Prod.lex_def]
    first
      | omega
      | have := weight_pos t
        omega
end

theorem alike_bare {ss ts : List Token} (h : Alike ss ts) : Alike (bare ss) (bare ts) := by
  rw [Alike, allUnspaced_bare, allUnspaced_bare, h]

end FontAccessors.Token
