import FontAccessors.Grammar.Basic
import FontAccessors.Proofs.Grammar.Reader
import FontAccessors.Proofs.Token.Enclosed

namespace FontAccessors.Grammar
open Token

inductive Passes : List Token → List Token → List Token → Prop
  | refl (ts : List Token) : Passes ts [] ts
  | enter {content more taken rest : List Token} (h : Passes (content ++ more) taken rest) :
    Passes (.group .invisible content :: more) taken rest
  | token {t : Token} {more taken rest : List Token}
    (visible : ∀ content, t ≠ .group .invisible content) (h : Passes more taken rest) :
    Passes (t :: more) (t :: taken) rest

namespace Passes

variable {ts middle rest taken taken' : List Token}

theorem trans (h : Passes ts taken middle) (h' : Passes middle taken' rest) :
    Passes ts (taken ++ taken') rest := by
  induction h with
  | refl => exact h'
  | enter _ ih => exact .enter (ih h')
  | token visible _ ih => exact .token visible (ih h')

theorem append (h : Passes ts taken rest) (us : List Token) :
    Passes (ts ++ us) taken (rest ++ us) := by
  induction h with
  | refl => exact .refl _
  | @enter content more _ _ _ ih =>
    rw [List.append_assoc] at ih
    exact .enter ih
  | token visible _ ih => exact .token visible ih

theorem totalWeight_le (h : Passes ts taken rest) : totalWeight rest ≤ totalWeight ts := by
  induction h with
  | refl => exact Nat.le_refl _
  | enter _ ih =>
    simp only [totalWeight_append] at ih
    simp only [totalWeight_cons, weight]
    omega
  | token _ _ ih =>
    rw [totalWeight_cons]
    omega

theorem one {t : Token} (visible : ∀ content, t ≠ .group .invisible content) (rest : List Token) :
    Passes (t :: rest) [t] rest :=
  .token visible (.refl rest)

theorem of_enter {ts : List Token} (h : Passes (Grammar.enter ts) taken rest) :
    Passes ts taken rest := by
  induction ts using Grammar.enter.induct with
  | case1 content more ih =>
    rw [enter_invisible] at h
    exact .enter (ih h)
  | case2 ts visible =>
    rwa [Grammar.enter] at h
    exact visible

theorem of_front {t : Token} (visible : ∀ content, t ≠ .group .invisible content)
    (front : Grammar.enter ts = t :: rest) : Passes ts [t] rest :=
  of_enter (front ▸ one visible rest)

theorem of_isSpent (h : isSpent ts = true) : Passes ts [] [] := by
  refine of_enter ?_
  rw [List.isEmpty_iff.1 h]
  exact .refl []

end Passes

theorem between_skips {content more : List Token} {w : Nat} (h : w ≤ totalWeight more) :
    between (content ++ more) w = content ++ between more w := by
  induction content with
  | nil => rfl
  | cons t content ih =>
    have := t.weight_pos
    rw [List.cons_append, between.eq_def]
    simp only [totalWeight_cons, totalWeight_append]
    rw [if_neg (by omega), if_neg (by omega), ih, List.cons_append]

theorem exposed_between {ts taken rest : List Token} (h : Passes ts taken rest) :
    exposed (between ts (totalWeight rest)) = taken := by
  induction h with
  | refl ts =>
    rw [between.eq_def]
    cases ts <;> simp
  | @enter content more _ rest h ih =>
    have shorter := h.totalWeight_le
    rw [between, if_neg (by simp [weight] at shorter ⊢; omega)]
    split
    · exact ih
    · rename_i behind
      rw [exposed_cons, expose_invisible, ← exposed_append, ← between_skips (by omega)]
      exact ih
  | @token t more _ rest visible h ih =>
    have shorter := h.totalWeight_le
    have := t.weight_pos
    rw [between, if_neg (by simp; omega), if_neg (by omega), exposed_cons, expose_visible visible,
      ih, List.singleton_append]
    exact visible

section

variable {ts rest content taken : List Token} {i : Ident} {c : Char} {s : Spacing} {text : String}
  {d : Delimiter}

theorem identAt_passes (h : identAt? ts = some (i, rest)) : Passes ts [.ident i] rest := by
  rw [identAt?] at h
  split at h
  · rename_i front
    cases h
    exact .of_front (by simp) front
  · cases h

theorem markAt_passes (h : markAt? ts = some (c, s, rest)) : Passes ts [.punct c s] rest := by
  rw [markAt?] at h
  split at h
  · rename_i front
    split at h
    · cases h
    · cases h
      exact .of_front (by simp) front
  · cases h

theorem literalAt_passes (h : literalAt? ts = some (text, rest)) :
    Passes ts [.literal text] rest := by
  rw [literalAt?] at h
  split at h
  · rename_i front
    cases h
    exact .of_front (by simp) front
  · cases h

theorem lifetimeAt_passes (h : lifetimeAt? ts = some (i, rest)) :
    Passes ts [.punct '\'' .joint, .ident i] rest := by
  refine .of_enter ?_
  rw [lifetimeAt?] at h
  split at h
  · rename_i front
    rw [front]
    exact .token nofun (identAt_passes h)
  · cases h

theorem groupAt_passes (visible : d ≠ .invisible) (h : groupAt? d ts = some (content, rest)) :
    Passes ts [.group d content] rest := by
  rw [groupAt?] at h
  split at h
  · rename_i front
    split at h
    · rename_i same
      subst same
      cases h
      exact .of_front (by rintro _ ⟨⟩; exact visible rfl) front
    · cases h
  · cases h

theorem invisibleAt_eq (h : invisibleAt? ts = some (content, rest)) :
    ts = .group .invisible content :: rest := by
  rw [invisibleAt?.eq_def] at h
  split at h
  · cases h
    rfl
  · cases h

def spaced (s : Spacing) : List Char → List Token
  | [] => []
  | [c] => [.punct c s]
  | c :: cs => .punct c .joint :: spaced s cs

theorem operatorTokens_eq (cs : List Char) : operatorTokens cs = spaced .alone cs := by
  induction cs with
  | nil => rfl
  | cons c cs ih =>
    cases cs with
    | nil => rfl
    | cons d cs => rw [operatorTokens, spaced, ih] <;> nofun

theorem operatorAt_passes {cs : List Char} (h : operatorAt? cs ts = some rest) :
    ∃ s, Passes ts (spaced s cs) rest := by
  induction cs generalizing ts with
  | nil => cases h
  | cons c cs ih =>
    cases cs with
    | nil =>
      obtain ⟨⟨c', s, after⟩, first, h⟩ := Option.bind_eq_some_iff.1 h
      split at h
      · rename_i same
        cases h
        exact ⟨s, same ▸ markAt_passes first⟩
      · cases h
    | cons d cs =>
      obtain ⟨⟨c', s', after⟩, first, h⟩ := Option.bind_eq_some_iff.1 h
      split at h
      · rename_i same
        obtain ⟨rfl, rfl⟩ := by simpa using same
        obtain ⟨s, more⟩ := ih h
        exact ⟨s, (markAt_passes first).trans more⟩
      · cases h

end

end FontAccessors.Grammar
