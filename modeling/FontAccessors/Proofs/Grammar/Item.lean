import FontAccessors.Grammar.Source
import FontAccessors.Proofs.Grammar.Reader

namespace FontAccessors.Grammar
open Token

def Enumeration.ofName (i : Ident) : Enumeration :=
  ⟨[], ident "pub", i, [], [], []⟩

theorem outerAttributes_none {g : Rules} {n : Nat} {ts : List Token} (h : atMark "#" ts = false) :
    outerAttributes g (n + 1) ts = some ([], ts) := by
  simp [outerAttributes, until?, h]

theorem visibility_public {n : Nat} {i : Ident} {ts : List Token} :
    visibility n (.ident (.plain "pub") :: .ident i :: ts) =
      some ([.ident (.plain "pub")], .ident i :: ts) := by
  simp [visibility, invisibleAt?, atWord, word_ident]

theorem enumeration_empty {g : Rules} {n : Nat} {i : Ident} {attributes visibility : List Token}
    (named : isName i = true) :
    enumeration g (n + 1) attributes visibility
        [.ident (.plain "enum"), .ident i, .group .brace []] =
      some (⟨attributes, visibility, i, [], [], []⟩, []) := by
  have angle : atMark "<" [.group .brace []] = false := atMark_of_none (markAt_brace [] []) _
  have name := name_ident named [.group .brace []]
  simp [enumeration, word_ident, name, generics, angle, conditions, whenAt, atWord, groupContent,
    within, commaList, listUntil, writeList, isSpent]

theorem ofTokens_enumeration {i : Ident} (named : isName i = true) :
    Item.ofTokens? (Enumeration.ofName i).tokens = some (.enumeration (.ofName i)) := by
  have hash (j : Ident) (ts : List Token) : atMark "#" (.ident j :: ts) = false :=
    atMark_of_none (markAt_ident j ts) _
  have tokens : (Enumeration.ofName i).tokens =
      [.ident (.plain "pub"), .ident (.plain "enum"), .ident i, .group .brace []] := rfl
  obtain ⟨n, hn⟩ : ∃ n, depth (Enumeration.ofName i).tokens = n + 1 := ⟨_, rfl⟩
  rw [Item.ofTokens?, whole, hn, tokens]
  simp [itemRule, outerAttributes_none, hash, visibility_public, atWord, enumeration_empty named,
    isSpent]
  rfl

section

variable {g : Rules} {n : Nat} {ts rest out : List Token}

theorem word_ok {w : String} (h : word w ts = some (out, rest)) : out = [.ident (.plain w)] := by
  obtain ⟨⟨i, after⟩, found, eq⟩ := Option.map_eq_some_iff.1 h
  obtain ⟨-, same⟩ := Option.filter_eq_some_iff.1 found
  cases eq
  rw [of_decide_eq_true same]

theorem oneAttribute_ok {inner : Bool} (h : oneAttribute g inner n ts = some (out, rest)) :
    ∃ more, out = .punct '#' .alone :: more := by
  simp only [oneAttribute, inOrder, run_bind, Option.bind_eq_some_iff] at h
  obtain ⟨⟨sign, after⟩, hash, ⟨more, last⟩, -, eq⟩ := h
  cases eq
  rw [mark_ok hash]
  exact ⟨more, rfl⟩

theorem outerAttributes_ok (h : outerAttributes g n ts = some (out, rest)) :
    out = [] ∨ ∃ more, out = .punct '#' .alone :: more := by
  cases n with
  | zero => cases h
  | succ n =>
    simp only [outerAttributes, until?, run_bind, run_get, Option.bind_some, run_ite] at h
    split at h
    · cases h
      exact .inl rfl
    · simp only [Option.bind_eq_some_iff] at h
      obtain ⟨⟨first, after⟩, sharp, ⟨others, last⟩, -, eq⟩ := h
      cases eq
      obtain ⟨more, rfl⟩ := oneAttribute_ok sharp
      exact .inr ⟨more ++ others, rfl⟩

theorem visibility_ok (h : visibility n ts = some (out, rest)) :
    out = [] ∨ ∃ more, out = .ident (.plain "pub") :: more := by
  simp only [visibility, run_bind, run_get, Option.bind_some] at h
  generalize invisibleAt? ts = front at h
  rcases front with _ | ⟨_ | ⟨t, content⟩, after⟩
  case some.nil =>
    cases h
    exact .inl rfl
  all_goals
    simp only [run_bind, run_get, Option.bind_some, run_ite] at h
    split at h
    · obtain ⟨⟨lead, after⟩, word, h⟩ := Option.bind_eq_some_iff.1 h
      cases word_ok word
      simp only at h
      generalize Option.bind _ _ = inside at h
      cases inside with
      | none =>
        cases h
        exact .inr ⟨[], rfl⟩
      | some r =>
        simp only [run_bind, Option.bind_eq_some_iff] at h
        obtain ⟨⟨more, last⟩, -, eq⟩ := h
        cases eq
        exact .inr ⟨more, rfl⟩
    · cases h
      exact .inl rfl

theorem enumeration_ok {attributes visibility : List Token} {e : Enumeration}
    (h : enumeration g n attributes visibility ts = some (e, rest)) :
    e.attributes = attributes ∧ e.visibility = visibility := by
  simp only [enumeration, run_bind, Option.bind_eq_some_iff] at h
  obtain ⟨_, -, _, -, _, -, _, -, _, -, _, -, eq⟩ := h
  cases eq
  exact ⟨rfl, rfl⟩

theorem itemRule_some {e : Enumeration} (h : itemRule g n ts = some (.enumeration e, rest)) :
    ∃ attributes visible before after,
      outerAttributes g n ts = some (attributes, before) ∧
        visibility n before = some (visible, after) ∧
        enumeration g n attributes visible after = some (e, rest) := by
  simp only [itemRule, run_bind, run_get, Option.bind_some, Option.bind_eq_some_iff] at h
  obtain ⟨⟨attributes, before⟩, lead, ⟨visible, after⟩, seen, h⟩ := h
  simp only [run_ite] at h
  split at h
  · simp only [run_bind, Option.bind_eq_some_iff] at h
    obtain ⟨⟨e', _⟩, read, eq⟩ := h
    cases eq
    exact ⟨attributes, visible, before, after, lead, seen, read⟩
  · simp only [run_bind, Option.bind_eq_some_iff] at h
    obtain ⟨_, -, eq⟩ := h
    cases eq

theorem itemRule_of_ofTokens {item : List Token} {i : Item} (h : Item.ofTokens? item = some i) :
    ∃ rest, itemRule (rules (depth item)) (depth item) item = some (i, rest) := by
  obtain ⟨⟨i', rest⟩, read, ends⟩ := Option.bind_eq_some_iff.1 h
  split at ends
  · cases ends
    exact ⟨rest, read⟩
  · cases ends

theorem tokens_front {item : List Token} {e : Enumeration}
    (h : Item.ofTokens? item = some (.enumeration e)) :
    ∃ t rest, e.tokens = t :: rest ∧
      t ∈ [.punct '#' .alone, .ident (.plain "pub"), .ident (.plain "enum")] := by
  obtain ⟨_, rule⟩ := itemRule_of_ofTokens h
  obtain ⟨_, _, _, _, lead, seen, read⟩ := itemRule_some rule
  obtain ⟨rfl, rfl⟩ := enumeration_ok read
  rw [Enumeration.tokens]
  rcases outerAttributes_ok lead with eq | ⟨more, eq⟩
  · rcases visibility_ok seen with eq' | ⟨more, eq'⟩
    · exact ⟨.ident (.plain "enum"), _, by rw [eq, eq']; rfl, by simp⟩
    · exact ⟨.ident (.plain "pub"), _, by rw [eq, eq']; rfl, by simp⟩
  · exact ⟨.punct '#' .alone, _, by rw [eq]; rfl, by simp⟩

end

end FontAccessors.Grammar
