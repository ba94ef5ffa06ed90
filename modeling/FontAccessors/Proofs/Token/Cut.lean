import FontAccessors.Proofs.Token.Comment
import FontAccessors.Proofs.Token.Spacing

namespace FontAccessors.Lexeme
open Text Literal

theorem readHashed_of_no_quote {k : Quoted.Kind} {s : List Char} (quote : s.head? ≠ some '"')
    (hash : ∀ cs, s = '#' :: cs → cs.head? ≠ some '#' ∧ cs.head? ≠ some '"') :
    Quoted.readHashed k s = none := by
  have after : (s.drop (Quoted.leadingHashes s)).head? ≠ some '"' := by
    cases s with
    | nil => exact quote
    | cons c cs =>
      by_cases lead : c = '#'
      · subst lead
        obtain ⟨second, quote'⟩ := hash cs rfl
        have one : Quoted.leadingHashes ('#' :: cs) = 1 := by
          cases cs with
          | nil => rfl
          | cons d ds => simp_all [Quoted.leadingHashes]
        rw [one]
        exact quote'
      · have zero : Quoted.leadingHashes (c :: cs) = 0 := by simp [Quoted.leadingHashes, lead]
        rw [zero]
        exact quote
  unfold Quoted.readHashed
  split
  · rename_i eq
    rw [eq] at after
    exact absurd rfl after
  · rfl

theorem head_ne_of_no_lead {s : List Char} {c : Char} (lead : String) (single : lead.toList = [c])
    (h : startsWith s lead = false) : s.head? ≠ some c := by
  cases s with
  | nil => nofun
  | cons d ds =>
    rintro eq
    cases eq
    simp [startsWith, single, List.isPrefixOf] at h

theorem after_of_no_lead {c : Char} {cs : List Char} (quote : c ≠ '"') (apostrophe : c ≠ '\'')
    (digit : c.isDigit = false) (h : literalLeads.any (startsWith (c :: cs)) = false) :
    Literal.after (c :: cs) = none := by
  have quoted : afterQuoted (c :: cs) = none := by
    simp only [literalLeads, List.any_cons, List.any_nil, Bool.or_eq_false_iff] at h
    obtain ⟨r, rHash, rHashes, b, bTick, br, brHash, c', cr, crHash, -⟩ := h
    -- Each form of quoted literal begins with one of the leads that are excluded.
    have no_hashed {k : Quoted.Kind} {s : List Char} (quote : startsWith s "\"" = false)
        (hash : startsWith s "#" = false) : Quoted.readHashed k s = none := by
      refine readHashed_of_no_quote (head_ne_of_no_lead _ rfl quote) fun ds eq => ?_
      subst eq
      cases hash
    unfold afterQuoted
    split
    · rename_i eq
      cases eq
      exact absurd rfl quote
    · rename_i eq
      cases eq
      have : Quoted.readHashed .string cs = none := by
        refine readHashed_of_no_quote (head_ne_of_no_lead "\"" rfl r) fun ds eq => ?_
        subst eq
        exact ⟨head_ne_of_no_lead "#" rfl rHashes,
          head_ne_of_no_lead "\"" rfl rHash⟩
      rw [afterHashed, this]
      rfl
    · rename_i eq
      cases eq
      cases b
    · rename_i ds eq
      cases eq
      rw [afterHashed, no_hashed (s := ds) br brHash]
      rfl
    · rename_i eq
      cases eq
      cases bTick
    · rename_i eq
      cases eq
      cases c'
    · rename_i ds eq
      cases eq
      rw [afterHashed, no_hashed (s := ds) cr crHash]
      rfl
    · rename_i eq
      cases eq
      exact absurd rfl apostrophe
    · rfl
  rw [Literal.after, quoted, afterNumber_of_not_digit digit]
  rfl

theorem take_front (front rest : List Char) :
    (front ++ rest).take ((front ++ rest).length - rest.length) = front := by
  rw [List.length_append, Nat.add_sub_cancel, List.take_left']
  rfl

theorem of_afterName {s rest : List Char} (h : afterName s = some rest) :
    ∃ front, s = front ++ rest ∧ isIdentifier front = true ∧
      rest.head?.any isIdentContinue = false := by
  cases s with
  | nil => cases h
  | cons c cs =>
    rw [afterName] at h
    split at h
    · rename_i start
      cases h
      refine ⟨c :: cs.takeWhile isIdentContinue, ?_, ?_, ?_⟩
      · rw [List.cons_append, List.takeWhile_append_dropWhile]
      · simp [isIdentifier, start]
      · have head := List.head?_dropWhile_not isIdentContinue cs
        cases hd : (cs.dropWhile isIdentContinue).head? with
        | none => rfl
        | some d => simpa [hd] using head
    · cases h

def IsWritable (i : Ident) : Prop :=
  isIdentifier i.name.toList = true ∧ (i.isRaw = true → i.name ∉ unrawable)

theorem of_cutIdent {s rest : List Char} {i : Ident} (h : cutIdent s = some (i, rest)) :
    s = i.chars ++ rest ∧ IsWritable i ∧ rest.head?.any isIdentContinue = false := by
  obtain ⟨rest', name, ends⟩ := Option.bind_eq_some_iff.1 h
  obtain ⟨front, body, isName, stop⟩ := of_afterName name
  simp only [body, take_front] at ends
  split at ends
  · cases ends
  · rename_i writable
    cases ends
    refine ⟨?_, ⟨by simpa using isName, by simpa using writable⟩, stop⟩
    cases raw : startsWith s "r#" with
    | false => simpa [raw, Ident.chars] using body
    | true =>
      match s with
      | [] => cases raw
      | [c] => simp [startsWith, List.isPrefixOf] at raw
      | c :: d :: cs =>
        obtain ⟨rfl, rfl⟩ : 'r' = c ∧ '#' = d := by
          simpa [startsWith, List.isPrefixOf] using raw
        simpa [raw, Ident.chars] using body

theorem after_of_lifetime {cs : List Char} {r : Ident × List Char} (h : cutIdent cs = some r)
    (lifetime : startsWith r.2 "'" = false) : Literal.after ('\'' :: cs) = none := by
  obtain ⟨rfl, ⟨isName, -⟩, -⟩ := of_cutIdent h
  have character : Quoted.afterCharacter .string (r.1.chars ++ r.2) = none := by
    rw [Ident.chars]
    split
    · rfl
    · cases name : r.1.name.toList with
      | nil => simp [name, isIdentifier] at isName
      | cons c cs =>
        obtain ⟨start, more⟩ : isIdentStart c = true ∧ cs.all isIdentContinue = true := by
          simpa [name, isIdentifier] using isName
        have escape : c ≠ '\\' := by
          rintro rfl
          cases start
        have second : (cs ++ r.2).head? ≠ some '\'' := by
          cases cs with
          | nil => exact head_ne_of_no_lead _ rfl lifetime
          | cons d ds =>
            rintro eq
            cases eq
            cases more
        unfold Quoted.afterCharacter
        split
        · rename_i eq
          cases eq
          exact absurd rfl escape
        · rename_i eq
          rw [List.cons_append, List.cons.injEq] at eq
          rw [eq.2] at second
          exact absurd rfl second
        · rfl
  rw [Literal.after, afterQuoted, afterApostrophe, character, afterNumber_of_not_digit (by decide)]
  rfl

theorem not_isDigit_of_isIdentStart {c : Char} (h : isIdentStart c = true) : c.isDigit = false := by
  have outside : ¬ (48 ≤ c.toNat ∧ c.toNat ≤ 57) := by
    intro range
    rw [isIdentStart] at h
    delta Char.isAlpha Char.isUpper Char.isLower at h
    simp only [isAscii, Bool.or_eq_true, Bool.and_eq_true, beq_iff_eq, decide_eq_true_eq,
      Bool.not_eq_true', decide_eq_false_iff_not, UInt32.le_iff_toNat_le, ge_iff_le] at h
    rcases h with (rfl | ⟨low, -⟩ | ⟨low, -⟩) | ⟨high, -⟩
    · exact absurd range (by decide)
    · exact absurd (Nat.le_trans low range.2) (by decide)
    · exact absurd (Nat.le_trans low range.2) (by decide)
    · omega
  simp only [Char.isDigit, UInt32.le_iff_toNat_le, ge_iff_le, Bool.and_eq_false_iff,
    decide_eq_false_iff_not]
  exact Decidable.not_and_iff_or_not.1 outside

theorem not_mem_marks {c : Char} (h : isIdentStart c = true) : c ∉ marks := by
  have none : ∀ m ∈ marks, isIdentStart m = false := by decide
  intro mem
  rw [none c mem] at h
  cases h

theorem head_of_cutIdent {s : List Char} {r : Ident × List Char} (h : cutIdent s = some r) :
    ∃ c cs, s = c :: cs ∧ isIdentStart c = true := by
  obtain ⟨rfl, ⟨isName, -⟩, -⟩ := of_cutIdent h
  rw [Ident.chars]
  split
  · exact ⟨'r', _, rfl, by decide⟩
  · cases name : r.1.name.toList with
    | nil => simp [name, isIdentifier] at isName
    | cons c cs =>
      simp only [name, isIdentifier, Bool.and_eq_true] at isName
      exact ⟨c, _, rfl, isName.1⟩

theorem startsMark_of_name {c : Char} (h : isIdentStart c = true) (cs : List Char) :
    startsMark (c :: cs) = false := by
  simp [startsMark, not_mem_marks h]

theorem cutMark_of_name {c : Char} (h : isIdentStart c = true) (cs : List Char) :
    cutMark (c :: cs) = none := by
  have apostrophe : c ≠ '\'' := by
    rintro rfl
    exact not_mem_marks h (by decide)
  rw [cutMark_of_ne apostrophe, startsMark_of_name h]
  rfl

theorem no_lead_append {s t : List Char} (ht : Separated t)
    (h : literalLeads.any (startsWith s) = false) :
    literalLeads.any (startsWith (s ++ t)) = false := by
  rw [List.any_eq_false] at h ⊢
  intro lead mem
  have clear : ∀ lead ∈ literalLeads, ∀ c ∈ separators, c ∉ lead.toList := by decide
  rw [startsWith_append ht (clear lead mem)]
  exact h lead mem

theorem after_append_of_mark {s t : List Char} {r : Token × List Char} (ht : Separated t)
    (literal : Literal.after s = none) (mark : cutMark s = some r) :
    Literal.after (s ++ t) = none := by
  cases s with
  | nil => cases mark
  | cons c cs =>
    by_cases apostrophe : c = '\''
    · subst apostrophe
      obtain ⟨r', hr, ends⟩ := Option.bind_eq_some_iff.1 mark
      split at ends
      · cases ends
      · rename_i lifetime
        simp only [Bool.or_eq_true, not_or, Bool.not_eq_true] at lifetime
        have cut : cutIdent (cs ++ t) = some (r'.1, r'.2 ++ t) := by
          rw [cutIdent_append ht, hr]
          rfl
        exact after_of_lifetime cut ((startsWith_append ht (by decide) r'.2).trans lifetime.1)
    · rw [cutMark_of_ne apostrophe] at mark
      split at mark
      · rename_i isMark
        have mem : c ∈ marks := by
          simp [startsMark] at isMark
          exact isMark.2
        have other : ∀ m ∈ marks, m = '\'' ∨ m ∉ ['"', 'r', 'b', 'c', '\''] := by decide
        have digit : ∀ m ∈ marks, m.isDigit = false := by decide
        exact after_of_head ((other c mem).resolve_left apostrophe) (digit c mem) (cs ++ t)
      · cases mark

theorem after_append_of_name {s t : List Char} {r : Ident × List Char} (ht : Separated t)
    (lead : literalLeads.any (startsWith s) = false) (name : cutIdent s = some r) :
    Literal.after (s ++ t) = none := by
  obtain ⟨c, cs, rfl, start⟩ := head_of_cutIdent name
  have quote : c ≠ '"' := by
    rintro rfl
    cases start
  have apostrophe : c ≠ '\'' := by
    rintro rfl
    cases start
  exact after_of_no_lead quote apostrophe (not_isDigit_of_isIdentStart start)
    (no_lead_append ht lead)

inductive IsLeaf (s rest : List Char) : Token → Prop
  | literal (h : Literal.after s = some rest) :
      IsLeaf s rest (.literal (String.ofList (s.take (s.length - rest.length))))
  | mark {c : Char} {spacing : Spacing} (literal : Literal.after s = none)
      (h : cutMark s = some (.punct c spacing, rest)) : IsLeaf s rest (.punct c spacing)
  | name {i : Ident} (literal : Literal.after s = none) (mark : cutMark s = none)
      (lead : literalLeads.any (startsWith s) = false) (h : cutIdent s = some (i, rest)) :
      IsLeaf s rest (.ident i)

theorem isLeaf_of_cutLeaf {s rest : List Char} {leaf : Token} (h : cutLeaf s = some (leaf, rest)) :
    IsLeaf s rest leaf := by
  cases literal : Literal.after s with
  | some r =>
    rw [cutLeaf, literal] at h
    cases h
    exact .literal literal
  | none =>
    rw [cutLeaf, literal] at h
    cases mark : cutMark s with
    | some r =>
      simp only [mark] at h
      cases h
      obtain ⟨c, spacing, -, rfl, -⟩ := cutMark_append separated_nil mark
      exact .mark literal mark
    | none =>
      simp only [mark] at h
      split at h
      · cases h
      · rename_i lead
        obtain ⟨r, name, eq⟩ := Option.map_eq_some_iff.1 h
        cases eq
        exact .name literal mark (by simpa using lead) name

theorem cutLeaf_append {s rest t : List Char} {leaf : Token} (ht : Separated t)
    (h : cutLeaf s = some (leaf, rest)) :
    ∃ leaf', cutLeaf (s ++ t) = some (leaf', rest ++ t) ∧ leaf'.unspaced = leaf.unspaced := by
  cases isLeaf_of_cutLeaf h with
  | literal literal =>
    refine ⟨_, ?_, rfl⟩
    rw [cutLeaf, after_append ht literal]
    simp only [take_front_append]
  | mark literal mark =>
    have literal' := after_append_of_mark ht literal mark
    obtain ⟨_, _, spacing', same, mark'⟩ := cutMark_append ht mark
    cases same
    refine ⟨.punct _ spacing', ?_, rfl⟩
    rw [cutLeaf, literal', mark']
  | @name i literal mark lead name =>
    have literal' := after_append_of_name ht lead name
    have name' := cutIdent_append ht s
    obtain ⟨c, cs, rfl, start⟩ := head_of_cutIdent name
    refine ⟨.ident i, ?_, rfl⟩
    rw [cutLeaf, literal', List.cons_append, cutMark_of_name start, ← List.cons_append,
      no_lead_append ht lead, name', name]
    rfl

inductive IsFront (s : List Char) : List Lexeme → List Char → Prop
  | blank {rest : List Char} (h : afterBlank s = some rest) : IsFront s [] rest
  | documentation {inner : Bool} {text rest : List Char}
      (h : cutDocumentation s = some (inner, text, rest)) (whole : unbroken text = true) :
      IsFront s (documentation inner text) rest
  | placeholder (lead : startsWith s placeholder = true) :
      IsFront s [.token (.literal placeholder)] (s.drop placeholder.length)
  | bracket {c : Char} {b : Lexeme} (head : s.head? = some c) (h : bracketOf? c = some b) :
      IsFront s [b] s.tail
  | leaf {t : Token} {rest : List Char} (h : cutLeaf s = some (t, rest)) :
      IsFront s [.token t] rest

theorem isFront_of_cut {s rest : List Char} {ls : List Lexeme} (h : cut s = some (ls, rest)) :
    IsFront s ls rest := by
  unfold cut at h
  split at h
  · rename_i blank
    cases h
    exact .blank blank
  · split at h
    · rename_i documentation
      cases h
      obtain ⟨comment, whole⟩ := Option.filter_eq_some_iff.1 documentation
      exact .documentation comment whole
    · split at h
      · rename_i lead
        cases h
        exact .placeholder lead
      · split at h
        · rename_i bracket
          cases h
          obtain ⟨c, head, isBracket⟩ := Option.bind_eq_some_iff.1 bracket
          exact .bracket head isBracket
        · obtain ⟨r, leaf, eq⟩ := Option.map_eq_some_iff.1 h
          cases eq
          exact .leaf leaf

theorem placeholder_append {c : Char} {cs t : List Char} (ht : Separated t) :
    startsWith (c :: cs ++ t) placeholder = startsWith (c :: cs) placeholder := by
  have lead : placeholder.toList = '(' :: "/*ERROR*/)".toList := rfl
  have rest := isPrefixOf_append ht "/*ERROR*/)".toList (by decide) cs
  rw [startsWith, startsWith, lead, List.cons_append, List.isPrefixOf, List.isPrefixOf, rest]

theorem drop_placeholder {s : List Char} (h : startsWith s placeholder = true) (t : List Char) :
    (s ++ t).drop placeholder.length = s.drop placeholder.length ++ t := by
  obtain ⟨rest, rfl⟩ := List.isPrefixOf_iff_prefix.1 h
  have size : placeholder.toList.length = placeholder.length := rfl
  rw [List.append_assoc, List.drop_left' size, List.drop_left' size]

theorem cutPlain_append {s rest t : List Char} {ls : List Lexeme} (ht : Separated t)
    (h : cutPlain s = some (ls, rest)) :
    ∃ ls', cutPlain (s ++ t) = some (ls', rest ++ t) ∧ ls'.map unspaced = ls.map unspaced := by
  cases s with
  | nil => cases h
  | cons c cs =>
    have lead : startsWith (c :: cs ++ t) placeholder = startsWith (c :: cs) placeholder :=
      placeholder_append ht
    rw [cutPlain] at h ⊢
    rw [lead]
    split at h
    · rename_i whole
      cases h
      refine ⟨_, ?_, rfl⟩
      rw [if_pos whole, drop_placeholder whole]
    · rename_i whole
      rw [if_neg whole]
      cases bracket : bracketOf? c with
      | some b =>
        simp only [List.head?_cons, Option.bind_some, bracket] at h
        cases h
        refine ⟨_, ?_, rfl⟩
        simp only [List.cons_append, List.head?_cons, Option.bind_some, bracket, List.tail_cons]
      | none =>
        simp only [List.head?_cons, Option.bind_some, bracket] at h
        obtain ⟨⟨leaf, rest'⟩, hr, eq⟩ := Option.map_eq_some_iff.1 h
        cases eq
        obtain ⟨leaf', hr', same⟩ := cutLeaf_append ht hr
        refine ⟨[.token leaf'], ?_, ?_⟩
        · simp only [List.cons_append, List.head?_cons, Option.bind_some, bracket]
          rw [← List.cons_append, hr']
          rfl
        · simp only [List.map_cons, List.map_nil, unspaced, same]

theorem cut_nil : cut [] = none := by
  rfl

theorem cut_append {s rest t : List Char} {ls : List Lexeme} (ht : Separated t)
    (hs : cut s = some (ls, rest)) (closed : rest = [] → startsWith s "//" = false) :
    ∃ ls', cut (s ++ t) = some (ls', rest ++ t) ∧ ls'.map unspaced = ls.map unspaced := by
  cases comment : startsComment s with
  | true => exact ⟨ls, cut_comment_append comment hs closed t, rfl⟩
  | false =>
    cases s with
    | nil => cases hs
    | cons c cs =>
      have comment' : startsComment (c :: (cs ++ t)) = false := by
        rw [← List.cons_append, startsComment, startsWith_append ht (by decide),
          startsWith_append ht (by decide)]
        exact comment
      rw [cut_of_plain comment] at hs
      rw [List.cons_append, cut_of_plain comment']
      split at hs
      · rename_i blank
        cases hs
        exact ⟨[], if_pos blank, rfl⟩
      · rename_i blank
        obtain ⟨ls', hs', same⟩ := cutPlain_append ht hs
        exact ⟨ls', (if_neg blank).trans hs', same⟩

end FontAccessors.Lexeme
