import FontAccessors.Proofs.Token.Separated

namespace FontAccessors.Lexeme
open Text Literal

theorem head_of_append {s t : List Char} (h : s ≠ []) {c : Char} {cs : List Char}
    (eq : s ++ t = c :: cs) : ∃ ds, s = c :: ds := by
  cases s with
  | nil => exact absurd rfl h
  | cons d ds =>
    cases eq
    exact ⟨ds, rfl⟩

theorem ne_nil_of_cutLine {s : List Char} (h : (cutLine s).2 ≠ []) : s ≠ [] := by
  rintro rfl
  exact h rfl

theorem cutLine_append {s : List Char} (h : (cutLine s).2 ≠ []) (t : List Char) :
    cutLine (s ++ t) = ((cutLine s).1, (cutLine s).2 ++ t) := by
  fun_induction cutLine s with
  | case1 => exact absurd rfl h
  | case2 cs => rfl
  | case3 cs => rfl
  | case4 c cs feed carriage ih =>
    rw [List.cons_append, cutLine.eq_4 c (cs ++ t) feed, ih h]
    intro ds hc eq
    obtain ⟨ds', rfl⟩ := head_of_append (ne_nil_of_cutLine h) eq
    exact carriage ds' hc rfl

theorem cutLine_append_of_open {s : List Char} (h : (cutLine s).2 = []) (t : List Char) :
    (cutLine (s ++ t)).2 = (cutLine t).2 := by
  fun_induction cutLine s with
  | case1 => rfl
  | case2 cs => cases h
  | case3 cs => cases h
  | case4 c cs feed carriage ih =>
    by_cases broken : c = '\r' ∧ cs = [] ∧ t.head? = some '\n'
    · obtain ⟨rfl, rfl, feed'⟩ := broken
      cases t with
      | nil => rfl
      | cons d ds =>
        cases feed'
        rfl
    · rw [List.cons_append, cutLine.eq_4 c (cs ++ t) feed, ih h]
      intro ds hc eq
      cases cs with
      | nil =>
        rw [List.nil_append] at eq
        exact broken ⟨hc, rfl, by rw [eq]; rfl⟩
      | cons d ds' =>
        cases eq
        exact carriage ds' hc rfl

theorem cutBlock_append {depth : Nat} {s : List Char} {r : List Char × List Char}
    (h : cutBlock depth s = some r) (t : List Char) :
    cutBlock depth (s ++ t) = some (r.1, r.2 ++ t) := by
  fun_induction cutBlock depth s generalizing r with
  | case1 depth cs ih =>
    obtain ⟨r', hr, rfl⟩ := Option.map_eq_some_iff.1 h
    simp [cutBlock, ih hr]
  | case2 cs => cases h; rfl
  | case3 cs => cases h; rfl
  | case4 cs d ih =>
    obtain ⟨r', hr, rfl⟩ := Option.map_eq_some_iff.1 h
    simp [cutBlock, ih hr]
  | case5 depth c cs opens closes ih =>
    obtain ⟨r', hr, rfl⟩ := Option.map_eq_some_iff.1 h
    have nonempty : cs ≠ [] := by
      rintro rfl
      cases hr
    rw [List.cons_append, cutBlock.eq_5 depth c (cs ++ t), ih hr]
    · rfl
    · intro ds hc eq
      obtain ⟨ds', rfl⟩ := head_of_append nonempty eq
      exact opens ds' hc rfl
    · intro ds hc eq
      obtain ⟨ds', rfl⟩ := head_of_append nonempty eq
      exact closes ds' hc rfl
  | case6 => cases h

theorem two_of_cutBlock {depth : Nat} {s : List Char} {r : List Char × List Char}
    (h : cutBlock depth s = some r) : ∃ c d cs, s = c :: d :: cs := by
  match s with
  | [] => cases h
  | [c] => simp [cutBlock] at h
  | c :: d :: cs => exact ⟨c, d, cs, rfl⟩

def lineDocumentation (inner : Bool) (s : List Char) : Option (List Lexeme × List Char) :=
  if unbroken (cutLine s).1 then some (documentation inner (cutLine s).1, (cutLine s).2) else none

theorem of_lineDocumentation {inner : Bool} {s rest : List Char} {ls : List Lexeme}
    (h : lineDocumentation inner s = some (ls, rest)) :
    unbroken (cutLine s).1 = true ∧ ls = documentation inner (cutLine s).1 ∧
      rest = (cutLine s).2 := by
  rw [lineDocumentation] at h
  split at h
  · rename_i whole
    cases h
    exact ⟨whole, rfl, rfl⟩
  · cases h

theorem lineDocumentation_append {inner : Bool} {s rest : List Char} {ls : List Lexeme}
    (h : lineDocumentation inner s = some (ls, rest)) (ended : rest ≠ []) (t : List Char) :
    lineDocumentation inner (s ++ t) = some (ls, rest ++ t) := by
  obtain ⟨whole, rfl, rfl⟩ := of_lineDocumentation h
  rw [lineDocumentation, cutLine_append ended, if_pos whole]

def blockDocumentation (inner : Bool) (s : List Char) : Option (List Lexeme × List Char) :=
  ((cutBlock 1 s).filter fun r => unbroken r.1).map fun r => (documentation inner r.1, r.2)

theorem of_blockDocumentation {inner : Bool} {s rest : List Char} {ls : List Lexeme}
    (h : blockDocumentation inner s = some (ls, rest)) :
    ∃ text, cutBlock 1 s = some (text, rest) ∧ unbroken text = true ∧
      ls = documentation inner text := by
  obtain ⟨r, hr, eq⟩ := Option.map_eq_some_iff.1 h
  cases eq
  obtain ⟨block, whole⟩ := Option.filter_eq_some_iff.1 hr
  exact ⟨r.1, block, whole, rfl⟩

theorem blockDocumentation_append {inner : Bool} {s rest : List Char} {ls : List Lexeme}
    (h : blockDocumentation inner s = some (ls, rest)) (t : List Char) :
    blockDocumentation inner (s ++ t) = some (ls, rest ++ t) := by
  obtain ⟨text, block, whole, rfl⟩ := of_blockDocumentation h
  rw [blockDocumentation, cutBlock_append block, Option.filter_some, if_pos whole]
  rfl

def cutPlain (s : List Char) : Option (List Lexeme × List Char) :=
  if startsWith s placeholder then
    some ([.token (.literal placeholder)], s.drop placeholder.length)
  else
    match s.head?.bind bracketOf? with
    | some b => some ([b], s.tail)
    | none => (cutLeaf s).map fun r => ([.token r.1], r.2)

def startsComment (s : List Char) : Bool :=
  startsWith s "//" || startsWith s "/*"

theorem afterBlank_of_plain {c : Char} {cs : List Char} (h : startsComment (c :: cs) = false) :
    afterBlank (c :: cs) = if isBlank c then some cs else none := by
  unfold afterBlank
  split
  · rename_i eq
    cases eq
    cases h
  · rename_i eq
    cases eq
    cases h
  · rename_i eq
    cases eq
    rfl
  · rename_i eq
    cases eq

theorem cutDocumentation_of_plain {s : List Char} (h : startsComment s = false) :
    cutDocumentation s = none := by
  unfold cutDocumentation
  split
  · cases h
  · cases h
  · cases h
  · cases h
  · rfl

theorem cut_of_plain {c : Char} {cs : List Char} (h : startsComment (c :: cs) = false) :
    cut (c :: cs) = if isBlank c then some ([], cs) else cutPlain (c :: cs) := by
  rw [cut, afterBlank_of_plain h, cutDocumentation_of_plain h]
  cases isBlank c <;> rfl

theorem cutPlain_slash {s : List Char} (h : startsComment ('/' :: s) = true) :
    cutPlain ('/' :: s) = none := by
  have mark : startsMark ('/' :: s) = false := by
    rw [startsComment] at h
    rw [startsMark, h]
    rfl
  have literal : Literal.after ('/' :: s) = none := after_of_head (by decide) (by decide) s
  have leaf : cutLeaf ('/' :: s) = none := by
    rw [cutLeaf, literal, cutMark_of_ne (by decide), mark]
    rfl
  have lead : startsWith ('/' :: s) placeholder = false := rfl
  rw [cutPlain, lead, leaf]
  rfl

theorem cut_of_blank {s rest : List Char} (h : afterBlank s = some rest) :
    cut s = some ([], rest) := by
  rw [cut, h]

theorem cut_of_comment {s : List Char} (h : startsComment ('/' :: s) = true)
    (blank : afterBlank ('/' :: s) = none) :
    cut ('/' :: s) =
      ((cutDocumentation ('/' :: s)).filter fun r => unbroken r.2.1).map fun r =>
        (documentation r.1 r.2.1, r.2.2) := by
  have plain := cutPlain_slash h
  rw [cutPlain] at plain
  rw [cut, blank]
  cases (cutDocumentation ('/' :: s)).filter fun r => unbroken r.2.1 with
  | none => exact plain
  | some r => rfl

theorem cut_plainLine {cs : List Char} (inner : startsWith cs "!" = false)
    (outer : (startsWith cs "/" && !startsWith cs "//") = false) :
    cut ('/' :: '/' :: cs) = some ([], (cutLine cs).2) := by
  apply cut_of_blank
  rw [afterBlank, inner, outer]
  rfl

theorem cut_innerLine (cs : List Char) :
    cut ('/' :: '/' :: '!' :: cs) = lineDocumentation true cs := by
  rw [cut_of_comment rfl rfl, cutDocumentation, lineDocumentation]
  simp only [Option.filter_some]
  split <;> rfl

theorem cut_outerLine {cs : List Char} (h : startsWith cs "/" = false) :
    cut ('/' :: '/' :: '/' :: cs) = lineDocumentation false cs := by
  have second : startsWith ('/' :: cs) "//" = false := h
  have blank : afterBlank ('/' :: '/' :: '/' :: cs) = none := by
    rw [afterBlank, second]
    rfl
  rw [cut_of_comment rfl blank, cutDocumentation, h, lineDocumentation]
  simp only [Option.filter_some, Bool.false_eq_true, if_false]
  split <;> rfl

theorem cut_emptyBlock (cs : List Char) : cut ('/' :: '*' :: '*' :: '/' :: cs) = some ([], cs) :=
  cut_of_blank rfl

theorem cut_plainBlock {cs : List Char} (empty : startsWith cs "*/" = false)
    (inner : startsWith cs "!" = false)
    (outer : (startsWith cs "*" && !startsWith cs "**") = false) :
    cut ('/' :: '*' :: cs) = (cutBlock 1 cs).map fun r => ([], r.2) := by
  have blank : afterBlank ('/' :: '*' :: cs) = (cutBlock 1 cs).map Prod.snd := by
    rw [afterBlank, empty, inner, outer]
    rfl
  cases h : cutBlock 1 cs with
  | some r => exact cut_of_blank (by rw [blank, h]; rfl)
  | none =>
    have doc : cutDocumentation ('/' :: '*' :: cs) = none := by
      unfold cutDocumentation
      split
      · rename_i eq
        cases eq
      · rename_i eq
        cases eq
      · rename_i eq
        cases eq
        cases inner
      · rename_i cs' eq
        cases eq
        have third : startsWith cs' "*" = true := by simpa [startsWith] using outer
        rw [third]
        rfl
      · rfl
    rw [cut_of_comment rfl (by rw [blank, h]; rfl), doc]
    rfl

theorem cut_innerBlock (cs : List Char) :
    cut ('/' :: '*' :: '!' :: cs) = blockDocumentation true cs := by
  rw [cut_of_comment rfl rfl, cutDocumentation, blockDocumentation]
  cases cutBlock 1 cs with
  | none => rfl
  | some r =>
    simp only [Option.map_some, Option.filter_some]
    split <;> rfl

theorem cut_outerBlock {s : List Char} (empty : startsWith s "/" = false)
    (long : startsWith s "*" = false) :
    cut ('/' :: '*' :: '*' :: s) = blockDocumentation false s := by
  have second : startsWith ('*' :: s) "*/" = false := empty
  have third : startsWith ('*' :: s) "**" = false := long
  have blank : afterBlank ('/' :: '*' :: '*' :: s) = none := by
    rw [afterBlank, second, third]
    rfl
  rw [cut_of_comment rfl blank, cutDocumentation, long, blockDocumentation]
  cases cutBlock 1 s with
  | none => rfl
  | some r =>
    simp only [Option.map_some, Option.filter_some, Bool.false_eq_true, if_false]
    split <;> rfl

/-- The forms of comments: on a line or in a block, about nothing in the code, about what encloses
them, or about what follows. -/
inductive IsComment : List Char → Prop
  | plainLine {cs : List Char} (inner : startsWith cs "!" = false)
      (outer : (startsWith cs "/" && !startsWith cs "//") = false) :
      IsComment ('/' :: '/' :: cs)
  | innerLine (cs : List Char) : IsComment ('/' :: '/' :: '!' :: cs)
  | outerLine {cs : List Char} (long : startsWith cs "/" = false) :
      IsComment ('/' :: '/' :: '/' :: cs)
  | emptyBlock (cs : List Char) : IsComment ('/' :: '*' :: '*' :: '/' :: cs)
  | plainBlock {cs : List Char} (empty : startsWith cs "*/" = false)
      (inner : startsWith cs "!" = false)
      (outer : (startsWith cs "*" && !startsWith cs "**") = false) :
      IsComment ('/' :: '*' :: cs)
  | innerBlock (cs : List Char) : IsComment ('/' :: '*' :: '!' :: cs)
  | outerBlock {cs : List Char} (empty : startsWith cs "/" = false)
      (long : startsWith cs "*" = false) : IsComment ('/' :: '*' :: '*' :: cs)

theorem isComment_line (cs : List Char) : IsComment ('/' :: '/' :: cs) := by
  match cs with
  | [] => exact .plainLine rfl rfl
  | c :: cs =>
    by_cases inner : c = '!'
    · subst inner
      exact .innerLine cs
    by_cases outer : c = '/'
    · subst outer
      cases long : startsWith cs "/" with
      | false => exact .outerLine long
      | true =>
        have second : startsWith ('/' :: cs) "//" = true := long
        exact .plainLine rfl (by rw [second]; rfl)
    · refine .plainLine ?_ ?_ <;> simp [startsWith, List.isPrefixOf, Ne.symm inner, Ne.symm outer]

theorem isComment_block (cs : List Char) : IsComment ('/' :: '*' :: cs) := by
  match cs with
  | [] => exact .plainBlock rfl rfl rfl
  | c :: cs =>
    by_cases inner : c = '!'
    · subst inner
      exact .innerBlock cs
    by_cases outer : c = '*'
    · subst outer
      cases empty : startsWith cs "/" with
      | true =>
        cases cs with
        | nil => cases empty
        | cons d ds =>
          obtain rfl : '/' = d := by simpa [startsWith, List.isPrefixOf] using empty
          exact .emptyBlock ds
      | false =>
        cases long : startsWith cs "*" with
        | false => exact .outerBlock empty long
        | true =>
          have second : startsWith ('*' :: cs) "**" = true := long
          exact .plainBlock empty rfl (by rw [second]; rfl)
    · refine .plainBlock ?_ ?_ ?_ <;>
        simp [startsWith, List.isPrefixOf, Ne.symm inner, Ne.symm outer]

theorem isComment_of_starts {s : List Char} (h : startsComment s = true) : IsComment s := by
  match s with
  | [] => cases h
  | [c] => simp [startsComment, startsWith, List.isPrefixOf] at h
  | c :: d :: cs =>
    have marks : c = '/' ∧ (d = '/' ∨ d = '*') := by
      simp [startsComment, startsWith, List.isPrefixOf] at h
      rcases h with ⟨first, second⟩ | ⟨first, second⟩
      · exact ⟨first.symm, .inl second.symm⟩
      · exact ⟨first.symm, .inr second.symm⟩
    obtain ⟨rfl, rfl | rfl⟩ := marks
    · exact isComment_line cs
    · exact isComment_block cs

theorem startsWith_one_append {s : List Char} (h : s ≠ []) {lead : String} {c : Char}
    (single : lead.toList = [c]) (t : List Char) :
    startsWith (s ++ t) lead = startsWith s lead := by
  cases s with
  | nil => exact absurd rfl h
  | cons d ds => simp [startsWith, single, List.isPrefixOf]

theorem documents_append {s : List Char} (h : s ≠ []) {one two : String} {c : Char}
    (single : one.toList = [c]) (double : two.toList = [c, c])
    (documents : (startsWith s one && !startsWith s two) = false) (t : List Char) :
    (startsWith (s ++ t) one && !startsWith (s ++ t) two) = false := by
  match s with
  | [] => exact absurd rfl h
  | [d] =>
    simp [startsWith, single, double, List.isPrefixOf] at documents ⊢
    exact fun eq => absurd eq documents
  | d :: e :: ds => simpa [startsWith, single, double, List.isPrefixOf] using documents

theorem cut_comment_append {s rest : List Char} {ls : List Lexeme} (h : startsComment s = true)
    (hs : cut s = some (ls, rest)) (closed : rest = [] → startsWith s "//" = false)
    (t : List Char) : cut (s ++ t) = some (ls, rest ++ t) := by
  cases isComment_of_starts h with
  | @plainLine cs inner outer =>
    rw [cut_plainLine inner outer] at hs
    cases hs
    have ended : (cutLine cs).2 ≠ [] := fun eq => nomatch closed eq
    have nonempty := ne_nil_of_cutLine ended
    rw [List.cons_append, List.cons_append,
      cut_plainLine ((startsWith_one_append nonempty rfl t).trans inner)
        (documents_append nonempty rfl rfl outer t),
      cutLine_append ended]
  | innerLine cs =>
    rw [cut_innerLine] at hs
    have ended : rest ≠ [] := fun eq => nomatch closed eq
    rw [List.cons_append, List.cons_append, List.cons_append, cut_innerLine,
      lineDocumentation_append hs ended]
  | @outerLine cs long =>
    rw [cut_outerLine long] at hs
    have ended : rest ≠ [] := fun eq => nomatch closed eq
    obtain ⟨-, -, left⟩ := of_lineDocumentation hs
    have nonempty := ne_nil_of_cutLine (left ▸ ended)
    rw [List.cons_append, List.cons_append, List.cons_append,
      cut_outerLine ((startsWith_one_append nonempty rfl t).trans long),
      lineDocumentation_append hs ended]
  | emptyBlock cs =>
    rw [cut_emptyBlock] at hs
    cases hs
    exact cut_emptyBlock (rest ++ t)
  | @plainBlock cs empty inner outer =>
    rw [cut_plainBlock empty inner outer] at hs
    obtain ⟨r, hr, eq⟩ := Option.map_eq_some_iff.1 hs
    cases eq
    obtain ⟨c, d, ds, rfl⟩ := two_of_cutBlock hr
    have empty' : startsWith (c :: d :: ds ++ t) "*/" = false := empty
    rw [List.cons_append, List.cons_append,
      cut_plainBlock empty' inner (documents_append (List.cons_ne_nil c _) rfl rfl outer t),
      cutBlock_append hr]
    rfl
  | innerBlock cs =>
    rw [cut_innerBlock] at hs
    rw [List.cons_append, List.cons_append, List.cons_append, cut_innerBlock,
      blockDocumentation_append hs]
  | @outerBlock cs empty long =>
    rw [cut_outerBlock empty long] at hs
    obtain ⟨text, block, -, -⟩ := of_blockDocumentation hs
    obtain ⟨c, d, ds, rfl⟩ := two_of_cutBlock block
    rw [List.cons_append, List.cons_append, List.cons_append,
      cut_outerBlock (s := c :: d :: ds ++ t) empty long, blockDocumentation_append hs]

end FontAccessors.Lexeme
