import FontAccessors.Proofs.Token.Cut

/-!
# Texts one after the other

* `skim_append`: a text and a separated one behind it stand for the lexemes of both, spacing apart,
  if the first does not end in a line comment.
* `skim_append_of_open`: if it does, the comment goes on to the next line break, and what it covers
  is gone.
-/

namespace FontAccessors.Lexeme
open Text Literal

theorem lexemes_nil : lexemes [] = some [] := by
  rw [lexemes]

theorem lexemes_of_cut {s rest : List Char} {ls : List Lexeme} (h : cut s = some (ls, rest))
    (short : rest.length < s.length) : lexemes s = (lexemes rest).map (ls ++ ·) := by
  cases s with
  | nil => cases h
  | cons c cs => rw [lexemes, h]; exact if_pos short

theorem lexemes_of_cut_none {s : List Char} (h : cut s = none) (nonempty : s ≠ []) :
    lexemes s = none := by
  cases s with
  | nil => exact absurd rfl nonempty
  | cons c cs => rw [lexemes, h]

def skim (s : List Char) : Option (List Lexeme) :=
  (lexemes s).map (List.map unspaced)

theorem skim_nil : skim [] = some [] := by
  rw [skim, lexemes_nil]
  rfl

theorem skim_of_cut {s rest : List Char} {ls : List Lexeme} (h : cut s = some (ls, rest))
    (short : rest.length < s.length) : skim s = (skim rest).map (ls.map unspaced ++ ·) := by
  rw [skim, lexemes_of_cut h short, skim]
  cases lexemes rest with
  | none => rfl
  | some ms => exact congrArg some List.map_append

theorem skim_blank (s : List Char) : skim (' ' :: s) = skim s := by
  have blank : cut (' ' :: s) = some ([], s) := rfl
  rw [skim_of_cut blank (Nat.lt_succ_self _)]
  simp

theorem skim_of_cut_none {s : List Char} (h : cut s = none) (nonempty : s ≠ []) :
    skim s = none := by
  rw [skim, lexemes_of_cut_none h nonempty]
  rfl

def endsInComment (s : List Char) : Bool :=
  match cut s with
  | none => false
  | some (_, rest) =>
    if rest.isEmpty then startsWith s "//"
    else if rest.length < s.length then endsInComment rest else false
termination_by s.length
decreasing_by assumption

theorem endsInComment_of_cut {s rest : List Char} {ls : List Lexeme} (h : cut s = some (ls, rest))
    (short : rest.length < s.length) :
    endsInComment s = if rest = [] then startsWith s "//" else endsInComment rest := by
  rw [endsInComment, h]
  simp only [List.isEmpty_iff, if_pos short]

theorem endsInComment_nil : endsInComment [] = false := by
  rw [endsInComment, cut_nil]

theorem skim_append {s t : List Char} {ls : List Lexeme} (hs : lexemes s = some ls)
    (closed : endsInComment s = false) (ht : Separated t) :
    skim (s ++ t) = (skim t).map (ls.map unspaced ++ ·) := by
  fun_induction lexemes s generalizing ls with
  | case1 =>
    cases hs
    simp
  | case2 c cs h => cases hs
  | case3 c cs front rest h short ih =>
    obtain ⟨ms, hms, rfl⟩ := Option.map_eq_some_iff.1 hs
    rw [endsInComment_of_cut h short] at closed
    have open_ : rest = [] → startsWith (c :: cs) "//" = false := by
      rintro rfl
      simpa using closed
    have closed' : endsInComment rest = false := by
      by_cases empty : rest = []
      · rw [empty, endsInComment_nil]
      · simpa [empty] using closed
    obtain ⟨front', h', same⟩ := cut_append ht h open_
    have short' : (rest ++ t).length < (c :: cs ++ t).length := by
      rw [List.length_append, List.length_append]
      exact Nat.add_lt_add_right short _
    rw [skim_of_cut h' short', ih hms closed', same, Option.map_map]
    simp [Function.comp_def]
  | case4 => cases hs

def Complete (s : List Char) (ls : List Lexeme) : Prop :=
  lexemes s = some ls ∧ endsInComment s = false

theorem complete_nil : Complete [] [] :=
  ⟨lexemes_nil, endsInComment_nil⟩

theorem Complete.of_cut {s rest : List Char} {ls ms : List Lexeme} (hrest : Complete rest ms)
    (h : cut s = some (ls, rest)) (short : rest.length < s.length)
    (closed : rest = [] → startsWith s "//" = false) : Complete s (ls ++ ms) := by
  refine ⟨?_, ?_⟩
  · rw [lexemes_of_cut h short, hrest.1]
    rfl
  · rw [endsInComment_of_cut h short]
    split
    · exact closed ‹_›
    · exact hrest.2

theorem cutLine_of_open {s : List Char} (h : (cutLine s).2 = []) : (cutLine s).1 = s := by
  fun_induction cutLine s with
  | case1 => rfl
  | case2 => cases h
  | case3 => cases h
  | case4 c cs feed carriage ih => rw [ih h]

theorem cutLine_append_text {s : List Char} (h : (cutLine s).2 = []) (whole : unbroken s = true)
    (t : List Char) : (cutLine (s ++ t)).1 = s ++ (cutLine t).1 := by
  fun_induction cutLine s with
  | case1 => rfl
  | case2 => cases h
  | case3 => cases h
  | case4 c cs feed carriage ih =>
    have visible : c ≠ '\r' := by
      rintro rfl
      rw [unbroken.eq_2 cs fun ds eq => carriage ds rfl eq] at whole
      cases whole
    have whole' : unbroken cs = true := by
      rwa [unbroken.eq_3 c cs (fun _ eq => absurd eq visible) visible] at whole
    rw [List.cons_append, cutLine.eq_4 c (cs ++ t) feed fun _ eq => absurd eq visible, ih h whole',
      List.cons_append]

theorem documentation_inj {inner : Bool} {u v : List Char}
    (h : (documentation inner u).map unspaced = (documentation inner v).map unspaced) : u = v := by
  cases inner
  all_goals
    simp only [documentation, List.map_cons, List.map_append, unspaced, Token.unspaced] at h
    simp at h
    exact String.ofList_injective (Quoted.literal_injective h)

theorem length_documentation (inner : Bool) (u v : List Char) :
    (documentation inner u).length = (documentation inner v).length := by
  simp [documentation]

theorem length_cutLine_le (s : List Char) : (cutLine s).2.length ≤ s.length := by
  fun_induction cutLine s with
  | case1 => simp
  | case2 => simp
  | case3 => simp
  | case4 c cs feed carriage ih => exact Nat.le_succ_of_le ih

theorem lineDocumentation_append_of_open {inner : Bool} {s : List Char} {ls : List Lexeme}
    (h : lineDocumentation inner s = some (ls, [])) :
    ls = documentation inner s ∧ ∀ t, lineDocumentation inner (s ++ t) = none ∨
      lineDocumentation inner (s ++ t) =
        some (documentation inner (s ++ (cutLine t).1), (cutLine t).2) := by
  obtain ⟨whole, rfl, ended⟩ := of_lineDocumentation h
  rw [cutLine_of_open ended.symm] at whole ⊢
  refine ⟨rfl, fun t => ?_⟩
  rw [lineDocumentation, cutLine_append_of_open ended.symm,
    cutLine_append_text ended.symm whole]
  split
  · exact .inr rfl
  · exact .inl rfl

/-- A comment that the text ends takes the line behind it: it vanishes with it, or is a
documentation with more text, unless that text makes it no comment at all. -/
theorem cut_append_of_open {s : List Char} {ls : List Lexeme} (line : startsWith s "//" = true)
    (hs : cut s = some (ls, [])) :
    (ls = [] ∧ ∀ t, Separated t → cut (s ++ t) = some ([], (cutLine t).2)) ∨
      ∃ inner text, ls = documentation inner text ∧ ∀ t, Separated t →
        cut (s ++ t) = none ∨
          cut (s ++ t) = some (documentation inner (text ++ (cutLine t).1), (cutLine t).2) := by
  have comment : startsComment s = true := by
    rw [startsComment, line]
    rfl
  cases isComment_of_starts comment with
  | @plainLine cs inner outer =>
    rw [cut_plainLine inner outer, Option.some.injEq, Prod.mk.injEq] at hs
    obtain ⟨rfl, ended⟩ := hs
    refine .inl ⟨rfl, fun t ht => ?_⟩
    have inner' := (startsWith_append ht (by decide) cs).trans inner
    have outer' : (startsWith (cs ++ t) "/" && !startsWith (cs ++ t) "//") = false := by
      rw [startsWith_append ht (by decide), startsWith_append ht (by decide), outer]
    rw [List.cons_append, List.cons_append, cut_plainLine inner' outer',
      cutLine_append_of_open ended]
  | innerLine cs =>
    rw [cut_innerLine] at hs
    obtain ⟨text, more⟩ := lineDocumentation_append_of_open hs
    refine .inr ⟨true, cs, text, fun t _ => ?_⟩
    rw [List.cons_append, List.cons_append, List.cons_append, cut_innerLine]
    exact more t
  | @outerLine cs long =>
    rw [cut_outerLine long] at hs
    obtain ⟨text, more⟩ := lineDocumentation_append_of_open hs
    refine .inr ⟨false, cs, text, fun t ht => ?_⟩
    have long' := (startsWith_append ht (by decide) cs).trans long
    rw [List.cons_append, List.cons_append, List.cons_append, cut_outerLine long']
    exact more t
  | emptyBlock => cases line
  | plainBlock => cases line
  | innerBlock => cases line
  | outerBlock => cases line

/-- In front of any separated text, `s` stands for `ls` and takes the line behind it away. -/
def Swallows (s : List Char) (ls : List Lexeme) : Prop :=
  ∀ t, Separated t → skim (s ++ t) = (skim (cutLine t).2).map (ls ++ ·)

/-- In front of any separated text, `s` stands for `ls` and then for a documentation that takes in
the line behind it, if for anything. -/
def Documents (s : List Char) (ls : List Lexeme) (inner : Bool) (text : List Char) : Prop :=
  ∀ t, Separated t → skim (s ++ t) = none ∨ skim (s ++ t) = (skim (cutLine t).2).map
    ((ls ++ (documentation inner (text ++ (cutLine t).1)).map unspaced) ++ ·)

theorem skim_append_of_open {s : List Char} {ls : List Lexeme} (hs : lexemes s = some ls)
    (open_ : endsInComment s = true) :
    Swallows s (ls.map unspaced) ∨ ∃ before inner text, ls = before ++ documentation inner text ∧
      Documents s (before.map unspaced) inner text := by
  fun_induction lexemes s generalizing ls with
  | case1 => rw [endsInComment_nil] at open_; cases open_
  | case2 c cs h => cases hs
  | case3 c cs front rest h short ih =>
    obtain ⟨ms, hms, rfl⟩ := Option.map_eq_some_iff.1 hs
    rw [endsInComment_of_cut h short] at open_
    -- Only the last front can be the open comment; those before it are cut as they were.
    by_cases empty : rest = []
    · subst empty
      rw [lexemes_nil] at hms
      cases hms
      have short' (t : List Char) : (cutLine t).2.length < (c :: cs ++ t).length := by
        have := length_cutLine_le t
        simp only [List.length_append, List.length_cons]
        omega
      rcases cut_append_of_open (by simpa using open_) h with
        ⟨rfl, plain⟩ | ⟨inner, text, rfl, documented⟩
      · exact .inl fun t ht => skim_of_cut (plain t ht) (short' t)
      · refine .inr ⟨[], inner, text, by simp, fun t ht => ?_⟩
        rcases documented t ht with failed | more
        · exact .inl (skim_of_cut_none failed (List.cons_ne_nil c (cs ++ t)))
        · exact .inr (skim_of_cut more (short' t))
    · rw [if_neg empty] at open_
      have step {t : List Char} (ht : Separated t) :
          skim (c :: cs ++ t) = (skim (rest ++ t)).map (front.map unspaced ++ ·) := by
        obtain ⟨front', cut', same⟩ := cut_append ht h fun eq => absurd eq empty
        have short' : (rest ++ t).length < (c :: cs ++ t).length := by
          rw [List.length_append, List.length_append]
          exact Nat.add_lt_add_right short _
        rw [skim_of_cut cut' short', same]
      rcases ih hms open_ with swallows | ⟨before, inner, text, rfl, documents⟩
      · left
        intro t ht
        rw [step ht, swallows t ht, Option.map_map]
        simp [Function.comp_def]
      · refine .inr ⟨front ++ before, inner, text, by simp, fun t ht => ?_⟩
        rw [step ht]
        rcases documents t ht with failed | more
        · left
          rw [failed]
          rfl
        · right
          rw [more, Option.map_map]
          simp [Function.comp_def]
  | case4 => cases hs

end FontAccessors.Lexeme
