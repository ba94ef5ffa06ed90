import FontAccessors.Proofs.Token.Spelling

namespace FontAccessors.Lexeme
open Text Literal

/-- In front of any separated text, `s` stands for `ls`. -/
def Reads (s : List Char) (ls : List Lexeme) : Prop :=
  ∀ t, Separated t → skim (s ++ t) = (skim t).map (ls ++ ·)

namespace Reads

variable {s s' : List Char} {ls ls' : List Lexeme}

theorem nil : Reads [] [] := by
  intro t _
  simp

theorem prepend {front : List Char} {ms : List Lexeme}
    (h : ∀ t, Separated t → skim (front ++ s ++ t) = (skim (s ++ t)).map (ms ++ ·))
    (hs : Reads s ls) : Reads (front ++ s) (ms ++ ls) := by
  intro t ht
  rw [h t ht, hs t ht, Option.map_map]
  simp [Function.comp_def]

theorem append (hs : Reads s ls) (hs' : Reads s' ls') (sep : Separated s') :
    Reads (s ++ s') (ls ++ ls') := by
  refine prepend (fun t ht => ?_) hs'
  rw [List.append_assoc, hs (s' ++ t) (sep.append ht)]

theorem whole (hs : Reads s ls) : skim s = some ls := by
  have h := hs [] separated_nil
  rw [List.append_nil, skim_nil] at h
  simpa using h

theorem of_lexemes {s : List Char} {ls : List Lexeme} (hs : lexemes s = some ls)
    (closed : endsInComment s = false) : Reads s (ls.map unspaced) :=
  fun _ ht => skim_append hs closed ht

theorem of_cut {c : Char} {s : List Char} {ms ls : List Lexeme}
    (h : ∀ t, cut (c :: (s ++ t)) = some (ms, s ++ t)) (hs : Reads s ls) :
    Reads (c :: s) (ms.map unspaced ++ ls) := by
  show Reads ([c] ++ s) (ms.map unspaced ++ ls)
  refine prepend (fun t _ => ?_) hs
  exact skim_of_cut (h t) (Nat.lt_succ_self _)

theorem blank (hs : Reads s ls) : Reads (' ' :: s) ls := by
  have gap (t : List Char) : cut (' ' :: (s ++ t)) = some ([], s ++ t) := rfl
  exact of_cut gap hs

theorem feed (hs : Reads s ls) : Reads ('\n' :: s) ls := by
  have gap (t : List Char) : cut ('\n' :: (s ++ t)) = some ([], s ++ t) := rfl
  exact of_cut gap hs

end Reads

theorem Reads.name {i : Ident} {s : List Char} {ls : List Lexeme} (writable : IsWritable i)
    (ends : NameEnds s) (nonempty : s ≠ []) (hs : Reads s ls) :
    Reads (i.chars ++ s) (.token (.ident i) :: ls) := by
  show Reads (i.chars ++ s) ([.token (.ident i)] ++ ls)
  refine prepend (fun t _ => ?_) hs
  have ends' : NameEnds (s ++ t) := by
    cases s with
    | nil => exact absurd rfl nonempty
    | cons c cs => exact ends
  rw [List.append_assoc]
  exact skim_of_cut (cut_name writable ends') (length_lt_chars writable _)

theorem Reads.colons {s : List Char} {ls : List Lexeme} (hs : Reads s ls) :
    Reads (':' :: ':' :: s) (.token (.punct ':' .alone) :: .token (.punct ':' .alone) :: ls) := by
  have single {s : List Char} {ls : List Lexeme} (hs : Reads s ls) :
      Reads ([':'] ++ s) ([.token (.punct ':' .alone)] ++ ls) := by
    refine prepend (fun t _ => ?_) hs
    have mark : cut (':' :: (s ++ t)) =
        some ([.token (.punct ':' (if startsMark (s ++ t) then .joint else .alone))], s ++ t) := rfl
    exact skim_of_cut mark (Nat.lt_succ_self _)
  exact single (single hs)

theorem reads_name {i : Ident} (writable : IsWritable i) : Reads i.chars [.token (.ident i)] := by
  intro t ht
  exact skim_of_cut (cut_name writable (nameEnds_of_separated ht)) (length_lt_chars writable t)

theorem reads_plain {w : String} (h : isIdentifier w.toList = true) :
    Reads w.toList [.token (.ident (.plain w))] :=
  reads_name (i := .plain w) ⟨h, nofun⟩

theorem complete_name {i : Ident} {s : List Char} {ls : List Lexeme} (writable : IsWritable i)
    (ends : NameEnds s) (h : Complete s ls) :
    Complete (i.chars ++ s) (.token (.ident i) :: ls) := by
  refine h.of_cut (cut_name writable ends) (length_lt_chars writable s) fun _ => ?_
  obtain ⟨c, cs, text, start⟩ := head_of_name writable ends
  have slash : '/' ≠ c := by
    rintro rfl
    cases start
  simp [text, startsWith, List.isPrefixOf, slash]

theorem Complete.blank {s : List Char} {ls : List Lexeme} (h : Complete s ls) :
    Complete (' ' :: s) ls := by
  have gap : cut (' ' :: s) = some ([], s) := rfl
  exact h.of_cut gap (Nat.lt_succ_self _) fun _ => rfl

theorem lex_of_complete {text : String} {ts : List Token}
    (h : Complete text.toList (Token.flatAll ts))
    (unmarked : text.toList.head? ≠ some '\uFEFF') : Token.lex text = some ts := by
  rw [Token.lex, Token.lexChars_of_head unmarked, h.1, Option.bind_some, nest_flatAll_whole]

theorem ne_of_isDigit {c d : Char} (h : c.isDigit = true) (other : d.isDigit = false) : c ≠ d := by
  rintro rfl
  rw [other] at h
  cases h

theorem cut_literal {c : Char} {cs t : List Char} (hc : c = '"' ∨ c = 'r' ∨ c.isDigit = true)
    (h : Literal.after (c :: cs ++ t) = some t) :
    cut (c :: cs ++ t) = some ([.token (.literal (String.ofList (c :: cs)))], t) := by
  have leaf : cutLeaf (c :: cs ++ t) = some (.literal (String.ofList (c :: cs)), t) := by
    rw [cutLeaf, h]
    simp only [take_front]
  have comment : startsComment (c :: cs ++ t) = false := by
    rcases hc with rfl | rfl | digit
    · rfl
    · rfl
    · simp [startsComment, startsWith, List.isPrefixOf, (ne_of_isDigit digit (d := '/') rfl).symm]
  have lead : startsWith (c :: cs ++ t) placeholder = false := by
    rcases hc with rfl | rfl | digit
    · rfl
    · rfl
    · have paren : placeholder.toList = '(' :: "/*ERROR*/)".toList := rfl
      simp [startsWith, paren, List.isPrefixOf, (ne_of_isDigit digit (d := '(') rfl).symm]
  have bracket : bracketOf? c = none := by
    rcases hc with rfl | rfl | digit
    · rfl
    · rfl
    · unfold bracketOf?
      split <;> first | rfl | cases digit
  have gap : isBlank c = false := by
    rcases hc with rfl | rfl | digit
    · decide
    · decide
    · have part : isIdentContinue c = true := by simp [isIdentContinue, Char.isAlphanum, digit]
      cases blank : isBlank c with
      | false => rfl
      | true => rw [← part, not_isIdentContinue_of_isBlank blank]
  rw [List.cons_append] at leaf comment lead ⊢
  rw [cut_of_plain comment, gap, cutPlain, lead]
  simp [bracket, leaf]

theorem dropSuffix_of_separated {t : List Char} (ht : Separated t) : dropSuffix t = t := by
  simpa [dropSuffix, afterName] using dropSuffix_append ht []

theorem literal_toList (s : String) :
    (Quoted.literal s).toList = '"' :: (Quoted.escapeAll s.toList ++ ['"']) := by
  simp [Quoted.literal, Quoted.literalChars]

theorem after_quoted (s : String) {t : List Char} (ends : dropSuffix t = t) :
    Literal.after ((Quoted.literal s).toList ++ t) = some t := by
  have read := Quoted.read_escapeAll s.toList t
  have quoted : afterQuoted ('"' :: (Quoted.escapeAll s.toList ++ '"' :: t)) = some t := by
    rw [afterQuoted, afterCooked, read, Option.map_some, ends]
  rw [literal_toList, Literal.after]
  simp only [List.cons_append, List.append_assoc, List.nil_append, quoted, Option.some_or]

theorem cut_quoted (s : String) {t : List Char} (ht : Separated t) :
    cut ((Quoted.literal s).toList ++ t) = some ([.token (.literal (Quoted.literal s))], t) := by
  have after := after_quoted s (dropSuffix_of_separated ht)
  rw [literal_toList] at after
  rw [literal_toList, cut_literal (.inl rfl) after, ← literal_toList, String.ofList_toList]

theorem reads_quoted (s : String) :
    Reads (Quoted.literal s).toList [.token (.literal (Quoted.literal s))] := by
  intro t ht
  refine skim_of_cut (cut_quoted s ht) ?_
  rw [literal_toList]
  simp
  omega

theorem reads_argument (s : String) :
    Reads ('(' :: (Quoted.literal s).toList)
      [.opening .parenthesis, .token (.literal (Quoted.literal s))] := by
  have front (t : List Char) : cut ('(' :: ((Quoted.literal s).toList ++ t)) =
      some ([.opening .parenthesis], (Quoted.literal s).toList ++ t) := by
    rw [literal_toList]
    rfl
  exact Reads.of_cut front (reads_quoted s)

theorem cutLine_of_line {line : List Char} (feed : '\n' ∉ line) (carriage : '\r' ∉ line)
    (t : List Char) : cutLine (line ++ t) = (line ++ (cutLine t).1, (cutLine t).2) := by
  induction line with
  | nil => rfl
  | cons c cs ih =>
    rw [List.mem_cons, not_or] at feed carriage
    rw [List.cons_append, cutLine.eq_4 c _ (Ne.symm feed.1) fun _ eq => absurd eq.symm carriage.1,
      ih feed.2 carriage.2]
    rfl

theorem cutLine_of_feed {line : List Char} (feed : '\n' ∉ line) (carriage : '\r' ∉ line)
    (t : List Char) : cutLine (line ++ '\n' :: t) = (line, '\n' :: t) := by
  rw [cutLine_of_line feed carriage, cutLine, List.append_nil]

theorem unbroken_of_line {line : List Char} (carriage : '\r' ∉ line) : unbroken line = true := by
  induction line with
  | nil => rfl
  | cons c cs ih =>
    rw [List.mem_cons, not_or] at carriage
    rw [unbroken.eq_3 c cs (fun _ eq => absurd eq.symm carriage.1) (Ne.symm carriage.1)]
    exact ih carriage.2

theorem Reads.line {line s : List Char} {ls : List Lexeme} (feed : '\n' ∉ line)
    (carriage : '\r' ∉ line) (long : startsWith line "/" = false) (hs : Reads s ls) :
    Reads ("///".toList ++ line ++ '\n' :: s)
      ((Lexeme.documentation false line).map unspaced ++ ls) := by
  refine prepend (fun t _ => ?_) hs.feed
  have long' : startsWith (line ++ '\n' :: (s ++ t)) "/" = false := by
    cases line with
    | nil => rfl
    | cons c cs => simpa [startsWith, List.isPrefixOf] using long
  have cut' : cut ("///".toList ++ line ++ '\n' :: s ++ t) =
      some (Lexeme.documentation false line, '\n' :: s ++ t) := by
    have doc := cut_outerLine long'
    rw [lineDocumentation, cutLine_of_feed feed carriage, if_pos (unbroken_of_line carriage)] at doc
    simpa using doc
  exact skim_of_cut cut' (by simp; omega)

/-- Reads a piece character by character, `skip` of them being known; a comment that it leaves
open is no piece. The list shrinks by one at every step, so that closed pieces can be evaluated. -/
def scan : Nat → List Char → Option (List Lexeme)
  | 0, [] => some []
  | _ + 1, [] => none
  | skip + 1, _ :: cs => scan skip cs
  | 0, c :: cs =>
    match cut (c :: cs) with
    | none => none
    | some (ls, rest) =>
      if rest.isEmpty && startsWith (c :: cs) "//" then none
      else if rest = cs.drop (cs.length - rest.length) then
        (scan (cs.length - rest.length) cs).map (ls.map unspaced ++ ·)
      else none

theorem reads_of_scan {skip : Nat} {s : List Char} {ls : List Lexeme} (h : scan skip s = some ls) :
    Reads (s.drop skip) ls := by
  intro t ht
  fun_induction scan skip s generalizing ls with
  | case1 =>
    cases h
    simp
  | case2 => cases h
  | case3 skip c cs ih => exact ih h
  | case4 => cases h
  | case5 => cases h
  | case6 c cs front rest hcut closed suffix ih =>
    obtain ⟨ms, hms, rfl⟩ := Option.map_eq_some_iff.1 h
    have closed' : rest = [] → startsWith (c :: cs) "//" = false := by
      rintro rfl
      simpa using closed
    obtain ⟨front', hcut', same⟩ := cut_append ht hcut closed'
    have short : (rest ++ t).length < (c :: cs ++ t).length := by
      rw [suffix, List.length_append, List.length_append, List.length_drop, List.length_cons]
      omega
    have more := ih hms
    rw [← suffix] at more
    rw [List.drop_zero, skim_of_cut hcut' short, more, same, Option.map_map]
    simp [Function.comp_def]
  | case7 => cases h

def agree : Lexeme → Lexeme → Bool
  | .token (.ident i), .token (.ident j) => decide (i = j)
  | .token (.punct c s), .token (.punct d s') => decide (c = d) && decide (s = s')
  | .token (.literal t), .token (.literal u) => decide (t = u)
  | .opening d, .opening e => decide (d = e)
  | .closing d, .closing e => decide (d = e)
  | _, _ => false

theorem eq_of_agree {l m : Lexeme} (h : agree l m = true) : l = m := by
  unfold agree at h
  split at h <;> simp_all

def allAgree : List Lexeme → List Lexeme → Bool
  | [], [] => true
  | l :: ls, m :: ms => agree l m && allAgree ls ms
  | _, _ => false

theorem eq_of_allAgree {ls ms : List Lexeme} (h : allAgree ls ms = true) : ls = ms := by
  induction ls generalizing ms with
  | nil =>
    cases ms with
    | nil => rfl
    | cons m ms => cases h
  | cons l ls ih =>
    cases ms with
    | nil => cases h
    | cons m ms =>
      rw [allAgree, Bool.and_eq_true] at h
      rw [eq_of_agree h.1, ih h.2]

theorem reads_of_check {s : List Char} {ls : List Lexeme}
    (h : (scan 0 s).any (allAgree · ls) = true) : Reads s ls := by
  obtain ⟨ms, hms, same⟩ := (Option.any_eq_true _ _).1 h
  rw [← eq_of_allAgree same]
  exact reads_of_scan hms

end FontAccessors.Lexeme
