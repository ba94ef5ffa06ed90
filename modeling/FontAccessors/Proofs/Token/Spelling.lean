import FontAccessors.Proofs.Token.Groups

namespace FontAccessors

namespace Text

def blankPoints : List Nat :=
  [9, 10, 11, 12, 13, 32, 0x85, 0xA0, 0x1680, 0x2000, 0x2001, 0x2002, 0x2003, 0x2004, 0x2005,
    0x2006, 0x2007, 0x2008, 0x2009, 0x200A, 0x200E, 0x200F, 0x2028, 0x2029, 0x202F, 0x205F, 0x3000]

theorem mem_blankPoints {c : Char} (h : isBlank c = true) : c.toNat ∈ blankPoints := by
  simp only [isBlank, isWhite, Bool.or_eq_true, Bool.and_eq_true, beq_iff_eq, decide_eq_true_eq,
    CodePoints.contains_iff] at h
  rcases h with (((rfl | ⟨low, high⟩) | ⟨r, mem, low, high⟩) | rfl) | rfl
  · decide
  · simp only [blankPoints, List.mem_cons]
    omega
  · simp only [blankPoints, List.mem_cons]
    simp only [wideBlanks, List.mem_cons, List.not_mem_nil, or_false] at mem
    rcases mem with rfl | rfl | rfl | rfl | rfl | rfl | rfl | rfl <;> omega
  · decide
  · decide

theorem not_isIdentContinue_of_isBlank {c : Char} (h : isBlank c = true) :
    isIdentContinue c = false := by
  have none : ∀ n ∈ blankPoints, isIdentContinue (Char.ofNat n) = false := by decide +kernel
  rw [← Char.ofNat_toNat c]
  exact none _ (mem_blankPoints h)

theorem not_isBlank_of_isIdentStart {c : Char} (h : isIdentStart c = true) :
    isBlank c = false := by
  cases blank : isBlank c with
  | false => rfl
  | true =>
    rw [← isIdentContinue_of_isIdentStart h, not_isIdentContinue_of_isBlank blank]

end Text

namespace Lexeme
open Text Literal

def NameEnds (s : List Char) : Prop :=
  ∀ c, s.head? = some c → isIdentContinue c = false ∧ c ∉ ['"', '\'', '#']

theorem nameEnds_of_separated {s : List Char} (h : Separated s) : NameEnds s := by
  have sep : ∀ c ∈ separators, isIdentContinue c = false ∧ c ∉ ['"', '\'', '#'] := by decide
  exact fun c hc => sep c (h c hc)

theorem dropWhile_name {name s : List Char} (isName : name.all isIdentContinue = true)
    (ends : NameEnds s) : (name ++ s).dropWhile isIdentContinue = s := by
  induction name with
  | nil =>
    cases s with
    | nil => rfl
    | cons c cs => simp [(ends c rfl).1]
  | cons c cs ih =>
    rw [List.all_cons, Bool.and_eq_true] at isName
    rw [List.cons_append, List.dropWhile_cons_of_pos isName.1, ih isName.2]

theorem no_lead_of_name {name s : List Char} {lead : String}
    (isName : name.all isIdentContinue = true) (ends : NameEnds s)
    (special : ∃ c, (lead.toList.dropWhile isIdentContinue).head? = some c ∧
      c ∈ ['"', '\'', '#']) :
    startsWith (name ++ s) lead = false := by
  cases h : startsWith (name ++ s) lead with
  | false => rfl
  | true =>
    obtain ⟨rest, eq⟩ := List.isPrefixOf_iff_prefix.1 h
    obtain ⟨c, hc, mem⟩ := special
    have dropped := congrArg (List.dropWhile isIdentContinue) eq
    rw [dropWhile_name isName ends, List.dropWhile_append] at dropped
    cases front : lead.toList.dropWhile isIdentContinue with
    | nil => simp [front] at hc
    | cons d ds =>
      simp only [front, List.head?_cons, Option.some.injEq] at hc
      simp only [front, List.isEmpty_cons, Bool.false_eq_true, if_false] at dropped
      rw [← hc] at mem
      exact absurd mem (ends d (by rw [← dropped]; rfl)).2

theorem all_isIdentContinue {name : List Char} (h : isIdentifier name = true) :
    name.all isIdentContinue = true := by
  cases name with
  | nil => rfl
  | cons c cs =>
    rw [isIdentifier, Bool.and_eq_true] at h
    rw [List.all_cons, h.2, isIdentContinue_of_isIdentStart h.1]
    rfl

theorem afterName_append_of_ends {name s : List Char} (isName : isIdentifier name = true)
    (ends : NameEnds s) : afterName (name ++ s) = some s := by
  cases name with
  | nil => cases isName
  | cons c cs =>
    rw [isIdentifier, Bool.and_eq_true] at isName
    rw [List.cons_append, afterName, if_pos isName.1, dropWhile_name isName.2 ends]

theorem cutIdent_name {i : Ident} {s : List Char} (writable : IsWritable i) (ends : NameEnds s) :
    cutIdent (i.chars ++ s) = some (i, s) := by
  obtain ⟨name, isRaw⟩ := i
  obtain ⟨isName, raw⟩ := writable
  have after := afterName_append_of_ends isName ends
  cases isRaw with
  | true =>
    have text : Ident.chars ⟨name, true⟩ ++ s = 'r' :: '#' :: (name.toList ++ s) := rfl
    have lead : startsWith ('r' :: '#' :: (name.toList ++ s)) "r#" = true := rfl
    have body : ('r' :: '#' :: (name.toList ++ s)).drop 2 = name.toList ++ s := rfl
    rw [text, cutIdent]
    simp only [lead, if_true, body, after, Option.bind_some, take_front, String.ofList_toList]
    simpa using raw rfl
  | false =>
    have text : Ident.chars ⟨name, false⟩ ++ s = name.toList ++ s := rfl
    have lead : startsWith (name.toList ++ s) "r#" = false :=
      no_lead_of_name (all_isIdentContinue isName) ends ⟨'#', by decide, by decide⟩
    rw [text, cutIdent]
    simp only [lead, Bool.false_eq_true, if_false, after, Option.bind_some, take_front,
      String.ofList_toList]
    simp

theorem head_of_name {i : Ident} {s : List Char} (writable : IsWritable i) (ends : NameEnds s) :
    ∃ c cs, i.chars ++ s = c :: cs ∧ isIdentStart c = true :=
  head_of_cutIdent (cutIdent_name writable ends)

theorem no_literal_lead {i : Ident} {s : List Char} (writable : IsWritable i)
    (ends : NameEnds s) : literalLeads.any (startsWith (i.chars ++ s)) = false := by
  obtain ⟨name, isRaw⟩ := i
  obtain ⟨isName, -⟩ := writable
  rw [List.any_eq_false]
  intro lead mem
  rw [Bool.not_eq_true]
  cases isRaw with
  | true =>
    cases chars : name.toList with
    | nil => simp [chars, isIdentifier] at isName
    | cons c cs =>
      rw [chars, isIdentifier, Bool.and_eq_true] at isName
      have quote : '"' ≠ c := by
        rintro rfl
        cases isName.1
      have hash : '#' ≠ c := by
        rintro rfl
        cases isName.1
      simp only [literalLeads, List.mem_cons, List.not_mem_nil, or_false] at mem
      rcases mem with rfl | rfl | rfl | rfl | rfl | rfl | rfl | rfl | rfl | rfl <;>
        simp [Ident.chars, chars, startsWith, List.isPrefixOf, quote, hash]
  | false =>
    have special : ∀ lead ∈ literalLeads, ∃ c,
        (lead.toList.dropWhile isIdentContinue).head? = some c ∧ c ∈ ['"', '\'', '#'] := by
      simp only [literalLeads, List.forall_mem_cons]
      refine ⟨⟨'"', ?_⟩, ⟨'#', ?_⟩, ⟨'#', ?_⟩, ⟨'"', ?_⟩, ⟨'\'', ?_⟩, ⟨'"', ?_⟩, ⟨'#', ?_⟩,
        ⟨'"', ?_⟩, ⟨'"', ?_⟩, ⟨'#', ?_⟩, List.forall_mem_nil _⟩ <;> decide
    exact no_lead_of_name (all_isIdentContinue isName) ends (special lead mem)

theorem length_lt_chars {i : Ident} (writable : IsWritable i) (s : List Char) :
    s.length < (i.chars ++ s).length := by
  obtain ⟨isName, -⟩ := writable
  have nonempty : i.chars ≠ [] := by
    rw [Ident.chars]
    split
    · exact List.cons_ne_nil _ _
    · intro empty
      rw [empty] at isName
      cases isName
  rw [List.length_append]
  exact Nat.lt_add_of_pos_left (List.length_pos_iff.2 nonempty)

theorem cut_name {i : Ident} {s : List Char} (writable : IsWritable i) (ends : NameEnds s) :
    cut (i.chars ++ s) = some ([.token (.ident i)], s) := by
  have name := cutIdent_name writable ends
  have leads := no_literal_lead writable ends
  obtain ⟨c, cs, text, start⟩ := head_of_cutIdent name
  rw [text] at name leads ⊢
  have other : ∀ d, isIdentStart d = false → c ≠ d := by
    rintro d hd rfl
    rw [start] at hd
    cases hd
  have literal : Literal.after (c :: cs) = none :=
    after_of_no_lead (other _ (by decide)) (other _ (by decide)) (not_isDigit_of_isIdentStart start)
      leads
  have leaf : cutLeaf (c :: cs) = some (.ident i, s) := by
    rw [cutLeaf, literal, cutMark_of_name start, leads, name]
    rfl
  have slash : '/' ≠ c := (other '/' (by decide)).symm
  have comment : startsComment (c :: cs) = false := by
    simp [startsComment, startsWith, List.isPrefixOf, slash]
  have bracket : bracketOf? c = none := by
    unfold bracketOf?
    split <;> first | rfl | cases start
  have paren : startsWith (c :: cs) placeholder = false := by
    have lead : placeholder.toList = '(' :: "/*ERROR*/)".toList := rfl
    simp [startsWith, lead, List.isPrefixOf, (other '(' (by decide)).symm]
  rw [cut_of_plain comment, not_isBlank_of_isIdentStart start, cutPlain, paren]
  simp [bracket, leaf]

def afterPadding (s : List Char) : List Char :=
  match afterBlank s with
  | none => s
  | some rest => if rest.length < s.length then afterPadding rest else s
termination_by s.length
decreasing_by assumption

theorem lexemes_afterPadding (s : List Char) : lexemes (afterPadding s) = lexemes s := by
  fun_induction afterPadding s with
  | case1 s h => rfl
  | case2 s rest h short ih =>
    rw [ih, lexemes_of_cut (cut_of_blank h) short]
    simp
  | case3 => rfl

theorem afterBlank_afterPadding {s rest : List Char} (h : afterBlank (afterPadding s) = some rest) :
    ¬rest.length < (afterPadding s).length := by
  fun_induction afterPadding s with
  | case1 s none =>
    rw [none] at h
    cases h
  | case2 s rest' blank short ih => exact ih h
  | case3 s rest' blank long =>
    rw [blank] at h
    cases h
    exact long

theorem afterBlank_of_cut_nil {s rest : List Char} (h : cut s = some ([], rest)) :
    afterBlank s = some rest := by
  generalize none : [] = ls at h
  cases isFront_of_cut h with
  | blank blank => exact blank
  | documentation => simp [documentation] at none
  | placeholder => cases none
  | bracket => cases none
  | leaf => cases none

theorem cut_of_lexemes {s : List Char} {l : Lexeme} {ls : List Lexeme}
    (h : lexemes s = some (l :: ls)) :
    ∃ front rest more, cut (afterPadding s) = some (l :: front, rest) ∧
      lexemes rest = some more ∧ ls = front ++ more := by
  rw [← lexemes_afterPadding s] at h
  have solid := @afterBlank_afterPadding s
  generalize afterPadding s = p at h solid
  unfold lexemes at h
  split at h
  · cases h
  · rename_i c cs
    split at h
    · cases h
    · rename_i front rest hcut
      split at h
      · rename_i short
        obtain ⟨more, hmore, eq⟩ := Option.map_eq_some_iff.1 h
        cases front with
        | nil => exact absurd short (solid (afterBlank_of_cut_nil hcut))
        | cons f front =>
          cases eq
          exact ⟨front, rest, more, hcut, hmore, rfl⟩
      · cases h

theorem lexemes_eq_nil_iff {s : List Char} : lexemes s = some [] ↔ afterPadding s = [] := by
  constructor
  · intro h
    rw [← lexemes_afterPadding s] at h
    have solid := @afterBlank_afterPadding s
    generalize afterPadding s = p at h solid ⊢
    unfold lexemes at h
    split at h
    · rfl
    · split at h
      · cases h
      · rename_i hcut
        split at h
        · rename_i short
          obtain ⟨more, -, eq⟩ := Option.map_eq_some_iff.1 h
          rw [(List.append_eq_nil_iff.1 eq).1] at hcut
          exact absurd short (solid (afterBlank_of_cut_nil hcut))
        · cases h
  · intro h
    rw [← lexemes_afterPadding, h, lexemes_nil]

def Spells (s : List Char) (i : Ident) : Prop :=
  IsWritable i ∧ ∃ after, afterPadding s = i.chars ++ after ∧ afterPadding after = []

theorem nameEnds_of_padding {s : List Char} (h : afterPadding s = []) : NameEnds s := by
  intro c hc
  cases s with
  | nil => cases hc
  | cons d cs =>
    cases hc
    cases blank : afterBlank (c :: cs) with
    | none =>
      rw [afterPadding, blank] at h
      cases h
    | some rest =>
      cases comment : startsComment (c :: cs) with
      | true =>
        cases isComment_of_starts comment <;> exact ⟨by decide, by decide⟩
      | false =>
        rw [afterBlank_of_plain comment] at blank
        split at blank
        · rename_i gap
          have special : ∀ d ∈ ['"', '\'', '#'], isBlank d = false := by decide
          refine ⟨not_isIdentContinue_of_isBlank gap, fun mem => ?_⟩
          rw [special c mem] at gap
          cases gap
        · cases blank

theorem bracketOf_ne_token {c : Char} {t : Token} : bracketOf? c ≠ some (.token t) := by
  unfold bracketOf?
  split <;> nofun

theorem cutIdent_of_cut {s rest : List Char} {i : Ident} {front : List Lexeme}
    (h : cut s = some (.token (.ident i) :: front, rest)) :
    front = [] ∧ cutIdent s = some (i, rest) := by
  generalize name : .token (.ident i) :: front = ls at h
  cases isFront_of_cut h with
  | blank => cases name
  | documentation => simp [documentation] at name
  | placeholder => cases name
  | bracket head isBracket =>
    cases name
    exact absurd isBracket bracketOf_ne_token
  | leaf leaf =>
    cases name
    cases isLeaf_of_cutLeaf leaf with
    | name _ _ _ cutName => exact ⟨rfl, cutName⟩

theorem lexemes_name_iff {s : List Char} {i : Ident} :
    lexemes s = some [.token (.ident i)] ↔ Spells s i := by
  constructor
  · intro h
    obtain ⟨front, rest, more, hcut, hmore, eq⟩ := cut_of_lexemes h
    obtain ⟨rfl, name⟩ := cutIdent_of_cut hcut
    obtain rfl : more = [] := by simpa using eq.symm
    obtain ⟨text, writable, -⟩ := of_cutIdent name
    exact ⟨writable, rest, text, lexemes_eq_nil_iff.1 hmore⟩
  · rintro ⟨writable, after, text, padding⟩
    have hcut := cut_name writable (nameEnds_of_padding padding)
    rw [← lexemes_afterPadding, text, lexemes_of_cut hcut (length_lt_chars writable after),
      lexemes_eq_nil_iff.2 padding]
    rfl

end Lexeme

namespace Token
open Lexeme

def unmarked (s : List Char) : List Char :=
  if s.head? = some '\uFEFF' then s.tail else s

theorem lexChars_name_iff {s : List Char} {i : Ident} :
    lexChars s = some [.ident i] ↔ Spells (unmarked s) i := by
  rw [lexChars, ← lexemes_name_iff]
  constructor
  · intro h
    obtain ⟨ls, hls, built⟩ := Option.bind_eq_some_iff.1 h
    rw [unmarked, hls, ← flatAll_of_nest (isWritten_lexemes hls) built]
    rfl
  · intro h
    rw [unmarked] at h
    rw [h]
    rfl

end Token
end FontAccessors
