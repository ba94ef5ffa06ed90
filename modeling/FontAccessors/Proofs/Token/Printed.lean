import FontAccessors.Proofs.Token.Reading
import FontAccessors.Token.Printer

namespace FontAccessors
open Text

namespace Lexeme
open Literal

def closers : List Char :=
  [' ', ')', ']', '}']

def Ended (t : List Char) : Prop :=
  ∀ c, t.head? = some c → c ∈ closers

theorem ended_nil : Ended [] :=
  nofun

theorem ended_cons {c : Char} (h : c ∈ closers) (t : List Char) : Ended (c :: t) := by
  intro d hd
  cases hd
  exact h

theorem Ended.any_head {t : List Char} (ht : Ended t) {p : Char → Bool}
    (h : ∀ c ∈ closers, p c = false) : t.head?.any p = false := by
  cases t with
  | nil => rfl
  | cons c cs => exact h c (ht c rfl)

theorem nameEnds_of_ended {t : List Char} (ht : Ended t) : NameEnds t := by
  have end_ : ∀ c ∈ closers, isIdentContinue c = false ∧ c ∉ ['"', '\'', '#'] := by decide
  exact fun c hc => end_ c (ht c hc)

theorem dropSuffix_of_ended {t : List Char} (ht : Ended t) : dropSuffix t = t := by
  cases t with
  | nil => rfl
  | cons c cs =>
    have start : isIdentStart c = false := by
      have all : ∀ c ∈ closers, isIdentStart c = false := by decide
      exact all c (ht c rfl)
    simp [dropSuffix, afterName, start]

structure IsLiteral (text : String) : Prop where
  lead : ∃ c cs, text.toList = c :: cs ∧ (c = '"' ∨ c.isDigit = true)
  ends : ∀ t, Ended t → Literal.after (text.toList ++ t) = some t

theorem isLiteral_quoted (s : String) : IsLiteral (Quoted.literal s) where
  lead := ⟨_, _, literal_toList s, .inl rfl⟩
  ends _ ht := after_quoted s (dropSuffix_of_ended ht)

theorem dropWhile_digits {ds t : List Char} (digits : ∀ c ∈ ds, c.isDigit = true)
    (stop : t.head?.any isDigitOrGap = false) : (ds ++ t).dropWhile isDigitOrGap = t := by
  induction ds with
  | nil =>
    cases t with
    | nil => rfl
    | cons c cs =>
      have : isDigitOrGap c = false := stop
      simp [this]
  | cons d ds ih =>
    have digit : isDigitOrGap d = true := by
      simp [isDigitOrGap, digits d List.mem_cons_self]
    rw [List.cons_append, List.dropWhile_cons_of_pos digit,
      ih fun c mem => digits c (List.mem_cons_of_mem _ mem)]

theorem chars_pointed (n : Nat) : ∃ d ds,
    (toString n ++ ".0").toList = d :: (ds ++ ['.', '0']) ∧ ∀ c ∈ d :: ds, c.isDigit = true := by
  have text : (toString n).toList = Nat.toDigits 10 n := Nat.toList_repr
  obtain ⟨d, ds, digits⟩ :=
    List.exists_cons_of_length_pos (Nat.length_toDigits_pos (b := 10) (n := n))
  refine ⟨d, ds, ?_, fun c mem => ?_⟩
  · rw [String.toList_append, text, digits]
    rfl
  · rw [← digits] at mem
    exact Nat.isDigit_of_mem_toDigits (by omega) (by omega) mem

theorem isLiteral_pointed (n : Nat) : IsLiteral (toString n ++ ".0") := by
  obtain ⟨d, ds, chars, all⟩ := chars_pointed n
  have digit := all d List.mem_cons_self
  refine ⟨⟨d, _, chars, .inr digit⟩, fun t ht => ?_⟩
  have first : (ds ++ '.' :: '0' :: t).dropWhile isDigitOrGap = '.' :: '0' :: t :=
    dropWhile_digits (fun c mem => all c (List.mem_cons_of_mem _ mem)) rfl
  have second : ('0' :: t).dropWhile isDigitOrGap = t := by
    rw [← List.singleton_append]
    exact dropWhile_digits (by decide) (ht.any_head (by decide))
  have scale : afterScale true t = some t := by
    have other : ∀ c ∈ closers, c ≠ 'e' ∧ c ≠ 'E' := by decide
    exact afterScale_of_head (fun c hc => other c (ht c hc)) true
  have float : afterFloatDigits (d :: (ds ++ '.' :: '0' :: t)) = some t := by
    have next : ('0' :: t).head?.any (fun c => c == '.' || isIdentStart c) = false := rfl
    simp only [afterFloatDigits, digit, if_true, first, second, scale, next, Bool.false_eq_true,
      if_false]
  have suffix : afterNumberSuffix t = some t := by
    have word : atWordBreak t = true := by
      cases t with
      | nil => rfl
      | cons c cs =>
        have part : ∀ c ∈ closers, isIdentContinue c = false := by decide
        simp [atWordBreak, part c (ht c rfl)]
    rw [afterNumberSuffix, dropSuffix_of_ended ht, if_pos word]
  have number : afterNumber (d :: (ds ++ '.' :: '0' :: t)) = some t := by
    rw [afterNumber, float, Option.bind_some, suffix, Option.some_or]
  rw [chars, Literal.after]
  simp [afterQuoted_of_digit digit, number]

theorem cut_mark {c : Char} (mem : c ∈ marks) (slash : c ≠ '/') (tick : c ≠ '\'')
    (t : List Char) : ∃ s, cut (c :: t) = some ([.token (.punct c s)], t) := by
  have comment : startsComment (c :: t) = false := by
    simp [startsComment, startsWith, List.isPrefixOf, slash.symm]
  have gap : ∀ m ∈ marks, isBlank m = false := by decide
  have paren : ∀ m ∈ marks, m ≠ '(' := by decide
  have bracket : ∀ m ∈ marks, (bracketOf? m).isNone = true := by decide
  have digit : ∀ m ∈ marks, m.isDigit = false := by decide
  have other : ∀ m ∈ marks, m = '\'' ∨ m ∉ ['"', 'r', 'b', 'c', '\''] := by decide
  have literal : Literal.after (c :: t) = none :=
    after_of_head ((other c mem).resolve_left tick) (digit c mem) t
  have isMark : startsMark (c :: t) = true := by
    rw [startsComment] at comment
    simp [startsMark, comment, mem]
  have lead : startsWith (c :: t) placeholder = false := by
    have front : placeholder.toList = '(' :: "/*ERROR*/)".toList := rfl
    simp [startsWith, front, List.isPrefixOf, (paren c mem).symm]
  refine ⟨if startsMark t then .joint else .alone, ?_⟩
  rw [cut_of_plain comment, gap c mem, cutPlain, lead]
  simp [Option.isNone_iff_eq_none.1 (bracket c mem), cutLeaf, literal, cutMark_of_ne tick, isMark]

theorem cut_isLiteral {text : String} (h : IsLiteral text) {t : List Char} (ht : Ended t) :
    cut (text.toList ++ t) = some ([.token (.literal text)], t) := by
  obtain ⟨c, cs, chars, lead⟩ := h.lead
  have after := h.ends t ht
  have lead' : c = '"' ∨ c = 'r' ∨ c.isDigit = true := lead.imp_right .inr
  rw [chars] at after
  rw [chars, cut_literal lead' after, ← chars, String.ofList_toList]

theorem cut_parenthesis {t : List Char} (h : t.head? ≠ some '/') :
    cut ('(' :: t) = some ([.opening .parenthesis], t) := by
  have lead : startsWith ('(' :: t) placeholder = false := by
    have front : placeholder.toList = '(' :: '/' :: "*ERROR*/)".toList := rfl
    cases t with
    | nil => rfl
    | cons c cs =>
      have slash : '/' ≠ c := by
        rintro rfl
        exact h rfl
      simp [startsWith, front, List.isPrefixOf, slash]
  have plain : cut ('(' :: t) = cutPlain ('(' :: t) := cut_of_plain rfl
  rw [plain, cutPlain, lead]
  rfl

end Lexeme

namespace Token
open Lexeme

mutual
/-- The token can stand in source text: no invisible group, and no mark that begins a comment or a
lifetime. -/
def Printable : Token → Prop
  | .ident i => IsWritable i
  | .punct c _ => c ∈ marks ∧ c ≠ '/' ∧ c ≠ '\''
  | .literal text => IsLiteral text
  | .group d content => d ≠ .invisible ∧ AllPrintable content
def AllPrintable : List Token → Prop
  | [] => True
  | t :: ts => Printable t ∧ AllPrintable ts
end

@[simp] theorem allPrintable_append {ss ts : List Token} :
    AllPrintable (ss ++ ts) ↔ AllPrintable ss ∧ AllPrintable ts := by
  induction ss with
  | nil => simp [AllPrintable]
  | cons s ss ih => simp [AllPrintable, ih, and_assoc]

theorem head_of_printable {t : Token} (h : Printable t) :
    ∃ c cs, t.chars = c :: cs ∧ c ≠ '/' ∧ c ≠ '\uFEFF' := by
  cases t with
  | ident i =>
    obtain ⟨c, cs, text, start⟩ := head_of_name (s := []) h nofun
    have mark : isIdentStart '\uFEFF' = false := by decide +kernel
    refine ⟨c, cs, by simpa [chars] using text, ?_, ?_⟩
    · rintro rfl
      cases start
    · rintro rfl
      rw [mark] at start
      cases start
  | punct c s =>
    refine ⟨c, [], rfl, h.2.1, ?_⟩
    rintro rfl
    exact absurd h.1 (by decide)
  | literal text =>
    obtain ⟨c, cs, text, rfl | digit⟩ := IsLiteral.lead h
    · exact ⟨_, cs, text, by decide, by decide⟩
    · exact ⟨c, cs, text, ne_of_isDigit digit rfl, ne_of_isDigit digit rfl⟩
  | group d content =>
    cases d with
    | invisible => exact absurd rfl h.1
    | parenthesis => exact ⟨'(', _, rfl, by decide, by decide⟩
    | bracket => exact ⟨'[', _, rfl, by decide, by decide⟩
    | brace => exact ⟨'{', _, rfl, by decide, by decide⟩

theorem head_of_allPrintable {ts : List Token} (h : AllPrintable ts) {t : List Char} {c : Char}
    (other : c = '/' ∨ c = '\uFEFF') (ht : t.head? ≠ some c) :
    (charsFrom false ts ++ t).head? ≠ some c := by
  cases ts with
  | nil => exact ht
  | cons s ss =>
    obtain ⟨d, ds, text, slash, mark⟩ := head_of_printable h.1
    simp only [charsFrom, text, Bool.false_eq_true, if_false, List.nil_append, List.cons_append,
      List.head?_cons, ne_eq, Option.some.injEq]
    rcases other with rfl | rfl
    · exact slash
    · exact mark

theorem ended_charsFrom (ts : List Token) {t : List Char} (ht : Ended t) :
    Ended (charsFrom true ts ++ t) := by
  cases ts with
  | nil => exact ht
  | cons s ss =>
    simp only [charsFrom, if_true, List.cons_append, List.nil_append]
    exact ended_cons (by decide) _

section

variable {d : Delimiter} (visible : d ≠ .invisible)

include visible

theorem skim_opening {s : List Char} (slash : s.head? ≠ some '/') :
    skim (Delimiter.opening d ++ s) = (skim s).map (Lexeme.opening d :: ·) := by
  cases d with
  | invisible => exact absurd rfl visible
  | parenthesis => exact skim_of_cut (cut_parenthesis slash) (Nat.lt_succ_self _)
  | bracket =>
    have front : cut ('[' :: s) = some ([.opening .bracket], s) := rfl
    exact skim_of_cut front (Nat.lt_succ_self _)
  | brace =>
    have front : cut ('{' :: ' ' :: s) = some ([.opening .brace], ' ' :: s) := rfl
    have opened : skim ('{' :: ' ' :: s) = (skim (' ' :: s)).map (Lexeme.opening .brace :: ·) :=
      skim_of_cut front (Nat.lt_succ_self _)
    rw [skim_blank] at opened
    exact opened

theorem skim_closing (s : List Char) :
    skim (Delimiter.closing d ++ s) = (skim s).map (Lexeme.closing d :: ·) := by
  cases d with
  | invisible => exact absurd rfl visible
  | parenthesis =>
    have front : cut (')' :: s) = some ([.closing .parenthesis], s) := rfl
    exact skim_of_cut front (Nat.lt_succ_self _)
  | bracket =>
    have front : cut (']' :: s) = some ([.closing .bracket], s) := rfl
    exact skim_of_cut front (Nat.lt_succ_self _)
  | brace =>
    have front : cut ('}' :: s) = some ([.closing .brace], s) := rfl
    exact skim_of_cut front (Nat.lt_succ_self _)

theorem ended_closing (s : List Char) : Ended (Delimiter.closing d ++ s) := by
  cases d with
  | invisible => exact absurd rfl visible
  | parenthesis | bracket | brace => exact ended_cons (by decide) s

end

mutual
theorem skim_chars (t : Token) (h : Printable t) {rest : List Char}
    (ends : t.isJoint = false → Ended rest) :
    skim (t.chars ++ rest) = (skim rest).map (plainly [t] ++ ·) := by
  cases t with
  | ident i =>
    exact skim_of_cut (cut_name h (nameEnds_of_ended (ends rfl))) (length_lt_chars h rest)
  | punct c s =>
    obtain ⟨s', mark⟩ := cut_mark h.1 h.2.1 h.2.2 rest
    have read : skim (c :: rest) = _ := skim_of_cut mark (Nat.lt_succ_self _)
    exact read
  | literal text =>
    obtain ⟨c, cs, front, -⟩ := IsLiteral.lead h
    refine skim_of_cut (cut_isLiteral h (ends rfl)) ?_
    rw [chars, front, List.length_append, List.length_cons]
    omega
  | group d content =>
    obtain ⟨visible, inside⟩ := h
    let behind := (if d = .brace && !content.isEmpty then [' '] else []) ++
      (Delimiter.closing d ++ rest)
    have closed : skim behind = (skim rest).map (Lexeme.closing d :: ·) := by
      rw [← skim_closing visible]
      by_cases gap : (d = .brace && !content.isEmpty) = true
      · simp only [behind, gap, if_true, List.cons_append, List.nil_append, skim_blank]
      · simp only [behind, gap, if_false, List.nil_append, Bool.false_eq_true]
    have ended : Ended behind := by
      by_cases gap : (d = .brace && !content.isEmpty) = true
      · simp only [behind, gap, if_true]
        exact ended_cons (by decide) _
      · simp only [behind, gap, if_false, List.nil_append, Bool.false_eq_true]
        exact ended_closing visible rest
    -- No comment begins at the parenthesis, so it is not taken for the stand-in.
    have slash : behind.head? ≠ some '/' := fun eq => absurd (ended '/' eq) (by decide)
    have text : chars (.group d content) ++ rest =
        Delimiter.opening d ++ (charsFrom false content ++ behind) := by
      simp [chars, behind]
    rw [text, skim_opening visible (head_of_allPrintable inside (.inl rfl) slash),
      skim_charsFrom content inside false ended, closed]
    simp [Function.comp_def]
theorem skim_charsFrom (ts : List Token) (h : AllPrintable ts) (spaced : Bool) {rest : List Char}
    (ends : Ended rest) :
    skim (charsFrom spaced ts ++ rest) = (skim rest).map (plainly ts ++ ·) := by
  cases ts with
  | nil => simp [charsFrom]
  | cons t ts =>
    have further := skim_charsFrom ts h.2 (!t.isJoint) ends
    have front : skim (t.chars ++ (charsFrom (!t.isJoint) ts ++ rest)) = _ :=
      skim_chars t h.1 fun single => by
        rw [single]
        exact ended_charsFrom ts ends
    have gap : skim (charsFrom spaced (t :: ts) ++ rest) =
        skim (t.chars ++ (charsFrom (!t.isJoint) ts ++ rest)) := by
      cases spaced with
      | false => simp [charsFrom]
      | true => simp [charsFrom, skim_blank]
    have both : plainly (t :: ts) = plainly [t] ++ plainly ts := plainly_append [t] ts
    rw [gap, front, further, Option.map_map, both]
    simp [Function.comp_def]
end

theorem lex_render {ts : List Token} (h : AllPrintable ts) :
    ∃ tokens, lex (render ts) = some tokens ∧ Alike tokens ts := by
  have unmarked : (charsFrom false ts).head? ≠ some '\uFEFF' := by
    have front := head_of_allPrintable h (t := []) (.inr rfl) (by simp)
    rwa [List.append_nil] at front
  have read := skim_charsFrom ts h false ended_nil
  rw [List.append_nil, skim_nil, Option.map_some, List.append_nil] at read
  obtain ⟨tokens, lexed, alike⟩ := (lexChars_alike_iff unmarked).2 read
  exact ⟨tokens, by rw [lex, render, String.toList_ofList, lexed], alike⟩

mutual
def literals : Token → List String
  | .literal text => [text]
  | .group _ content => allLiterals content
  | _ => []
def allLiterals : List Token → List String
  | [] => []
  | t :: ts => literals t ++ allLiterals ts
end

def allStrings (ts : List Token) : List String :=
  (allLiterals ts).filterMap fun text => (Quoted.value? text.toList).map String.ofList

mutual
def blanked : Token → Token
  | .literal text => .literal (if (Quoted.value? text.toList).isSome then "" else text)
  | .group d content => .group d (allBlanked content)
  | t => t
def allBlanked : List Token → List Token
  | [] => []
  | t :: ts => blanked t :: allBlanked ts
end

@[simp] theorem allLiterals_append (ss ts : List Token) :
    allLiterals (ss ++ ts) = allLiterals ss ++ allLiterals ts := by
  induction ss with
  | nil => rfl
  | cons s ss ih => simp [allLiterals, ih]

@[simp] theorem allBlanked_append (ss ts : List Token) :
    allBlanked (ss ++ ts) = allBlanked ss ++ allBlanked ts := by
  induction ss with
  | nil => rfl
  | cons s ss ih => simp [allBlanked, ih]

mutual
theorem literals_unspaced (t : Token) : t.unspaced.literals = t.literals := by
  cases t with
  | group d content => exact allLiterals_unspaced content
  | ident => rfl
  | punct => rfl
  | literal => rfl
theorem allLiterals_unspaced (ts : List Token) : allLiterals (allUnspaced ts) = allLiterals ts := by
  cases ts with
  | nil => rfl
  | cons t ts =>
    rw [allUnspaced, allLiterals, literals_unspaced t, allLiterals_unspaced ts, allLiterals]
end

mutual
theorem unspaced_blanked (t : Token) : t.blanked.unspaced = t.unspaced.blanked := by
  cases t with
  | group d content => rw [blanked, unspaced, unspaced, blanked, allUnspaced_allBlanked content]
  | ident => rfl
  | punct => rfl
  | literal => rfl
theorem allUnspaced_allBlanked (ts : List Token) :
    allUnspaced (allBlanked ts) = allBlanked (allUnspaced ts) := by
  cases ts with
  | nil => rfl
  | cons t ts =>
    rw [allBlanked, allUnspaced, unspaced_blanked t, allUnspaced_allBlanked ts, allUnspaced,
      allBlanked]
end

section

variable {ts us : List Token} (alike : Alike ts us)

include alike

theorem allLiterals_of_alike : allLiterals ts = allLiterals us := by
  rw [← allLiterals_unspaced, alike, allLiterals_unspaced]

theorem alike_allBlanked : Alike (allBlanked ts) (allBlanked us) := by
  rw [Alike, allUnspaced_allBlanked, alike, allUnspaced_allBlanked]

end

end Token
end FontAccessors
