import FontAccessors.Proofs.Yaml.Block

namespace FontAccessors.Yaml.Lexer

variable {s cs ds rest w : List Char} {n n' : Nat} {columns : List Nat} {b b' : Bool} {d : Char}
  {kinds : List TokenKind}

/-- From a column, blanks lead to a column where no blank is next. -/
def Skips (b : Bool) (n : Nat) (cs : List Char) (b' : Bool) (n' : Nat) (cs' : List Char) : Prop :=
  ∀ m : Mark, m.column = n →
    ∃ m' : Mark, m'.column = n' ∧ skipBlanks false b false m cs = (b', ⟨cs', m'⟩)

theorem Skips.nil (b : Bool) (n : Nat) : Skips b n [] b n [] :=
  fun m column => ⟨m, column, rfl⟩

def endsBlanks (d : Char) : Bool :=
  !isGap d && d != '#' && d != '\uFEFF'

theorem endsBlanks_of_isOrdinary (h : isOrdinary d = true) : endsBlanks d = true := by
  obtain ⟨-, -, -, hash, -, -, -, mark⟩ := isOrdinary_iff.1 h
  simp [endsBlanks, not_isGap_of_isOrdinary h, hash, mark]

theorem Skips.stop (h : endsBlanks d = true) (b : Bool) (n : Nat) (ds : List Char) :
    Skips b n (d :: ds) b n (d :: ds) := by
  intro m column
  obtain ⟨⟨noGap, hash⟩, mark⟩ : (isGap d = false ∧ d ≠ '#') ∧ d ≠ '\uFEFF' := by
    simpa [endsBlanks] using h
  obtain ⟨noSpace, noBreak⟩ := Bool.or_eq_false_iff.1 noGap
  obtain ⟨blank, tab⟩ : d ≠ ' ' ∧ d ≠ '\t' := by simpa [isSpace] using noSpace
  refine ⟨m, column, ?_⟩
  rw [skipBlanks]
  · simp [noBreak, blank, tab, hash, mark]
  · exact not_return noBreak

theorem Skips.word (h : IsKeyWord w) (b : Bool) (n : Nat) (cs : List Char) :
    Skips b n (w ++ cs) b n (w ++ cs) := by
  obtain ⟨d, w, rfl⟩ := List.exists_cons_of_ne_nil h.nonempty
  exact Skips.stop (endsBlanks_of_isOrdinary (h.ordinary d List.mem_cons_self)) b n (w ++ cs)

theorem Skips.space {cs' : List Char} (h : Skips b (n + 1) cs b' n' cs') :
    Skips b n (' ' :: cs) b' n' cs' := by
  intro m column
  obtain ⟨m', column', skips⟩ := h (m.right ' ') (congrArg (· + 1) column)
  refine ⟨m', column', ?_⟩
  rw [skipBlanks]
  · exact skips
  · exact not_return rfl

theorem Skips.line {cs' : List Char} (h : Skips true 0 cs b' n' cs') :
    Skips b n ('\n' :: cs) b' n' cs' := by
  intro m _
  obtain ⟨m', column', skips⟩ := h (m.down '\n'.utf8Size) rfl
  refine ⟨m', column', ?_⟩
  rw [skipBlanks]
  · simpa [isBreak] using skips
  · intro _ carriage
    exact absurd carriage (by decide)

theorem step_single (ds : List Char) (l : Lexer) : step '\'' ds l =
    l.lineScalar false fun k => readSingle k.skip.mark .none k.skip.rest := by
  simp [step, not_atDocumentMark_of_ne]

theorem step_double (ds : List Char) (l : Lexer) : step '"' ds l =
    l.lineScalar false fun k => readDouble k.skip.mark (.text .none) k.skip.rest := by
  simp [step, not_atDocumentMark_of_ne]

/-- Up to a rest of the text, at a column, a lexer finds tokens of these kinds. -/
def Reaches (s rest : List Char) (n : Nat) (columns : List Nat) (b : Bool)
    (kinds : List TokenKind) : Prop :=
  ∃ m ready, m.column = n ∧ (ready.reverse.map Token.kind) = kinds ∧
    run (start s) = run (resting ⟨rest, m⟩ columns b ready)

namespace Reaches

theorem start (s : List Char) : Reaches s s 0 [] true [] :=
  ⟨.start, [], rfl, rfl, rfl⟩

theorem key (h : Reaches s cs n columns b kinds) (blanks : Skips b n cs true n' (w ++ ':' :: rest))
    (word : IsKeyWord w) (gap : atGapOrEnd rest = true) (inside : ∀ i ∈ columns.head?, i ≤ n') :
    Reaches s rest (n' + w.length + 1) (keyColumns columns n') false
      (kinds ++ keyOpening columns n' ++ [.key, .scalar true (String.ofList w), .value]) := by
  obtain ⟨m, ready, column, rfl, runs⟩ := h
  obtain ⟨m', rfl, ahead⟩ := blanks m column
  refine ⟨_, _, ?_, ?_, runs.trans (run_key ahead word gap inside)⟩
  · simp [Mark.right, Mark.past_column]
  · simp [keyOpening_reverse, Function.comp_def]

theorem entry (h : Reaches s cs n columns b kinds) (blanks : Skips b n cs true n' ('-' :: rest))
    (gap : atGapOrEnd rest = true) (first : 0 < n') (deeper : ∀ i ∈ columns.head?, i < n') :
    Reaches s rest (n' + 1) (n' :: columns) true
      (kinds ++ [.blockSequenceStart, .blockEntry]) := by
  obtain ⟨m, ready, column, rfl, runs⟩ := h
  obtain ⟨m', rfl, ahead⟩ := blanks m column
  refine ⟨_, _, ?_, ?_, runs.trans (run_entry ahead deeper first gap)⟩
  · rfl
  · simp

theorem scalar {isPlain : Bool} {text : List Char} {column' : Nat}
    (h : Reaches s cs n columns false kinds) (blanks : Skips false n cs false n' (d :: ds))
    (inside : ∀ i ∈ columns.head?, i ≤ n')
    {read : Lexer → Cursor → Option Reading}
    (begins : ∀ l : Lexer, l.outer = [] → l.cursor.mark.column = n' →
      step d ds l = lineScalar isPlain (read l) l)
    (reads : ∀ l : Lexer, l.outer = [] → l.columns = columns → ∀ m : Mark, m.column = n' →
      ∃ m' : Mark, m'.column = column' ∧ read l ⟨d :: ds, m⟩ = some ⟨text, ⟨rest, m'⟩, b⟩)
    (less : rest.length ≤ ds.length) :
    Reaches s rest column' columns b (kinds ++ [.scalar isPlain (String.ofList text)]) := by
  obtain ⟨m, ready, column, rfl, runs⟩ := h
  obtain ⟨m', rfl, ahead⟩ := blanks m column
  obtain ⟨m'', rfl, reading⟩ := reads (resting ⟨d :: ds, m'⟩ columns false ready) rfl rfl m' rfl
  refine ⟨_, _, ?_, ?_, runs.trans (run_scalar ahead inside (begins _ rfl rfl) reading less)⟩
  · rfl
  · simp

theorem finish (h : Reaches s cs n columns b kinds) (blanks : Skips b n cs b' 0 []) :
    (run (Lexer.start s)).ready.reverse.map Token.kind =
      kinds ++ List.replicate columns.length .blockEnd ++ [.streamEnd] := by
  obtain ⟨m, ready, column, rfl, runs⟩ := h
  obtain ⟨m', first, ahead⟩ := blanks m column
  rw [runs, run_end ahead first]
  simp [resting]

section

variable {words : List (List Char)} {tail : List Char}

theorem plain {i k : Nat} (line : IsLine words)
    (unmarked : ∀ w ∈ words, ∀ c ∈ w, isIndicator c = false)
    (h : Reaches s (' ' :: (spaced words ++ tail)) n (i :: columns) false kinds) (inside : i ≤ n)
    (ends : ∀ m, ∃ m' : Mark, m'.column = k ∧
      readPlain false (i + 1) m .none tail = some ⟨[], ⟨rest, m'⟩, true⟩)
    (less : rest.length ≤ tail.length) :
    Reaches s rest k (i :: columns) true
      (kinds ++ [.scalar true (String.ofList (spaced words))]) := by
  obtain ⟨d, ds, text, ordinary, w, mem, mem'⟩ := line.exists_first
  rw [text, List.cons_append] at h
  have blanks : Skips false n (' ' :: d :: (ds ++ tail)) false (n + 1) (d :: (ds ++ tail)) :=
    .space (.stop (endsBlanks_of_isOrdinary ordinary) _ _ _)
  have begins : ∀ l : Lexer, l.outer = [] → l.cursor.mark.column = n + 1 →
      step d (ds ++ tail) l =
        l.lineScalar true fun k => readPlain l.inFlow l.nextColumn k.mark .none k.rest := by
    intro l _ column
    exact step_plain (not_isGap_of_isOrdinary ordinary) (unmarked w mem d mem')
      (not_atDocumentMark (column ▸ Nat.succ_pos n) _)
  refine h.scalar blanks (by simpa using Nat.le_succ_of_le inside) begins ?_ ?_
  · intro l outer same m column
    obtain ⟨m', column', ending⟩ := ends (m.past (spaced words))
    refine ⟨m', column', ?_⟩
    have oneLine : l.inFlow = false := by simp [inFlow, outer]
    have indent : l.nextColumn = i + 1 := by simp [nextColumn, same]
    have reading := (takesWords_plain (i + 1)).spaced line (m := m) (g := .none) rfl
      (not_atDocumentMark (column ▸ Nat.succ_pos n) (spaced words ++ tail))
    rw [ending, text] at reading
    simpa [oneLine, indent, text, Reading.lead, Gap.text, Gap.none] using reading
  · rw [List.length_append]
    omega

theorem quoted {quote : Char} {read : Mark → Gap → List Char → Option Reading}
    (line : IsLine words) (takes : TakesWords read) (mark : endsBlanks quote = true)
    (begins : ∀ ds l, step quote ds l =
      lineScalar false (fun k => read k.skip.mark .none k.skip.rest) l)
    (ends : ∀ m, read m .none (quote :: rest) = some ⟨[], ⟨rest, m.right quote⟩, false⟩)
    (h : Reaches s (' ' :: quote :: (spaced words ++ quote :: rest)) n columns false kinds)
    (inside : ∀ i ∈ columns.head?, i ≤ n) :
    ∃ k, Reaches s rest k columns false
      (kinds ++ [.scalar false (String.ofList (spaced words))]) := by
  have level : ∀ i ∈ columns.head?, i ≤ n + 1 := fun i mem => Nat.le_succ_of_le (inside i mem)
  refine ⟨n + 1 + 1 + (spaced words).length + 1,
    h.scalar (.space (.stop mark _ _ _)) level (fun l _ _ => begins _ l) ?_ ?_⟩
  · rintro l - - m column
    refine ⟨((m.right quote).past (spaced words)).right quote, ?_, ?_⟩
    · simp [Mark.right, Mark.past_column, column]
    · have reading := takes.spaced line (m := m.right quote) (g := .none) rfl
        (not_atDocumentMark (Nat.succ_pos _) (spaced words ++ quote :: rest))
      rw [ends] at reading
      simpa [Cursor.skip, Reading.lead, Gap.text, Gap.none] using reading
  · rw [List.length_append, List.length_cons]
    omega

end

end Reaches

end FontAccessors.Yaml.Lexer
