import FontAccessors.Proofs.Yaml.Scalar
import FontAccessors.Yaml.Lexer
import Mathlib.Data.List.TakeWhile

/-!
# Tokens of blocks

A lexer that rests has given out all its tokens and waits for none to begin a key.

* `run_key`: a word before a colon is a key, the first one of a mapping or a further one.
* `run_entry`, `run_scalar`: a hyphen begins a sequence; a scalar after a colon is a value.
* `run_end`: at the end, what is open closes.
-/

namespace FontAccessors.Yaml.Lexer

variable {c : Cursor} {columns : List Nat} {b allowed : Bool} {ready queue : List Token}
  {key : Option PendingKey} {m : Mark} {d : Char} {w ds rest : List Char} {l l' l'' : Lexer}

theorem skipBlanks_length_le (inFlow keyAllowed inComment : Bool) (m : Mark) (cs : List Char) :
    (skipBlanks inFlow keyAllowed inComment m cs).2.rest.length ≤ cs.length := by
  fun_induction skipBlanks inFlow keyAllowed inComment m cs with
  | case1 => exact Nat.le_refl _
  | case2 keyAllowed inComment m cs ih => exact Nat.le_trans ih (by simp; omega)
  | case3 keyAllowed inComment m c cs _ _ ih => exact Nat.le_trans ih (by simp)
  | case4 keyAllowed inComment m c cs _ _ _ ih => exact Nat.le_trans ih (by simp)
  | case5 => exact Nat.le_refl _

theorem run_step (next : l.next = some l') (release : l'.release = some l'')
    (going : l''.isFinished = false)
    (less : l''.cursor.rest.length < l.cursor.rest.length) : l.run = l''.run := by
  rw [run, next]
  simp only [release, going, if_pos less, Bool.false_eq_true, if_false]

def resting (c : Cursor) (columns : List Nat) (keyAllowed : Bool) (ready : List Token) : Lexer :=
  ⟨c, columns, none, [], keyAllowed, ready, []⟩

theorem closeBlocks_inside (inside : ∀ i ∈ columns.head?, i ≤ m.column) :
    closeBlocks (· ≤ m.column) ⟨c, columns, key, [], b, ready, queue⟩ =
      ⟨c, columns, key, [], b, ready, queue⟩ := by
  cases columns with
  | nil => simp [closeBlocks, inFlow]
  | cons i columns =>
    have open' : i ≤ m.column := inside i rfl
    simp [closeBlocks, inFlow, open']

theorem dropStale_live (live : ∀ k ∈ key, isStale c.mark k = false) :
    dropStale ⟨c, columns, key, [], b, ready, queue⟩ =
      some ⟨c, columns, key, [], b, ready, queue⟩ := by
  cases key with
  | none => rfl
  | some k => simp [dropStale, freshKey, live k rfl]

theorem live_none (m : Mark) : ∀ k ∈ (none : Option PendingKey), isStale m k = false :=
  nofun

theorem next_eq (ahead : skipBlanks false b false c.mark c.rest = (allowed, ⟨d :: ds, m⟩))
    (live : ∀ k ∈ key, isStale m k = false) (inside : ∀ i ∈ columns.head?, i ≤ m.column) :
    next ⟨c, columns, key, [], b, ready, queue⟩ =
      step d ds ⟨⟨d :: ds, m⟩, columns, key, [], allowed, ready, queue⟩ := by
  have blanks : skipBlanks (inFlow ⟨c, columns, key, [], b, ready, queue⟩) b false c.mark c.rest =
    (allowed, ⟨d :: ds, m⟩) := ahead
  rw [next]
  simp only [blanks, dropStale_live (c := ⟨d :: ds, m⟩) live, closeBlocks_inside inside,
    Option.bind_eq_bind, Option.bind_some]

theorem release_free (c : Cursor) (columns : List Nat) (b : Bool) (ready queue : List Token) :
    release ⟨c, columns, none, [], b, ready, queue⟩ =
      some (resting c columns b (queue.reverse ++ ready)) := by
  cases queue with
  | nil => rfl
  | cons t queue =>
    rw [release, dropStale_live (live_none c.mark)]
    simp [resting]

theorem release_waiting {k : PendingKey} (live : isStale c.mark k = false)
    (position : k.position = ready.length) :
    release ⟨c, columns, some k, [], b, ready, queue⟩ =
      some ⟨c, columns, some k, [], b, ready, queue⟩ := by
  cases queue with
  | nil => rfl
  | cons t queue =>
    rw [release, dropStale_live (by rintro _ ⟨⟩; exact live)]
    simp [position]

theorem nextColumn_le_iff {n : Nat} : l.nextColumn ≤ n ↔ ∀ i ∈ l.columns.head?, i < n := by
  rw [nextColumn]
  cases l.columns with
  | nil => simp
  | cons i is =>
    simp only [List.head?_cons, Option.mem_def, Option.some.injEq, forall_eq']
    exact Nat.succ_le_iff

theorem openBlock_deeper {k : TokenKind} {position : Option Nat} (outer : l.outer = [])
    (deeper : ∀ i ∈ l.columns.head?, i < m.column) :
    l.openBlock k m position =
      let l := position.elim (l.enqueue ⟨k, m, m⟩) (l.insertAt · ⟨k, m, m⟩)
      { l with columns := m.column :: l.columns } := by
  have column := nextColumn_le_iff.2 deeper
  simp [openBlock, inFlow, outer, column]

theorem openBlock_level {k : TokenKind} {position : Option Nat}
    (level : l.columns.head? = some m.column) : l.openBlock k m position = l := by
  have column : ¬l.nextColumn ≤ m.column := by simp [nextColumn_le_iff, level]
  simp [openBlock, column]

theorem run_resting (ahead : skipBlanks false b false c.mark c.rest = (allowed, ⟨d :: ds, m⟩))
    (inside : ∀ i ∈ columns.head?, i ≤ m.column) {c' : Cursor} {columns' : List Nat} {b' : Bool}
    (step : step d ds (resting ⟨d :: ds, m⟩ columns allowed ready) =
      some ⟨c', columns', none, [], b', ready, queue⟩)
    (going : isFinished (resting c' columns' b' (queue.reverse ++ ready)) = false)
    (less : c'.rest.length ≤ ds.length) :
    run (resting c columns b ready) = run (resting c' columns' b' (queue.reverse ++ ready)) := by
  have next : next (resting c columns b ready) = _ :=
    (next_eq ahead (live_none m) inside).trans step
  have length := skipBlanks_length_le false b false c.mark c.rest
  rw [ahead] at length
  exact run_step next (release_free _ _ _ _ _) going
    (Nat.lt_of_lt_of_le (Nat.lt_succ_of_le less) length)

theorem run_entry (ahead : skipBlanks false b false c.mark c.rest = (true, ⟨'-' :: ds, m⟩))
    (deeper : ∀ i ∈ columns.head?, i < m.column) (first : 0 < m.column)
    (gap : atGapOrEnd ds = true) :
    run (resting c columns b ready) =
      run (resting ⟨ds, m.right '-'⟩ (m.column :: columns) true
        (⟨.blockEntry, m, m.right '-'⟩ :: ⟨.blockSequenceStart, m, m⟩ :: ready)) := by
  have entry : step '-' ds (resting ⟨'-' :: ds, m⟩ columns true ready) =
      blockEntry (resting ⟨'-' :: ds, m⟩ columns true ready) := by
    simp [step, resting, not_atDocumentMark first, gap]
  have steps : step '-' ds (resting ⟨'-' :: ds, m⟩ columns true ready) =
      some ⟨⟨ds, m.right '-'⟩, m.column :: columns, none, [], true, ready,
        [⟨.blockSequenceStart, m, m⟩, ⟨.blockEntry, m, m.right '-'⟩]⟩ := by
    rw [entry, blockEntry, openBlock_deeper rfl deeper]
    rfl
  exact run_resting ahead (fun i mem => Nat.le_of_lt (deeper i mem)) steps rfl (Nat.le_refl _)

theorem run_scalar {isPlain : Bool} {read : Cursor → Option Reading} {r : Reading}
    (ahead : skipBlanks false false false c.mark c.rest = (false, ⟨d :: ds, m⟩))
    (inside : ∀ i ∈ columns.head?, i ≤ m.column)
    (begins : step d ds (resting ⟨d :: ds, m⟩ columns false ready) =
      lineScalar isPlain read (resting ⟨d :: ds, m⟩ columns false ready))
    (reads : read ⟨d :: ds, m⟩ = some r) (less : r.after.rest.length ≤ ds.length) :
    run (resting c columns false ready) = run (resting r.after columns r.endsLine
      (⟨.scalar isPlain (String.ofList r.text), m, r.after.mark⟩ :: ready)) := by
  have steps : step d ds (resting ⟨d :: ds, m⟩ columns false ready) =
      some ⟨r.after, columns, none, [], r.endsLine, ready,
        [⟨.scalar isPlain (String.ofList r.text), m, r.after.mark⟩]⟩ := by
    rw [begins, lineScalar]
    simp [saveKey, resting, reads, takeTo, enqueue, setKeyAllowed]
  exact run_resting ahead inside steps rfl less

structure IsKeyWord (w : List Char) : Prop where
  nonempty : w ≠ []
  ordinary : ∀ c ∈ w, isOrdinary c = true
  unmarked : ∀ c ∈ w, isIndicator c = false ∧ c ≠ '.'
  short : w.length ≤ 256

theorem step_plain (noGap : isGap d = false) (unmarked : isIndicator d = false)
    (inText : atDocumentMark l.cursor.mark (d :: ds) = false) : step d ds l =
      l.lineScalar true fun k => readPlain l.inFlow l.nextColumn k.mark .none k.rest := by
  have other (x : Char) (mark : isIndicator x = true) : d ≠ x := by
    rintro rfl
    rw [unmarked] at mark
    cases mark
  simp [step, startsPlain, inText, noGap, unmarked, other '%' (by decide), other '[' (by decide),
    other ']' (by decide), other '\x7b' (by decide), other '\x7d' (by decide),
    other ',' (by decide), other '-' (by decide), other '?' (by decide), other ':' (by decide),
    other '*' (by decide), other '&' (by decide), other '!' (by decide), other '|' (by decide),
    other '>' (by decide), other '\'' (by decide), other '"' (by decide)]

def waiting (w rest : List Char) (m : Mark) (columns : List Nat) (isRequired : Bool)
    (ready : List Token) : Lexer :=
  ⟨⟨':' :: rest, m.past w⟩, columns, some ⟨isRequired, ready.length, m⟩, [], false, ready,
    [⟨.scalar true (String.ofList w), m, m.past w⟩]⟩

theorem not_isStale (short : w.length ≤ 256) (isRequired : Bool) (position : Nat) :
    isStale (m.past w) ⟨isRequired, position, m⟩ = false := by
  have far := Mark.past_index_le (m := m) (w := w)
  simp only [isStale, Mark.past_line, Bool.or_eq_false_iff, decide_eq_false_iff_not]
  omega

theorem run_word (ahead : skipBlanks false b false c.mark c.rest = (true, ⟨w ++ ':' :: rest, m⟩))
    (word : IsKeyWord w) (gap : atGapOrEnd rest = true)
    (inside : ∀ i ∈ columns.head?, i ≤ m.column) :
    run (resting c columns b ready) =
      run (waiting w rest m columns (columns.head? == some m.column) ready) := by
  obtain ⟨nonempty, ordinary, unmarked, short⟩ := word
  obtain ⟨d, w, rfl⟩ := List.exists_cons_of_ne_nil nonempty
  obtain ⟨noSpace, noBreak, -⟩ := isOrdinary_iff.1 (ordinary d List.mem_cons_self)
  obtain ⟨indicator, dot⟩ := unmarked d List.mem_cons_self
  have hyphen : d ≠ '-' := by
    rintro rfl
    cases indicator
  have inText : atDocumentMark m (d :: (w ++ ':' :: rest)) = false :=
    not_atDocumentMark_of_ne hyphen dot
  -- The word is a plain scalar, which the colon ends wherever the block is.
  have reads (indent : Nat) :
      readPlain false indent m .none (d :: (w ++ ':' :: rest)) =
        some ⟨d :: w, ⟨':' :: rest, m.past (d :: w)⟩, false⟩ := by
    rw [← List.cons_append, (takesWords_plain indent).word nonempty ordinary rfl inText,
      readPlain_colon gap]
    simp [Reading.lead, Gap.text, Gap.none]
  have next : next (resting c columns b ready) =
      some (waiting (d :: w) rest m columns (columns.head? == some m.column) ready) := by
    have noGap : isGap d = false := Bool.or_eq_false_iff.2 ⟨noSpace, noBreak⟩
    rw [resting, next_eq ahead (live_none m) inside, step_plain noGap indicator inText]
    simp [lineScalar, saveKey, dropKey, inFlow, reads, waiting, takeTo, enqueue, setKeyAllowed]
  have length := skipBlanks_length_le false b false c.mark c.rest
  rw [ahead] at length
  refine run_step next (release_waiting (not_isStale short _ _) rfl) rfl
    (Nat.lt_of_lt_of_le ?_ length)
  simp only [waiting, List.length_append, List.length_cons]
  omega

theorem next_waiting {isRequired : Bool} (short : w.length ≤ 256) (gap : atGapOrEnd rest = true)
    (inside : ∀ i ∈ columns.head?, i ≤ m.column) :
    next (waiting w rest m columns isRequired ready) =
      valueMark (waiting w rest m columns isRequired ready) := by
  have live : ∀ k ∈ some (⟨isRequired, ready.length, m⟩ : PendingKey),
      isStale (m.past w) k = false := by
    rintro _ ⟨⟩
    exact not_isStale short _ _
  have further : ∀ i ∈ columns.head?, i ≤ (m.past w).column := by
    intro i mem
    rw [Mark.past_column]
    exact Nat.le_add_right_of_le (inside i mem)
  have ahead : skipBlanks false false false (m.past w) (':' :: rest) =
    (false, ⟨':' :: rest, m.past w⟩) := by
    rw [skipBlanks]
    · simp [isBreak]
    · exact not_return rfl
  rw [waiting, next_eq ahead live further]
  simp [step, not_atDocumentMark_of_ne, gap]

def keyColumns (columns : List Nat) (n : Nat) : List Nat :=
  if columns.head? = some n then columns else n :: columns

def keyOpening (columns : List Nat) (n : Nat) : List TokenKind :=
  if columns.head? = some n then [] else [.blockMappingStart]

theorem keyOpening_reverse (columns : List Nat) (n : Nat) :
    (keyOpening columns n).reverse = keyOpening columns n := by
  rw [keyOpening]
  split <;> rfl

theorem run_colon (short : w.length ≤ 256) (isRequired : Bool) (gap : atGapOrEnd rest = true)
    (inside : ∀ i ∈ columns.head?, i ≤ m.column) :
    run (waiting w rest m columns isRequired ready) =
      run (resting ⟨rest, (m.past w).right ':'⟩ (keyColumns columns m.column) false
        (⟨.value, m.past w, (m.past w).right ':'⟩ ::
          ⟨.scalar true (String.ofList w), m, m.past w⟩ :: ⟨.key, m, m⟩ ::
            ((keyOpening columns m.column).map (⟨·, m, m⟩) ++ ready))) := by
  have value : valueMark (waiting w rest m columns isRequired ready) =
      some ⟨⟨rest, (m.past w).right ':'⟩, keyColumns columns m.column, none, [], false, ready,
        (keyOpening columns m.column).map (⟨·, m, m⟩) ++
          [⟨.key, m, m⟩, ⟨.scalar true (String.ofList w), m, m.past w⟩,
            ⟨.value, m.past w, (m.past w).right ':'⟩]⟩ := by
    rw [valueMark, keyColumns, keyOpening]
    simp only [waiting]
    by_cases level : columns.head? = some m.column
    · rw [openBlock_level level, if_pos level, if_pos level]
      simp [insertAt, take, enqueue, setKeyAllowed, Cursor.skipN, Cursor.skip]
    · have deeper : ∀ i ∈ columns.head?, i < m.column := by
        intro i mem
        refine Nat.lt_of_le_of_ne (inside i mem) ?_
        rintro rfl
        exact level mem
      rw [openBlock_deeper rfl deeper, if_neg level, if_neg level]
      simp [insertAt, take, enqueue, setKeyAllowed, Cursor.skipN, Cursor.skip]
  have release := release_free ⟨rest, (m.past w).right ':'⟩ (keyColumns columns m.column) false
    ready ((keyOpening columns m.column).map (⟨·, m, m⟩) ++
      [⟨.key, m, m⟩, ⟨.scalar true (String.ofList w), m, m.past w⟩,
        ⟨.value, m.past w, (m.past w).right ':'⟩])
  rw [List.reverse_append, ← List.map_reverse, keyOpening_reverse] at release
  exact run_step ((next_waiting short gap inside).trans value) release rfl (Nat.lt_succ_self _)

theorem run_key (ahead : skipBlanks false b false c.mark c.rest = (true, ⟨w ++ ':' :: rest, m⟩))
    (word : IsKeyWord w) (gap : atGapOrEnd rest = true)
    (inside : ∀ i ∈ columns.head?, i ≤ m.column) :
    run (resting c columns b ready) =
      run (resting ⟨rest, (m.past w).right ':'⟩ (keyColumns columns m.column) false
        (⟨.value, m.past w, (m.past w).right ':'⟩ ::
          ⟨.scalar true (String.ofList w), m, m.past w⟩ :: ⟨.key, m, m⟩ ::
            ((keyOpening columns m.column).map (⟨·, m, m⟩) ++ ready))) :=
  (run_word ahead word gap inside).trans (run_colon word.short _ gap inside)

theorem closeAll_closeBlocks (isInside : Nat → Bool) :
    closeAll (closeBlocks isInside ⟨c, columns, key, [], b, ready, queue⟩) =
      ⟨c, [], key, [], b, ready,
        queue ++ List.replicate columns.length ⟨.blockEnd, c.mark, c.mark⟩⟩ := by
  have all (l : List Nat) : l.takeWhile (fun _ => true) = l :=
    List.takeWhile_eq_self_iff.2 (by simp)
  have closed := (List.takeWhile_prefix (l := columns) (!isInside ·)).length_le
  simp only [closeAll, closeBlocks, inFlow, List.isEmpty_nil, Bool.not_true, Bool.false_eq_true,
    if_false, Bool.not_false, all, List.drop_drop, List.drop_length, List.map_const',
    List.append_assoc, List.replicate_append_replicate, List.length_drop,
    Nat.add_sub_cancel' closed]

theorem streamEnd_eq (h : l.cursor = ⟨[], m⟩) (first : m.column = 0) :
    l.streamEnd = l.closeAll.dropKey.map fun l => (l.take .streamEnd 0).setKeyAllowed false := by
  obtain ⟨cursor, columns, pending, outer, keyAllowed, ready, queue⟩ := l
  cases h
  simp [streamEnd, first]

theorem run_end (ahead : skipBlanks false b false c.mark c.rest = (allowed, ⟨[], m⟩))
    (first : m.column = 0) :
    run (resting c columns b ready) = resting ⟨[], m⟩ [] false
      (⟨.streamEnd, m, m⟩ :: (List.replicate columns.length ⟨.blockEnd, m, m⟩ ++ ready)) := by
  have blanks : skipBlanks (inFlow (resting c columns b ready)) b false c.mark c.rest =
    (allowed, ⟨[], m⟩) := ahead
  have closed : closeAll (closeBlocks (· ≤ m.column)
      ⟨⟨[], m⟩, columns, none, [], allowed, ready, []⟩) = _ := closeAll_closeBlocks _
  have next : next (resting c columns b ready) = some ⟨⟨[], m⟩, [], none, [], false, ready,
      List.replicate columns.length ⟨.blockEnd, m, m⟩ ++ [⟨.streamEnd, m, m⟩]⟩ := by
    have live := live_none m
    rw [Lexer.next]
    simp only [resting] at blanks ⊢
    simp only [blanks, dropStale_live (c := ⟨[], m⟩) live, Option.bind_eq_bind, Option.bind_some]
    have cursor : (closeBlocks (· ≤ m.column)
        ⟨⟨[], m⟩, columns, none, [], allowed, ready, []⟩).cursor = ⟨[], m⟩ := rfl
    simp only [cursor, streamEnd_eq cursor first, closed]
    rfl
  rw [run, next]
  simp only [release_free]
  simp [resting, isFinished]

end FontAccessors.Yaml.Lexer
