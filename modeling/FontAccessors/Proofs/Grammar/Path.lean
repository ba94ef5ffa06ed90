import FontAccessors.Grammar.Source
import FontAccessors.Proofs.Grammar.Segment
import FontAccessors.Proofs.Token.Reading

namespace FontAccessors.Grammar
open Lexeme Token Text

def IsPathName (i : Ident) : Prop :=
  IsWritable i ∧
    (isName i = true ∨ i.isRaw = false ∧ i.name ∈ ["try", "super", "self", "crate", "Self"])

def Path.ofNames (isRooted : Bool) (i : Ident) (is : List Ident) : Path :=
  ⟨[], isRooted, (i :: is).map (⟨·, .none⟩)⟩

def moreChars (is : List Ident) : List Char :=
  is.flatMap fun j => ':' :: ':' :: j.chars

def moreTokens (is : List Ident) : List Token :=
  is.flatMap fun j => operator "::" ++ [.ident j]

def pathChars (isRooted : Bool) (i : Ident) (is : List Ident) : List Char :=
  (if isRooted then [':', ':'] else []) ++ (i.chars ++ moreChars is)

/-- The text is a path of names without blanks or comments. -/
def IsPlainPath (text : String) : Prop :=
  ∃ isRooted i is, text.toList = pathChars isRooted i is ∧ ∀ j ∈ i :: is, IsPathName j

theorem segmentTokens_cons (s : Segment) (ss : List Segment) :
    Path.segmentTokens (s :: ss) = s.tokens ++ ss.flatMap fun s => operator "::" ++ s.tokens := by
  induction ss generalizing s with
  | nil => simp [Path.segmentTokens]
  | cons s' ss ih =>
    rw [Path.segmentTokens, ih, List.flatMap_cons]
    · simp only [List.append_assoc]
    · nofun

theorem moreTokens_eq (is : List Ident) :
    moreTokens is = (is.map (⟨·, .none⟩)).flatMap fun s : Segment => operator "::" ++ s.tokens := by
  simp [moreTokens, List.flatMap_map, Segment.tokens, Arguments.tokens]

theorem tokens_ofNames (isRooted : Bool) (i : Ident) (is : List Ident) :
    (Path.ofNames isRooted i is).tokens =
      (if isRooted then operator "::" else []) ++ .ident i :: moreTokens is := by
  rw [Path.tokens, Path.ofNames, List.map_cons, segmentTokens_cons, moreTokens_eq]
  rfl

theorem complete_colons {s : List Char} {ls : List Lexeme} (h : Complete s ls)
    (ends : startsMark s = false) (nonempty : s ≠ []) :
    Complete (':' :: ':' :: s) (flatAll (operator "::") ++ ls) := by
  have second : cut (':' :: s) = some ([.token (.punct ':' .alone)], s) := by
    have mark : cut (':' :: s) =
        some ([.token (.punct ':' (if startsMark s then .joint else .alone))], s) := rfl
    rw [mark, ends]
    rfl
  have first : cut (':' :: ':' :: s) = some ([.token (.punct ':' .joint)], ':' :: s) := rfl
  exact (h.of_cut second (Nat.lt_succ_self _) (absurd · nonempty)).of_cut first
    (Nat.lt_succ_self _) nofun

theorem nameEnds_moreChars (is : List Ident) : NameEnds (moreChars is) := by
  cases is with
  | nil => exact nameEnds_of_separated separated_nil
  | cons j is => exact nameEnds_of_separated (separated_cons (by decide) _)

theorem complete_names {i : Ident} {is : List Ident} (writable : ∀ j ∈ i :: is, IsWritable j) :
    Complete (i.chars ++ moreChars is) (flatAll (.ident i :: moreTokens is)) := by
  induction is generalizing i with
  | nil => exact complete_name (writable i List.mem_cons_self) (nameEnds_moreChars []) complete_nil
  | cons j is ih =>
    have writable' : ∀ k ∈ j :: is, IsWritable k := fun k mem =>
      writable k (List.mem_cons_of_mem _ mem)
    obtain ⟨c, cs, text, start⟩ :=
      head_of_name (writable' j List.mem_cons_self) (nameEnds_moreChars is)
    have more : Complete (moreChars (j :: is)) (flatAll (moreTokens (j :: is))) := by
      have names := complete_colons (ih writable') (by rw [text]; exact startsMark_of_name start _)
        (by rw [text]; exact List.cons_ne_nil _ _)
      simpa [moreChars, moreTokens, flat] using names
    exact complete_name (writable i List.mem_cons_self) (nameEnds_moreChars _) more

theorem complete_pathChars (isRooted : Bool) {i : Ident} {is : List Ident}
    (writable : ∀ j ∈ i :: is, IsWritable j) :
    Complete (pathChars isRooted i is) (flatAll (Path.ofNames isRooted i is).tokens) := by
  have names := complete_names writable
  rw [tokens_ofNames, pathChars]
  cases isRooted with
  | false => exact names
  | true =>
    obtain ⟨c, cs, text, start⟩ :=
      head_of_name (writable i List.mem_cons_self) (nameEnds_moreChars is)
    have rooted := complete_colons names (by rw [text]; exact startsMark_of_name start _)
      (by rw [text]; exact List.cons_ne_nil _ _)
    simpa using rooted

theorem pathChars_unmarked (isRooted : Bool) {i : Ident} (is : List Ident)
    (writable : IsWritable i) : (pathChars isRooted i is).head? ≠ some '\uFEFF' := by
  obtain ⟨c, cs, text, start⟩ := head_of_name writable (nameEnds_moreChars is)
  have mark : c ≠ '\uFEFF' := by
    have other : isIdentStart '\uFEFF' = false := by decide +kernel
    rintro rfl
    rw [other] at start
    cases start
  rw [pathChars, text]
  cases isRooted <;> simp [mark]

def EndsPath (ts : List Token) : Prop :=
  ts = [] ∨ ∃ d content rest, d ≠ .invisible ∧ ts = .group d content :: rest

theorem EndsPath.markAt {ts : List Token} (ends : EndsPath ts) : markAt? ts = none := by
  rcases ends with rfl | ⟨d, content, rest, visible, rfl⟩
  · exact markAt_nil
  · simp [markAt?, enter_group visible]

section

variable {is : List Ident} {ts : List Token} {g : Rules} {n : Nat}

theorem moreTokens_cons (j : Ident) (is : List Ident) (ts : List Token) :
    moreTokens (j :: is) ++ ts =
      .punct ':' .joint :: .punct ':' .alone :: .ident j :: (moreTokens is ++ ts) := by
  simp [moreTokens, operator, operatorTokens]

theorem not_atMark_more {m : String} (h : m.toList.head? ≠ some ':') (is : List Ident)
    (ends : EndsPath ts) : atMark m (moreTokens is ++ ts) = false := by
  cases is with
  | nil => exact atMark_of_none ends.markAt m
  | cons j is =>
    rw [moreTokens_cons]
    exact atMark_of_ne h

theorem not_atArguments_more (inExpr : Bool) (is : List Ident) (ends : EndsPath ts) :
    atArguments inExpr (moreTokens is ++ ts) = false := by
  have turbofish : atTurbofish (moreTokens is ++ ts) = false := by
    cases is with
    | nil => simp [atTurbofish, moreTokens, atMark_of_none ends.markAt]
    | cons j is =>
      have name (ts : List Token) : atMark "<" (.ident j :: ts) = false :=
        atMark_of_none (markAt_ident j ts) _
      simp [atTurbofish, moreTokens_cons, third, skip, name]
  rw [atArguments, turbofish, not_atMark_more (by decide) is ends, Bool.and_false]
  rfl

theorem IsPathName.isSegmentWord {i : Ident} (named : IsPathName i) : IsSegmentWord i := by
  obtain ⟨name, isRaw⟩ := i
  obtain ⟨-, free | ⟨raw, mem⟩⟩ := named
  · cases isRaw <;> simp_all [IsSegmentWord, IsSegmentName, isName]
  · simp_all [IsSegmentWord, IsSegmentName, pathWords, Ident.plain]
    grind

theorem segmentsAfter_more (inExpr : Bool) (enough : is.length < n)
    (named : ∀ j ∈ is, IsSegmentWord j) (ends : EndsPath ts) :
    segmentsAfter g inExpr n (moreTokens is ++ ts) = some (is.map (⟨·, .none⟩), ts) := by
  obtain ⟨m, rfl⟩ : ∃ m, n = m + 1 := ⟨n - 1, by omega⟩
  induction is generalizing m with
  | nil => simp [segmentsAfter, moreTokens, atMark_of_none ends.markAt]
  | cons j is ih =>
    rw [List.length_cons] at enough
    obtain ⟨m, rfl⟩ : ∃ m', m = m' + 1 := ⟨m - 1, by omega⟩
    have more := ih (fun k mem => named k (List.mem_cons_of_mem _ mem)) m (by omega)
    have colons (ts : List Token) : operatorAt? [':', ':']
        (.punct ':' .joint :: .punct ':' .alone :: ts) = some ts := by
      simp [operatorAt?, markAt?]
    have name := segment_bare (g := g) (n := m + 1) (named j List.mem_cons_self)
      (not_atArguments_more inExpr is ends)
    rw [segmentsAfter, moreTokens_cons]
    simp [atMark, colons, mark, third, skip, atGroup, name, more]

end

theorem length_moreTokens (is : List Ident) : (moreTokens is).length = 3 * is.length := by
  induction is with
  | nil => rfl
  | cons j is ih =>
    have front : (moreTokens (j :: is)).length = 3 + (moreTokens is).length := by
      simp [moreTokens, operator, operatorTokens]
      omega
    rw [front, ih, List.length_cons]
    omega

theorem ofTokens_ofNames {isRooted : Bool} {i : Ident} {is : List Ident}
    (words : ∀ j ∈ i :: is, IsSegmentWord j) :
    Path.ofTokens? (Path.ofNames isRooted i is).tokens = some (Path.ofNames isRooted i is) := by
  have nothing : EndsPath [] := .inl rfl
  have bare := not_atArguments_more false is nothing
  have front := segment_bare (g := rules (depth (Path.ofNames isRooted i is).tokens))
    (n := depth (Path.ofNames isRooted i is).tokens) (words i List.mem_cons_self) bare
  have enough : is.length < depth (Path.ofNames isRooted i is).tokens := by
    have weight := length_le_totalWeight (moreTokens is)
    rw [length_moreTokens] at weight
    rw [depth, tokens_ofNames, totalWeight_append, totalWeight_cons]
    omega
  have more := segmentsAfter_more (g := rules (depth (Path.ofNames isRooted i is).tokens)) false
    enough (fun j mem => words j (List.mem_cons_of_mem _ mem)) nothing
  rw [List.append_nil] at front more
  have root_eq : root (Path.ofNames isRooted i is).tokens =
      some (isRooted, .ident i :: moreTokens is) := by
    rw [tokens_ofNames]
    cases isRooted with
    | false => simp [root, maybeMark, whenAt, atMark_of_none]
    | true =>
      simp [root, maybeMark, whenAt, operator, operatorTokens, atMark, mark, operatorAt?, markAt?]
  rw [Path.ofTokens?, whole]
  simp [path, root_eq, front, Path.extend, more, isSpent]
  rfl

section

variable {text : String} {isRooted : Bool} {i : Ident} {is : List Ident}
  (chars : text.toList = pathChars isRooted i is) (named : ∀ j ∈ i :: is, IsPathName j)

include chars named

theorem lex_pathText : lex text = some (Path.ofNames isRooted i is).tokens ∧
    text.toList.head? ≠ some '\uFEFF' ∧ endsInComment text.toList = false := by
  have writable : ∀ j ∈ i :: is, IsWritable j := fun j mem => (named j mem).1
  have complete := complete_pathChars isRooted writable
  have unmarked := pathChars_unmarked isRooted is (writable i List.mem_cons_self)
  rw [← chars] at complete unmarked
  exact ⟨lex_of_complete complete unmarked, unmarked, complete.2⟩

theorem ofText_pathText : Path.ofText? text = some (Path.ofNames isRooted i is) := by
  rw [Path.ofText?, (lex_pathText chars named).1]
  exact ofTokens_ofNames fun j mem => (named j mem).isSegmentWord

end

theorem exists_of_plainPath {text : String} (h : IsPlainPath text) :
    ∃ p, Path.ofText? text = some p ∧ lex text = some p.tokens ∧
      text.toList.head? ≠ some '\uFEFF' ∧ endsInComment text.toList = false := by
  obtain ⟨isRooted, i, is, chars, named⟩ := h
  exact ⟨_, ofText_pathText chars named, lex_pathText chars named⟩

end FontAccessors.Grammar
