import FontAccessors.Yaml.Scalar

namespace FontAccessors.Yaml

def isOrdinary (c : Char) : Bool :=
  !isGap c && !([':', '#', '\'', '"', '\\', '\uFEFF'].contains c)

theorem isOrdinary_iff {c : Char} : isOrdinary c = true ↔ isSpace c = false ∧ isBreak c = false ∧
    c ≠ ':' ∧ c ≠ '#' ∧ c ≠ '\'' ∧ c ≠ '"' ∧ c ≠ '\\' ∧ c ≠ '\uFEFF' := by
  simp [isOrdinary, isGap, and_assoc]

theorem not_isGap_of_isOrdinary {c : Char} (h : isOrdinary c = true) : isGap c = false := by
  obtain ⟨noSpace, noBreak, -⟩ := isOrdinary_iff.1 h
  exact Bool.or_eq_false_iff.2 ⟨noSpace, noBreak⟩

theorem not_return {c : Char} {cs : List Char} (h : isBreak c = false) (cs' : List Char) :
    c = '\r' → cs = '\n' :: cs' → False := by
  rintro rfl
  cases h

def spaced (words : List (List Char)) : List Char :=
  [' '].intercalate words

theorem spaced_singleton (w : List Char) : spaced [w] = w := by
  simp [spaced]

theorem spaced_cons_cons (w v : List Char) (ws : List (List Char)) :
    spaced (w :: v :: ws) = w ++ ' ' :: spaced (v :: ws) := by
  simp [spaced, List.intercalate]

structure IsLine (words : List (List Char)) : Prop where
  nonempty : words ≠ []
  word : ∀ w ∈ words, w ≠ [] ∧ ∀ c ∈ w, isOrdinary c = true

theorem IsLine.exists_first {words : List (List Char)} (h : IsLine words) :
    ∃ c cs, spaced words = c :: cs ∧ isOrdinary c = true ∧ ∃ w ∈ words, c ∈ w := by
  obtain ⟨nonempty, word⟩ := h
  obtain ⟨w, words, rfl⟩ := List.exists_cons_of_ne_nil nonempty
  obtain ⟨c, cs, rfl⟩ := List.exists_cons_of_ne_nil (word w List.mem_cons_self).1
  have ordinary := (word _ List.mem_cons_self).2 c List.mem_cons_self
  cases words with
  | nil => exact ⟨c, cs, spaced_singleton _, ordinary, _, List.mem_cons_self, List.mem_cons_self⟩
  | cons v words =>
    exact ⟨c, _, spaced_cons_cons _ v words, ordinary, _, List.mem_cons_self, List.mem_cons_self⟩

def Mark.past (w : List Char) (m : Mark) : Mark :=
  w.foldl (fun m c => m.right c) m

namespace Mark

variable {m : Mark} {w v : List Char}

theorem past_append : m.past (w ++ v) = (m.past w).past v :=
  List.foldl_append

theorem past_line : (m.past w).line = m.line := by
  induction w generalizing m with
  | nil => rfl
  | cons c w ih => exact ih

theorem past_column : (m.past w).column = m.column + w.length := by
  induction w generalizing m with
  | nil => rfl
  | cons c w ih =>
    rw [past, List.foldl_cons, ← past, ih]
    simp only [right, List.length_cons]
    omega

theorem past_index_le : (m.past w).index ≤ m.index + 4 * w.length := by
  induction w generalizing m with
  | nil => exact Nat.le_refl _
  | cons c w ih =>
    have width := c.utf8Size_le_four
    have rest := ih (m := m.right c)
    rw [past, List.foldl_cons, ← past]
    simp only [right, List.length_cons] at rest ⊢
    omega

end Mark

theorem not_atDocumentMark {m : Mark} (inside : 0 < m.column) (s : List Char) :
    atDocumentMark m s = false := by
  have other : m.column ≠ 0 := by omega
  simp [atDocumentMark, other]

theorem not_atDocumentMark_of_ne {m : Mark} {c : Char} {cs : List Char} (hyphen : c ≠ '-')
    (dot : c ≠ '.') : atDocumentMark m (c :: cs) = false := by
  unfold atDocumentMark
  split
  · exact absurd (List.cons.inj ‹_›).1 hyphen
  · exact absurd (List.cons.inj ‹_›).1 dot
  · exact Bool.and_false _

def Reading.lead (s : List Char) (r : Reading) : Reading :=
  { r with text := s ++ r.text }

theorem Reading.lead_snoc (s : List Char) (c : Char) :
    lead (s ++ [c]) = fun r => { r with text := s ++ c :: r.text } := by
  funext r
  simp [lead]

theorem Reading.map_lead_lead (s s' : List Char) (r : Option Reading) :
    (r.map (Reading.lead s')).map (Reading.lead s) = r.map (Reading.lead (s ++ s')) := by
  cases r <;> simp [lead]

structure TakesWords (read : Mark → Gap → List Char → Option Reading) : Prop where
  char : ∀ m g c cs, atDocumentMark m (c :: cs) = false → g.inNewLine = false →
    isOrdinary c = true →
      read m g (c :: cs) = (read (m.right c) .none cs).map (Reading.lead (g.text ++ [c]))
  space : ∀ m cs, read m .none (' ' :: cs) = read (m.right ' ') (Gap.none.addSpace ' ') cs

namespace TakesWords

variable {read : Mark → Gap → List Char → Option Reading} {m : Mark} {g : Gap} {w : List Char}

theorem word (h : TakesWords read) (nonempty : w ≠ []) (ordinary : ∀ c ∈ w, isOrdinary c = true)
    (oneLine : g.inNewLine = false) {cs : List Char}
    (inText : atDocumentMark m (w ++ cs) = false) : read m g (w ++ cs) =
      (read (m.past w) .none cs).map (Reading.lead (g.text ++ w)) := by
  induction w generalizing m g with
  | nil => exact absurd rfl nonempty
  | cons c w ih =>
    obtain ⟨first, rest⟩ := List.forall_mem_cons.1 ordinary
    rw [List.cons_append] at inText ⊢
    rw [h.char m g c _ inText oneLine first]
    cases w with
    | nil => rfl
    | cons d w =>
      rw [ih (List.cons_ne_nil d w) rest rfl (not_atDocumentMark (Nat.succ_pos _) _),
        Reading.map_lead_lead]
      simp [Mark.past, Gap.text, Gap.none]

theorem spaced (h : TakesWords read) {words : List (List Char)} (line : IsLine words)
    (oneLine : g.inNewLine = false) {cs : List Char}
    (inText : atDocumentMark m (Yaml.spaced words ++ cs) = false) :
    read m g (Yaml.spaced words ++ cs) = (read (m.past (Yaml.spaced words)) .none cs).map
      (Reading.lead (g.text ++ Yaml.spaced words)) := by
  obtain ⟨nonempty, ordinary⟩ := line
  induction words generalizing m g with
  | nil => exact absurd rfl nonempty
  | cons w words ih =>
    obtain ⟨first, rest⟩ := List.forall_mem_cons.1 ordinary
    cases words with
    | nil =>
      rw [spaced_singleton] at inText ⊢
      exact h.word first.1 first.2 oneLine inText
    | cons v words =>
      rw [spaced_cons_cons, List.append_assoc] at inText ⊢
      rw [h.word first.1 first.2 oneLine inText, List.cons_append, h.space,
        ih rfl (not_atDocumentMark (Nat.succ_pos _) _) (List.cons_ne_nil v words) rest,
        Reading.map_lead_lead, Mark.past_append]
      simp [Mark.past, Gap.text, Gap.addSpace, Gap.none]

end TakesWords

section

variable {indent : Nat} {m : Mark} {c : Char} {cs : List Char}

theorem takesWords_plain (indent : Nat) : TakesWords (readPlain false indent) where
  char m g c cs inText oneLine ordinary := by
    obtain ⟨noSpace, noBreak, colon, hash, -⟩ := isOrdinary_iff.1 ordinary
    rw [readPlain, Reading.lead_snoc]
    · simp [noBreak, noSpace, endsPlain, endsAtColon, isMisplacedColon, colon, hash, oneLine,
        inText]
    · exact not_return noBreak
  space m cs := by
    rw [readPlain]
    · rfl
    · exact not_return rfl

theorem readPlain_indentation {g : Gap} {n : Nat} (newLine : g.inNewLine = true)
    (level : m.column + n < indent) (noGap : isGap c = false) :
    readPlain false indent m g (List.replicate n ' ' ++ c :: cs) =
      some ⟨[], ⟨c :: cs, m.past (List.replicate n ' ')⟩, true⟩ := by
  induction n generalizing m with
  | zero =>
    obtain ⟨noSpace, noBreak⟩ := Bool.or_eq_false_iff.1 noGap
    have outside : m.column < indent := level
    rw [List.replicate_zero, List.nil_append, readPlain]
    · simp [noSpace, noBreak, endsPlain, newLine, outside, Mark.past]
    · exact not_return noBreak
  | succ n ih =>
    have same : g.addSpace ' ' = g := if_pos newLine
    rw [List.replicate_succ, List.cons_append, readPlain]
    · have further : (m.right ' ').column + n < indent := by
        simp only [Mark.right]
        omega
      simpa [isBreak, isSpace, same, Mark.past] using ih further
    · exact not_return rfl

theorem readPlain_line {n : Nat} (level : n < indent) (noGap : isGap c = false) :
    readPlain false indent m .none ('\n' :: (List.replicate n ' ' ++ c :: cs)) =
      some ⟨[], ⟨c :: cs, (m.down 1).past (List.replicate n ' ')⟩, true⟩ := by
  have started : (m.down 1).column + n < indent := by simpa [Mark.down] using level
  rw [readPlain]
  · exact readPlain_indentation rfl started noGap
  · nofun

theorem readPlain_colon (gap : atGapOrEnd cs = true) :
    readPlain false indent m .none (':' :: cs) = some ⟨[], ⟨':' :: cs, m⟩, false⟩ := by
  rw [readPlain]
  · simp [isBreak, isSpace, endsPlain, endsAtColon, gap, Gap.none]
  · exact not_return rfl

theorem readPlain_last : readPlain false indent m .none ['\n'] =
    some ⟨[], ⟨[], m.down 1⟩, true⟩ := by
  rw [readPlain]
  · rfl
  · nofun

theorem takesWords_single : TakesWords readSingle where
  char m g c cs inText oneLine ordinary := by
    obtain ⟨noSpace, noBreak, -, -, quote, -⟩ := isOrdinary_iff.1 ordinary
    rw [readSingle, Reading.lead_snoc]
    · simp [noBreak, noSpace, quote, inText]
    · exact not_return noBreak
    · exact fun _ same => absurd same quote
  space m cs := by
    rw [readSingle, not_atDocumentMark_of_ne (by decide) (by decide)]
    · rfl
    · exact not_return rfl
    · nofun

theorem readSingle_quote (single : cs.head? ≠ some '\'') :
    readSingle m .none ('\'' :: cs) = some ⟨[], ⟨cs, m.right '\''⟩, false⟩ := by
  rw [readSingle, not_atDocumentMark_of_ne (by decide) (by decide)]
  · rfl
  · exact not_return rfl
  · rintro _ - rfl
    exact single rfl

theorem takesWords_double : TakesWords fun m g => readDouble m (.text g) where
  char m g c cs inText oneLine ordinary := by
    obtain ⟨noSpace, noBreak, -, -, -, quote, slash, -⟩ := isOrdinary_iff.1 ordinary
    rw [readDouble, Reading.lead_snoc]
    · simp [noBreak, noSpace, quote, slash, inText]
    · exact not_return noBreak
  space m cs := by
    rw [readDouble, not_atDocumentMark_of_ne (by decide) (by decide)]
    · rfl
    · exact not_return rfl

theorem readDouble_quote :
    readDouble m (.text .none) ('"' :: cs) = some ⟨[], ⟨cs, m.right '"'⟩, false⟩ := by
  rw [readDouble, not_atDocumentMark_of_ne (by decide) (by decide)]
  · rfl
  · exact not_return rfl

end

end FontAccessors.Yaml
