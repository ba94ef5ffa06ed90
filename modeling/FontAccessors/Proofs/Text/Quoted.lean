import FontAccessors.Text.Quoted

/-!
# Quoted text reads back

* `read_escapeAll`: escaped text is read back up to the quote that closes it, whatever follows.
* `readHashed_rawChars`: raw text is read back if no quote in it is followed by as many hash signs
  as close it.
* `isEnclosed_literal`: a literal stays on one line, and no quote in it ends it early.
-/

namespace FontAccessors.Text.Quoted

/-! ## Single steps -/

theorem read_of_silent {k : Kind} {p q : Position} {c : Char} (h : step k p c = .next q [])
    (rest : List Char) : read k p (c :: rest) = read k q rest := by
  rw [read, h]
  dsimp only
  cases read k q rest <;> rfl

theorem read_of_emit {k : Kind} {p q : Position} {c d : Char} (h : step k p c = .next q [d])
    (rest : List Char) :
    read k p (c :: rest) = (read k q rest).map fun r => (d :: r.1, r.2) := by
  rw [read, h]
  dsimp only
  cases read k q rest <;> rfl

/-! ## Numbered escapes -/

theorem hexValue?_digitChar {d : Nat} (h : d < 16) : hexValue? (Nat.digitChar d) = some d := by
  have all : ∀ d : Fin 16, hexValue? (Nat.digitChar d) = some d.val := by decide
  exact all ⟨d, h⟩

theorem step_number_digit {value count d : Nat} (hd : d < 16) (hc : count < 6) :
    step .string (.number value count) (Nat.digitChar d) =
      .next (.number (16 * value + d) (count + 1)) [] := by
  simp [step, stepNumber, hexValue?_digitChar hd, hc]

theorem step_number_close {c : Char} {count : Nat} (h : count ≠ 0) :
    step .string (.number c.toNat count) '}' = .next .text [c] := by
  have valid : c.toNat.isValidChar := c.valid
  have digit : hexValue? '}' = none := rfl
  simp [step, stepNumber, digit, h, valid, Kind.allows, Kind.string]

theorem read_hexDigits (n : Nat) {value count : Nat} (rest : List Char)
    (hc : count + (hexDigits n).length ≤ 6) :
    read .string (.number value count) (hexDigits n ++ rest) =
      read .string (.number (value * Nat.pow 16 (hexDigits n).length + n)
        (count + (hexDigits n).length)) rest := by
  induction n using Nat.strongRecOn generalizing value count rest with
  | _ n ih =>
    by_cases small : n < 16
    · have digits : hexDigits n = [Nat.digitChar n] := Nat.toDigits_of_lt_base small
      rw [digits] at hc ⊢
      simp only [List.length_singleton] at hc ⊢
      have one : Nat.pow 16 1 = 16 := rfl
      rw [List.singleton_append, read_of_silent (step_number_digit small (by omega)), one,
        Nat.mul_comm]
    · have digits : hexDigits n = hexDigits (n / 16) ++ [Nat.digitChar (n % 16)] :=
        Nat.toDigits_of_base_le (by omega) (by omega)
      rw [digits] at hc ⊢
      simp only [List.length_append, List.length_singleton, List.append_assoc,
        List.singleton_append] at hc ⊢
      rw [ih (n / 16) (by omega) _ (by omega),
        read_of_silent (step_number_digit (Nat.mod_lt _ (by omega)) (by omega))]
      have power (k : Nat) : Nat.pow 16 (k + 1) = Nat.pow 16 k * 16 := rfl
      have value_eq : 16 * (value * Nat.pow 16 (hexDigits (n / 16)).length + n / 16) + n % 16 =
          value * Nat.pow 16 ((hexDigits (n / 16)).length + 1) + n := by
        rw [power, ← Nat.mul_assoc]
        omega
      rw [value_eq, Nat.add_assoc]

theorem length_hexDigits_le (c : Char) : (hexDigits c.toNat).length ≤ 6 := by
  have bound : c.toNat < 16 ^ 6 := by
    have := c.valid
    simp only [UInt32.isValidChar, Nat.isValidChar] at this
    simp only [Char.toNat]
    omega
  exact (Nat.length_toDigits_le_iff (by omega) (by omega)).2 bound

theorem read_numbered (c : Char) (rest : List Char) :
    read .string .text ('\\' :: 'u' :: '{' :: (hexDigits c.toNat ++ '}' :: rest)) =
      (read .string .text rest).map fun r => (c :: r.1, r.2) := by
  have length : 0 + (hexDigits c.toNat).length ≤ 6 := by
    simpa using length_hexDigits_le c
  have positive : 0 + (hexDigits c.toNat).length ≠ 0 := by
    have : 0 < (hexDigits c.toNat).length := Nat.length_toDigits_pos
    omega
  rw [read_of_silent (q := .escape) rfl, read_of_silent (q := .brace) rfl,
    read_of_silent (q := .number 0 0) rfl, read_hexDigits c.toNat _ length, Nat.zero_mul,
    Nat.zero_add, read_of_emit (step_number_close positive)]

/-! ## Escapes -/

theorem read_pair {e c : Char} (h : step .string .escape e = .next .text [c]) (rest : List Char) :
    read .string .text ('\\' :: e :: rest) =
      (read .string .text rest).map fun r => (c :: r.1, r.2) := by
  rw [read_of_silent (q := .escape) rfl, read_of_emit h]

theorem read_visible {c : Char} (quote : c ≠ '"') (backslash : c ≠ '\\') (carriage : c ≠ '\r')
    (rest : List Char) :
    read .string .text (c :: rest) = (read .string .text rest).map fun r => (c :: r.1, r.2) := by
  apply read_of_emit
  simp [step, stepText, quote, backslash, carriage, Kind.allows, Kind.string]

theorem read_escape (c : Char) (rest : List Char) :
    read .string .text (escape c ++ rest) =
      (read .string .text rest).map fun r => (c :: r.1, r.2) := by
  unfold escape
  split
  · subst c; exact read_pair rfl rest
  split
  · subst c; exact read_pair rfl rest
  split
  · subst c; exact read_pair rfl rest
  split
  · subst c; exact read_pair rfl rest
  split
  · subst c; exact read_pair rfl rest
  split
  · subst c; exact read_pair rfl rest
  split
  · exact read_visible ‹_› ‹_› ‹_› rest
  · simpa using read_numbered c rest

theorem read_longNull (rest : List Char) :
    read .string .text (['\\', 'x', '0', '0'] ++ rest) =
      (read .string .text rest).map fun r => ('\x00' :: r.1, r.2) := by
  simp only [List.cons_append, List.nil_append]
  rw [read_of_silent (q := .escape) rfl, read_of_silent (q := .code none) rfl,
    read_of_silent (q := .code (some 0)) rfl, read_of_emit (q := .text) (d := '\x00') rfl]

theorem read_escapeAll (s rest : List Char) :
    read .string .text (escapeAll s ++ '"' :: rest) = some (s, rest) := by
  induction s with
  | nil => rfl
  | cons c cs ih =>
    rw [escapeAll, List.append_assoc]
    split
    · rename_i h
      have null : c = '\x00' := by
        simp only [Bool.and_eq_true, decide_eq_true_eq] at h
        exact h.1
      subst null
      rw [read_longNull, ih]
      rfl
    · rw [read_escape, ih]
      rfl

theorem value?_literal (s : String) : value? (literal s).toList = some s.toList := by
  simp [literal, literalChars, value?, read_escapeAll]

theorem literal_injective {s t : String} (h : literal s = literal t) : s = t := by
  have value := congrArg (fun text => value? text.toList) h
  rw [value?_literal, value?_literal, Option.some.injEq] at value
  exact String.toList_inj.1 value

theorem literalChars_replicate (n : Nat) :
    literalChars (List.replicate n 'a') = '"' :: (List.replicate n 'a' ++ ['"']) := by
  have letters : escapeAll (List.replicate n 'a') = List.replicate n 'a' := by
    induction n with
    | zero => rfl
    | succ n ih =>
      have letter : escape 'a' = ['a'] := by decide
      have notNull : 'a' ≠ '\x00' := by decide
      rw [List.replicate_succ, escapeAll, ih]
      simp [letter, notNull]
  rw [literalChars, letters]

/-! ## Line breaks -/

theorem not_mem_hexDigits {c : Char} (h : hexValue? c = none) (n : Nat) : c ∉ hexDigits n := by
  induction n using Nat.strongRecOn with
  | _ n ih =>
    have digit : c ≠ Nat.digitChar (n % 16) := by
      rintro rfl
      rw [hexValue?_digitChar (Nat.mod_lt _ (by omega))] at h
      cases h
    by_cases small : n < 16
    · rw [Nat.mod_eq_of_lt small] at digit
      rw [show hexDigits n = [Nat.digitChar n] from Nat.toDigits_of_lt_base small]
      simpa using digit
    · rw [show hexDigits n = hexDigits (n / 16) ++ [Nat.digitChar (n % 16)] from
        Nat.toDigits_of_base_le (by omega) (by omega)]
      simpa using ⟨ih (n / 16) (by omega), digit⟩

theorem not_mem_escape {c : Char} (hc : c = '\n' ∨ c = '\r') (d : Char) : c ∉ escape d := by
  have digits : c ∉ hexDigits d.toNat := by
    apply not_mem_hexDigits
    rcases hc with rfl | rfl <;> rfl
  have invisible : isVisible c = false := by
    rcases hc with rfl | rfl <;> rfl
  unfold escape
  split
  · rcases hc with rfl | rfl <;> decide
  split
  · rcases hc with rfl | rfl <;> decide
  split
  · rcases hc with rfl | rfl <;> decide
  split
  · rcases hc with rfl | rfl <;> decide
  split
  · rcases hc with rfl | rfl <;> decide
  split
  · rcases hc with rfl | rfl <;> decide
  split
  · rename_i visible
    intro mem
    rw [List.mem_singleton] at mem
    subst mem
    simp [invisible] at visible
  · rcases hc with rfl | rfl <;> simpa using digits

theorem not_mem_escapeAll {c : Char} (hc : c = '\n' ∨ c = '\r') (s : List Char) :
    c ∉ escapeAll s := by
  induction s with
  | nil => simp [escapeAll]
  | cons d ds ih =>
    rw [escapeAll, List.mem_append]
    rintro (mem | mem)
    · split at mem
      · rcases hc with rfl | rfl <;> simp at mem
      · exact not_mem_escape hc d mem
    · exact ih mem

theorem not_mem_literalChars {c : Char} (hc : c = '\n' ∨ c = '\r') (s : List Char) :
    c ∉ literalChars s := by
  have quote : c ≠ '"' := by
    rcases hc with rfl | rfl <;> decide
  simpa [literalChars, quote] using not_mem_escapeAll hc s

/-! ## Quotes inside -/

def backslashesAtEnd (s : List Char) : Nat :=
  (s.reverse.takeWhile (· == '\\')).length

theorem backslashesAtEnd_backslash (s : List Char) :
    backslashesAtEnd (s ++ ['\\']) = backslashesAtEnd s + 1 := by
  simp [backslashesAtEnd]

theorem backslashesAtEnd_append {p : List Char} (nonempty : p ≠ []) (plain : '\\' ∉ p)
    (s : List Char) : backslashesAtEnd (s ++ p) = 0 := by
  obtain ⟨q, c, rfl⟩ := (List.eq_nil_or_concat p).resolve_left nonempty
  have other : c ≠ '\\' := by
    rintro rfl
    simp at plain
  simp [backslashesAtEnd, other]

/-- A character as a literal shows it: itself, or a backslash and at least one more character, of
which only the first can be a quote or a backslash. -/
inductive IsPiece : List Char → Prop
  | plain {c : Char} (quote : c ≠ '"') (backslash : c ≠ '\\') : IsPiece [c]
  | escaped (c : Char) {cs : List Char} (quote : '"' ∉ cs) (backslash : '\\' ∉ cs) :
    IsPiece ('\\' :: c :: cs)

theorem isPiece_escape (c : Char) : IsPiece (escape c) := by
  have quote : '"' ∉ hexDigits c.toNat := not_mem_hexDigits rfl _
  have backslash : '\\' ∉ hexDigits c.toNat := not_mem_hexDigits rfl _
  unfold escape
  split
  · exact .escaped '0' (by simp) (by simp)
  split
  · exact .escaped 't' (by simp) (by simp)
  split
  · exact .escaped 'n' (by simp) (by simp)
  split
  · exact .escaped 'r' (by simp) (by simp)
  split
  · exact .escaped '"' (by simp) (by simp)
  split
  · exact .escaped '\\' (by simp) (by simp)
  split
  · exact .plain ‹_› ‹_›
  · exact .escaped 'u' (by simpa using quote) (by simpa using backslash)

theorem exists_piece (c : Char) (cs : List Char) :
    ∃ p, IsPiece p ∧ escapeAll (c :: cs) = p ++ escapeAll cs := by
  rw [escapeAll]
  split
  · exact ⟨_, .escaped 'x' (by decide) (by decide), rfl⟩
  · exact ⟨_, isPiece_escape c, rfl⟩

section

variable {s p before behind : List Char}

theorem IsPiece.even_append (h : IsPiece p) (even : backslashesAtEnd s % 2 = 0) :
    backslashesAtEnd (s ++ p) % 2 = 0 := by
  cases h with
  | plain quote backslash =>
    rw [backslashesAtEnd_append (List.cons_ne_nil _ _) (by simpa using backslash.symm)]
  | @escaped c cs quote backslash =>
    have split : s ++ '\\' :: c :: cs = s ++ ['\\'] ++ [c] ++ cs := by simp
    rw [split]
    by_cases empty : cs = []
    · subst empty
      by_cases double : c = '\\'
      · subst double
        rw [List.append_nil, backslashesAtEnd_backslash, backslashesAtEnd_backslash]
        omega
      · rw [List.append_nil, backslashesAtEnd_append (List.cons_ne_nil _ _)
          (by simpa using Ne.symm double)]
    · rw [backslashesAtEnd_append empty backslash]

theorem IsPiece.odd_before_quote (h : IsPiece p) (even : backslashesAtEnd s % 2 = 0)
    (eq : p = before ++ '"' :: behind) : backslashesAtEnd (s ++ before) % 2 = 1 := by
  cases h with
  | plain quote backslash =>
    cases before with
    | nil =>
      cases eq
      exact absurd rfl quote
    | cons b before => simp at eq
  | escaped c quote backslash =>
    match before with
    | [] => cases eq
    | [b] =>
      cases eq
      rw [backslashesAtEnd_backslash]
      omega
    | b :: b' :: before =>
      cases eq
      simp at quote

theorem odd_before_quote_aux (even : backslashesAtEnd p % 2 = 0)
    (eq : escapeAll s = before ++ '"' :: behind) : backslashesAtEnd (p ++ before) % 2 = 1 := by
  -- The run of backslashes before each piece is even.
  induction s generalizing p before with
  | nil => simp [escapeAll] at eq
  | cons c cs ih =>
    obtain ⟨q, piece, split⟩ := exists_piece c cs
    rw [split, List.append_eq_append_iff] at eq
    rcases eq with ⟨a, rfl, rest⟩ | ⟨b, inside, rest⟩
    · rw [← List.append_assoc]
      exact ih (piece.even_append even) rest
    · cases b with
      | nil =>
        have here : backslashesAtEnd (p ++ q ++ []) % 2 = 1 :=
          ih (piece.even_append even) rest.symm
        rwa [List.append_nil, inside, List.append_nil] at here
      | cons d b =>
        obtain ⟨rfl, -⟩ := List.cons.inj rest
        exact piece.odd_before_quote even inside

theorem odd_before_quote (inner : behind ≠ [])
    (eq : literalChars s = '"' :: (before ++ '"' :: behind)) :
    backslashesAtEnd before % 2 = 1 := by
  obtain ⟨rest, last, rfl⟩ := (List.eq_nil_or_concat behind).resolve_left inner
  have body : escapeAll s = before ++ '"' :: rest := by
    have eq' : escapeAll s ++ ['"'] = (before ++ '"' :: rest) ++ [last] := by
      simpa [literalChars] using eq
    exact (List.append_inj' eq' rfl).1
  exact odd_before_quote_aux (p := []) rfl body

end

/-- A text between two quotes, on one line, in which every other quote is escaped. -/
structure IsEnclosed (t : List Char) : Prop where
  quoted : ∃ inside, t = '"' :: (inside ++ ['"'])
  one_line : '\n' ∉ t ∧ '\r' ∉ t
  escaped : ∀ before behind, t = '"' :: (before ++ '"' :: behind) → behind ≠ [] →
    backslashesAtEnd before % 2 = 1

theorem isEnclosed_literal (s : String) : IsEnclosed (literal s).toList where
  quoted := ⟨escapeAll s.toList, by simp [literal, literalChars]⟩
  one_line := by
    rw [literal, String.toList_ofList]
    exact ⟨not_mem_literalChars (.inl rfl) _, not_mem_literalChars (.inr rfl) _⟩
  escaped := by
    intro before behind eq inner
    rw [literal, String.toList_ofList] at eq
    exact odd_before_quote inner eq

/-! ## Raw text -/

def rawChars (hashes : Nat) (s : List Char) : List Char :=
  'r' :: (List.replicate hashes '#' ++ '"' :: (s ++ '"' :: List.replicate hashes '#'))

/-- No quote in the text is followed by as many hash signs as close it, and no carriage return
occurs. -/
def IsRawText (hashes : Nat) (s : List Char) : Prop :=
  '\r' ∉ s ∧ ¬ ('"' :: List.replicate hashes '#') <:+: s

theorem leadingHashes_replicate (n : Nat) (s : List Char) :
    leadingHashes (List.replicate n '#' ++ s) = n + leadingHashes s := by
  induction n with
  | zero => simp
  | succ n ih =>
    simp only [leadingHashes, List.replicate_succ, List.cons_append, List.takeWhile_cons,
      beq_self_eq_true, if_true, List.length_cons] at ih ⊢
    omega

theorem replicate_prefix_of_le {n : Nat} {s : List Char} (h : n ≤ leadingHashes s) :
    List.replicate n '#' <+: s := by
  induction n generalizing s with
  | zero => exact List.nil_prefix
  | succ n ih =>
    cases s with
    | nil => simp [leadingHashes] at h
    | cons c cs =>
      simp only [leadingHashes, List.takeWhile_cons] at h
      split at h
      · rename_i hash
        rw [beq_iff_eq.1 hash, List.replicate_succ, List.cons_prefix_cons]
        exact ⟨rfl, ih (by simpa [leadingHashes] using h)⟩
      · simp at h

theorem leadingHashes_append_quote (s rest : List Char) :
    leadingHashes (s ++ '"' :: rest) = leadingHashes s := by
  induction s with
  | nil => rfl
  | cons c cs ih =>
    simp only [leadingHashes, List.cons_append, List.takeWhile_cons] at ih ⊢
    split <;> simp [ih]

theorem readRaw_cons {k : Kind} {n : Nat} {c : Char} (h : c ≠ '\r') (cs : List Char) :
    readRaw k n (c :: cs) =
      if c = '"' && decide (n ≤ leadingHashes cs) then some ([], cs.drop n)
      else if !k.allows c then none
      else (readRaw k n cs).map fun r => (c :: r.1, r.2) := by
  rw [readRaw]
  · simp [h]
  · intro _ eq
    exact absurd eq h

theorem readRaw_rawText {n : Nat} {s : List Char} (h : IsRawText n s) (rest : List Char) :
    readRaw .string n (s ++ '"' :: (List.replicate n '#' ++ rest)) = some (s, rest) := by
  induction s with
  | nil =>
    rw [List.nil_append, readRaw_cons (by decide), leadingHashes_replicate]
    simp
  | cons c cs ih =>
    obtain ⟨carriage, quoted⟩ := h
    have tail : IsRawText n cs :=
      ⟨fun mem => carriage (List.mem_cons_of_mem _ mem), fun inf => quoted (inf.trans
        (List.suffix_cons c cs).isInfix)⟩
    have closes : ¬ (c = '"' ∧ n ≤ leadingHashes cs) := by
      rintro ⟨rfl, le⟩
      exact quoted ((List.prefix_cons_inj _).2 (replicate_prefix_of_le le)).isInfix
    have carriage' : c ≠ '\r' := by
      rintro rfl
      exact carriage List.mem_cons_self
    rw [List.cons_append, readRaw_cons carriage', leadingHashes_append_quote, ih tail]
    simp [Kind.allows, Kind.string, closes]

theorem readHashed_rawChars {n : Nat} {s : List Char} (h : IsRawText n s) (hn : n ≤ 255)
    (rest : List Char) :
    readHashed .string (List.replicate n '#' ++ '"' :: (s ++ '"' :: (List.replicate n '#' ++ rest)))
      = some (s, rest) := by
  have hashes (t : List Char) : leadingHashes (List.replicate n '#' ++ '"' :: t) = n := by
    simp [leadingHashes]
  simp [readHashed, hashes, hn, readRaw_rawText h]

theorem value?_rawChars {n : Nat} {s : List Char} (h : IsRawText n s) (hn : n ≤ 255) :
    value? (rawChars n s) = some s := by
  have read := readHashed_rawChars h hn []
  rw [List.append_nil] at read
  simp [rawChars, value?, read]

/-! ## More text behind

What is read of a literal does not depend on what follows its end. -/

theorem read_append {k : Kind} {s : List Char} {p : Position} {r : List Char × List Char}
    (h : read k p s = some r) (t : List Char) : read k p (s ++ t) = some (r.1, r.2 ++ t) := by
  induction s generalizing p r with
  | nil => cases h
  | cons c cs ih =>
    rw [read] at h
    rw [List.cons_append, read]
    cases hs : step k p c with
    | refuse => simp [hs] at h
    | close =>
      simp only [hs, Option.some.injEq] at h
      subst h
      rfl
    | next p' out =>
      simp only [hs, Option.map_eq_some_iff] at h
      obtain ⟨r', hr, rfl⟩ := h
      simp [ih hr]

theorem leadingHashes_le_append (s t : List Char) :
    leadingHashes s ≤ leadingHashes (s ++ t) := by
  induction s with
  | nil => simp [leadingHashes]
  | cons c cs ih =>
    simp only [leadingHashes, List.cons_append, List.takeWhile_cons] at ih ⊢
    split
    · simpa using ih
    · simp

theorem leadingHashes_le_length (s : List Char) : leadingHashes s ≤ s.length :=
  (List.takeWhile_sublist _).length_le

theorem leadingHashes_append {s : List Char} (h : '"' ∈ s) (t : List Char) :
    leadingHashes (s ++ t) = leadingHashes s := by
  obtain ⟨a, b, rfl⟩ := List.append_of_mem h
  rw [List.append_assoc, List.cons_append, leadingHashes_append_quote, leadingHashes_append_quote]

theorem quote_mem_of_readRaw {k : Kind} {n : Nat} {s : List Char} {r : List Char × List Char}
    (h : readRaw k n s = some r) : '"' ∈ s := by
  fun_induction readRaw k n s generalizing r with
  | case1 => cases h
  | case2 cs ih =>
    obtain ⟨r', hr, -⟩ := Option.map_eq_some_iff.1 h
    simp [ih hr]
  | case3 c cs _ closes =>
    simp only [Bool.and_eq_true, decide_eq_true_eq] at closes
    simp [closes.1]
  | case4 => cases h
  | case5 c cs _ _ _ ih =>
    obtain ⟨r', hr, -⟩ := Option.map_eq_some_iff.1 h
    simp [ih hr]

theorem readRaw_append {k : Kind} {n : Nat} {s : List Char} {r : List Char × List Char}
    (h : readRaw k n s = some r) (t : List Char) :
    readRaw k n (s ++ t) = some (r.1, r.2 ++ t) := by
  fun_induction readRaw k n s generalizing r with
  | case1 => cases h
  | case2 cs ih =>
    obtain ⟨r', hr, rfl⟩ := Option.map_eq_some_iff.1 h
    simp [readRaw, ih hr]
  | case3 c cs _ closes =>
    cases h
    simp only [Bool.and_eq_true, decide_eq_true_eq] at closes
    obtain ⟨rfl, le⟩ := closes
    have le' := Nat.le_trans le (leadingHashes_le_append cs t)
    have length := Nat.le_trans le (leadingHashes_le_length cs)
    rw [List.cons_append, readRaw_cons (by decide)]
    simp [le', List.drop_append_of_le_length length]
  | case4 => cases h
  | case5 c cs _ open' allowed ih =>
    obtain ⟨r', hr, rfl⟩ := Option.map_eq_some_iff.1 h
    simp only [Bool.or_eq_true, decide_eq_true_eq, not_or] at allowed
    rw [List.cons_append, readRaw_cons allowed.1, leadingHashes_append (quote_mem_of_readRaw hr),
      ih hr]
    simp [open', allowed.2]

theorem readHashed_append {k : Kind} {s : List Char} {r : List Char × List Char}
    (h : readHashed k s = some r) (t : List Char) :
    readHashed k (s ++ t) = some (r.1, r.2 ++ t) := by
  unfold readHashed at h
  split at h
  · rename_i cs eq
    have mem : '"' ∈ s := List.mem_of_mem_drop (eq ▸ List.mem_cons_self)
    split at h
    · rename_i bound
      have drop : (s ++ t).drop (leadingHashes (s ++ t)) = '"' :: (cs ++ t) := by
        rw [leadingHashes_append mem, List.drop_append_of_le_length (leadingHashes_le_length s),
          eq, List.cons_append]
      rw [readHashed, drop]
      simp [leadingHashes_append mem, bound, readRaw_append h]
    · cases h
  · cases h

theorem afterEscape_append {k : Kind} {p : Position} {s rest : List Char}
    (h : afterEscape k p s = some rest) (t : List Char) :
    afterEscape k p (s ++ t) = some (rest ++ t) := by
  induction s generalizing p with
  | nil => cases h
  | cons c cs ih =>
    rw [afterEscape] at h
    rw [List.cons_append, afterEscape]
    split at h
    · cases h; simp [*]
    · cases h
    · cases h
    · simp_all
    · cases h

theorem afterCharacter_append {k : Kind} {s rest : List Char}
    (h : afterCharacter k s = some rest) (t : List Char) :
    afterCharacter k (s ++ t) = some (rest ++ t) := by
  unfold afterCharacter at h
  split at h
  · split at h
    · rename_i cs rest' hr
      cases h
      simp [afterCharacter, afterEscape_append hr]
    · cases h
  · split at h
    · cases h
      simp_all [afterCharacter]
    · cases h
  · cases h

end FontAccessors.Text.Quoted
