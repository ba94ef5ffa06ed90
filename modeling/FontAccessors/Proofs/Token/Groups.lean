import FontAccessors.Proofs.Token.Pasted

namespace FontAccessors

namespace Token

mutual
def flat : Token → List Lexeme
  | .group d content => .opening d :: (flatAll content ++ [.closing d])
  | t => [.token t]
def flatAll : List Token → List Lexeme
  | [] => []
  | t :: ts => flat t ++ flatAll ts
end

@[simp] theorem flatAll_nil : flatAll [] = [] := rfl

@[simp] theorem flatAll_cons (t : Token) (ts : List Token) :
    flatAll (t :: ts) = flat t ++ flatAll ts := rfl

@[simp] theorem flatAll_append (ss ts : List Token) :
    flatAll (ss ++ ts) = flatAll ss ++ flatAll ts := by
  induction ss with
  | nil => rfl
  | cons s ss ih => simp [ih]

mutual
theorem flat_unspaced (t : Token) : t.unspaced.flat = t.flat.map Lexeme.unspaced := by
  cases t with
  | group d content => simp [unspaced, flat, Lexeme.unspaced, flatAll_allUnspaced content]
  | ident => rfl
  | punct => rfl
  | literal => rfl
theorem flatAll_allUnspaced (ts : List Token) :
    flatAll (allUnspaced ts) = (flatAll ts).map Lexeme.unspaced := by
  cases ts with
  | nil => rfl
  | cons t ts => simp [allUnspaced, flat_unspaced t, flatAll_allUnspaced ts]
end

end Token

namespace Lexeme
open Token

@[simp] theorem nest_token (stack : List (Delimiter × List Token)) (acc : List Token) (t : Token)
    (ls : List Lexeme) : nest stack acc (.token t :: ls) = nest stack (t :: acc) ls := by
  cases stack <;> rfl

@[simp] theorem nest_opening (stack : List (Delimiter × List Token)) (acc : List Token)
    (d : Delimiter) (ls : List Lexeme) :
    nest stack acc (.opening d :: ls) = nest ((d, acc) :: stack) [] ls := by
  cases stack <;> rfl

@[simp] theorem nest_closing (stack : List (Delimiter × List Token)) (before acc : List Token)
    (d : Delimiter) (ls : List Lexeme) :
    nest ((d, before) :: stack) acc (.closing d :: ls) =
      nest stack (.group d acc.reverse :: before) ls := by
  rw [nest, if_pos rfl]

mutual
theorem nest_flat (t : Token) (stack : List (Delimiter × List Token)) (acc : List Token)
    (ls : List Lexeme) : nest stack acc (t.flat ++ ls) = nest stack (t :: acc) ls := by
  cases t with
  | group d content => simp [flat, nest_flatAll content]
  | ident => simp [flat]
  | punct => simp [flat]
  | literal => simp [flat]
theorem nest_flatAll (ts : List Token) (stack : List (Delimiter × List Token)) (acc : List Token)
    (ls : List Lexeme) : nest stack acc (flatAll ts ++ ls) = nest stack (ts.reverse ++ acc) ls := by
  cases ts with
  | nil => rfl
  | cons t ts => simp [nest_flat t, nest_flatAll ts]
end

theorem nest_flatAll_whole (ts : List Token) : nest [] [] (flatAll ts) = some ts := by
  simpa [nest] using nest_flatAll ts [] [] []

def isWritten : Lexeme → Bool
  | .token (.group ..) | .opening .invisible | .closing .invisible => false
  | _ => true

theorem isWritten_bracketOf {c : Char} {b : Lexeme} (h : bracketOf? c = some b) :
    b.isWritten = true := by
  unfold bracketOf? at h
  split at h <;> cases h <;> rfl

theorem isWritten_cut {s rest : List Char} {ls : List Lexeme} (h : cut s = some (ls, rest)) :
    ∀ l ∈ ls, l.isWritten = true := by
  cases isFront_of_cut h with
  | blank => simp
  | @documentation inner => cases inner <;> simp [documentation, isWritten]
  | placeholder => simp [isWritten]
  | bracket head isBracket => simpa using isWritten_bracketOf isBracket
  | leaf leaf => cases isLeaf_of_cutLeaf leaf <;> simp [isWritten]

theorem isWritten_lexemes {s : List Char} {ls : List Lexeme} (h : lexemes s = some ls) :
    ∀ l ∈ ls, l.isWritten = true := by
  fun_induction lexemes s generalizing ls with
  | case1 =>
    cases h
    simp
  | case2 => cases h
  | case3 c cs front rest hcut short ih =>
    obtain ⟨ms, hms, rfl⟩ := Option.map_eq_some_iff.1 h
    intro l mem
    rcases List.mem_append.1 mem with mem | mem
    · exact isWritten_cut hcut l mem
    · exact ih hms l mem
  | case4 => cases h

/-- The lexemes read before the position that a stack and the tokens after it stand for. -/
def unread : List (Delimiter × List Token) → List Lexeme
  | [] => []
  | (d, before) :: stack => unread stack ++ flatAll before.reverse ++ [.opening d]

theorem flatAll_of_nest_aux {stack : List (Delimiter × List Token)} {acc ts : List Token}
    {ls : List Lexeme} (written : ∀ l ∈ ls, l.isWritten = true) (h : nest stack acc ls = some ts) :
    flatAll ts = unread stack ++ flatAll acc.reverse ++ ls := by
  -- Every step moves one lexeme from those ahead to those that the stack stands for.
  fun_induction nest stack acc ls with
  | case1 acc =>
    cases h
    simp [unread]
  | case2 => cases h
  | case3 stack acc t ls ih =>
    have leaf : t.flat = [.token t] := by
      cases t with
      | group d content => exact absurd (written _ List.mem_cons_self) (by simp [isWritten])
      | ident => rfl
      | punct => rfl
      | literal => rfl
    rw [ih (fun l mem => written l (List.mem_cons_of_mem _ mem)) h]
    simp [leaf]
  | case4 stack acc d ls ih =>
    rw [ih (fun l mem => written l (List.mem_cons_of_mem _ mem)) h]
    simp [unread]
  | case5 => cases h
  | case6 stack before acc d ls ih =>
    rw [ih (fun l mem => written l (List.mem_cons_of_mem _ mem)) h]
    simp [unread, flat]
  | case7 => cases h

theorem flatAll_of_nest {ls : List Lexeme} {ts : List Token}
    (written : ∀ l ∈ ls, l.isWritten = true) (h : nest [] [] ls = some ts) : flatAll ts = ls := by
  simpa [unread] using flatAll_of_nest_aux written h

end Lexeme

namespace Token
open Lexeme

theorem isWritten_lexChars {s : List Char} {ts : List Token} (h : lexChars s = some ts) :
    ∀ l ∈ flatAll ts, l.isWritten = true := by
  obtain ⟨ls, hls, built⟩ := Option.bind_eq_some_iff.1 h
  rw [flatAll_of_nest (isWritten_lexemes hls) built]
  exact isWritten_lexemes hls

theorem lexChars_of_head {s : List Char} (h : s.head? ≠ some '\uFEFF') :
    lexChars s = (lexemes s).bind (nest [] []) := by
  rw [lexChars, if_neg h]

theorem lexemes_of_lexChars {s : List Char} {ts : List Token} (h : s.head? ≠ some '\uFEFF')
    (hs : lexChars s = some ts) : lexemes s = some (flatAll ts) := by
  rw [lexChars_of_head h] at hs
  obtain ⟨ls, hls, built⟩ := Option.bind_eq_some_iff.1 hs
  rw [hls, flatAll_of_nest (isWritten_lexemes hls) built]

def plainly (ts : List Token) : List Lexeme :=
  (flatAll ts).map Lexeme.unspaced

@[simp] theorem plainly_nil : plainly [] = [] := rfl

@[simp] theorem plainly_append (ss ts : List Token) :
    plainly (ss ++ ts) = plainly ss ++ plainly ts := by
  simp [plainly]

@[simp] theorem plainly_ident (i : Ident) (ts : List Token) :
    plainly (.ident i :: ts) = .token (.ident i) :: plainly ts := rfl

@[simp] theorem plainly_punct (c : Char) (s : Spacing) (ts : List Token) :
    plainly (.punct c s :: ts) = .token (.punct c .alone) :: plainly ts := rfl

@[simp] theorem plainly_literal (text : String) (ts : List Token) :
    plainly (.literal text :: ts) = .token (.literal text) :: plainly ts := rfl

@[simp] theorem plainly_group (d : Delimiter) (content ts : List Token) :
    plainly (.group d content :: ts) =
      .opening d :: (plainly content ++ .closing d :: plainly ts) := by
  simp [plainly, flat, Lexeme.unspaced]

theorem lexChars_alike_iff {s : List Char} {ts : List Token} (h : s.head? ≠ some '\uFEFF') :
    (∃ tokens, lexChars s = some tokens ∧ Alike tokens ts) ↔
      skim s = some ((flatAll ts).map Lexeme.unspaced) := by
  constructor
  · rintro ⟨tokens, hs, alike⟩
    rw [skim, lexemes_of_lexChars h hs, Option.map_some, ← flatAll_allUnspaced, alike,
      flatAll_allUnspaced]
  · intro hs
    obtain ⟨ls, hls, same⟩ := Option.map_eq_some_iff.1 hs
    have built := nest_unspaced [] [] ls
    rw [same, ← flatAll_allUnspaced] at built
    have whole := (nest_flatAll_whole (allUnspaced ts)).symm.trans built
    obtain ⟨tokens, htokens, alike⟩ := Option.map_eq_some_iff.1 whole.symm
    refine ⟨tokens, ?_, alike⟩
    rw [lexChars_of_head h, hls]
    exact htokens

end Token
end FontAccessors
