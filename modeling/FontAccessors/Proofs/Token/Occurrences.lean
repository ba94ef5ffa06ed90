import FontAccessors.Proofs.Token.Reading

namespace FontAccessors.Lexeme
open Text Literal

def isLiteral (text : String) : Lexeme → Bool
  | .token (.literal t) => decide (t = text)
  | _ => false

theorem isLiteral_unspaced (text : String) (l : Lexeme) :
    isLiteral text l.unspaced = isLiteral text l := by
  cases l with
  | token t => cases t <;> rfl
  | opening => rfl
  | closing => rfl

theorem countP_unspaced (text : String) (ls : List Lexeme) :
    (ls.map unspaced).countP (isLiteral text) = ls.countP (isLiteral text) := by
  rw [List.countP_map]
  congr 1
  exact funext fun l => isLiteral_unspaced text l

theorem length_cutLine (s : List Char) :
    (cutLine s).1.length + (cutLine s).2.length ≤ s.length := by
  fun_induction cutLine s with
  | case1 => simp
  | case2 => simp
  | case3 => simp
  | case4 c cs feed carriage ih =>
    simp only [List.length_cons]
    omega

theorem length_cutBlock {depth : Nat} {s : List Char} {r : List Char × List Char}
    (h : cutBlock depth s = some r) : r.1.length + r.2.length ≤ s.length := by
  fun_induction cutBlock depth s generalizing r with
  | case1 depth cs ih =>
    obtain ⟨r', hr, rfl⟩ := Option.map_eq_some_iff.1 h
    have := ih hr
    simp only [List.length_cons]
    omega
  | case2 cs =>
    cases h
    simp
    omega
  | case3 cs =>
    cases h
    simp
    omega
  | case4 cs d ih =>
    obtain ⟨r', hr, rfl⟩ := Option.map_eq_some_iff.1 h
    have := ih hr
    simp only [List.length_cons]
    omega
  | case5 depth c cs opens closes ih =>
    obtain ⟨r', hr, rfl⟩ := Option.map_eq_some_iff.1 h
    have := ih hr
    simp only [List.length_cons]
    omega
  | case6 => cases h

theorem length_cutDocumentation {s : List Char} {r : Bool × List Char × List Char}
    (h : cutDocumentation s = some r) : r.2.1.length + r.2.2.length + 3 ≤ s.length := by
  unfold cutDocumentation at h
  split at h
  · rename_i cs
    cases h
    have := length_cutLine cs
    simp only [List.length_cons]
    omega
  · rename_i cs
    split at h
    · cases h
    · cases h
      have := length_cutLine cs
      simp only [List.length_cons]
      omega
  · rename_i cs
    obtain ⟨r', hr, rfl⟩ := Option.map_eq_some_iff.1 h
    have := length_cutBlock hr
    simp only [List.length_cons]
    omega
  · rename_i cs
    split at h
    · cases h
    · obtain ⟨r', hr, rfl⟩ := Option.map_eq_some_iff.1 h
      have := length_cutBlock hr
      simp only [List.length_cons]
      omega
  · cases h

variable {font : String}

theorem literal_ne_placeholder (font : String) : placeholder ≠ Quoted.literal font := by
  intro eq
  have chars := congrArg String.toList eq
  rw [literal_toList] at chars
  cases chars

theorem occurrences_documentation (inner : Bool) (text : List Char)
    (short : (Quoted.literal font).toList.length ≤ font.toList.length + 2) :
    (documentation inner text).countP (isLiteral (Quoted.literal font)) *
      (Quoted.literal font).toList.length ≤ text.length + 2 := by
  have count : (documentation inner text).countP (isLiteral (Quoted.literal font)) =
      if Quoted.literal (String.ofList text) = Quoted.literal font then 1 else 0 := by
    cases inner <;> simp [documentation, isLiteral, List.countP_cons]
  rw [count]
  split
  · rename_i eq
    have same : String.ofList text = font := Quoted.literal_injective eq
    have length : font.toList.length = text.length := by rw [← same, String.toList_ofList]
    omega
  · omega

theorem occurrences_leaf {s rest : List Char} {leaf : Token}
    (h : cutLeaf s = some (leaf, rest)) (shorter : rest.length < s.length) :
    [token leaf].countP (isLiteral (Quoted.literal font)) *
      (Quoted.literal font).toList.length + rest.length ≤ s.length := by
  rw [List.countP_singleton]
  cases isLeaf_of_cutLeaf h with
  | literal =>
    split
    · rename_i eq
      have text : String.ofList (s.take (s.length - rest.length)) = Quoted.literal font := by
        simpa [isLiteral] using eq
      have length : (Quoted.literal font).toList.length =
          min (s.length - rest.length) s.length := by
        rw [← text, String.toList_ofList, List.length_take]
      omega
    · omega
  | mark | name =>
    simp only [isLiteral, Bool.false_eq_true, if_false]
    omega

theorem occurrences_cut {s rest : List Char} {ls : List Lexeme}
    (short : (Quoted.literal font).toList.length ≤ font.toList.length + 2)
    (h : cut s = some (ls, rest)) (shorter : rest.length < s.length) :
    ls.countP (isLiteral (Quoted.literal font)) * (Quoted.literal font).toList.length +
      rest.length ≤ s.length := by
  cases isFront_of_cut h with
  | blank =>
    rw [List.countP_nil]
    omega
  | @documentation inner text _ comment =>
    have lengths := length_cutDocumentation comment
    have once := occurrences_documentation inner text short
    simp only at lengths
    omega
  | placeholder =>
    have none : [token (.literal placeholder)].countP (isLiteral (Quoted.literal font)) = 0 := by
      simp [isLiteral, literal_ne_placeholder]
    rw [none]
    omega
  | @bracket c b head isBracket =>
    have none : [b].countP (isLiteral (Quoted.literal font)) = 0 := by
      cases b with
      | token t => exact absurd isBracket bracketOf_ne_token
      | opening => rfl
      | closing => rfl
    rw [none]
    omega
  | leaf leaf => exact occurrences_leaf leaf shorter

theorem occurrences_le {s : List Char} {ls : List Lexeme}
    (short : (Quoted.literal font).toList.length ≤ font.toList.length + 2)
    (h : skim s = some ls) :
    ls.countP (isLiteral (Quoted.literal font)) * (Quoted.literal font).toList.length ≤
      s.length := by
  obtain ⟨ms, hms, rfl⟩ := Option.map_eq_some_iff.1 h
  rw [countP_unspaced]
  clear h
  fun_induction lexemes s generalizing ms with
  | case1 =>
    cases hms
    simp
  | case2 => cases hms
  | case3 c cs front rest hcut shorter ih =>
    obtain ⟨more, hmore, rfl⟩ := Option.map_eq_some_iff.1 hms
    have first := occurrences_cut short hcut shorter
    have others := ih more hmore
    rw [List.countP_append, Nat.add_mul]
    omega
  | case4 => cases hms

end FontAccessors.Lexeme
