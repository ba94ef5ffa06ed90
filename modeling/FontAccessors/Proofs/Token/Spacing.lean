import FontAccessors.Token.Lexer

namespace FontAccessors

namespace Token

mutual
def unspaced : Token → Token
  | .punct c _ => .punct c .alone
  | .group d content => .group d (allUnspaced content)
  | t => t
def allUnspaced : List Token → List Token
  | [] => []
  | t :: ts => unspaced t :: allUnspaced ts
end

/-- The same tokens, whatever their spacing. -/
def Alike (ss ts : List Token) : Prop :=
  allUnspaced ss = allUnspaced ts

theorem allUnspaced_eq_map (ts : List Token) : allUnspaced ts = ts.map unspaced := by
  induction ts with
  | nil => rfl
  | cons t ts ih => rw [allUnspaced, ih, List.map_cons]

section

variable {ts us : List Token}

theorem eq_nil_of_alike (h : Alike ts []) : ts = [] := by
  cases ts with
  | nil => rfl
  | cons t ts => cases h

theorem exists_of_alike_cons {u : Token} (h : Alike ts (u :: us)) :
    ∃ t rest, ts = t :: rest ∧ t.unspaced = u.unspaced ∧ Alike rest us := by
  cases ts with
  | nil => cases h
  | cons t rest =>
    obtain ⟨same, alike⟩ := List.cons.inj h
    exact ⟨t, rest, rfl, same, alike⟩

theorem exists_of_alike_ident {i : Ident} (h : Alike ts (.ident i :: us)) :
    ∃ rest, ts = .ident i :: rest ∧ Alike rest us := by
  obtain ⟨t, rest, rfl, same, alike⟩ := exists_of_alike_cons h
  cases t <;> cases same
  exact ⟨rest, rfl, alike⟩

theorem exists_of_alike_literal {text : String} (h : Alike ts (.literal text :: us)) :
    ∃ rest, ts = .literal text :: rest ∧ Alike rest us := by
  obtain ⟨t, rest, rfl, same, alike⟩ := exists_of_alike_cons h
  cases t <;> cases same
  exact ⟨rest, rfl, alike⟩

theorem exists_of_alike_punct {c : Char} {s : Spacing} (h : Alike ts (.punct c s :: us)) :
    ∃ s' rest, ts = .punct c s' :: rest ∧ Alike rest us := by
  obtain ⟨t, rest, rfl, same, alike⟩ := exists_of_alike_cons h
  cases t <;> cases same
  exact ⟨_, rest, rfl, alike⟩

end

end Token

namespace Lexeme

def unspaced : Lexeme → Lexeme
  | .token t => .token t.unspaced
  | l => l

theorem nest_unspaced (stack : List (Delimiter × List Token)) (acc : List Token)
    (ls : List Lexeme) :
    nest (stack.map fun o => (o.1, Token.allUnspaced o.2)) (Token.allUnspaced acc)
        (ls.map unspaced) =
      (nest stack acc ls).map Token.allUnspaced := by
  fun_induction nest stack acc ls with
  | case1 acc => simp [nest, Token.allUnspaced_eq_map]
  | case2 => rfl
  | case3 stack acc t ls ih => simpa [unspaced, nest, Token.allUnspaced] using ih
  | case4 stack acc d ls ih => simpa [unspaced, nest, Token.allUnspaced] using ih
  | case5 => rfl
  | case6 stack before acc d ls ih =>
    simp [unspaced, nest, ← ih, Token.allUnspaced_eq_map, Token.unspaced]
  | case7 acc d before stack d' ls ne => simp [unspaced, nest, ne]

end Lexeme
end FontAccessors
