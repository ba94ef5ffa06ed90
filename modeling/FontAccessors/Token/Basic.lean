import FontAccessors.Text.Identifier
import FontAccessors.Text.Quoted

namespace FontAccessors

/-- A mark is joint if the next token touches it and is a mark too, or the name of a lifetime. -/
inductive Spacing where
  | alone
  | joint
  deriving DecidableEq, Repr

inductive Delimiter where
  | parenthesis
  | bracket
  | brace
  | invisible
  deriving DecidableEq, Repr

structure Ident where
  name : String
  isRaw : Bool
  deriving DecidableEq, Repr

def Ident.plain (name : String) : Ident :=
  ⟨name, false⟩

def Ident.chars (i : Ident) : List Char :=
  if i.isRaw then 'r' :: '#' :: i.name.toList else i.name.toList

inductive Token where
  | ident (i : Ident)
  | punct (c : Char) (spacing : Spacing)
  | literal (text : String)
  | group (delimiter : Delimiter) (content : List Token)
  deriving Repr

namespace Token

mutual
def weight : Token → Nat
  | .group _ content => 1 + totalWeight content
  | _ => 1
def totalWeight : List Token → Nat
  | [] => 0
  | t :: ts => weight t + totalWeight ts
end

@[simp] theorem totalWeight_nil : totalWeight [] = 0 := rfl

@[simp] theorem totalWeight_cons (t : Token) (ts : List Token) :
    totalWeight (t :: ts) = t.weight + totalWeight ts := rfl

@[simp] theorem totalWeight_append (ss ts : List Token) :
    totalWeight (ss ++ ts) = totalWeight ss + totalWeight ts := by
  induction ss with
  | nil => simp
  | cons t ss ih => simp [ih, Nat.add_assoc]

theorem weight_pos (t : Token) : 0 < t.weight := by
  cases t <;> unfold weight <;> omega

end Token
end FontAccessors
