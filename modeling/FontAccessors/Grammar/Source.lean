import FontAccessors.Grammar.Item
import FontAccessors.Token.Lexer

namespace FontAccessors.Grammar
open Token

def rules : Nat → Rules
  | 0 => Rules.none
  | n + 1 =>
    let g := rules n
    { type := fun plus arguments => typeRule g plus arguments n
      bound := fun capturing consts => boundRule g capturing consts n
      expr := fun braces => exprRule g braces n
      operand := fun braces level => operandRule g braces level n
      unary := fun braces => unaryRule g braces n
      early := earlyRule g n
      pattern := patternRule g n
      statements := statementsRule g n
      item := itemRule g n
      useTree := fun roots => useTreeRule g roots n }

/-- More than the rules nest or repeat on some tokens: at least every fourth step reads one. -/
def depth (ts : List Token) : Nat :=
  4 * totalWeight ts + 8

def whole {α : Type} (r : Rules → Nat → Reader α) (ts : List Token) : Option α :=
  (r (rules (depth ts)) (depth ts) ts).bind fun a => if isSpent a.2 then some a.1 else none

def Item.ofTokens? (ts : List Token) : Option Item :=
  whole itemRule ts

def Argument.ofTokens? (ts : List Token) : Option (List Argument) :=
  whole arguments ts

def Path.ofTokens? (ts : List Token) : Option Path :=
  whole (fun g => path g false) ts

def Path.ofText? (text : String) : Option Path :=
  (lex text).bind Path.ofTokens?

def nameOfText? (text : String) : Option Ident :=
  (lex text).bind (whole fun _ _ => name)

end FontAccessors.Grammar
