import FontAccessors.Grammar.Name

namespace FontAccessors.Grammar
open Token

inductive Argument where
  | flag (key : Path)
  | list (key : Path) (content : List Token)
  | binding (key : Path) (value : Expr)

def Argument.tokens : Argument → List Token
  | flag key => key.tokens
  | list key content => key.tokens ++ content
  | binding key value => key.tokens ++ operator "=" ++ value.tokens

def Argument.valueOf? (name : String) : Argument → Option Expr
  | binding key value => if key.isName (.plain name) then some value else none
  | _ => none

def argumentKey (n : Nat) : Reader Path := do
  if atWord "unsafe" (← get) then return ⟨[], false, [⟨← anyIdent, .none⟩]⟩
  else modulePath n

/-- A literal with nothing after it, or else any expression that no attribute precedes. -/
def argumentValue (g : Rules) : Reader Expr := do
  let ts ← get
  match valueAt? ts with
  | some (v, []) =>
    set ([] : List Token)
    match v with
    | [.literal text] => return ⟨.literal text, v⟩
    | _ => return ⟨.other, v⟩
  | _ => if atMark "#" ts && second (atGroup .bracket) ts then failure else g.expr true

def argument (g : Rules) (n : Nat) : Reader Argument := do
  let key ← argumentKey n
  let ts ← get
  if atGroup .parenthesis ts || atGroup .bracket ts || atGroup .brace ts then
    return .list key (← macroInput)
  else if atMark "=" ts then
    let _ ← mark "="
    return .binding key (← argumentValue g)
  else return .flag key

def oneAttribute (g : Rules) (inner : Bool) (n : Nat) : Reader (List Token) :=
  inOrder
    [mark "#", if inner then mark "!" else return [],
      grouped .bracket do return (← argument g n).tokens]

def outerAttributes (g : Rules) (n : Nat) : Reader (List Token) :=
  until? (fun ts => !atMark "#" ts) (oneAttribute g false n) n

def innerAttributes (g : Rules) (n : Nat) : Reader (List Token) :=
  until? (fun ts => !(atMark "#" ts && second (atMark "!") ts)) (oneAttribute g true n) n

def block (g : Rules) : Reader (List Token) :=
  grouped .brace g.statements

def attributedBlock (g : Rules) (n : Nat) : Reader (List Token) :=
  grouped .brace do return (← innerAttributes g n) ++ (← g.statements)

def arguments (g : Rules) (n : Nat) : Reader (List Argument) := do
  return (← listUntil List.isEmpty (argument g n) (mark ",") n).map Prod.fst

end FontAccessors.Grammar
