import FontAccessors.Accessor.Expansion
import FontAccessors.Accessor.Meaning

namespace FontAccessors

structure Function where
  name : Ident
  parameters : List Token
  result : List Token
  body : List Token

namespace Function

def afterAttributes : List Token → List Token
  | .punct '#' .alone :: .group .bracket _ :: ts => afterAttributes ts
  | ts => ts

def cutBraces : List Token → Option (List Token × List Token × List Token)
  | [] => none
  | .group .brace inside :: ts => some ([], inside, ts)
  | t :: ts => (cutBraces ts).map fun c => (t :: c.1, c.2)

def cut? (ts : List Token) : Option (Function × List Token) :=
  match afterAttributes ts with
  | .ident word :: .ident word' :: .ident name :: .group .parenthesis parameters ::
      .punct '-' .joint :: .punct '>' .alone :: ts =>
    if word = .plain "pub" ∧ word' = .plain "fn" then
      (cutBraces ts).map fun c => (⟨name, parameters, c.1, c.2.1⟩, c.2.2)
    else none
  | _ => none

def ofTokens? (ts : List Token) : Option (List Function) :=
  if ts.isEmpty then some []
  else
    match cut? ts with
    | some (f, rest) =>
      if rest.length < ts.length then (ofTokens? rest).map (f :: ·) else none
    | none => none
termination_by ts.length

end Function

def rootedNames? : List Token → Option (List String)
  | [.punct ':' .joint, .punct ':' .alone, .ident i] => some [i.name]
  | .punct ':' .joint :: .punct ':' .alone :: .ident i :: ts => (rootedNames? ts).map (i.name :: ·)
  | _ => none

def number? (s : List Char) : Option Float32 :=
  match s.splitOn '.' with
  | [whole, fraction] =>
    if (whole ++ fraction).all Char.isDigit && !whole.isEmpty then
      some (Float32.ofScientific (Nat.ofDigitChars 10 (whole ++ fraction) 0) true fraction.length)
    else none
  | _ => none

inductive Term where
  | text (s : String)
  | number (x : Float32)
  | parameter (name : String)
  | item (names : List String)
  deriving DecidableEq

def Term.ofTokens? : List Token → Option Term
  | [.literal l] =>
    match Text.Quoted.value? l.toList with
    | some s => some (text (String.ofList s))
    | none => (number? l.toList).map number
  | [.ident i] => some (parameter i.name)
  | ts => (rootedNames? ts).map item

structure Call where
  callee : List String
  arguments : List Term

def isComma : Token → Bool
  | .punct ',' _ => true
  | _ => false

def Call.ofTokens? (ts : List Token) : Option Call :=
  match ts.getLast? with
  | some (.group .parenthesis arguments) =>
    (rootedNames? ts.dropLast).bind fun callee =>
      ((arguments.splitOnP isComma).mapM Term.ofTokens?).map fun terms => ⟨callee, terms⟩
  | _ => none

inductive Value where
  | text (s : String)
  | number (x : Float32)
  | style (t : TextStyle)

def Term.value? (scope : List (String × Float32)) : Term → Option Value
  | text s => some (.text s)
  | number x => some (.number x)
  | parameter name => (scope.lookup name).map .number
  | item ["fontsgen", "TextStyle", variant] => (TextStyle.ofVariant? variant).map .style
  | item _ => none

def Call.font? (scope : List (String × Float32)) (c : Call) : Option Font :=
  match c.callee, c.arguments.mapM (Term.value? scope) with
  | ["fontsgen", "Font", "custom"], some [.text family, .number size, .style t] =>
    some (Font.custom family size t)
  | ["fontsgen", "Font", "fixed"], some [.text family, .number size] =>
    some (Font.fixed family size)
  | _, _ => none

namespace Function

def bind? : List Token → List Float32 → Option (List (String × Float32))
  | [], [] => some []
  | [.ident i, .punct ':' .alone, .ident type], [x] =>
    if type = .plain "f32" then some [(i.name, x)] else none
  | _, _ => none

def call? (f : Function) : Option Call :=
  Call.ofTokens? f.body

def font? (f : Function) (arguments : List Float32) : Option Font :=
  if rootedNames? f.result = some ["fontsgen", "Font"] then
    (bind? f.parameters arguments).bind fun scope => f.call?.bind (Call.font? scope)
  else none

end Function
end FontAccessors
