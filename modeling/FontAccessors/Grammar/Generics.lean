import FontAccessors.Grammar.Path

namespace FontAccessors.Grammar
open Token

def unlessEmpty (lead list : List Token) : List Token :=
  if list.isEmpty then [] else lead ++ list

def introduced (m : String) (list : Reader (List Token)) : Reader (List Token) :=
  whenAt (atMark m) do return unlessEmpty (← mark m) (← list)

/-- A parameter; an underscore may stand for the name of a type only if `unnamed`. -/
def parameter (g : Rules) (unnamed : Bool) (n : Nat) : Reader Parameter := do
  let attributes ← outerAttributes g n
  let ts ← get
  match lifetimeAt? ts with
  | some (name, rest) =>
    set rest
    return .lifetime attributes name
      (← introduced ":" (joined (atMarks [",", ">"]) lifetime "+" n))
  | none =>
    if atName ts then
      let i ← name
      let bounds ← introduced ":" (joined (atMarks [",", ">", "="]) (g.bound false true) "+" n)
      let default ← whenAt (atMark "=") do return (← mark "=") ++ (← g.type true true).tokens
      return .type attributes i bounds default
    else if atWord "const" ts then
      let _ ← word "const"
      let i ← name
      let colon ← mark ":"
      let t ← g.type true true
      let default ← whenAt (atMark "=") do return (← mark "=") ++ (← constArgument g n)
      return .const attributes i (colon ++ t.tokens) default
    else if unnamed && atWord "_" ts then return .type attributes (← anyIdent) [] []
    else failure

def parameterList (g : Rules) (unnamed : Bool) (n : Nat) : Reader Generics := do
  let _ ← mark "<"
  let l ← listUntil (atMark ">") (parameter g unnamed n) (mark ",") n
  let _ ← mark ">"
  return l

def generics (g : Rules) (n : Nat) : Reader Generics := do
  if atMark "<" (← get) then parameterList g true n else return []

def binder (g : Rules) (n : Nat) : Reader (List Token) := do
  let lead ← word "for"
  let l ← parameterList g false n
  return lead ++ operator "<" ++ writeList (l.map fun p => (p.1.declared, p.2)) ++ operator ">"

def maybeBinder (g : Rules) (n : Nat) : Reader (List Token) :=
  whenAt (atWord "for") (binder g n)

def atParameters (ts : List Token) : Bool :=
  -- Angle brackets hold parameters, unless they qualify a path.
  atMark "<" ts &&
    (second (fun r => atMarks [">", "#"] r || atWord "const" r) ts ||
      (second (fun r => atLifetime r || atName r) ts &&
        third (fun r => atMarks [">", ",", "="] r || (atMark ":" r && !atMark "::" r)) ts))

def endsConditions (ts : List Token) : Bool :=
  ts.isEmpty || atGroup .brace ts || atMarks [",", ";", "="] ts ||
    (atMark ":" ts && !atMark "::" ts)

def conditionBounds (bound : Reader (List Token)) (n : Nat) : Reader (List Token) := do
  return (← mark ":") ++ (← joined endsConditions bound "+" n)

def condition (g : Rules) (n : Nat) : Reader (List Token) := do
  let ts ← get
  if atLifetime ts && second (atMark ":") ts then
    return (← lifetime) ++ (← conditionBounds lifetime n)
  else
    let lifetimes ← maybeBinder g n
    let t ← g.type true true
    return lifetimes ++ t.tokens ++ (← conditionBounds (g.bound false true) n)

def conditions (g : Rules) (n : Nat) : Reader (List Token) :=
  whenAt (atWord "where") do
    let lead ← word "where"
    if atParameters (← get) then failure
    return unlessEmpty lead (← joined endsConditions (condition g n) "," n)

end FontAccessors.Grammar
