import FontAccessors.Grammar.Attribute

namespace FontAccessors.Grammar
open Token

def constArgument (g : Rules) (n : Nat) : Reader (List Token) := do
  let ts ← get
  if atValue ts then value
  else if atName ts then nameToken
  else attributedBlock g n

def argumentBounds (g : Rules) (n : Nat) : Reader (List Token) :=
  joined (atMarks [",", ">"]) (g.bound false true) "+" n

def TypeExpr.isAssociatedName (t : TypeExpr) : Bool :=
  match t.form with
  | .path p =>
    !p.isQualified && !p.isRooted && p.segments.length == 1
  | _ => false

def genericArgument (g : Rules) (n : Nat) : Reader Entry := do
  let ts ← get
  if atLifetime ts && !second (atMark "+") ts then return ⟨true, ← lifetime, []⟩
  else if atValue ts || atGroup .brace ts then return ⟨false, ← constArgument g n, []⟩
  else
    let t ← g.type true true
    let rest ← get
    if t.isAssociatedName && atMark "=" rest then
      let eq ← mark "="
      let rest ← get
      if atValue rest || atGroup .brace rest then
        return ⟨false, t.tokens ++ eq ++ (← constArgument g n), []⟩
      else return ⟨false, t.tokens ++ eq ++ (← g.type true true).tokens, []⟩
    else if t.isAssociatedName && atMark ":" rest then
      let colon ← mark ":"
      return ⟨false, t.tokens ++ colon ++ (← argumentBounds g n), []⟩
    else return ⟨false, t.tokens, []⟩

def angleList (element : Reader Entry) (n : Nat) : Reader (List Entry) := do
  let _ ← mark "<"
  let l ← listUntil (atMark ">") element (mark ",") n
  let _ ← mark ">"
  return l.map fun p => { p.1 with separator := p.2 }

def atTurbofish (ts : List Token) : Bool :=
  atMark "::" ts && third (atMark "<") ts

def angleArguments (g : Rules) (n : Nat) : Reader Arguments := do
  let turbofish ← root
  return .angle turbofish (← angleList (genericArgument g n) n)

/-- `Self` takes arguments as a name does; the other words of paths take none. -/
def segment (g : Rules) (inExpr : Bool) (n : Nat) : Reader Segment := do
  let ts ← get
  if atWords ["try", "super", "self", "crate"] ts then return ⟨← anyIdent, .none⟩
  let i ← if atWord "Self" ts then anyIdent else name
  let ts ← get
  if (!inExpr && atMark "<" ts && !atMarks ["<=", "<<="] ts) || atTurbofish ts then
    return ⟨i, ← angleArguments g n⟩
  else return ⟨i, .none⟩

/-- `::` leads to a further name, but not before a parenthesis. -/
def segmentsAfter (g : Rules) (inExpr : Bool) : Nat → Reader (List Segment)
  | 0 => failure
  | n + 1 => do
    let ts ← get
    if atMark "::" ts && !third (atGroup .parenthesis) ts then
      let _ ← mark "::"
      let s ← segment g inExpr n
      return s :: (← segmentsAfter g inExpr n)
    else return []

def Path.extend (g : Rules) (inExpr : Bool) (n : Nat) (p : Path) : Reader Path := do
  return { p with segments := p.segments ++ (← segmentsAfter g inExpr n) }

def path (g : Rules) (inExpr : Bool) (n : Nat) : Reader Path := do
  let isRooted ← root
  let s ← segment g inExpr n
  Path.extend g inExpr n ⟨[], isRooted, [s]⟩

def qualifiedSegments (g : Rules) (inExpr : Bool) : Nat → Reader (List Segment)
  | 0 => failure
  | n + 1 => do
    let s ← segment g inExpr n
    if atMark "::" (← get) then
      let _ ← mark "::"
      return s :: (← qualifiedSegments g inExpr n)
    else return [s]

def qualifiablePath (g : Rules) (inExpr : Bool) (n : Nat) : Reader Path := do
  if atMark "<" (← get) then
    let opening ← mark "<"
    let t ← g.type true true
    let trait ← whenAt (atWord "as") do
      return (← word "as") ++ (← path g false n).tokens
    let closing ← mark ">"
    let _ ← mark "::"
    return ⟨opening ++ t.tokens ++ trait ++ closing, true, ← qualifiedSegments g inExpr n⟩
  else path g inExpr n

end FontAccessors.Grammar
