import FontAccessors.Regex.Term
import FontAccessors.Text.Blank

namespace FontAccessors.Regex
open Text

structure State where
  rest : List Char
  position : Position
  ignoresBlanks : Bool
  names : List (String × Span)

abbrev Read (α : Type) := StateT State (Except Fault) α

namespace Read
variable {α : Type}

def fail (cause : Cause) (span : Span) : Read α :=
  throw ⟨cause, span, none⟩

def failAgain (cause : Cause) (span earlier : Span) : Read α :=
  throw ⟨cause, span, some earlier⟩

def peek : Read (Option Char) := do
  return (← get).rest.head?

def here : Read Position := do
  return (← get).position

def noSpan : Read Span := do
  let p ← here
  return ⟨p, p⟩

def charSpan : Read Span := do
  let p ← here
  return ⟨p, ((← peek).map p.after).getD p⟩

def spanFrom (start : Position) : Read Span := do
  return ⟨start, ← here⟩

def peekNext : Read (Option Char) := do
  return (← get).rest.tail.head?

def skip : Read (Option Char) := do
  modify fun s =>
    match s.rest with
    | [] => s
    | c :: cs => { s with rest := cs, position := s.position.after c }
  peek

def skipText (text : String) : Read Bool := do
  if text.toList.isPrefixOf (← get).rest then
    text.toList.forM fun _ => discard skip
    return true
  else return false

def pastBlanks (inComment : Bool) (p : Position) : List Char → Position × List Char
  | [] => (p, [])
  | c :: cs =>
    if inComment then pastBlanks (c != '\n') (p.after c) cs
    else if isWhite c then pastBlanks false (p.after c) cs
    else if c = '#' then pastBlanks true (p.after c) cs
    else (p, c :: cs)

def skipBlanks : Read (Option Char) := do
  modify fun s =>
    if s.ignoresBlanks then
      let (p, rest) := pastBlanks false s.position s.rest
      { s with rest := rest, position := p }
    else s
  peek

def advance : Read (Option Char) := do
  discard skip
  skipBlanks

/-- What is behind the character ahead and what is ignored; of a comment only its mark is. -/
def peekFar : Read (Option Char) := do
  let s ← get
  if s.ignoresBlanks then
    match s.rest.tail.dropWhile isWhite with
    | '#' :: cs => return (cs.dropWhile isWhite).head?
    | cs => return cs.head?
  else peekNext

def ignoreBlanks (b : Bool) : Read Unit :=
  modify fun s => { s with ignoresBlanks := b }

/-- Takes characters while `p` holds, stepping over what is ignored behind each. The bound is on
their number. -/
def takeWhile (p : Char → Bool) : Nat → Read (List Char)
  | 0 => return []
  | n + 1 => do
    match (← peek).filter p with
    | none => return []
    | some c =>
      discard advance
      return c :: (← takeWhile p n)

def stepsLeft : Read Nat := do
  return (← get).rest.length + 1

end Read
end FontAccessors.Regex
