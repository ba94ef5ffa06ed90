import FontAccessors.Grammar.Type

namespace FontAccessors.Grammar
open Token

def atAlternative (ts : List Token) : Bool :=
  atMark "|" ts && !atMarks ["||", "|="] ts

def alternativesAfter (g : Rules) (n : Nat) : Reader (List Token) :=
  until? (fun ts => !atAlternative ts) (do return (← mark "|") ++ (← g.pattern).tokens) n

def alternatives (g : Rules) (n : Nat) : Reader Pattern := do
  let lead ← maybeMark "|"
  let p ← g.pattern
  let more ← alternativesAfter g n
  let form := if lead.isEmpty && more.isEmpty then p.form else .other
  return ⟨form, lead ++ p.tokens ++ more⟩

def patternList (g : Rules) (n : Nat) : Reader (List Token) :=
  commaList n do return (← alternatives g n).tokens

/-- The elements of a slice; an open range among them needs parentheses. -/
def sliceList (g : Rules) (n : Nat) : Reader (List Token) :=
  commaList n do
    let p ← alternatives g n
    if p.form.isOpenRange then failure else return p.tokens

def endsBound (ts : List Token) : Bool :=
  ts.isEmpty || atMarks ["|", "=", ",", ";"] ts || (atMark ":" ts && !atMark "::" ts) ||
    atWord "if" ts

def rangeBound (g : Rules) (n : Nat) : Reader (List Token) := do
  let ts ← get
  if endsBound ts then return []
  else if atValue ts then value
  else if atPath ts then return (← qualifiablePath g true n).tokens
  else if atWord "const" ts then inOrder [word "const", attributedBlock g n]
  else failure

def rangeMarks : Reader (Bool × List Token) := do
  let ts ← get
  if atMark "..=" ts then return (true, ← mark "..=")
  else if atMark "..." ts then
    let _ ← mark "..."
    return (true, operator "..=")
  else return (false, ← mark "..")

def rangeAfter (g : Rules) (start : List Token) (n : Nat) : Reader Pattern := do
  let (inclusive, marks) ← rangeMarks
  let stop ← rangeBound g n
  if inclusive && stop.isEmpty then failure
  return ⟨.range stop.isEmpty, start ++ marks ++ stop⟩

def rangeFromStart (g : Rules) (n : Nat) : Reader Pattern := do
  let r ← rangeAfter g [] n
  return { r with form := if r.form.isOpenRange then .other else .range true }

def constPattern (g : Rules) (n : Nat) : Reader Pattern := do
  let lead ← word "const"
  let (attributes, body) ← within (← groupContent .brace) do
    let attributes ← innerAttributes g n
    return (attributes, ← g.statements)
  let whole := lead ++ [.group .brace (attributes ++ body)]
  if atMark ".." (← get) then rangeAfter g whole n
  else return ⟨.block (lead ++ [.group .brace body]), whole⟩

def baseAndDigits : List Char → Nat × List Char
  | '0' :: 'x' :: ds => (16, ds)
  | '0' :: 'o' :: ds => (8, ds)
  | '0' :: 'b' :: ds => (2, ds)
  | ds => (10, ds)

def numeral? (base : Nat) (value : Nat) : List Char → Option Nat
  | [] => some value
  | c :: cs =>
    (Text.Quoted.hexValue? c).bind fun d =>
      if d < base then numeral? base (base * value + d) cs else none

def fieldIndex? (text : String) : Option String :=
  let (base, digits) := baseAndDigits text.toList
  ((numeral? base 0 (digits.filter (· != '_'))).filter (· < 4294967296)).map toString

def member : Reader (Bool × List Token) := do
  if atName (← get) then return (true, ← nameToken)
  else
    let index ← reading fun ts => (literalAt? ts).bind fun r => (fieldIndex? r.1).map (·, r.2)
    return (false, [.literal index])

def fieldPattern (g : Rules) (n : Nat) : Reader (List Token) := do
  let ts ← get
  if atWord "box" ts then
    verbatim do
      let _ ← inOrder [word "box", maybeWord "ref", maybeWord "mut", nameToken]
  else if atWords ["ref", "mut"] ts then
    inOrder [maybeWord "ref", maybeWord "mut", nameToken]
  else
    let (isNamed, name) ← member
    if atMark ":" (← get) || !isNamed then
      let colon ← mark ":"
      return name ++ colon ++ (← alternatives g n).tokens
    else return name

def fieldPatterns (g : Rules) : Nat → Reader (List Token)
  | 0 => failure
  | n + 1 => do
    if (← get).isEmpty then return []
    let attributes ← outerAttributes g n
    if atMark ".." (← get) then return attributes ++ (← mark "..")
    let p ← fieldPattern g n
    if (← get).isEmpty then return attributes ++ p
    let comma ← mark ","
    return attributes ++ p ++ comma ++ (← fieldPatterns g n)

def atPathPattern (ts : List Token) : Bool :=
  (atName ts && second (fun r => atMarks ["::", "!", ".."] r || atGroup .brace r ||
    atGroup .parenthesis r) ts) ||
  (atWord "self" ts && second (atMark "::") ts) ||
  atMarks ["::", "<"] ts || atWords ["Self", "super", "crate"] ts

def pathPattern (g : Rules) (n : Nat) : Reader Pattern := do
  let p ← qualifiablePath g true n
  let ts ← get
  if !p.isQualified && atMark "!" ts && !atMark "!=" ts && p.isModule then
    return ⟨.other, p.tokens ++ (← inOrder [mark "!", macroInput])⟩
  else if atGroup .brace ts then
    return ⟨.other, p.tokens ++ (← grouped .brace (fieldPatterns g n))⟩
  else if atGroup .parenthesis ts then
    return ⟨.other, p.tokens ++ (← grouped .parenthesis (patternList g n))⟩
  else if atMark ".." ts then rangeAfter g p.tokens n
  else return ⟨.other, p.tokens⟩

def namePattern (g : Rules) : Reader (List Token) := do
  let mode ← inOrder [maybeWord "ref", maybeWord "mut"]
  let name ← if atWord "self" (← get) then identToken else nameToken
  let inner ← whenAt (atMark "@") do return (← mark "@") ++ (← g.pattern).tokens
  return mode ++ name ++ inner

def patternRule (g : Rules) (n : Nat) : Reader Pattern := do
  let ts ← get
  let other (r : Reader (List Token)) : Reader Pattern := do return ⟨.other, ← r⟩
  if atPathPattern ts then pathPattern g n
  else if atWord "_" ts then other (word "_")
  else if atWord "box" ts then
    return ⟨.verbatim, ← verbatim do
      let _ ← word "box"
      let _ ← g.pattern⟩
  else if atWord "const" ts then constPattern g n
  else if atMark "-" ts || atValue ts then
    let start ← rangeBound g n
    if start.isEmpty then failure
    if atMark ".." (← get) then rangeAfter g start n else return ⟨.other, start⟩
  else if atWords ["ref", "mut", "self"] ts || atName ts then other (namePattern g)
  else if atMark "&" ts then
    other do return (← mark "&") ++ (← maybeWord "mut") ++ (← g.pattern).tokens
  else if atGroup .parenthesis ts then other (grouped .parenthesis (patternList g n))
  else if atGroup .bracket ts then other (grouped .bracket (sliceList g n))
  else if atMark ".." ts && !atMark "..." ts then rangeFromStart g n
  else failure

end FontAccessors.Grammar
