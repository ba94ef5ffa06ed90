import FontAccessors.Grammar.Statement

namespace FontAccessors.Grammar
open Token

/-- What may stand in the parentheses after `pub`; `none` where they belong to something else. -/
def restriction? (n : Nat) (content : List Token) : Option (Reader (List Token)) :=
  if atWords ["crate", "self", "super"] content then
    if ((identAt? content).any fun r => r.2.isEmpty) then some identToken else none
  else if atWord "in" content then some do return (← word "in") ++ (← modulePath n).tokens
  else none

/-- Nothing where the item is private. An empty invisible group stands for a missing one. -/
def visibility (n : Nat) : Reader (List Token) := do
  match invisibleAt? (← get) with
  | some ([], rest) => set rest; return []
  | _ =>
    if atWord "pub" (← get) then
      let lead ← word "pub"
      match (groupAt? .parenthesis (← get)).bind fun r => restriction? n r.1 with
      | some r => return lead ++ (← grouped .parenthesis r)
      | none => return lead
    else return []

def atReceiver (ts : List Token) : Bool :=
  let front : Reader (List Token) := inOrder
    [whenAt (atMark "&") (inOrder [mark "&", maybeLifetime]), maybeWord "mut"]
  (front ts).any fun r => atWord "self" r.2 && !second (atMark "::") r.2

def receiver (g : Rules) : Reader (List Token) := do
  if atMark "&" (← get) then
    inOrder [mark "&", maybeLifetime, maybeWord "mut", word "self"]
  else
    let lead ← inOrder [maybeWord "mut", word "self"]
    let t ← whenAt (atMark ":") do return (← mark ":") ++ (← g.type true true).tokens
    return lead ++ t

inductive FunctionParameter where
  | receiver
  | plain
  | variadic
  deriving DecidableEq

def functionParameter (g : Rules) : Reader (FunctionParameter × List Token) := do
  let ts ← get
  if atMark "..." ts then return (.variadic, ← mark "...")
  else if atReceiver ts then return (.receiver, ← receiver g)
  else if atName ts && second (atMark "<") ts then
    return (.plain, ident "_" ++ operator ":" ++ (← g.type true true).tokens)
  else
    let p ← g.pattern
    let colon ← mark ":"
    if atMark "..." (← get) then return (.variadic, p.tokens ++ colon ++ (← mark "..."))
    else return (.plain, p.tokens ++ colon ++ (← g.type true true).tokens)

def functionParameters (g : Rules) (isFirst : Bool) : Nat → Reader (List Token)
  | 0 => failure
  | n + 1 => do
    if (← get).isEmpty then return []
    let attributes ← outerAttributes g n
    let (kind, p) ← functionParameter g
    -- `self` may only come first, and an open end only last.
    if kind = .receiver && !isFirst then failure
    if (← get).isEmpty then return attributes ++ p
    let comma ← mark ","
    if kind = .variadic && !(← get).isEmpty then failure
    return attributes ++ p ++ comma ++ (← functionParameters g false n)

def functionWords (safe : Bool) : Reader (List Token) :=
  -- At most one of these words says how safe a call is.
  inOrder
    [maybeWord "const", maybeWord "async",
      whenAt (fun ts => atWord "unsafe" ts || (safe && atWord "safe" ts)) identToken, maybeAbi]

def atFunction (safe : Bool) (ts : List Token) : Bool :=
  (functionWords safe ts).any fun r => atWord "fn" r.2

def signature (g : Rules) (safe : Bool) (n : Nat) : Reader (List Token) := do
  let lead ← inOrder [functionWords safe, word "fn", nameToken]
  let ps ← generics g n
  let inputs ← grouped .parenthesis (functionParameters g true n)
  let output ← returnType g true
  return lead ++ ps.write Parameter.declared ++ inputs ++ output ++ (← conditions g n)

end FontAccessors.Grammar
