import FontAccessors.Token.Basic
import FontAccessors.Token.Literal

namespace FontAccessors.Grammar
open Token

/-- Replaces invisible groups at the front by their content. -/
def enter : List Token → List Token
  | .group .invisible content :: rest => enter (content ++ rest)
  | ts => ts
termination_by ts => totalWeight ts
decreasing_by simp [weight]

theorem enter_invisible (content rest : List Token) :
    enter (.group .invisible content :: rest) = enter (content ++ rest) := by
  rw [enter]

/-- Tokens that count as the end of the input: none but invisible groups around nothing. -/
def isSpent (ts : List Token) : Bool :=
  (enter ts).isEmpty

def identAt? (ts : List Token) : Option (Ident × List Token) :=
  match enter ts with
  | .ident i :: rest => some (i, rest)
  | _ => none

def markAt? (ts : List Token) : Option (Char × Spacing × List Token) :=
  -- An apostrophe is part of a lifetime and no mark.
  match enter ts with
  | .punct c s :: rest => if c = '\'' then none else some (c, s, rest)
  | _ => none

def literalAt? (ts : List Token) : Option (String × List Token) :=
  match enter ts with
  | .literal text :: rest => some (text, rest)
  | _ => none

def lifetimeAt? (ts : List Token) : Option (Ident × List Token) :=
  match enter ts with
  | .punct '\'' .joint :: rest => identAt? rest
  | _ => none

def groupAt? (d : Delimiter) (ts : List Token) : Option (List Token × List Token) :=
  match enter ts with
  | .group d' content :: rest => if d = d' then some (content, rest) else none
  | _ => none

def invisibleAt? : List Token → Option (List Token × List Token)
  | .group .invisible content :: rest => some (content, rest)
  | _ => none

def operatorAt? : List Char → List Token → Option (List Token)
  -- An operator of several marks is joint up to its last one.
  | [], _ => none
  | [c], ts => (markAt? ts).bind fun m => if m.1 = c then some m.2.2 else none
  | c :: cs, ts =>
    (markAt? ts).bind fun m =>
      if m.1 = c && m.2.1 = .joint then operatorAt? cs m.2.2 else none

def keywords : List String :=
  ["_", "abstract", "as", "async", "await", "become", "box", "break", "const", "continue", "crate",
    "do", "dyn", "else", "enum", "extern", "false", "final", "fn", "for", "if", "impl", "in", "let",
    "loop", "macro", "match", "mod", "move", "mut", "override", "priv", "pub", "ref", "return",
    "Self", "self", "static", "struct", "super", "trait", "true", "try", "type", "typeof", "unsafe",
    "unsized", "use", "virtual", "where", "while", "yield"]

def isName (i : Ident) : Bool :=
  i.isRaw || !keywords.contains i.name

def atName (ts : List Token) : Bool :=
  (identAt? ts).any fun r => isName r.1

def atIdent (ts : List Token) : Bool :=
  (identAt? ts).isSome

def atWord (w : String) (ts : List Token) : Bool :=
  (identAt? ts).any fun r => r.1 = .plain w

def atWords (ws : List String) (ts : List Token) : Bool :=
  (identAt? ts).any fun r => !r.1.isRaw && ws.contains r.1.name

def atMark (m : String) (ts : List Token) : Bool :=
  (operatorAt? m.toList ts).isSome

def atMarks (ms : List String) (ts : List Token) : Bool :=
  ms.any fun m => atMark m ts

def atGroup (d : Delimiter) (ts : List Token) : Bool :=
  (groupAt? d ts).isSome

def atInvisible (ts : List Token) : Bool :=
  (invisibleAt? ts).isSome

def atLifetime (ts : List Token) : Bool :=
  (lifetimeAt? ts).isSome

def valueAt? (ts : List Token) : Option (List Token × List Token) :=
  match enter ts with
  | .literal text :: rest => some ([.literal text], rest)
  | .ident i :: rest =>
    if i = .plain "true" || i = .plain "false" then some ([.ident i], rest) else none
  | .punct '-' _ :: rest =>
    (literalAt? rest).bind fun r =>
      if Literal.isNumber r.1.toList then some ([.punct '-' .alone, .literal r.1], r.2) else none
  | _ => none

def atValue (ts : List Token) : Bool :=
  (valueAt? ts).isSome

def stringAt? (ts : List Token) : Option (String × List Token) :=
  (literalAt? ts).filter fun r => (Text.Quoted.value? r.1.toList).isSome

/-- What follows the first token, a lifetime counting as one. -/
def skip (ts : List Token) : Option (List Token) :=
  match enter ts with
  | [] => none
  | .punct '\'' .joint :: .ident _ :: rest => some rest
  | _ :: rest => some rest

def second (p : List Token → Bool) (ts : List Token) : Bool :=
  (skip ts).any p

def third (p : List Token → Bool) (ts : List Token) : Bool :=
  ((skip ts).bind skip).any p

abbrev Reader (α : Type) := StateT (List Token) Option α

def reading {α : Type} (f : List Token → Option (α × List Token)) : Reader α :=
  f

def operatorTokens : List Char → List Token
  | [] => []
  | [c] => [.punct c .alone]
  | c :: cs => .punct c .joint :: operatorTokens cs

def mark (m : String) : Reader (List Token) :=
  reading fun ts => (operatorAt? m.toList ts).map fun rest => (operatorTokens m.toList, rest)

def anyIdent : Reader Ident :=
  reading identAt?

def name : Reader Ident :=
  reading fun ts => (identAt? ts).filter fun r => isName r.1

def nameToken : Reader (List Token) :=
  return [.ident (← name)]

def identToken : Reader (List Token) :=
  return [.ident (← anyIdent)]

def word (w : String) : Reader (List Token) :=
  reading fun ts =>
    ((identAt? ts).filter fun r => r.1 = .plain w).map fun r => ([.ident r.1], r.2)

def lifetime : Reader (List Token) :=
  reading fun ts =>
    (lifetimeAt? ts).map fun r => ([.punct '\'' .joint, .ident r.1], r.2)

def value : Reader (List Token) :=
  reading valueAt?

def stringLiteral : Reader (List Token) :=
  reading fun ts => (stringAt? ts).map fun r => ([.literal r.1], r.2)

def groupContent (d : Delimiter) : Reader (List Token) :=
  reading (groupAt? d)

def invisibleContent : Reader (List Token) :=
  reading invisibleAt?

def rawGroup : Reader (Delimiter × List Token) :=
  reading fun
    | .group d content :: rest => if d = .invisible then none else some ((d, content), rest)
    | _ => none

def within {α : Type} (content : List Token) (r : Reader α) : Reader α :=
  reading fun ts =>
    (r content).bind fun s => if isSpent s.2 then some (s.1, ts) else none

def grouped (d : Delimiter) (r : Reader (List Token)) : Reader (List Token) := do
  return [.group d (← within (← groupContent d) r)]

def whenAt (p : List Token → Bool) (r : Reader (List Token)) : Reader (List Token) := do
  if p (← get) then r else return []

def maybeMark (m : String) : Reader (List Token) :=
  whenAt (atMark m) (mark m)

def maybeWord (w : String) : Reader (List Token) :=
  whenAt (atWord w) (word w)

def maybeLifetime : Reader (List Token) :=
  whenAt atLifetime lifetime

def inOrder : List (Reader (List Token)) → Reader (List Token)
  | [] => return []
  | r :: rs => do return (← r) ++ (← inOrder rs)

def until? (stop : List Token → Bool) (r : Reader (List Token)) : Nat → Reader (List Token)
  | 0 => failure
  | n + 1 => do
    if stop (← get) then return []
    else return (← r) ++ (← until? stop r n)

/-- Elements with a separator after each, which may be missing after the last; ends where `stop`
holds. -/
def listUntil {α : Type} (stop : List Token → Bool) (element : Reader α)
    (separator : Reader (List Token)) : Nat → Reader (List (α × List Token))
  | 0 => failure
  | n + 1 => do
    if stop (← get) then return []
    let a ← element
    if stop (← get) then return [(a, [])]
    let s ← separator
    return (a, s) :: (← listUntil stop element separator n)

/-- Elements that a separator joins, which may also follow the last; a missing separator ends the
list, and so does `stop` after one. -/
def joined (stop : List Token → Bool) (element : Reader (List Token)) (separator : String) :
    Nat → Reader (List Token)
  | 0 => failure
  | n + 1 => do
    if stop (← get) then return []
    let a ← element
    if atMark separator (← get) then
      return a ++ (← mark separator) ++ (← joined stop element separator n)
    else return a

def writeList (l : List (List Token × List Token)) : List Token :=
  l.flatMap fun p => p.1 ++ p.2

def commaList (bound : Nat) (element : Reader (List Token)) : Reader (List Token) := do
  return writeList (← listUntil List.isEmpty element (mark ",") bound)

/-- The tokens between two positions, as they stand in the input. An invisible group that the end
lies in is entered. -/
def between (start : List Token) (endWeight : Nat) : List Token :=
  match start with
  | [] => []
  | t :: rest =>
    if totalWeight start ≤ endWeight then []
    else if totalWeight rest < endWeight then
      match t with
      | .group .invisible content => between (content ++ rest) endWeight
      | _ => []
    else t :: between rest endWeight
termination_by totalWeight start
decreasing_by
  · simp_all [weight]
  · have := weight_pos t; simp_all

def verbatim (r : Reader Unit) : Reader (List Token) := do
  let start ← get
  r
  return between start (totalWeight (← get))

structure Reading where
  isVerbatim : Bool
  tokens : List Token

def plainly (r : Reader (List Token)) : Reader Reading := do
  return ⟨false, ← r⟩

/-- The tokens since `start`, or what was read if it is written again. -/
def finish (start : List Token) (r : Reader Reading) : Reader (List Token) := do
  let a ← r
  if a.isVerbatim then return between start (totalWeight (← get)) else return a.tokens

end FontAccessors.Grammar
