import FontAccessors.Regex.Escape

namespace FontAccessors.Regex
open Text

namespace Read

def namedSet? (name : String) : Option CodePoints :=
  match name with
  | "alnum" => some ⟨[(0x30, 0x39), (0x41, 0x5A), (0x61, 0x7A)]⟩
  | "alpha" => some ⟨[(0x41, 0x5A), (0x61, 0x7A)]⟩
  | "ascii" => some ⟨[(0x00, 0x7F)]⟩
  | "blank" => some ⟨[(0x09, 0x09), (0x20, 0x20)]⟩
  | "cntrl" => some ⟨[(0x00, 0x1F), (0x7F, 0x7F)]⟩
  | "digit" => some ⟨[(0x30, 0x39)]⟩
  | "graph" => some ⟨[(0x21, 0x7E)]⟩
  | "lower" => some ⟨[(0x61, 0x7A)]⟩
  | "print" => some ⟨[(0x20, 0x7E)]⟩
  | "punct" => some ⟨[(0x21, 0x2F), (0x3A, 0x40), (0x5B, 0x60), (0x7B, 0x7E)]⟩
  | "space" => some ⟨[(0x09, 0x0D), (0x20, 0x20)]⟩
  | "upper" => some ⟨[(0x41, 0x5A)]⟩
  | "word" => some ⟨[(0x30, 0x39), (0x41, 0x5A), (0x5F, 0x5F), (0x61, 0x7A)]⟩
  | "xdigit" => some ⟨[(0x30, 0x39), (0x41, 0x46), (0x61, 0x66)]⟩
  | _ => none

def nameInColons? (s : List Char) : Option (Bool × List Char) :=
  match s with
  | '[' :: ':' :: '^' :: cs => some (true, cs.takeWhile (· != ':'))
  | '[' :: ':' :: cs => some (false, cs.takeWhile (· != ':'))
  | _ => none

def namedItem? : Read (Option Item) := do
  let start ← here
  match nameInColons? (← get).rest with
  | none => return none
  | some (isNegated, name) =>
    match namedSet? (String.ofList name) with
    | none => return none
    | some members =>
      let lead := if isNegated then "[:^" else "[:"
      if ← skipText (lead ++ String.ofList name ++ ":]") then
        return some (.named (← spanFrom start) members isNegated)
      else return none

def setPrimitive : Read Primitive := do
  match ← peek with
  | some '\\' => escape
  | c =>
    let span ← charSpan
    discard skip
    return .literal ⟨span, c.getD '\\', false⟩

def itemOf : Primitive → Read Item
  | .literal l => return .literal l
  | .escaped span c => return .escaped span c
  | p => fail .classEscapeInvalid p.span

def boundOf : Primitive → Read Literal
  | .literal l => return l
  | p => fail .classRangeLiteral p.span

def setItem (opening : Span) : Read Item := do
  let first ← setPrimitive
  match ← skipBlanks with
  | none => fail .classUnclosed opening
  | some c =>
    let next ← peekFar
    if c != '-' || next = some ']' || next = some '-' then itemOf first
    else if (← advance).isNone then fail .classUnclosed opening
    else
      let last ← setPrimitive
      let span : Span := ⟨first.span.start, last.span.stop⟩
      let a ← boundOf first
      let b ← boundOf last
      if a.char ≤ b.char then return .range span a b else fail .classRangeInvalid span

structure Items where
  start : Position
  items : List Item

def Items.add (is : Items) (i : Item) : Items :=
  { is with items := i :: is.items }

def Items.toItem (is : Items) : Item :=
  match is.items.reverse with
  | [] => .nothing ⟨is.start, is.start⟩
  | [i] => i
  | i :: rest => .union ⟨i.span.start, (rest.getLastD i).span.stop⟩ (i :: rest)

/-- A content with an operation that waits for what is to the right of it. -/
abbrev Pending := Option (Operation × Content)

def apply (p : Pending) (right : Content) : Content :=
  match p with
  | none => right
  | some (o, left) => .operation ⟨left.span.start, right.span.stop⟩ o left right

def operations : List (String × Operation) :=
  [("&&", .intersection), ("--", .difference), ("~~", .symmetricDifference)]

def operation? : List (String × Operation) → Read (Option Operation)
  | [] => return none
  | (sign, o) :: rest => do if ← skipText sign then return some o else operation? rest

def leadingHyphens (start : Position) (is : Items) : Nat → Read Items
  | 0 => return is
  | n + 1 => do
    match ← peek with
    | some '-' =>
      let span ← charSpan
      if (← advance).isNone then fail .classUnclosed ⟨start, start⟩
      else leadingHyphens start (is.add (.literal ⟨span, '-', false⟩)) n
    | _ => return is

def opening (start : Position) : Read (Bool × Items) := do
  let orUnclosed (c : Option Char) : Read Unit := do
    if c.isNone then fail .classUnclosed (← spanFrom start)
  orUnclosed (← advance)
  let isNegated := (← peek) = some '^'
  if isNegated then orUnclosed (← advance)
  let is ← leadingHyphens start ⟨← here, []⟩ (← stepsLeft)
  if is.items.isEmpty && (← peek) = some ']' then
    let span ← charSpan
    orUnclosed (← advance)
    return (isNegated, is.add (.literal ⟨span, ']', false⟩))
  else return (isNegated, is)

mutual

def bracket : Nat → Read (Span × Bool × Content)
  | 0 => return (⟨.start, .start⟩, false, .item (.nothing ⟨.start, .start⟩))
  | n + 1 => do
    let start ← here
    let (isNegated, is) ← opening start
    let content ← bracketContent n (← spanFrom start) none is
    return (← spanFrom start, isNegated, content)

def bracketContent (n : Nat) (opening : Span) (pending : Pending) (is : Items) : Read Content := do
  match n with
  | 0 => return .item is.toItem
  | n + 1 =>
    match ← skipBlanks with
    | none => fail .classUnclosed opening
    | some ']' =>
      discard skip
      return apply pending (.item is.toItem)
    | some '[' =>
      match ← namedItem? with
      | some i => bracketContent n opening pending (is.add i)
      | none =>
        let (span, isNegated, content) ← bracket n
        bracketContent n opening pending (is.add (.bracket span isNegated content))
    | some _ =>
      match ← operation? operations with
      | some o =>
        bracketContent n opening (some (o, apply pending (.item is.toItem))) ⟨← here, []⟩
      | none => bracketContent n opening pending (is.add (← setItem opening))

end

end Read
end FontAccessors.Regex
