import FontAccessors.Regex.Bracket

namespace FontAccessors.Regex
open Text

namespace Read

def repeated : List Term → Read (Term × List Term)
  | t :: ts =>
    match t with
    | .nothing _ | .switch .. => do fail .nothingRepeated (← noSpan)
    | t => return (t, ts)
  | [] => do fail .nothingRepeated (← noSpan)

def skipLaziness (next : Option Char) : Read Unit := do
  if next = some '?' then discard skip

def repetition (ts : List Term) (least : Nat) (most : Option Nat) : Read (List Term) := do
  let (t, ts) ← repeated ts
  skipLaziness (← skip)
  return .repetition ⟨t.span.start, ← here⟩ t least most :: ts

def countLimit : Nat := 4294967295

def count : Read (Except (Cause × Span) Nat) := do
  let n ← stepsLeft
  skipSpaces false n
  let start ← here
  let digits ← takeWhile Char.isDigit n
  let span ← spanFrom start
  skipSpaces true n
  let value := valueOf 10 (digits.map fun d => d.toNat - '0'.toNat)
  if digits.isEmpty then return .error (.countMissing, span)
  else if countLimit < value then return .error (.countInvalid, span)
  else return .ok value
where
  skipSpaces (withIgnored : Bool) : Nat → Read Unit
    | 0 => return ()
    | n + 1 => do
      if (← peek).any isWhite then
        discard (if withIgnored then advance else skip)
        skipSpaces withIgnored n

def orFail : Except (Cause × Span) Nat → Read Nat
  | .ok n => return n
  | .error (cause, span) => fail cause span

def countedRepetition (ts : List Term) : Read (List Term) := do
  let start ← here
  let (t, ts) ← repeated ts
  let orUnclosed (isOpen : Bool) : Read Unit := do
    if isOpen then fail .countUnclosed (← spanFrom start)
  orUnclosed (← advance).isNone
  let least ← count
  orUnclosed (← peek).isNone
  let (least, most) ←
    if (← peek) = some ',' then do
      let next ← advance
      orUnclosed next.isNone
      let least ← orFail least
      if next = some '}' then pure (least, none)
      else pure (least, some (← orFail (← count)))
    else do
      let n ← orFail least
      pure (n, some n)
  orUnclosed ((← peek) != some '}')
  skipLaziness (← advance)
  if most.any (· < least) then fail .countRangeInvalid (← spanFrom start)
  else return .repetition ⟨t.span.start, ← here⟩ t least most :: ts

/-- A flag with its place; without one it is the sign that switches the flags behind it off. -/
abbrev FlagItem := Option Flag × Span

def addFlag (items : List FlagItem) (i : FlagItem) : Read (List FlagItem) := do
  match items.find? (·.1 == i.1) with
  | some earlier =>
    failAgain (if i.1.isNone then .negationRepeated else .flagDuplicate) i.2 earlier.2
  | none => return items ++ [i]

def flagItems (items : List FlagItem) : Nat → Read (List FlagItem)
  | 0 => return items
  | n + 1 => do
    match ← peek with
    | none => fail .flagMissing (← noSpan)
    | some c =>
      if c = ':' || c = ')' then
        match items.getLast? with
        | some (none, span) => fail .negationDangling span
        | _ => return items
      else
        let span ← charSpan
        let flag ←
          if c = '-' then pure none
          else
            match Flag.ofChar? c with
            | some f => pure (some f)
            | none => fail .flagUnknown span
        let items ← addFlag items (flag, span)
        discard skip
        flagItems items n

def switchesOf (isOn : Bool) : List FlagItem → Switches
  | [] => []
  | (some f, _) :: is => (f, isOn) :: switchesOf isOn is
  | (none, _) :: is => switchesOf false is

inductive Opening where
  | switch (s : Switches)
  | group (isCapturing : Bool) (s : Switches)

def isNameChar (isFirst : Bool) (c : Char) : Bool :=
  if isFirst then isIdentStart c
  else isIdentContinue c || c == '.' || c == '[' || c == ']'

def nameChars (isFirst : Bool) : Nat → Read (List Char)
  | 0 => return []
  | n + 1 => do
    match ← peek with
    | none | some '>' => return []
    | some c =>
      if isNameChar isFirst c then
        discard skip
        return c :: (← nameChars false n)
      else fail .groupNameInvalid (← charSpan)

def groupName : Read Unit := do
  let start ← here
  let name := String.ofList (← nameChars true (← stepsLeft))
  let span ← spanFrom start
  if (← peek).isNone then fail .groupNameUnfinished (← noSpan)
  else
    discard skip
    if name.isEmpty then fail .groupNameEmpty ⟨start, start⟩
    else
      match (← get).names.lookup name with
      | some earlier => failAgain .groupNameDuplicate span earlier
      | none => modify fun s => { s with names := (name, span) :: s.names }

def skipAny : List String → Read Bool
  | [] => return false
  | s :: ss => do if ← skipText s then return true else skipAny ss

def groupOpening (parenthesis : Span) : Read Opening := do
  discard advance
  if ← skipAny ["?=", "?!", "?<=", "?<!"] then
    fail .lookAround (← spanFrom parenthesis.start)
  else
    let inside ← noSpan
    if ← skipAny ["?P<", "?<"] then
      groupName
      return .group true []
    else if ← skipText "?" then
      if (← peek).isNone then fail .groupUnclosed parenthesis
      else
        let items ← flagItems [] (← stepsLeft)
        let closing ← peek
        discard skip
        if closing = some ')' then
          if items.isEmpty then fail .nothingRepeated inside
          else return .switch (switchesOf true items)
        else return .group false (switchesOf true items)
    else return .group true []

def dotOrAnchor : Read Primitive := do
  let span ← charSpan
  match ← peek with
  | some '.' => discard skip; return .dot span
  | some '^' => discard skip; return .assertion span .lineStart
  | some '$' => discard skip; return .assertion span .lineStop
  | _ => setPrimitive

def sequenceOf (span : Span) : List Term → Term
  | [] => .nothing span
  | [t] => t
  | ts => .sequence span ts

mutual

def group : Nat → Read Term
  | 0 => return .nothing ⟨.start, .start⟩
  | n + 1 => do
    let parenthesis ← charSpan
    match ← groupOpening parenthesis with
    | .switch s =>
      (s.lookup .ignoresBlanks).forM ignoreBlanks
      return .switch (← spanFrom parenthesis.start) s
    | .group isCapturing s =>
      let outside := (← get).ignoresBlanks
      ignoreBlanks ((s.lookup .ignoresBlanks).getD outside)
      let t ← alternatives n
      if (← peek).isNone then fail .groupUnclosed parenthesis
      else
        ignoreBlanks outside
        discard skip
        return .group (← spanFrom parenthesis.start) isCapturing s t

def alternatives : Nat → Read Term
  | 0 => return .nothing ⟨.start, .start⟩
  | n + 1 => do
    let start ← here
    match ← branches n with
    | [t] => return t
    | ts => return .alternatives (← spanFrom start) ts

def branches : Nat → Read (List Term)
  | 0 => return []
  | n + 1 => do
    let t ← terms n (← here) []
    if (← peek) = some '|' then
      discard skip
      return t :: (← branches n)
    else return [t]

/-- The rest of a sequence, of which `ts` are the terms so far, the last one first. -/
def terms : Nat → (start : Position) → (ts : List Term) → Read Term
  | 0, _, _ => return .nothing ⟨.start, .start⟩
  | n + 1, start, ts => do
    match ← skipBlanks with
    | none | some ')' | some '|' => return sequenceOf (← spanFrom start) ts.reverse
    | some '(' => do
      let t ← group n
      terms n start (t :: ts)
    | some '[' => do
      let (span, isNegated, content) ← bracket n
      terms n start (.bracket span isNegated content :: ts)
    | some '?' => do terms n start (← repetition ts 0 (some 1))
    | some '*' => do terms n start (← repetition ts 0 none)
    | some '+' => do terms n start (← repetition ts 1 none)
    | some '{' => do terms n start (← countedRepetition ts)
    | some '\\' => do
      let p ← escape
      terms n start (.primitive p :: ts)
    | some _ => do
      let p ← dotOrAnchor
      terms n start (.primitive p :: ts)

end

def pattern : Read Term := do
  let t ← alternatives (4 * (← stepsLeft))
  if (← peek).isSome then fail .groupUnopened (← charSpan)
  else
    match t.excess nestingLimit with
    | some span => fail .nestedTooDeeply span
    | none => return t

end Read

def Term.ofChars (s : List Char) : Except Fault Term :=
  Read.pattern.run' ⟨s, .start, false, []⟩

end FontAccessors.Regex
