import FontAccessors.Regex.Reader

namespace FontAccessors.Regex
open Text

namespace Read

def hexValue? (c : Char) : Option Nat :=
  if c.isDigit then some (c.toNat - '0'.toNat)
  else if 'a' ≤ c ∧ c ≤ 'f' then some (c.toNat - 'a'.toNat + 10)
  else if 'A' ≤ c ∧ c ≤ 'F' then some (c.toNat - 'A'.toNat + 10)
  else none

def valueOf (radix : Nat) (digits : List Nat) : Nat :=
  digits.foldl (radix * · + ·) 0

def charOf? (n : Nat) : Option Char :=
  if n.isValidChar then some (Char.ofNat n) else none

def hexDigits (isFirst : Bool) : Nat → Read (List Nat)
  | 0 => return []
  | n + 1 => do
    let c ← if isFirst then peek else advance
    match c with
    | none => fail .escapeUnfinished (← noSpan)
    | some c =>
      match hexValue? c with
      | none => fail .digitInvalid (← charSpan)
      | some d => return d :: (← hexDigits false n)

/-- Digits up to a closing brace; the bound is on their number. -/
def bracedDigits : Nat → Read (List Nat)
  | 0 => return []
  | n + 1 => do
    match ← advance with
    | none | some '}' => return []
    | some c =>
      match hexValue? c with
      | none => fail .digitInvalid (← charSpan)
      | some d => return d :: (← bracedDigits n)

def byNumber (start : Position) (letter : Char) : Read Literal := do
  let count := if letter = 'x' then 2 else if letter = 'u' then 4 else 8
  match ← advance with
  | none => fail .escapeUnfinished (← noSpan)
  | some '{' =>
    let brace ← charSpan
    let digits ← bracedDigits (← stepsLeft)
    if (← peek).isNone then fail .escapeUnfinished (← spanFrom brace.start)
    else
      let inside ← spanFrom brace.stop
      discard advance
      if digits.isEmpty then fail .hexadecimalMissing (← spanFrom brace.start)
      else
        match charOf? (valueOf 16 digits) with
        | none => fail .hexadecimalInvalid inside
        | some c => return ⟨← spanFrom start, c, false⟩
  | some _ =>
    let first ← here
    let digits ← hexDigits true count
    discard advance
    match charOf? (valueOf 16 digits) with
    | none => fail .hexadecimalInvalid (← spanFrom first)
    | some c => return ⟨← spanFrom start, c, letter = 'x'⟩

def bracedName : Nat → Read (List Char)
  | 0 => return []
  | n + 1 => do
    match ← advance with
    | none | some '}' => return []
    | some c => return c :: (← bracedName n)

def cutAt? (mark : List Char) : List Char → Option (List Char × List Char)
  | [] => none
  | c :: cs =>
    if mark.isPrefixOf (c :: cs) then some ([], (c :: cs).drop mark.length)
    else (cutAt? mark cs).map fun p => (c :: p.1, p.2)

def propertyOf (isNegated : Bool) (s : List Char) : EscapedClass :=
  match ((cutAt? ['!', '='] s).or (cutAt? [':'] s)).or (cutAt? ['='] s) with
  | some (name, value) =>
    .property (String.ofList name) (some (String.ofList value)) isNegated
  | none => .property (String.ofList s) none isNegated

def byProperty (start : Position) (isNegated : Bool) : Read Primitive := do
  match ← advance with
  | none => fail .escapeUnfinished (← noSpan)
  | some '{' =>
    let name ← bracedName (← stepsLeft)
    if (← peek).isNone then fail .escapeUnfinished (← noSpan)
    else
      discard skip
      return .escaped (← spanFrom start) (propertyOf isNegated name)
  | some '\\' => fail .propertyInvalid (← charSpan)
  | some c =>
    discard advance
    return .escaped (← spanFrom start) (propertyOf isNegated [c])

def isEdgeLetter (c : Char) : Bool :=
  c.isAlpha || c == '-'

def edgeNamed? (name : String) : Option WordEdge :=
  match name with
  | "start" => some .start
  | "end" => some .stop
  | "start-half" => some .halfStart
  | "end-half" => some .halfStop
  | _ => none

def bracedEdge? (start : Position) : Read (Option WordEdge) := do
  let before ← get
  let brace ← here
  match ← advance with
  | none => fail .wordEdgeOrCountUnfinished (← spanFrom start)
  | some c =>
    if !isEdgeLetter c then
      set before
      return none
    else
      let first ← here
      let name ← takeWhile isEdgeLetter (← stepsLeft)
      if (← peek) != some '}' then fail .wordEdgeUnclosed (← spanFrom brace)
      else
        let inside ← spanFrom first
        discard skip
        match edgeNamed? (String.ofList name) with
        | some edge => return some edge
        | none => fail .wordEdgeUnknown inside

def controlOf? : Char → Option Char
  | 'a' => some '\x07'
  | 'f' => some '\x0C'
  | 't' => some '\t'
  | 'n' => some '\n'
  | 'r' => some '\r'
  | 'v' => some '\x0B'
  | _ => none

def assertionOf? : Char → Option Assertion
  | 'A' => some .textStart
  | 'z' => some .textStop
  | 'B' => some (.word .noBoundary)
  | '<' => some (.word .start)
  | '>' => some (.word .stop)
  | _ => none

def shortClassOf? (c : Char) : Option EscapedClass :=
  match c.toLower with
  | 'd' => some (.short .digit c.isUpper)
  | 's' => some (.short .space c.isUpper)
  | 'w' => some (.short .word c.isUpper)
  | _ => none

def standsForItself (c : Char) : Bool :=
  -- Any ASCII character may be escaped to stand for itself, but for those with other meanings.
  isAscii c && !c.isAlphanum && c != '<' && c != '>'

def simpleEscape (start : Position) (c : Char) : Read Primitive := do
  discard skip
  let span ← spanFrom start
  if standsForItself c then return .literal ⟨span, c, false⟩
  else
    match controlOf? c, assertionOf? c, shortClassOf? c with
    | some d, _, _ => return .literal ⟨span, d, false⟩
    | _, some a, _ => return .assertion span a
    | _, _, some s => return .escaped span s
    | none, none, none =>
      if c = 'b' then
        let edge ← if (← peek) = some '{' then bracedEdge? start else pure none
        return .assertion (← spanFrom start) (.word (edge.getD .boundary))
      else fail .escapeUnknown span

def escape : Read Primitive := do
  let start ← here
  match ← skip with
  | none => fail .escapeUnfinished (← spanFrom start)
  | some c =>
    if c.isDigit then fail .reference ⟨start, (← charSpan).stop⟩
    else if c = 'x' || c = 'u' || c = 'U' then return .literal (← byNumber start c)
    else if c = 'p' || c = 'P' then byProperty start (c = 'P')
    else simpleEscape start c

end Read
end FontAccessors.Regex
