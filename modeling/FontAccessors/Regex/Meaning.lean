import FontAccessors.Regex.Pattern
import FontAccessors.Regex.Size

namespace FontAccessors
open Text

namespace Regex

abbrev Flags := Flag → Bool

def Flags.start : Flags :=
  (· == .wide)

def Flags.switched (fs : Flags) (s : Switches) : Flags :=
  fun f => (s.lookup f).getD (fs f)

abbrev Mean (α : Type) := Except Fault α

def refuse {α : Type} (cause : Cause) (span : Span) : Mean α :=
  .error ⟨cause, span, none⟩

def only (c : Char) : CodePoints :=
  ⟨[(c.toNat, c.toNat)]⟩

def capitals : CodePoints := ⟨[(0x41, 0x5A)]⟩
def smalls : CodePoints := ⟨[(0x61, 0x7A)]⟩

def withBothCases (s : CodePoints) : CodePoints :=
  let raised := (s.intersection smalls).ranges.map fun r => (r.1 - 32, r.2 - 32)
  let lowered := (s.intersection capitals).ranges.map fun r => (r.1 + 32, r.2 + 32)
  ⟨s.ranges ++ raised ++ lowered⟩

def inCases (fs : Flags) (span : Span) (s : CodePoints) : Mean CodePoints :=
  if !fs .anyCase || s.ranges.isEmpty then return s
  else if fs .wide then refuse .wideCaseUnavailable span
  else return withBothCases s

/-- All others where a set is negated; among them are octets that are no text by themselves. -/
def inSense (fs : Flags) (span : Span) (isNegated : Bool) (s : CodePoints) : Mean CodePoints :=
  if !isNegated then return s
  else if fs .wide then return s.complement
  else refuse .noText span

def Literal.meaning (fs : Flags) (l : Literal) : Mean Char :=
  if !fs .wide && l.isOctet && !isAscii l.char then refuse .noText l.span else return l.char

def Literal.member (fs : Flags) (l : Literal) : Mean Char := do
  let c ← l.meaning fs
  if !fs .wide && !isAscii c then refuse .charactersNeeded l.span else return c

def ShortClass.members : ShortClass → CodePoints
  | digit => ⟨[(0x30, 0x39)]⟩
  | space => ⟨[(0x09, 0x0D), (0x20, 0x20)]⟩
  | word => ⟨[(0x30, 0x39), (0x41, 0x5A), (0x5F, 0x5F), (0x61, 0x7A)]⟩

def plainName (name : String) : String :=
  -- Names of properties are compared without case, spaces and hyphens, and without an `is` before
  -- them.
  let dropIs : List Char → List Char
    | 'i' :: 's' :: cs => cs
    | cs => cs
  let lowered := name.toList.map Char.toLower
  String.ofList ((dropIs lowered).filter fun c => isAscii c && c != ' ' && c != '_' && c != '-')

def valueNames : List String :=
  -- No property is known. These names would be those of values.
  ["cf", "sc", "lc"]

def EscapedClass.meaning (fs : Flags) (span : Span) : EscapedClass → Mean CodePoints
  | short c isNegated =>
    if fs .wide then refuse .wideClassUnavailable span else inSense fs span isNegated c.members
  | property name value _ =>
    if !fs .wide then refuse .charactersNeeded span
    else if value.isNone && valueNames.contains (plainName name) then
      refuse .propertyValueUnknown span
    else refuse .propertyUnknown span

def Operation.apply : Operation → CodePoints → CodePoints → CodePoints
  | intersection, s, t => s.intersection t
  | difference, s, t => s.difference t
  | symmetricDifference, s, t => s.symmetricDifference t

mutual

def Item.meaning (fs : Flags) : Item → Mean CodePoints
  | .nothing _ => return .empty
  | .literal l => return only (← l.member fs)
  | .range _ first last => do
    let a ← first.member fs
    let b ← last.member fs
    return ⟨[(a.toNat, b.toNat)]⟩
  | .named span members isNegated => do
    inSense fs span isNegated (← inCases fs span members)
  | .escaped span c => c.meaning fs span
  | .bracket span isNegated content => do
    inSense fs span isNegated (← inCases fs span (← content.meaning fs))
  | .union _ items => itemsMeaning fs items

def Content.meaning (fs : Flags) : Content → Mean CodePoints
  | .item i => i.meaning fs
  | .operation _ o left right => do
    let a ← left.meaning fs
    let b ← right.meaning fs
    let b ← inCases fs right.span b
    let a ← inCases fs left.span a
    return o.apply a b

def itemsMeaning (fs : Flags) : List Item → Mean CodePoints
  | [] => return .empty
  | i :: is => return (← i.meaning fs).union (← itemsMeaning fs is)

end

def Assertion.meaning (fs : Flags) : Assertion → Look
  | lineStart => if fs .manyLines then .lineStart (lineEnd fs) else .textStart
  | lineStop => if fs .manyLines then .lineStop (lineEnd fs) else .textStop
  | textStart => .textStart
  | textStop => .textStop
  | word edge => .word edge (fs .wide)
where
  lineEnd (fs : Flags) : LineEnd :=
    if fs .returns then .either else .feed

def dotMembers (fs : Flags) : CodePoints :=
  let ends : CodePoints := if fs .returns then ⟨[(10, 10), (13, 13)]⟩ else only '\n'
  if fs .dotIsAll then CodePoints.empty.complement else ends.complement

def Primitive.meaning (fs : Flags) : Primitive → Mean Regex
  | literal l => do return .one (← inCases fs l.span (only (← l.meaning fs)))
  | dot span => if fs .wide then return .one (dotMembers fs) else refuse .noText span
  | assertion _ a => return .look (a.meaning fs)
  | escaped span c => return .one (← c.meaning fs span)

def fitsNothing : Regex → Bool
  | empty | look _ => true
  | one _ => false
  | append r q | either r q => fitsNothing r && fitsNothing q
  | times r _ _ | capture r => fitsNothing r

def repeating (r : Regex) (least : Nat) (most : Option Nat) : Regex :=
  let (least, most) :=
    if r.fitsNothing then (min least 1, some (min (most.getD 1) 1)) else (least, most)
  if most = some 0 then empty
  else if least = 1 && most = some 1 then r
  else times r least most

mutual

def Term.meaning (fs : Flags) : Term → Mean (Regex × Flags)
  | .nothing _ => return (empty, fs)
  | .switch _ s => return (empty, fs.switched s)
  | .primitive p => return (← p.meaning fs, fs)
  | .bracket span isNegated content => do
    let s ← inSense fs span isNegated (← inCases fs span (← content.meaning fs))
    return (one s, fs)
  | .repetition _ t least most => do
    let (r, fs) ← t.meaning fs
    return (repeating r least most, fs)
  | .group _ isCapturing s t => do
    let (r, _) ← t.meaning (fs.switched s)
    return (if isCapturing then capture r else r, fs)
  | .sequence _ ts => sequenceMeaning fs ts
  | .alternatives _ ts => alternativesMeaning fs ts

def sequenceMeaning (fs : Flags) : List Term → Mean (Regex × Flags)
  | [] => return (empty, fs)
  | [t] => t.meaning fs
  | t :: ts => do
    let (r, fs) ← t.meaning fs
    let (q, fs) ← sequenceMeaning fs ts
    return (append r q, fs)

def alternativesMeaning (fs : Flags) : List Term → Mean (Regex × Flags)
  | [] => return (empty, fs)
  | [t] => t.meaning fs
  | t :: ts => do
    let (r, fs) ← t.meaning fs
    let (q, fs) ← alternativesMeaning fs ts
    return (either r q, fs)

end

def ofText (s : String) : Except Error Regex :=
  match (Term.ofChars s.toList).bind (Term.meaning .start) with
  | .error f => .error (.fault f)
  | .ok (r, _) =>
    if sizeLimit < r.size then .error .tooLarge
    else if r.asksForWideWords then .error .wideWords
    else .ok r

end Regex
end FontAccessors
