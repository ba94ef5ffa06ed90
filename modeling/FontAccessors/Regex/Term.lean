import FontAccessors.Regex.Basic
import FontAccessors.Regex.Error

namespace FontAccessors.Regex

inductive Flag where
  | anyCase
  | manyLines
  | dotIsAll
  | swappedGreed
  | wide
  | returns
  | ignoresBlanks
  deriving DecidableEq, Repr

def Flag.ofChar? : Char → Option Flag
  | 'i' => some .anyCase
  | 'm' => some .manyLines
  | 's' => some .dotIsAll
  | 'U' => some .swappedGreed
  | 'u' => some .wide
  | 'R' => some .returns
  | 'x' => some .ignoresBlanks
  | _ => none

abbrev Switches := List (Flag × Bool)

structure Literal where
  span : Span
  char : Char
  isOctet : Bool
  deriving DecidableEq, Repr

inductive ShortClass where
  | digit
  | space
  | word
  deriving DecidableEq, Repr

inductive Operation where
  | intersection
  | difference
  | symmetricDifference
  deriving DecidableEq, Repr

inductive EscapedClass where
  | short (c : ShortClass) (isNegated : Bool)
  | property (name : String) (value : Option String) (isNegated : Bool)
  deriving DecidableEq, Repr

mutual

inductive Item where
  | nothing (span : Span)
  | literal (l : Literal)
  | range (span : Span) (first last : Literal)
  | named (span : Span) (members : Text.CodePoints) (isNegated : Bool)
  | escaped (span : Span) (c : EscapedClass)
  | bracket (span : Span) (isNegated : Bool) (content : Content)
  | union (span : Span) (items : List Item)
  deriving Repr

inductive Content where
  | item (i : Item)
  | operation (span : Span) (o : Operation) (left right : Content)
  deriving Repr

end

def Item.span : Item → Span
  | nothing s | range s .. | named s .. | escaped s _ | bracket s .. | union s _ => s
  | literal l => l.span

def Content.span : Content → Span
  | item i => i.span
  | operation s .. => s

inductive Assertion where
  | lineStart
  | lineStop
  | textStart
  | textStop
  | word (edge : WordEdge)
  deriving DecidableEq, Repr

inductive Primitive where
  | literal (l : Literal)
  | dot (span : Span)
  | assertion (span : Span) (a : Assertion)
  | escaped (span : Span) (c : EscapedClass)
  deriving DecidableEq, Repr

def Primitive.span : Primitive → Span
  | literal l => l.span
  | dot s | assertion s _ | escaped s _ => s

inductive Term where
  | nothing (span : Span)
  | switch (span : Span) (s : Switches)
  | primitive (p : Primitive)
  | bracket (span : Span) (isNegated : Bool) (content : Content)
  | repetition (span : Span) (t : Term) (least : Nat) (most : Option Nat)
  | group (span : Span) (isCapturing : Bool) (s : Switches) (t : Term)
  | sequence (span : Span) (ts : List Term)
  | alternatives (span : Span) (ts : List Term)
  deriving Repr

def Term.span : Term → Span
  | nothing s | switch s _ | bracket s .. | repetition s .. | group s .. | sequence s _
  | alternatives s _ => s
  | primitive p => p.span

/-- What is nested too deeply where only that many levels are left, if anything is. -/
def goDown (left : Nat) (span : Span) (inner : Nat → Option Span) : Option Span :=
  match left with
  | 0 => some span
  | left + 1 => inner left

mutual

def Item.excess (left : Nat) : Item → Option Span
  | .bracket span _ content => goDown left span fun left => content.excess left
  | .union span items => goDown left span fun left => itemsExcess left items
  | _ => none

def Content.excess (left : Nat) : Content → Option Span
  | .item i => i.excess left
  | .operation span _ a b =>
    goDown left span fun left => (a.excess left).or (b.excess left)

def itemsExcess (left : Nat) : List Item → Option Span
  | [] => none
  | i :: is => (i.excess left).or (itemsExcess left is)

end

mutual

def Term.excess (left : Nat) : Term → Option Span
  | .nothing _ | .switch .. | .primitive _ => none
  | .bracket span _ content => goDown left span fun left => content.excess left
  | .repetition span t _ _ => goDown left span fun left => t.excess left
  | .group span _ _ t => goDown left span fun left => t.excess left
  | .sequence span ts => goDown left span fun left => termsExcess left ts
  | .alternatives span ts => goDown left span fun left => termsExcess left ts

def termsExcess (left : Nat) : List Term → Option Span
  | [] => none
  | t :: ts => (t.excess left).or (termsExcess left ts)

end

end FontAccessors.Regex
