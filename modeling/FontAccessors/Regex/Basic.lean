import FontAccessors.Text.Identifier

/-!
Regular expressions, and whether one fits a part of a text. A set of places is carried through an
expression: from the places in a text where a fit may begin to those where it may end.
-/

namespace FontAccessors
open Text

namespace Regex

inductive LineEnd where
  | feed
  | either
  deriving DecidableEq, Repr

inductive WordEdge where
  | boundary
  | noBoundary
  | start
  | stop
  | halfStart
  | halfStop
  deriving DecidableEq, Repr

inductive Look where
  | textStart
  | textStop
  | lineStart (e : LineEnd)
  | lineStop (e : LineEnd)
  | word (edge : WordEdge) (isWide : Bool)
  deriving DecidableEq, Repr

def isWordPart (isWide : Bool) (c : Char) : Bool :=
  if isWide then isIdentContinue c else c.isAlphanum || c == '_'

def WordEdge.holds (isPart : Char → Bool) (before behind : Option Char) : WordEdge → Bool
  | boundary => before.any isPart != behind.any isPart
  | noBoundary => before.any isPart == behind.any isPart
  | start => !before.any isPart && behind.any isPart
  | stop => before.any isPart && !behind.any isPart
  | halfStart => !before.any isPart
  | halfStop => !behind.any isPart

/-- Whether the answer is yes between two characters. A line feed after a carriage return belongs
to it. -/
def Look.holds (before behind : Option Char) : Look → Bool
  | textStart => before.isNone
  | textStop => behind.isNone
  | lineStart .feed => before.all (· == '\n')
  | lineStop .feed => behind.all (· == '\n')
  | lineStart .either =>
    before.all (· == '\n') || (before == some '\r' && behind != some '\n')
  | lineStop .either =>
    behind.all (· == '\r') || (behind == some '\n' && before != some '\r')
  | word edge isWide => edge.holds (isWordPart isWide) before behind

end Regex

inductive Regex where
  | empty
  | one (s : CodePoints)
  | look (l : Regex.Look)
  | append (r s : Regex)
  | either (r s : Regex)
  | times (r : Regex) (least : Nat) (most : Option Nat)
  | capture (r : Regex)
  deriving DecidableEq, Repr

namespace Regex

/-- Places in a text as bits of a number. The lowest is the start, and each character has the place
behind it. -/
abbrev Places := Nat

def placesWhere (p : (before behind : Option Char) → Bool) (before : Option Char) :
    List Char → Places
  | [] => (p before none).toNat
  | c :: cs => (p before (some c)).toNat + 2 * placesWhere p (some c) cs

def allPlaces (text : List Char) : Places :=
  placesWhere (fun _ _ => true) none text

/-- Goes on a number of times, unless nothing changes any more. -/
def rounds (f : Places → Places) : Nat → Places → Places
  | 0, s => s
  | n + 1, s =>
    let t := f s
    if t = s then s else rounds f n t

def spread (f : Places → Places) (n : Nat) (s : Places) : Places :=
  rounds (fun s => s ||| f s) n s

/-- The places where fits end that begin at some of the places `s`. -/
def ends (text : List Char) : Regex → Places → Places
  | empty, s => s
  -- The place behind a character is one bit higher.
  | one set, s => 2 * (s &&& placesWhere (fun _ behind => behind.any set.contains) none text)
  | look l, s => s &&& placesWhere (fun before behind => l.holds before behind) none text
  | append r q, s => ends text q (ends text r s)
  | either r q, s => ends text r s ||| ends text q s
  | times r least most, s =>
    spread (ends text r) ((most.map (· - least)).getD (text.length + 1))
      (rounds (ends text r) least s)
  | capture r, s => ends text r s

def isIn (r : Regex) (text : String) : Bool :=
  r.ends text.toList (allPlaces text.toList) != 0

end Regex
end FontAccessors
