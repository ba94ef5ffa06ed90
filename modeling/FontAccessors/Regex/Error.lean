import FontAccessors.Text.Pieces

namespace FontAccessors.Regex

/-- Lines and columns count from one. -/
structure Position where
  line : Nat
  column : Nat
  deriving DecidableEq, Repr

namespace Position

def start : Position := ⟨1, 1⟩

def after (p : Position) (c : Char) : Position :=
  if c = '\n' then ⟨p.line + 1, 1⟩ else ⟨p.line, p.column + 1⟩

def isBefore (p q : Position) : Bool :=
  p.line < q.line || (p.line = q.line && p.column < q.column)

end Position

structure Span where
  start : Position
  stop : Position
  deriving DecidableEq, Repr

namespace Span

def isOneLine (s : Span) : Bool :=
  s.start.line = s.stop.line

def precedes (s t : Span) : Bool :=
  -- Ends count where the starts are the same.
  s.start.isBefore t.start || (s.start = t.start && !t.stop.isBefore s.stop)

end Span

inductive Cause where
  | classEscapeInvalid
  | classRangeInvalid
  | classRangeLiteral
  | classUnclosed
  | countInvalid
  | countMissing
  | countRangeInvalid
  | countUnclosed
  | digitInvalid
  | escapeUnfinished
  | escapeUnknown
  | flagDuplicate
  | flagMissing
  | flagUnknown
  | groupNameDuplicate
  | groupNameEmpty
  | groupNameInvalid
  | groupNameUnfinished
  | groupUnclosed
  | groupUnopened
  | hexadecimalInvalid
  | hexadecimalMissing
  | lookAround
  | negationDangling
  | negationRepeated
  | nestedTooDeeply
  | nothingRepeated
  | propertyInvalid
  | reference
  | wordEdgeOrCountUnfinished
  | wordEdgeUnclosed
  | wordEdgeUnknown
  | charactersNeeded
  | noText
  | propertyUnknown
  | propertyValueUnknown
  | wideClassUnavailable
  | wideCaseUnavailable
  deriving DecidableEq, Repr

def nestingLimit : Nat := 250

def Cause.message : Cause → String
  | classEscapeInvalid => "invalid escape sequence found in character class"
  | classRangeInvalid => "invalid character class range, the start must be <= the end"
  | classRangeLiteral => "invalid range boundary, must be a literal"
  | classUnclosed => "unclosed character class"
  | countInvalid => "decimal literal invalid"
  | countMissing => "repetition quantifier expects a valid decimal"
  | countRangeInvalid => "invalid repetition count range, the start must be <= the end"
  | countUnclosed => "unclosed counted repetition"
  | digitInvalid => "invalid hexadecimal digit"
  | escapeUnfinished => "incomplete escape sequence, reached end of pattern prematurely"
  | escapeUnknown => "unrecognized escape sequence"
  | flagDuplicate => "duplicate flag"
  | flagMissing => "expected flag but got end of regex"
  | flagUnknown => "unrecognized flag"
  | groupNameDuplicate => "duplicate capture group name"
  | groupNameEmpty => "empty capture group name"
  | groupNameInvalid => "invalid capture group character"
  | groupNameUnfinished => "unclosed capture group name"
  | groupUnclosed => "unclosed group"
  | groupUnopened => "unopened group"
  | hexadecimalInvalid => "hexadecimal literal is not a Unicode scalar value"
  | hexadecimalMissing => "hexadecimal literal empty"
  | lookAround => "look-around, including look-ahead and look-behind, is not supported"
  | negationDangling => "dangling flag negation operator"
  | negationRepeated => "flag negation operator repeated"
  | nestedTooDeeply =>
    "exceed the maximum number of nested parentheses/brackets (" ++ toString nestingLimit ++ ")"
  | nothingRepeated => "repetition operator missing expression"
  | propertyInvalid => "invalid Unicode character class"
  | reference => "backreferences are not supported"
  | wordEdgeOrCountUnfinished =>
    "found either the beginning of a special word boundary or a bounded repetition on a \\b " ++
      "with an opening brace, but no closing brace"
  | wordEdgeUnclosed =>
    "special word boundary assertion is either unclosed or contains an invalid character"
  | wordEdgeUnknown =>
    "unrecognized special word boundary assertion, valid choices are: start, end, start-half " ++
      "or end-half"
  | charactersNeeded => "Unicode not allowed here"
  | noText => "pattern can match invalid UTF-8"
  | propertyUnknown => "Unicode property not found"
  | propertyValueUnknown => "Unicode property value not found"
  | wideClassUnavailable =>
    "Unicode-aware Perl class not found (make sure the unicode-perl feature is enabled)"
  | wideCaseUnavailable =>
    "Unicode-aware case insensitivity matching is not available " ++
      "(make sure the unicode-case feature is enabled)"

structure Fault where
  cause : Cause
  span : Span
  other : Option Span
  deriving DecidableEq, Repr

def linesOf (s : List Char) : List (List Char) :=
  let pieces := Text.split '\n' s
  let closed (line : List Char) : List Char :=
    if line.getLast? = some '\r' then line.dropLast else line
  pieces.dropLast.map closed ++ (pieces.getLast?.filter (!·.isEmpty)).toList

def blanks (n : Nat) : String :=
  String.ofList (List.replicate n ' ')

/-- Marks below the columns of spans in one line, each at least one mark wide. -/
def marks : (column : Nat) → List Span → String
  | _, [] => ""
  | column, s :: ss =>
    let width := max 1 (s.stop.column - s.start.column)
    let gap := s.start.column - column
    blanks gap ++ String.ofList (List.replicate width '^') ++ marks (column + gap + width) ss

namespace Fault

def spans (f : Fault) : List Span :=
  (f.span :: f.other.toList).mergeSort Span.precedes

def markedLine (f : Fault) (margin : String) (line : Nat) (text : List Char) : String :=
  let here := f.spans.filter fun s => s.isOneLine && s.start.line = line
  let below :=
    if here.isEmpty then "" else blanks margin.length ++ marks 1 here ++ "\n"
  margin ++ String.ofList text ++ "\n" ++ below

def margin (count line : Nat) : String :=
  if count ≤ 1 then blanks 4
  else
    let width := (toString count).length
    blanks (width - (toString line).length) ++ toString line ++ ": "

def markedLines (f : Fault) (count : Nat) : Nat → List (List Char) → String
  | _, [] => ""
  | line, t :: ts => f.markedLine (margin count line) line t ++ markedLines f count (line + 1) ts

def extent (s : Span) : String :=
  "on line " ++ toString s.start.line ++ " (column " ++ toString s.start.column ++
    ") through line " ++ toString s.stop.line ++ " (column " ++ toString (s.stop.column - 1) ++ ")"

def message (f : Fault) (pattern : List Char) : String :=
  let lines := linesOf pattern
  let count := lines.length + (if pattern.getLast? = some '\n' then 1 else 0)
  let marked := f.markedLines count 1 lines
  let heading := "regex parse error:\n"
  let finding := "error: " ++ f.cause.message
  if pattern.contains '\n' then
    let rule := String.ofList (List.replicate 79 '~') ++ "\n"
    let extents := (f.spans.filter (!·.isOneLine)).map (extent · ++ "\n")
    heading ++ rule ++ marked ++ rule ++ String.join extents ++ finding
  else heading ++ marked ++ finding

end Fault

def sizeLimit : Nat := 10485760

inductive Error where
  | fault (f : Fault)
  | tooLarge
  | wideWords
  deriving DecidableEq, Repr

def Error.message (pattern : List Char) : Error → String
  | fault f => f.message pattern
  | tooLarge => "Compiled regex exceeds size limit of " ++ toString sizeLimit ++ " bytes."
  | wideWords => "error building NFA"

end FontAccessors.Regex
