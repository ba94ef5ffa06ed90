namespace FontAccessors.Yaml

/-- Octets before a position, lines before it, and characters before it in its line. -/
structure Mark where
  index : Nat
  line : Nat
  column : Nat
  deriving DecidableEq, Repr

namespace Mark

def start : Mark := ⟨0, 0, 0⟩

def right (c : Char) (m : Mark) : Mark :=
  ⟨m.index + c.utf8Size, m.line, m.column + 1⟩

def down (n : Nat) (m : Mark) : Mark :=
  ⟨m.index + n, m.line + 1, 0⟩

end Mark

def isSpace (c : Char) : Bool :=
  c == ' ' || c == '\t'

def isBreak (c : Char) : Bool :=
  c == '\n' || c == '\r' || c == '\u0085' || c == '\u2028' || c == '\u2029'

def isGap (c : Char) : Bool :=
  isSpace c || isBreak c

def atGapOrEnd : List Char → Bool
  | [] => true
  | c :: _ => isGap c

def isWordChar (c : Char) : Bool :=
  c.isAlphanum || c == '_' || c == '-'

def isAllowed (c : Char) : Bool :=
  let n := c.toNat
  n == 9 || n == 10 || n == 13 || (32 ≤ n && n ≤ 126) || n == 133 || (160 ≤ n && n ≤ 65533) ||
    65536 ≤ n

def breakText (c : Char) : List Char :=
  if c == '\n' || c == '\r' || c == '\u0085' then ['\n'] else if isBreak c then [c] else []

structure Cursor where
  rest : List Char
  mark : Mark
  deriving DecidableEq, Repr

namespace Cursor

def ofChars (s : List Char) : Cursor :=
  ⟨s, .start⟩

def skip (c : Cursor) : Cursor :=
  match c.rest with
  | [] => c
  | d :: cs => ⟨cs, c.mark.right d⟩

def skipN : Nat → Cursor → Cursor
  | 0, c => c
  | n + 1, c => skipN n c.skip

def skipWhile (p : Char → Bool) (c : Cursor) : Cursor :=
  let taken := c.rest.takeWhile p
  ⟨c.rest.drop taken.length, taken.foldl (fun m d => m.right d) c.mark⟩

def skipBreak (c : Cursor) : Cursor :=
  match c.rest with
  | '\r' :: '\n' :: cs => ⟨cs, c.mark.down 2⟩
  | b :: cs => if isBreak b then ⟨cs, c.mark.down b.utf8Size⟩ else c
  | [] => c

def breakAhead (c : Cursor) : List Char :=
  (c.rest.head?.map breakText).getD []

def atEnd (c : Cursor) : Bool :=
  c.rest.isEmpty

def at? (p : Char → Bool) (c : Cursor) : Bool :=
  c.rest.head?.any p

def skipComment (c : Cursor) : Cursor :=
  if c.at? (· == '#') then c.skipWhile (!isBreak ·) else c

def finishLine (c : Cursor) : Option Cursor :=
  let c := (c.skipWhile isSpace).skipComment
  if c.atEnd then some c else if c.at? isBreak then some c.skipBreak else none

end Cursor

/-- A line of three dots or hyphens begins or ends a document. -/
def atDocumentMark (m : Mark) (s : List Char) : Bool :=
  m.column == 0 &&
    match s with
    | '-' :: '-' :: '-' :: r | '.' :: '.' :: '.' :: r => atGapOrEnd r
    | _ => false

end FontAccessors.Yaml
