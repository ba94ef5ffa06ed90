import FontAccessors.Text.Quoted
import FontAccessors.Yaml.Cursor

namespace FontAccessors.Yaml

structure Reading where
  text : List Char
  after : Cursor
  endsLine : Bool
  deriving DecidableEq, Repr

structure Gap where
  spaces : List Char
  firstBreak : List Char
  moreBreaks : List Char
  inNewLine : Bool
  deriving DecidableEq, Repr

namespace Gap

def none : Gap := ⟨[], [], [], false⟩

def joined : Gap := ⟨[], [], [], true⟩

def isEmpty (g : Gap) : Bool :=
  g.spaces.isEmpty && !g.inNewLine

def addSpace (c : Char) (g : Gap) : Gap :=
  -- Spaces at the beginning of a line do not count.
  if g.inNewLine then g else { g with spaces := g.spaces ++ [c] }

def addBreak (c : Char) (g : Gap) : Gap :=
  if g.inNewLine then { g with moreBreaks := g.moreBreaks ++ breakText c }
  else ⟨[], breakText c, [], true⟩

def text (g : Gap) : List Char :=
  if g.inNewLine then
    if g.firstBreak = ['\n'] then
      if g.moreBreaks.isEmpty then [' '] else g.moreBreaks
    else g.firstBreak ++ g.moreBreaks
  else g.spaces

end Gap

def isFlowMark (c : Char) : Bool :=
  c == ',' || c == '[' || c == ']' || c == '\x7b' || c == '\x7d'

def endsAtColon (c : Char) (cs : List Char) : Bool :=
  -- A colon ends a plain scalar before a gap.
  c == ':' && atGapOrEnd cs

def isMisplacedColon (inFlow : Bool) (c : Char) (cs : List Char) : Bool :=
  inFlow && c == ':' && cs.head?.any fun d => isFlowMark d || d == '?'

def endsPlain (inFlow : Bool) (indent : Nat) (m : Mark) (g : Gap) (c : Char) (cs : List Char) :
    Bool :=
  (!g.isEmpty && (c == '#' || atDocumentMark m (c :: cs))) ||
    (g.inNewLine && !inFlow && m.column < indent) || endsAtColon c cs ||
    (inFlow && isFlowMark c)

def readPlain (inFlow : Bool) (indent : Nat) (m : Mark) (g : Gap) : List Char → Option Reading
  | [] => some ⟨[], ⟨[], m⟩, g.inNewLine⟩
  | '\r' :: '\n' :: cs => readPlain inFlow indent (m.down 2) (g.addBreak '\n') cs
  | c :: cs =>
    if isBreak c then readPlain inFlow indent (m.down c.utf8Size) (g.addBreak c) cs
    else if isSpace c then
      -- A further line may not be indented with tabs.
      if g.inNewLine && m.column < indent && c == '\t' then none
      else readPlain inFlow indent (m.right c) (g.addSpace c) cs
    else if endsPlain inFlow indent m g c cs then
      some ⟨[], ⟨c :: cs, m⟩, g.inNewLine⟩
    else if isMisplacedColon inFlow c cs then none
    else
      (readPlain inFlow indent (m.right c) .none cs).map fun r =>
        { r with text := g.text ++ c :: r.text }

def readSingle (m : Mark) (g : Gap) : List Char → Option Reading
  | [] => none
  | '\r' :: '\n' :: cs => readSingle (m.down 2) (g.addBreak '\n') cs
  | '\'' :: '\'' :: cs =>
    (readSingle ((m.right '\'').right '\'') .none cs).map fun r =>
      { r with text := g.text ++ '\'' :: r.text }
  | c :: cs =>
    if atDocumentMark m (c :: cs) then none
    else if isBreak c then readSingle (m.down c.utf8Size) (g.addBreak c) cs
    else if isSpace c then readSingle (m.right c) (g.addSpace c) cs
    else if c == '\'' then some ⟨g.text, ⟨cs, m.right c⟩, false⟩
    else (readSingle (m.right c) .none cs).map fun r => { r with text := g.text ++ c :: r.text }

def escape? : Char → Option Char
  | '0' => some '\x00'
  | 'a' => some '\x07'
  | 'b' => some '\x08'
  | 't' => some '\t'
  | '\t' => some '\t'
  | 'n' => some '\n'
  | 'v' => some '\x0b'
  | 'f' => some '\x0c'
  | 'r' => some '\r'
  | 'e' => some '\x1b'
  | ' ' => some ' '
  | '"' => some '"'
  | '/' => some '/'
  | '\\' => some '\\'
  | 'N' => some '\u0085'
  | '_' => some '\u00a0'
  | 'L' => some '\u2028'
  | 'P' => some '\u2029'
  | _ => none

def codeLength? : Char → Option Nat
  | 'x' => some 2
  | 'u' => some 4
  | 'U' => some 8
  | _ => none

inductive Place where
  | text (g : Gap)
  | escape (g : Gap)
  /-- Digits of a character code: how many are to come, and the value of those before. -/
  | code (g : Gap) (digits value : Nat)
  deriving DecidableEq, Repr

def charOfCode? (n : Nat) : Option Char :=
  if n.isValidChar then some (Char.ofNat n) else none

def readDouble (m : Mark) (p : Place) : List Char → Option Reading
  | [] => none
  | '\r' :: '\n' :: cs =>
    match p with
    | .text g => readDouble (m.down 2) (.text (g.addBreak '\n')) cs
    | .escape g =>
      (readDouble (m.down 2) (.text .joined) cs).map fun r => { r with text := g.text ++ r.text }
    | .code .. => none
  | c :: cs =>
    match p with
    | .text g =>
      if atDocumentMark m (c :: cs) then none
      else if isBreak c then readDouble (m.down c.utf8Size) (.text (g.addBreak c)) cs
      else if isSpace c then readDouble (m.right c) (.text (g.addSpace c)) cs
      else if c == '"' then some ⟨g.text, ⟨cs, m.right c⟩, false⟩
      else if c == '\\' then readDouble (m.right c) (.escape g) cs
      else
        (readDouble (m.right c) (.text .none) cs).map fun r =>
          { r with text := g.text ++ c :: r.text }
    | .escape g =>
      if isBreak c then
        (readDouble (m.down c.utf8Size) (.text .joined) cs).map fun r =>
          { r with text := g.text ++ r.text }
      else
        match escape? c, codeLength? c with
        | some d, _ =>
          (readDouble (m.right c) (.text .none) cs).map fun r =>
            { r with text := g.text ++ d :: r.text }
        | none, some n => readDouble (m.right c) (.code g n 0) cs
        | none, none => none
    | .code g n v =>
      match Text.Quoted.hexValue? c, n with
      | some d, k + 2 => readDouble (m.right c) (.code g (k + 1) (16 * v + d)) cs
      | some d, _ =>
        (charOfCode? (16 * v + d)).bind fun x =>
          (readDouble (m.right c) (.text .none) cs).map fun r =>
            { r with text := g.text ++ x :: r.text }
      | none, _ => none

inductive Chomping where
  | strip
  | clip
  | keep
  deriving DecidableEq, Repr

def chomping? : Char → Option Chomping
  | '+' => some .keep
  | '-' => some .strip
  | _ => none

def readBlockMarks (c : Cursor) : Option (Chomping × Option Nat × Cursor) :=
  let chomping (c : Cursor) : Option (Chomping × Cursor) :=
    (c.rest.head?.bind chomping?).map fun h => (h, c.skip)
  let increment (c : Cursor) : Option (Option Nat × Cursor) :=
    match c.rest.head? with
    | some d =>
      if d == '0' then none
      else if d.isDigit then some (some (d.toNat - 48), c.skip) else some (none, c)
    | none => some (none, c)
  match chomping c with
  | some (h, c) => (increment c).map fun (i, c) => (h, i, c)
  | none =>
    (increment c).map fun (i, c) =>
      match i.bind fun _ => chomping c with
      | some (h, c) => (h, i, c)
      | none => (.clip, i, c)

structure Leading where
  breaks : List Char
  widest : Nat
  after : Cursor

def readLeading (indent : Option Nat) (widest : Nat) (m : Mark) : List Char → Option Leading
  | [] => some ⟨[], max widest m.column, ⟨[], m⟩⟩
  | '\r' :: '\n' :: cs =>
    (readLeading indent (max widest m.column) (m.down 2) cs).map fun l =>
      { l with breaks := '\n' :: l.breaks }
  | c :: cs =>
    -- Where the indentation is not known yet, all spaces belong to it.
    let isIndented := indent.all fun i => m.column < i
    if isIndented && c == ' ' then readLeading indent widest (m.right c) cs
    else if isIndented && c == '\t' then none
    else if isBreak c then
      (readLeading indent (max widest m.column) (m.down c.utf8Size) cs).map fun l =>
        { l with breaks := breakText c ++ l.breaks }
    else some ⟨[], max widest m.column, ⟨c :: cs, m⟩⟩

/-- The lines of a block. `lastBreak` ends the line before, which began with a space if
`wasSpaced`; `breaks` are the empty lines since. The bound is the number of lines. -/
def readBlockLines (folded : Bool) (chomping : Chomping) (indent : Nat) :
    Nat → (wasSpaced : Bool) → (lastBreak breaks : List Char) → Cursor → Option Reading
  | 0, _, _, _, _ => none
  | n + 1, wasSpaced, lastBreak, breaks, c =>
    if c.mark.column == indent && !c.atEnd then
      let isSpaced := c.at? isSpace
      -- A folded block joins lines by spaces, except around lines that begin with one.
      let lead :=
        if folded && lastBreak = ['\n'] && !wasSpaced && !isSpaced then
          if breaks.isEmpty then [' '] else []
        else lastBreak
      let line := c.rest.takeWhile (!isBreak ·)
      let c := c.skipWhile (!isBreak ·)
      let next := c.skipBreak
      (readLeading (some indent) 0 next.mark next.rest).bind fun l =>
        (readBlockLines folded chomping indent n isSpaced c.breakAhead l.breaks l.after).map
          fun r => { r with text := lead ++ breaks ++ line ++ r.text }
    else
      let stop :=
        match chomping with
        | .strip => []
        | .clip => lastBreak
        | .keep => lastBreak ++ breaks
      some ⟨stop, c, false⟩

/-- A block scalar after its sign. It is indented at least as far as `least`, and if it says how
much further than `base`, exactly so far. -/
def readBlock (folded : Bool) (base least : Nat) (c : Cursor) : Option Reading := do
  let (chomping, increment, c) ← readBlockMarks c
  let c ← c.finishLine
  let given := increment.map (base + ·)
  let l ← readLeading given 0 c.mark c.rest
  let indent := given.getD (max (max l.widest least) 1)
  readBlockLines folded chomping indent (c.rest.length + 2) false [] l.breaks l.after

end FontAccessors.Yaml
