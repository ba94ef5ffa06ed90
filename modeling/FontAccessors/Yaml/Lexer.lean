import FontAccessors.Yaml.Scalar

/-!
From YAML text to tokens. Where a key of one line is only known by the colon after it, its mark is
put in front of it later; a token is not ready before it is known not to begin a key. Text that
breaks the rules still gives the tokens that were ready by then.
-/

namespace FontAccessors.Yaml

inductive TokenKind where
  | streamEnd
  | version (major minor : Nat)
  | tagShorthand (handle lead : String)
  | documentStart
  | documentEnd
  | blockSequenceStart
  | blockMappingStart
  | blockEnd
  | flowSequenceStart
  | flowSequenceEnd
  | flowMappingStart
  | flowMappingEnd
  | blockEntry
  | flowEntry
  | key
  | value
  | reference (name : String)
  | anchor (name : String)
  | tag (handle suffix : String)
  | scalar (isPlain : Bool) (text : String)
  deriving DecidableEq, Repr

structure Token where
  kind : TokenKind
  start : Mark
  stop : Mark
  deriving DecidableEq, Repr

/-- A token that may turn out to begin a key. A required one must. -/
structure PendingKey where
  isRequired : Bool
  position : Nat
  mark : Mark
  deriving DecidableEq, Repr

structure Lexer where
  cursor : Cursor
  columns : List Nat
  /-- The pending key of the innermost bracket, or of the block outside all brackets. -/
  pending : Option PendingKey
  outer : List (Option PendingKey)
  keyAllowed : Bool
  /-- Tokens that are ready, the last first. -/
  ready : List Token
  /-- Tokens that wait for a pending key. -/
  queue : List Token
  deriving Repr

namespace Lexer

def start (s : List Char) : Lexer :=
  ⟨.ofChars s, [], none, [], true, [], []⟩

def inFlow (l : Lexer) : Bool :=
  !l.outer.isEmpty

def nextColumn (l : Lexer) : Nat :=
  match l.columns with
  | [] => 0
  | c :: _ => c + 1

/-! ## The queue -/

def enqueue (t : Token) (l : Lexer) : Lexer :=
  { l with queue := l.queue ++ [t] }

def insertAt (position : Nat) (t : Token) (l : Lexer) : Lexer :=
  let i := position - l.ready.length
  { l with queue := l.queue.take i ++ t :: l.queue.drop i }

def take (k : TokenKind) (n : Nat) (l : Lexer) : Lexer :=
  let c := l.cursor.skipN n
  { l.enqueue ⟨k, l.cursor.mark, c.mark⟩ with cursor := c }

def takeTo (k : TokenKind) (c : Cursor) (l : Lexer) : Lexer :=
  { l.enqueue ⟨k, l.cursor.mark, c.mark⟩ with cursor := c }

/-! ## Pending keys -/

/-- A key stays in one line and within 1024 octets. -/
def isStale (m : Mark) (k : PendingKey) : Bool :=
  k.mark.line < m.line || k.mark.index + 1024 < m.index

def freshKey (m : Mark) (k : Option PendingKey) : Option PendingKey :=
  k.filter fun k => !isStale m k

def dropStale (l : Lexer) : Option Lexer :=
  let m := l.cursor.mark
  if (l.pending :: l.outer).any fun k => k.any fun k => k.isRequired && isStale m k then none
  else some { l with pending := freshKey m l.pending, outer := l.outer.map (freshKey m) }

def dropKey (l : Lexer) : Option Lexer :=
  if l.pending.any (·.isRequired) then none else some { l with pending := none }

def saveKey (l : Lexer) : Option Lexer :=
  if l.keyAllowed then
    -- At the column of its block it must.
    let isRequired := !l.inFlow && l.columns.head? == some l.cursor.mark.column
    l.dropKey.map fun l =>
      { l with pending := some ⟨isRequired, l.ready.length + l.queue.length, l.cursor.mark⟩ }
  else some l

/-- Moves tokens out of the queue up to the first pending key. -/
def release (l : Lexer) : Option Lexer :=
  if l.queue.isEmpty then some l
  else
    l.dropStale.map fun l =>
      let first := (l.outer.filterMap id).foldl (fun n k => min n k.position)
        ((l.pending.map (·.position)).getD (l.ready.length + l.queue.length))
      let n := first - l.ready.length
      { l with ready := (l.queue.take n).reverse ++ l.ready, queue := l.queue.drop n }

/-! ## Blocks -/

/-- Opens a block at a column that is indented further; its token goes to a position in the queue
or to the end. -/
def openBlock (k : TokenKind) (m : Mark) (position : Option Nat) (l : Lexer) : Lexer :=
  if !l.inFlow && l.nextColumn ≤ m.column then
    let t : Token := ⟨k, m, m⟩
    let l := position.elim (l.enqueue t) (l.insertAt · t)
    { l with columns := m.column :: l.columns }
  else l

def closeBlocks (isInside : Nat → Bool) (l : Lexer) : Lexer :=
  if l.inFlow then l
  else
    let closed := l.columns.takeWhile (!isInside ·)
    { l with
      columns := l.columns.drop closed.length
      queue := l.queue ++ closed.map fun _ => ⟨.blockEnd, l.cursor.mark, l.cursor.mark⟩ }

def closeAll (l : Lexer) : Lexer :=
  l.closeBlocks fun _ => false

/-! ## Blanks -/

def skipBlanks (inFlow : Bool) (keyAllowed inComment : Bool) (m : Mark) :
    List Char → Bool × Cursor
  | [] => (keyAllowed, ⟨[], m⟩)
  | '\r' :: '\n' :: cs => skipBlanks inFlow (keyAllowed || !inFlow) false (m.down 2) cs
  | c :: cs =>
    if isBreak c then skipBlanks inFlow (keyAllowed || !inFlow) false (m.down c.utf8Size) cs
    -- Tabs may not stand where a key may begin. A byte order mark may begin any line, and counts as
    -- a column.
    else if inComment || c == ' ' || c == '#' || (c == '\t' && (inFlow || !keyAllowed)) ||
        (c == '\uFEFF' && m.column == 0) then
      skipBlanks inFlow keyAllowed (inComment || c == '#') (m.right c) cs
    else (keyAllowed, ⟨c :: cs, m⟩)

/-! ## Names and tags -/

def isUriChar (c : Char) : Bool :=
  isWordChar c || ";/?:@&=+$.!~*'()%".toList.contains c

def utf8Width? (octet : Nat) : Option Nat :=
  if octet < 0x80 then some 1
  else if octet / 0x20 == 6 then some 2
  else if octet / 0x10 == 14 then some 3
  else if octet / 0x08 == 30 then some 4
  else none

def octet? : List Char → Option (Nat × List Char)
  | '%' :: a :: b :: cs =>
    match Text.Quoted.hexValue? a, Text.Quoted.hexValue? b with
    | some x, some y => some (16 * x + y, cs)
    | _, _ => none
  | _ => none

def octetsAfter? : Nat → Nat → List Char → Option (Nat × List Char)
  | 0, code, cs => some (code, cs)
  | n + 1, code, cs =>
    (octet? cs).bind fun (o, cs) =>
      if o / 0x40 == 2 then octetsAfter? n (0x40 * code + o % 0x40) cs else none

def uriEscape? (cs : List Char) : Option (Char × List Char) :=
  (octet? cs).bind fun (o, cs) =>
    (utf8Width? o).bind fun w =>
      (octetsAfter? (w - 1) (if w == 1 then o else o % Nat.pow 2 (7 - w)) cs).map fun (n, cs) =>
        (Char.ofNat n, cs)

/-- The characters of a tag, of which percent signs encode some. The bound is their number. -/
def readUri (p : Char → Bool) : Nat → List Char → Option (List Char × List Char)
  | 0, _ => none
  | _ + 1, [] => some ([], [])
  | n + 1, c :: cs =>
    if !p c then some ([], c :: cs)
    else if c == '%' then
      (uriEscape? (c :: cs)).bind fun (d, cs) =>
        (readUri p n cs).map fun r => (d :: r.1, r.2)
    else (readUri p n cs).map fun r => (c :: r.1, r.2)

def Cursor.moveTo (c : Cursor) (rest : List Char) : Cursor :=
  c.skipN (c.rest.length - rest.length)

def readSuffix (isVerbatim : Bool) (c : Cursor) : Option (String × Cursor) :=
  (readUri (fun d => isUriChar d || (isVerbatim && [',', '[', ']'].contains d))
    (c.rest.length + 1) c.rest).map fun r => (String.ofList r.1, Cursor.moveTo c r.2)

def readHandle (c : Cursor) : Option (String × Cursor) :=
  if c.at? (· == '!') then
    let name := c.skip.rest.takeWhile isWordChar
    let after := c.skip.skipN name.length
    if after.at? (· == '!') then some (String.ofList ('!' :: name ++ ['!']), after.skip)
    else some (String.ofList ('!' :: name), after)
  else none

def readTag (c : Cursor) : Option ((String × String) × Cursor) :=
  match c.rest with
  | '!' :: '<' :: _ =>
    (readSuffix true (c.skipN 2)).bind fun (s, after) =>
      if s.isEmpty || !after.at? (· == '>') then none else some (("", s), after.skip)
  | _ =>
    (readHandle c).bind fun (h, after) =>
      if 2 ≤ h.length && h.toList.getLast? = some '!' then
        (readSuffix false after).bind fun (s, after) =>
          if s.isEmpty then none else some ((h, s), after)
      else
        (readSuffix false after).map fun (s, after) =>
          let s := String.ofList (h.toList.drop 1) ++ s
          (if s.isEmpty then ("", "!") else ("!", s), after)

/-! ## Directives -/

def readNumber (c : Cursor) : Option (Nat × Cursor) :=
  let ds := c.rest.takeWhile Char.isDigit
  if ds.isEmpty || 9 < ds.length then none
  else some (ds.foldl (fun k d => 10 * k + (d.toNat - 48)) 0, c.skipN ds.length)

def readVersion (c : Cursor) : Option (TokenKind × Cursor) := do
  let (major, c) ← readNumber (c.skipWhile isSpace)
  if !c.at? (· == '.') then none
  let (minor, c) ← readNumber c.skip
  return (.version major minor, c)

def readShorthand (c : Cursor) : Option (TokenKind × Cursor) := do
  let (h, c) ← readHandle (c.skipWhile isSpace)
  if h.toList.getLast? != some '!' || !c.at? isSpace then none
  let (s, c) ← readSuffix true (c.skipWhile isSpace)
  if s.isEmpty || !atGapOrEnd c.rest then none
  return (.tagShorthand h s, c)

def readDirective (c : Cursor) : Option (TokenKind × Cursor × Cursor) := do
  let name := c.skip.rest.takeWhile isWordChar
  let after := c.skip.skipN name.length
  if !atGapOrEnd after.rest then none
  let (k, stop) ←
    if name = "YAML".toList then readVersion after
    else if name = "TAG".toList then readShorthand after
    else none
  return (k, stop, ← stop.finishLine)

/-! ## Tokens -/

def setKeyAllowed (b : Bool) (l : Lexer) : Lexer :=
  { l with keyAllowed := b }

def streamEnd (l : Lexer) : Option Lexer :=
  let m := l.cursor.mark
  let m := if m.column == 0 then m else ⟨m.index, m.line + 1, 0⟩
  let l := { l with cursor := ⟨[], m⟩ }
  l.closeAll.dropKey.map fun l => (l.take .streamEnd 0).setKeyAllowed false

def directive (l : Lexer) : Option Lexer := do
  let l ← l.closeAll.dropKey
  let (k, stop, c) ← readDirective l.cursor
  let l := (l.takeTo k stop).setKeyAllowed false
  return { l with cursor := c }

def documentMark (k : TokenKind) (l : Lexer) : Option Lexer :=
  l.closeAll.dropKey.map fun l => (l.take k 3).setKeyAllowed false

def flowStart (k : TokenKind) (l : Lexer) : Option Lexer :=
  l.saveKey.map fun l =>
    ({ l with pending := none, outer := l.pending :: l.outer }.take k 1).setKeyAllowed true

def flowEnd (k : TokenKind) (l : Lexer) : Option Lexer :=
  l.dropKey.map fun l =>
    let l :=
      match l.outer with
      | [] => l
      | p :: ps => { l with pending := p, outer := ps }
    (l.take k 1).setKeyAllowed false

def flowEntry (l : Lexer) : Option Lexer :=
  l.dropKey.map fun l => (l.take .flowEntry 1).setKeyAllowed true

def blockEntry (l : Lexer) : Option Lexer :=
  if !l.inFlow && !l.keyAllowed then none
  else
    (l.openBlock .blockSequenceStart l.cursor.mark none).dropKey.map fun l =>
      (l.take .blockEntry 1).setKeyAllowed true

def keyMark (l : Lexer) : Option Lexer :=
  if !l.inFlow && !l.keyAllowed then none
  else
    (l.openBlock .blockMappingStart l.cursor.mark none).dropKey.map fun l =>
      (l.take .key 1).setKeyAllowed !l.inFlow

def valueMark (l : Lexer) : Option Lexer :=
  match l.pending with
  | some k =>
    let l := l.insertAt k.position ⟨.key, k.mark, k.mark⟩
    let l := l.openBlock .blockMappingStart k.mark (some k.position)
    some (({ l with pending := none }.take .value 1).setKeyAllowed false)
  | none =>
    if !l.inFlow && !l.keyAllowed then none
    else
      let l := l.openBlock .blockMappingStart l.cursor.mark none
      some ((l.take .value 1).setKeyAllowed !l.inFlow)

def readName (c : Cursor) : Option (String × Cursor) :=
  let name := c.skip.rest.takeWhile isWordChar
  let after := c.skip.skipN name.length
  if !name.isEmpty && (atGapOrEnd after.rest || after.at? ("?:,]\x7d%@`".toList.contains ·)) then
    some (String.ofList name, after)
  else none

def nameMark (k : String → TokenKind) (l : Lexer) : Option Lexer :=
  l.saveKey.bind fun l =>
    (readName l.cursor).map fun (name, c) => (l.takeTo (k name) c).setKeyAllowed false

def tagMark (l : Lexer) : Option Lexer :=
  l.saveKey.bind fun l =>
    (readTag l.cursor).bind fun ((h, s), c) =>
      if atGapOrEnd c.rest || (l.inFlow && c.at? (· == ',')) then
        some ((l.takeTo (.tag h s) c).setKeyAllowed false)
      else none

def blockScalar (folded : Bool) (l : Lexer) : Option Lexer :=
  l.dropKey.bind fun l =>
    (readBlock folded (l.columns.headD 0) l.nextColumn l.cursor.skip).map fun r =>
      (l.takeTo (.scalar false (String.ofList r.text)) r.after).setKeyAllowed true

/-- A scalar that may begin a key; a plain one may end in a line where the next key may begin. -/
def lineScalar (isPlain : Bool) (read : Cursor → Option Reading) (l : Lexer) : Option Lexer :=
  l.saveKey.bind fun l =>
    (read l.cursor).map fun r =>
      (l.takeTo (.scalar isPlain (String.ofList r.text)) r.after).setKeyAllowed r.endsLine

def isIndicator (c : Char) : Bool :=
  "-?:,[]\x7b\x7d#&*!|>'\"%@`".toList.contains c

def startsPlain (inFlow : Bool) (c : Char) (cs : List Char) : Bool :=
  !isGap c && (!isIndicator c || (c == '-' && !cs.head?.any isSpace) ||
    (!inFlow && (c == '?' || c == ':') && !atGapOrEnd cs))

def step (c : Char) (cs : List Char) (l : Lexer) : Option Lexer :=
  let m := l.cursor.mark
  let isMark := l.inFlow || atGapOrEnd cs
  if m.column == 0 && c == '%' then l.directive
  else if atDocumentMark m (c :: cs) then
    l.documentMark (if c == '-' then .documentStart else .documentEnd)
  else if c == '[' then l.flowStart .flowSequenceStart
  else if c == '\x7b' then l.flowStart .flowMappingStart
  else if c == ']' then l.flowEnd .flowSequenceEnd
  else if c == '\x7d' then l.flowEnd .flowMappingEnd
  else if c == ',' then l.flowEntry
  else if c == '-' && atGapOrEnd cs then l.blockEntry
  else if c == '?' && isMark then l.keyMark
  else if c == ':' && isMark then l.valueMark
  else if c == '*' then l.nameMark .reference
  else if c == '&' then l.nameMark .anchor
  else if c == '!' then l.tagMark
  else if c == '|' && !l.inFlow then l.blockScalar false
  else if c == '>' && !l.inFlow then l.blockScalar true
  else if c == '\'' then l.lineScalar false fun k => readSingle k.skip.mark .none k.skip.rest
  else if c == '"' then l.lineScalar false fun k => readDouble k.skip.mark (.text .none) k.skip.rest
  else if startsPlain l.inFlow c cs then
    l.lineScalar true fun k => readPlain l.inFlow l.nextColumn k.mark .none k.rest
  else none

def next (l : Lexer) : Option Lexer := do
  let (keyAllowed, cursor) := skipBlanks l.inFlow l.keyAllowed false l.cursor.mark l.cursor.rest
  let l ← dropStale { l with cursor := cursor, keyAllowed := keyAllowed }
  let l := l.closeBlocks (· ≤ l.cursor.mark.column)
  match l.cursor.rest with
  | [] => l.streamEnd
  | c :: cs => l.step c cs

def isFinished (l : Lexer) : Bool :=
  (l.queue.getLast?.or l.ready.head?).any (·.kind = .streamEnd)

def run (l : Lexer) : Lexer :=
  match l.next with
  | none => l
  | some l' =>
    match l'.release with
    | none => { l' with queue := [] }
    | some l'' =>
      if l''.isFinished then l''
      else if l''.cursor.rest.length < l.cursor.rest.length then run l''
      else l''
termination_by l.cursor.rest.length

end Lexer

/-- The tokens of a text that are ready before a rule is broken. Where no rule is broken, the last
of them is the end of the text. -/
def tokensOf (s : String) : List Token :=
  if s.toList.all isAllowed then (Lexer.start s.toList).run.ready.reverse else []

end FontAccessors.Yaml
