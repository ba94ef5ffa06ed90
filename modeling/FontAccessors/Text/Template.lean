import FontAccessors.Text.Pieces

/-!
Templates: texts with places for values, and loops. An expression is written in double braces, a
loop from a tag `for x in xs` to a tag `endfor`, each in braces and percent signs. The line break
behind a tag and the blanks before one that begins its line are no text. Nothing is escaped.
-/

namespace FontAccessors

structure Template.Reference where
  name : String
  members : List String
  deriving DecidableEq, Repr

inductive Template where
  | done
  | text (s : String) (rest : Template)
  | output (r : Template.Reference) (rest : Template)
  | loop (name : String) (r : Template.Reference) (body rest : Template)
  deriving DecidableEq, Repr

namespace Template

inductive Value where
  | text (s : String)
  | number (n : Nat)
  | list (vs : List Value)
  | record (fields : List (String × Value))
  deriving Repr

abbrev Scope := List (String × Value)

def Value.member? (name : String) : Value → Option Value
  | record fields => fields.lookup name
  | _ => none

def Reference.value? (r : Reference) (s : Scope) : Option Value :=
  r.members.foldl (fun v m => v.bind (Value.member? m)) (s.lookup r.name)

def shown : Option Value → String
  | some (.text s) => s
  | some (.number n) => toString n
  -- What is not defined is written as nothing.
  | _ => ""

def elements : Option Value → List Value
  | some (.list vs) => vs
  | _ => []

def render (s : Scope) : Template → String
  | done => ""
  | text t rest => t ++ render s rest
  | output r rest => shown (r.value? s) ++ render s rest
  | loop name r body rest =>
    String.join ((elements (r.value? s)).map fun v => render ((name, v) :: s) body) ++
      render s rest

inductive Piece where
  | text (s : String)
  | output (r : Reference)
  | opening (name : String) (r : Reference)
  | closing
  deriving DecidableEq, Repr

def Piece.ofChars (cs : List Char) : Piece :=
  .text (String.ofList cs)

def words (cs : List Char) : List (List Char) :=
  (Text.split ' ' cs).filter (!·.isEmpty)

def Reference.ofChars? (cs : List Char) : Option Reference :=
  match Text.split '.' cs with
  | [] => none
  | n :: ms =>
    if (n :: ms).any List.isEmpty then none else some ⟨String.ofList n, ms.map String.ofList⟩

def Piece.ofExpression? (cs : List Char) : Option Piece :=
  match words cs with
  | [r] => (Reference.ofChars? r).map output
  | _ => none

def Piece.ofTag? (cs : List Char) : Option Piece :=
  match (words cs).map String.ofList with
  | ["endfor"] => some closing
  | ["for", name, "in", r] => (Reference.ofChars? r.toList).map (opening name)
  | _ => none

/-- Drops the blanks at the end of a text that is given backwards, if its last line has no more. -/
def stripLine (backwards : List Char) : List Char :=
  let rest := backwards.dropWhile (· == ' ')
  if rest.head?.all (· == '\n') then rest else backwards

inductive Mode where
  | text
  | expression
  | tag
  deriving DecidableEq, Repr

/-- Cuts a text into pieces; `seen` is what has been read of the first one, backwards. -/
def scan : Mode → List Char → List Char → Option (List Piece)
  | .text, seen, [] => some [.ofChars seen.reverse]
  | .text, seen, '\x7b' :: '\x7b' :: cs =>
    (scan .expression [] cs).map (.ofChars seen.reverse :: ·)
  | .text, seen, '\x7b' :: '%' :: cs =>
    (scan .tag [] cs).map (.ofChars (stripLine seen).reverse :: ·)
  | .expression, seen, '\x7d' :: '\x7d' :: cs =>
    (Piece.ofExpression? seen.reverse).bind fun p => (scan .text [] cs).map (p :: ·)
  | .tag, seen, '%' :: '\x7d' :: '\n' :: cs =>
    (Piece.ofTag? seen.reverse).bind fun p => (scan .text [] cs).map (p :: ·)
  | .tag, seen, '%' :: '\x7d' :: cs =>
    (Piece.ofTag? seen.reverse).bind fun p => (scan .text [] cs).map (p :: ·)
  | m, seen, c :: cs => scan m (c :: seen) cs
  | _, _, [] => none

/-- Puts a piece in front of the templates of the loops that it is in, the innermost one first. -/
def build : Piece → List Template → Option (List Template)
  | .text s, t :: ts => some (text s t :: ts)
  | .output r, t :: ts => some (output r t :: ts)
  | .closing, ts => some (done :: ts)
  | .opening name r, body :: t :: ts => some (loop name r body t :: ts)
  | _, _ => none

def ofPieces? (ps : List Piece) : Option Template :=
  match ps.foldr (fun p ts => ts.bind (build p)) (some [done]) with
  | some [t] => some t
  | _ => none

/-- Reads a template. A line break at its end belongs to none of its lines. -/
def ofChars? (cs : List Char) : Option Template :=
  (scan .text [] (if cs.getLast? = some '\n' then cs.dropLast else cs)).bind ofPieces?

end Template
end FontAccessors
