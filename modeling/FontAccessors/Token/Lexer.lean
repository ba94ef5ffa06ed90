import FontAccessors.Text.Blank
import FontAccessors.Token.Basic
import FontAccessors.Token.Literal

/-!
From source text to tokens, in two steps: `lexemes` cuts the text into a flat sequence in which a
group is an opening and a closing bracket, and `nest` builds the groups. A documentation comment
becomes the attribute that it abbreviates; other comments vanish.
-/

namespace FontAccessors
open Text

inductive Lexeme where
  | token (t : Token)
  | opening (d : Delimiter)
  | closing (d : Delimiter)
  deriving Repr

namespace Lexeme

def startsWith (s : List Char) (lead : String) : Bool :=
  lead.toList.isPrefixOf s

def cutLine : List Char → List Char × List Char
  | [] => ([], [])
  | '\n' :: cs => ([], '\n' :: cs)
  | '\r' :: '\n' :: cs => ([], '\n' :: cs)
  | c :: cs => ((c :: (cutLine cs).1), (cutLine cs).2)

def cutBlock (depth : Nat) : List Char → Option (List Char × List Char)
  | '/' :: '*' :: cs => (cutBlock (depth + 1) cs).map fun r => ('/' :: '*' :: r.1, r.2)
  | '*' :: '/' :: cs =>
    match depth with
    | 0 | 1 => some ([], cs)
    | d + 2 => (cutBlock (d + 1) cs).map fun r => ('*' :: '/' :: r.1, r.2)
  | c :: cs => (cutBlock depth cs).map fun r => (c :: r.1, r.2)
  | [] => none

def afterBlank : List Char → Option (List Char)
  | '/' :: '/' :: cs =>
    if startsWith cs "!" || (startsWith cs "/" && !startsWith cs "//") then none
    else some (cutLine cs).2
  | '/' :: '*' :: cs =>
    if startsWith cs "*/" then some (cs.drop 2)
    else if startsWith cs "!" || (startsWith cs "*" && !startsWith cs "**") then none
    else (cutBlock 1 cs).map Prod.snd
  | c :: cs => if isBlank c then some cs else none
  | [] => none

def unbroken : List Char → Bool
  -- Carriage returns are part of line breaks only.
  | '\r' :: '\n' :: cs => unbroken cs
  | '\r' :: _ => false
  | _ :: cs => unbroken cs
  | [] => true

def documentation (inner : Bool) (text : List Char) : List Lexeme :=
  .token (.punct '#' .alone) ::
    ((if inner then [.token (.punct '!' .alone)] else []) ++
      [.opening .bracket, .token (.ident (.plain "doc")), .token (.punct '=' .alone),
        .token (.literal (Quoted.literal (String.ofList text))), .closing .bracket])

/-- A documentation comment: whether it is an inner one, its text, and what follows. -/
def cutDocumentation : List Char → Option (Bool × List Char × List Char)
  | '/' :: '/' :: '!' :: cs => some (true, cutLine cs)
  | '/' :: '/' :: '/' :: cs => if startsWith cs "/" then none else some (false, cutLine cs)
  | '/' :: '*' :: '!' :: cs => (cutBlock 1 cs).map fun r => (true, r)
  | '/' :: '*' :: '*' :: cs =>
    if startsWith cs "*" then none else (cutBlock 1 cs).map fun r => (false, r)
  | _ => none

def unrawable : List String :=
  ["_", "super", "self", "Self", "crate"]

def cutIdent (s : List Char) : Option (Ident × List Char) :=
  let isRaw := startsWith s "r#"
  let body := if isRaw then s.drop 2 else s
  (Literal.afterName body).bind fun rest =>
    let name := String.ofList (body.take (body.length - rest.length))
    if isRaw && unrawable.contains name then none else some (⟨name, isRaw⟩, rest)

/-- Beginnings that belong to a literal, well formed or not. -/
def literalLeads : List String :=
  ["r\"", "r#\"", "r##", "b\"", "b'", "br\"", "br#", "c\"", "cr\"", "cr#"]

def marks : List Char :=
  "~!@#$%^&*-=+|;:,<.>/?'".toList

def startsMark (s : List Char) : Bool :=
  !(startsWith s "//" || startsWith s "/*") && s.head?.any marks.contains

def cutMark (s : List Char) : Option (Token × List Char) :=
  match s with
  | '\'' :: rest =>
    -- An apostrophe is a mark only as the beginning of a lifetime.
    (cutIdent rest).bind fun r =>
      if startsWith r.2 "'" || (startsWith r.2 "#" && !startsWith rest "r#") then none
      else some (.punct '\'' .joint, rest)
  | c :: rest =>
    if startsMark s then some (.punct c (if startsMark rest then .joint else .alone), rest)
    else none
  | [] => none

def placeholder : String := "(/*ERROR*/)"

def cutLeaf (s : List Char) : Option (Token × List Char) :=
  match Literal.after s with
  | some rest => some (.literal (String.ofList (s.take (s.length - rest.length))), rest)
  | none =>
    match cutMark s with
    | some r => some r
    | none =>
      if literalLeads.any (startsWith s) then none
      else (cutIdent s).map fun r => (.ident r.1, r.2)

def bracketOf? : Char → Option Lexeme
  | '(' => some (.opening .parenthesis)
  | '[' => some (.opening .bracket)
  | '{' => some (.opening .brace)
  | ')' => some (.closing .parenthesis)
  | ']' => some (.closing .bracket)
  | '}' => some (.closing .brace)
  | _ => none

def cut (s : List Char) : Option (List Lexeme × List Char) :=
  match afterBlank s with
  | some rest => some ([], rest)
  | none =>
    match (cutDocumentation s).filter (fun r => unbroken r.2.1) with
    | some (inner, text, rest) => some (documentation inner text, rest)
    | none =>
      if startsWith s placeholder then
        some ([.token (.literal placeholder)], s.drop placeholder.length)
      else
        match s.head?.bind bracketOf? with
        | some b => some ([b], s.tail)
        | none => (cutLeaf s).map fun r => ([.token r.1], r.2)

def lexemes (s : List Char) : Option (List Lexeme) :=
  match s with
  | [] => some []
  | c :: cs =>
    match cut (c :: cs) with
    | none => none
    | some (ls, rest) =>
      if rest.length < (c :: cs).length then (lexemes rest).map (ls ++ ·) else none
termination_by s.length
decreasing_by assumption

/-- Builds the groups. The stack holds, for each open group, the tokens before it and then the
delimiter that opened it; tokens are collected in reverse. -/
def nest : List (Delimiter × List Token) → List Token → List Lexeme → Option (List Token)
  | [], acc, [] => some acc.reverse
  | _ :: _, _, [] => none
  | stack, acc, .token t :: ls => nest stack (t :: acc) ls
  | stack, acc, .opening d :: ls => nest ((d, acc) :: stack) [] ls
  | [], _, .closing _ :: _ => none
  | (d, before) :: stack, acc, .closing d' :: ls =>
    if d = d' then nest stack (.group d acc.reverse :: before) ls else none

end Lexeme

def Token.lexChars (s : List Char) : Option (List Token) :=
  (Lexeme.lexemes (if s.head? = some '\uFEFF' then s.tail else s)).bind (Lexeme.nest [] [])

def Token.lex (s : String) : Option (List Token) :=
  Token.lexChars s.toList

end FontAccessors
