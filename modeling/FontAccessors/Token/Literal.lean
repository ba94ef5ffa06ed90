import FontAccessors.Text.Identifier
import FontAccessors.Text.Quoted

namespace FontAccessors.Literal
open Text Quoted

def afterName : List Char → Option (List Char)
  | [] => none
  | c :: cs => if isIdentStart c then some (cs.dropWhile isIdentContinue) else none

def dropSuffix (s : List Char) : List Char :=
  (afterName s).getD s

def afterCooked (k : Kind) (s : List Char) : Option (List Char) :=
  (read k .text s).map fun r => dropSuffix r.2

def afterHashed (k : Kind) (s : List Char) : Option (List Char) :=
  (readHashed k s).map fun r => dropSuffix r.2

def afterApostrophe (k : Kind) (s : List Char) : Option (List Char) :=
  (afterCharacter k s).map dropSuffix

def afterQuoted : List Char → Option (List Char)
  | '"' :: s => afterCooked .string s
  | 'r' :: s => afterHashed .string s
  | 'b' :: '"' :: s => afterCooked .bytes s
  | 'b' :: 'r' :: s => afterHashed .bytes s
  | 'b' :: '\'' :: s => afterApostrophe .bytes s
  | 'c' :: '"' :: s => afterCooked .terminated s
  | 'c' :: 'r' :: s => afterHashed .terminated s
  | '\'' :: s => afterApostrophe .string s
  | _ => none

def isDigitOrGap (c : Char) : Bool :=
  c.isDigit || c == '_'

def atWordBreak : List Char → Bool
  -- No name may touch the end of a number.
  | [] => true
  | c :: _ => !isIdentContinue c

def afterNumberSuffix (s : List Char) : Option (List Char) :=
  let rest := dropSuffix s
  if atWordBreak rest then some rest else none

/-- The digits of an exponent, with at most one sign before the first of them. `none` where no
digit stands, or a second sign. -/
def afterExponent (signed valued : Bool) : List Char → Option (List Char)
  | [] => if valued then some [] else none
  | c :: cs =>
    if c.isDigit then afterExponent signed true cs
    else if c = '_' then afterExponent signed valued cs
    else if (c = '+' || c = '-') && !valued then
      if signed then none else afterExponent true valued cs
    else if valued then some (c :: cs) else none

def afterScale (dotted : Bool) (s : List Char) : Option (List Char) :=
  match s with
  | 'e' :: cs | 'E' :: cs =>
    match afterExponent false false cs with
    | some rest => some rest
    | none => if dotted then some s else none
  | _ => if dotted then some s else none

def afterFloatDigits (s : List Char) : Option (List Char) :=
  match s with
  | c :: cs =>
    if c.isDigit then
      match cs.dropWhile isDigitOrGap with
      | '.' :: r =>
        -- Before a name the dot leads to a field or method, before another dot it is a range.
        if r.head?.any fun c => c == '.' || isIdentStart c then none
        else afterScale true (r.dropWhile isDigitOrGap)
      | r => afterScale false r
    else none
  | [] => none

/-- Digits in base ten or below. A digit beyond the base is refused; in base ten the first
character must be a digit. -/
def afterDigits (base : Nat) (seen : Bool) : List Char → Option (List Char)
  | [] => if seen then some [] else none
  | c :: cs =>
    if c = '_' then
      if !seen && base == 10 then none else afterDigits base seen cs
    else if c.isDigit then
      if c.toNat - 48 < base then afterDigits base true cs else none
    else if base == 16 && (hexValue? c).isSome then afterDigits base true cs
    else if seen then some (c :: cs) else none

def afterIntegerDigits : List Char → Option (List Char)
  | '0' :: 'x' :: s => afterDigits 16 false s
  | '0' :: 'o' :: s => afterDigits 8 false s
  | '0' :: 'b' :: s => afterDigits 2 false s
  | s => afterDigits 10 false s

def afterNumber (s : List Char) : Option (List Char) :=
  ((afterFloatDigits s).bind afterNumberSuffix).or ((afterIntegerDigits s).bind afterNumberSuffix)

def after (s : List Char) : Option (List Char) :=
  (afterQuoted s).or (afterNumber s)

def isInteger (text : List Char) : Bool :=
  -- A dot, or an exponent after decimal digits, makes a float.
  match text with
  | '0' :: 'x' :: _ | '0' :: 'o' :: _ | '0' :: 'b' :: _ => true
  | c :: _ => c.isDigit && (afterFloatDigits text).isNone
  | [] => false

def isFloat (text : List Char) : Bool :=
  text.head?.any Char.isDigit && !isInteger text

def isNumber (text : List Char) : Bool :=
  text.head?.any Char.isDigit

end FontAccessors.Literal
