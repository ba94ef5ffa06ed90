import FontAccessors.Text.Visible

namespace FontAccessors.Text.Quoted

def hexDigits (n : Nat) : List Char :=
  Nat.toDigits 16 n

def escape (c : Char) : List Char :=
  if c = '\x00' then ['\\', '0']
  else if c = '\t' then ['\\', 't']
  else if c = '\n' then ['\\', 'n']
  else if c = '\r' then ['\\', 'r']
  else if c = '"' then ['\\', '"']
  else if c = '\\' then ['\\', '\\']
  else if isVisible c then [c]
  else ['\\', 'u', '{'] ++ hexDigits c.toNat ++ ['}']

def isOctalDigit (c : Char) : Bool :=
  decide ('0' ≤ c) && decide (c ≤ '7')

/-- Before an octal digit the null character takes its longer form. -/
def escapeAll : List Char → List Char
  | [] => []
  | c :: cs =>
    (if c = '\x00' && cs.head?.any isOctalDigit then ['\\', 'x', '0', '0'] else escape c) ++
      escapeAll cs

def literalChars (s : List Char) : List Char :=
  '"' :: (escapeAll s ++ ['"'])

def literal (s : String) : String :=
  String.ofList (literalChars s.toList)

def mention (s : String) : String :=
  String.ofList ('"' :: (s.toList.flatMap escape ++ ['"']))

structure Kind where
  asciiOnly : Bool
  wideCodes : Bool
  numbered : Bool
  null : Bool

def Kind.string : Kind := ⟨false, false, true, true⟩
def Kind.bytes : Kind := ⟨true, true, false, true⟩
def Kind.terminated : Kind := ⟨false, true, true, false⟩

def Kind.allows (k : Kind) (c : Char) : Bool :=
  (!k.asciiOnly || isAscii c) && (k.null || c != '\x00')

def Kind.allowsCode (k : Kind) (n : Nat) : Bool :=
  (k.wideCodes || decide (n < 128)) && (k.null || n != 0)

inductive Position where
  | text
  | escape
  | code (high : Option Nat)
  | brace
  | number (value count : Nat)
  | carriage
  /-- After an escaped line break, which hides the blanks that follow it. -/
  | gap
  | gapCarriage
  deriving DecidableEq, Repr

inductive Step where
  | refuse
  | close
  | next (position : Position) (value : List Char)
  deriving DecidableEq, Repr

def hexValue? (c : Char) : Option Nat :=
  if '0' ≤ c && c ≤ '9' then some (c.toNat - 48)
  else if 'a' ≤ c && c ≤ 'f' then some (c.toNat - 87)
  else if 'A' ≤ c && c ≤ 'F' then some (c.toNat - 55)
  else none

def stepText (k : Kind) (c : Char) : Step :=
  if c = '"' then .close
  else if c = '\\' then .next .escape []
  else if c = '\r' then .next .carriage []
  else if k.allows c then .next .text [c]
  else .refuse

def stepEscape (k : Kind) (c : Char) : Step :=
  match c with
  | 'n' => .next .text ['\n']
  | 'r' => .next .text ['\r']
  | 't' => .next .text ['\t']
  | '\\' => .next .text ['\\']
  | '\'' => .next .text ['\'']
  | '"' => .next .text ['"']
  | '0' => if k.null then .next .text ['\x00'] else .refuse
  | 'x' => .next (.code none) []
  | 'u' => if k.numbered then .next .brace [] else .refuse
  | '\n' => .next .gap []
  | '\r' => .next .gapCarriage []
  | _ => .refuse

def stepCode (k : Kind) (high : Option Nat) (c : Char) : Step :=
  match hexValue? c, high with
  | some d, none => .next (.code (some d)) []
  | some d, some h =>
    if k.allowsCode (16 * h + d) then .next .text [Char.ofNat (16 * h + d)] else .refuse
  | none, _ => .refuse

def stepNumber (k : Kind) (value count : Nat) (c : Char) : Step :=
  match hexValue? c with
  | some d => if count < 6 then .next (.number (16 * value + d) (count + 1)) [] else .refuse
  | none =>
    if count = 0 then .refuse
    else if c = '_' then .next (.number value count) []
    else if c = '}' && decide value.isValidChar && k.allows (Char.ofNat value) then
      .next .text [Char.ofNat value]
    else .refuse

def step (k : Kind) (p : Position) (c : Char) : Step :=
  match p with
  | .text => stepText k c
  | .escape => stepEscape k c
  | .code high => stepCode k high c
  | .brace => if c = '{' then .next (.number 0 0) [] else .refuse
  | .number value count => stepNumber k value count c
  | .carriage => if c = '\n' then .next .text ['\n'] else .refuse
  | .gap =>
    if c = ' ' || c = '\t' || c = '\n' then .next .gap []
    else if c = '\r' then .next .gapCarriage []
    else stepText k c
  | .gapCarriage => if c = '\n' then .next .gap [] else .refuse

def read (k : Kind) : Position → List Char → Option (List Char × List Char)
  | _, [] => none
  | p, c :: cs =>
    match step k p c with
    | .refuse => none
    | .close => some ([], cs)
    | .next p' out => (read k p' cs).map fun r => (out ++ r.1, r.2)

/-- What follows one escape sequence, the backslash of which has been read. -/
def afterEscape (k : Kind) : Position → List Char → Option (List Char)
  | _, [] => none
  | p, c :: cs =>
    match step k p c with
    | .next .text _ => some cs
    | .next .gap _ | .next .gapCarriage _ => none
    | .next p' _ => afterEscape k p' cs
    | _ => none

def afterCharacter (k : Kind) : List Char → Option (List Char)
  | '\\' :: cs =>
    match afterEscape k .escape cs with
    | some ('\'' :: rest) => some rest
    | _ => none
  | c :: '\'' :: rest => if k.allows c then some rest else none
  | _ => none

def leadingHashes (s : List Char) : Nat :=
  (s.takeWhile (· == '#')).length

def readRaw (k : Kind) (hashes : Nat) : List Char → Option (List Char × List Char)
  | [] => none
  | '\r' :: '\n' :: cs => (readRaw k hashes cs).map fun r => ('\r' :: '\n' :: r.1, r.2)
  | c :: cs =>
    if c = '"' && decide (hashes ≤ leadingHashes cs) then some ([], cs.drop hashes)
    else if c = '\r' || !k.allows c then none
    else (readRaw k hashes cs).map fun r => (c :: r.1, r.2)

def readHashed (k : Kind) (s : List Char) : Option (List Char × List Char) :=
  match s.drop (leadingHashes s) with
  | '"' :: cs => if leadingHashes s ≤ 255 then readRaw k (leadingHashes s) cs else none
  | _ => none

/-- The text that a string literal stands for; a suffix of the literal is ignored. -/
def value? : List Char → Option (List Char)
  | '"' :: cs => (read .string .text cs).map Prod.fst
  | 'r' :: cs => (readHashed .string cs).map Prod.fst
  | _ => none

end FontAccessors.Text.Quoted
