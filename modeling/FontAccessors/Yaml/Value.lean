import FontAccessors.Decimal.Shortest
import FontAccessors.Text.Quoted
import FontAccessors.Yaml.Document

namespace FontAccessors.Yaml

inductive Value where
  | null
  | boolean (b : Bool)
  | integer (n : Int)
  | float (x : Float)
  | text (s : String)
  deriving Repr

def isNullWord (s : String) : Bool :=
  s == "null" || s == "Null" || s == "NULL" || s == "~"

def boolean? (s : String) : Option Bool :=
  if s == "true" || s == "True" || s == "TRUE" then some true
  else if s == "false" || s == "False" || s == "FALSE" then some false
  else none

def signed : List Char → Bool × List Char
  | '+' :: cs => (false, cs)
  | '-' :: cs => (true, cs)
  | cs => (false, cs)

def digit? (radix : Nat) (c : Char) : Option Nat :=
  let n :=
    if c.isDigit then c.toNat - '0'.toNat
    else if 'a' ≤ c ∧ c ≤ 'f' then c.toNat - 'a'.toNat + 10
    else if 'A' ≤ c ∧ c ≤ 'F' then c.toNat - 'A'.toNat + 10
    else radix
  if n < radix then some n else none

def natural? (radix : Nat) : List Char → Option Nat
  | [] => none
  | cs => cs.foldlM (fun n c => (digit? radix c).map (radix * n + ·)) 0

def isPadded (s : List Char) : Bool :=
  -- Digits after a leading zero are text and no number.
  match (signed s).2 with
  | '0' :: c :: cs => (c :: cs).all Char.isDigit
  | _ => false

/-- Integers of up to 128 bits: decimal, or after a mark for another radix. -/
def integer? (s : List Char) : Option Int := do
  let (isNegative, body) := signed s
  let n ←
    match body with
    | '0' :: 'x' :: ds => natural? 16 ds
    | '0' :: 'o' :: ds => natural? 8 ds
    | '0' :: 'b' :: ds => natural? 2 ds
    | ds => if isPadded s then none else natural? 10 ds
  if isNegative then if n ≤ Nat.pow 2 127 then some (-n) else none
  else if n < Nat.pow 2 128 then some n else none

def decimal? (s : List Char) : Option (Nat × Int) := do
  let whole := s.takeWhile Char.isDigit
  let s := s.dropWhile Char.isDigit
  let (places, s) :=
    match s with
    | '.' :: r => (r.takeWhile Char.isDigit, r.dropWhile Char.isDigit)
    | _ => ([], s)
  let significand ← natural? 10 (whole ++ places)
  let exponent ←
    match s with
    | [] => some 0
    | c :: r =>
      if c == 'e' || c == 'E' then
        let (isNegative, ds) := signed r
        (natural? 10 ds).map fun n => if isNegative then -(n : Int) else n
      else none
  return (significand, exponent - places.length)

def nearestFloat? (significand : Nat) (exponent : Int) : Option Float :=
  let magnitude := (toString significand).length + exponent
  if significand = 0 || magnitude < -400 then some 0.0
  else if 400 < magnitude then none
  else
    let x := Float.ofScientific significand (exponent < 0) exponent.natAbs
    if x.isInf then none else some x

def float? (s : List Char) : Option Float :=
  let (isNegative, body) := signed s
  match String.ofList body with
  | ".inf" | ".Inf" | ".INF" => some (if isNegative then -1.0 / 0.0 else 1.0 / 0.0)
  | _ =>
    match String.ofList s with
    | ".nan" | ".NaN" | ".NAN" => some (0.0 / 0.0)
    | _ => do
      let (significand, exponent) ← decimal? body
      let x ← nearestFloat? significand exponent
      return if isNegative then -x else x

namespace Value

def ofPlain (s : String) : Value :=
  if s.isEmpty || isNullWord s then null
  else
    match boolean? s, integer? s.toList with
    | some b, _ => boolean b
    | none, some n => integer n
    | none, none =>
      if isPadded s.toList then text s else ((float? s.toList).map float).getD (text s)

def ofUntagged (isPlain : Bool) (s : String) : Value :=
  if isPlain then ofPlain s else text s

def coreTag (name : String) : String :=
  "tag:yaml.org,2002:" ++ name

def nullTag : String := coreTag "null"

/-- `none` where a text is not what its tag demands. -/
def ofScalar (tag : Option String) (isPlain : Bool) (s : String) : Option Value :=
  match tag with
  | none => some (ofUntagged isPlain s)
  | some t =>
    if t = coreTag "bool" then (boolean? s).map boolean
    else if t = coreTag "int" then (integer? s.toList).map integer
    else if t = coreTag "float" then (float? s.toList).map float
    else if t = nullTag then if isNullWord s then some null else none
    else if t.startsWith "!" then some (ofUntagged isPlain s)
    else some (text s)

def floatText (x : Float) : String :=
  let s := Decimal.binary64.text x.toBits.toNat
  if x.isFinite && !s.toList.contains '.' then s ++ ".0" else s

def integerSize (n : Int) : String :=
  -- Large integers name their type.
  if Nat.pow 2 64 ≤ n.toNat then " as u128"
  else if Nat.pow 2 63 < (-n).toNat then " as i128"
  else ""

def describe : Value → String
  | null => "unit value"
  | boolean b => "boolean `" ++ toString b ++ "`"
  | integer n => "integer `" ++ toString n ++ "`" ++ integerSize n
  | float x => "floating point `" ++ floatText x ++ "`"
  | text s => "string " ++ Text.Quoted.mention s

end Value

def Node.describe? : Node → Option String
  | scalar _ tag isPlain s => (Value.ofScalar tag isPlain s).map Value.describe
  | sequence .. => some "sequence"
  | mapping .. => some "map"
  | reference _ | broken => none

end FontAccessors.Yaml
