/-!
Shortest decimal digits of binary floating-point numbers: the fewest that read back to the number,
and of those the nearest to it. Numbers are written positionally, without an exponent.
-/

namespace FontAccessors.Decimal

structure Binary where
  significand : Nat
  exponent : Int
  /-- The neighbour below is half as far away as the one above. -/
  isNarrow : Bool
  deriving DecidableEq, Repr

structure Digits where
  digits : Nat
  exponent : Int
  deriving DecidableEq, Repr

namespace Binary

/-- `10 ^ k`, on a scale that `k` and the binary exponent determine. -/
def gridUnit (b : Binary) (k : Int) : Nat :=
  Nat.pow 10 k.toNat * Nat.pow 2 (2 - b.exponent).toNat

/-- `quarters` quarters of the last binary place, on the same scale. -/
def onGrid (b : Binary) (k : Int) (quarters : Nat) : Nat :=
  quarters * Nat.pow 2 (b.exponent - 2).toNat * Nat.pow 10 (-k).toNat

/-- Whether `d * 10 ^ k` is nearer to this number than to any other. An even number also takes the
points halfway to its neighbours. -/
def readsBack (b : Binary) (k : Int) (d : Nat) : Bool :=
  let point := d * b.gridUnit k
  let low := b.onGrid k (4 * b.significand - if b.isNarrow then 1 else 2)
  let high := b.onGrid k (4 * b.significand + 2)
  if b.significand % 2 = 0 then low ≤ point && point ≤ high else low < point && point < high

def hit? (b : Binary) (k : Int) : Option Nat :=
  let unit := b.gridUnit k
  let here := b.onGrid k (4 * b.significand)
  let below := here / unit
  match b.readsBack k below, b.readsBack k (below + 1) with
  | true, false => some below
  | false, true => some (below + 1)
  | true, true => some (if 2 * (here - below * unit) < unit then below else below + 1)
  | false, false => none

/-- Goes from coarse to fine grids; the first hit has the fewest digits. -/
def search (b : Binary) : Nat → Int → Digits
  | 0, k => ⟨b.onGrid k (4 * b.significand) / b.gridUnit k, k⟩
  | n + 1, k =>
    match b.hit? k with
    | some d => ⟨d, k⟩
    | none => b.search n (k - 1)

def startExponent (b : Binary) : Nat :=
  (toString (b.significand * Nat.pow 2 b.exponent.toNat)).length

def shortest (b : Binary) : Digits :=
  b.search (b.startExponent + (-b.exponent).toNat + 4) b.startExponent

end Binary

def Digits.positional (d : Digits) : List Char :=
  let ds := (toString d.digits).toList
  if 0 ≤ d.exponent then ds ++ List.replicate d.exponent.toNat '0'
  else
    let places := (-d.exponent).toNat
    let padded := List.replicate (places + 1 - ds.length) '0' ++ ds
    padded.take (padded.length - places) ++ '.' :: padded.drop (padded.length - places)

structure Format where
  exponentBits : Nat
  fractionBits : Nat

def binary32 : Format := ⟨8, 23⟩
def binary64 : Format := ⟨11, 52⟩

namespace Format

def fraction (f : Format) (bits : Nat) : Nat :=
  bits % Nat.pow 2 f.fractionBits

def exponent (f : Format) (bits : Nat) : Nat :=
  bits / Nat.pow 2 f.fractionBits % Nat.pow 2 f.exponentBits

def isNegative (f : Format) (bits : Nat) : Bool :=
  bits / Nat.pow 2 (f.fractionBits + f.exponentBits) % 2 == 1

def magnitude (f : Format) (bits : Nat) : Binary :=
  let shift : Int := 2 - Nat.pow 2 (f.exponentBits - 1) - f.fractionBits
  match f.exponent bits with
  | 0 => ⟨f.fraction bits, shift, false⟩
  | e + 1 => ⟨f.fraction bits + Nat.pow 2 f.fractionBits, e + shift, f.fraction bits == 0 && e != 0⟩

def isSpecial (f : Format) (bits : Nat) : Bool :=
  f.exponent bits == Nat.pow 2 f.exponentBits - 1

def isNaN (f : Format) (bits : Nat) : Bool :=
  f.isSpecial bits && f.fraction bits != 0

def text (f : Format) (bits : Nat) : String :=
  let sign := if f.isNegative bits then "-" else ""
  if f.isNaN bits then "NaN"
  else if f.isSpecial bits then sign ++ "inf"
  else if (f.magnitude bits).significand = 0 then sign ++ "0"
  else sign ++ String.ofList (f.magnitude bits).shortest.positional

end Format
end FontAccessors.Decimal
