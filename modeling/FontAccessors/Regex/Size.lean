import FontAccessors.Regex.Basic

namespace FontAccessors
open Text

namespace Regex

def stateSize : Nat := 32

def wideSetSize : Nat := 13 * stateSize

def setSize (s : CodePoints) : Nat :=
  -- Sets beyond ASCII are walked through octet by octet.
  match s.complement.complement.ranges with
  | [(a, b)] =>
    if a = b then stateSize * (Char.ofNat a).utf8Size
    else if b < 128 then 2 * stateSize
    else wideSetSize
  | rs => if rs.all (·.2 < 128) then 2 * stateSize + 8 * rs.length else wideSetSize

def isEither : Regex → Bool
  | either .. => true
  | _ => false

def size : Regex → Nat
  | empty | look _ => stateSize
  | one s => setSize s
  | append r q => size r + size q
  | either r q => size r + size q + (if isEither q then 4 else 2 * stateSize + 8)
  | times r least none => max least 1 * size r + stateSize
  | times r least (some most) => most * size r + (most - least + 1) * stateSize
  | capture r => size r + 2 * stateSize

def asksForWideWords : Regex → Bool
  | look (.word _ isWide) => isWide
  | empty | look _ | one _ => false
  | append r q | either r q => asksForWideWords r || asksForWideWords q
  | times r _ _ | capture r => asksForWideWords r

end Regex
end FontAccessors
