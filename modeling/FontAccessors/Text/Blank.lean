import FontAccessors.Text.CodePoints

namespace FontAccessors.Text

def wideBlanks : CodePoints :=
  ⟨[
      (0x85, 0x85), (0xA0, 0xA0), (0x1680, 0x1680), (0x2000, 0x200A), (0x2028, 0x2029),
      (0x202F, 0x202F), (0x205F, 0x205F), (0x3000, 0x3000)]⟩

def isWhite (c : Char) : Bool :=
  c == ' ' || (decide (9 ≤ c.toNat) && decide (c.toNat ≤ 13)) || wideBlanks.contains c

def isBlank (c : Char) : Bool :=
  isWhite c || c == '\u200E' || c == '\u200F'

def trim (s : List Char) : List Char :=
  ((s.dropWhile isWhite).reverse.dropWhile isWhite).reverse

end FontAccessors.Text
