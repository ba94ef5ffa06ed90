import FontAccessors.Decimal.Shortest
import FontAccessors.Font.TextStyle

namespace FontAccessors

structure Font where
  family : String
  size : Float32
  relativeTo : Option TextStyle
  deriving BEq

namespace Font

def custom (family : String) (size : Float32) (style : TextStyle) : Font :=
  ⟨family, size, some style⟩

def fixed (family : String) (size : Float32) : Font :=
  ⟨family, size, none⟩

def isDynamic (f : Font) : Bool :=
  f.relativeTo.isSome

def scaled (f : Font) (factor : Float32) : Float32 :=
  if f.isDynamic then f.size * factor else f.size

def sizeText (size : Float32) : String :=
  Decimal.binary32.text size.toBits.toNat

def display (f : Font) : String :=
  f.family ++ " " ++ sizeText f.size ++ "pt" ++
    match f.relativeTo with
    | none => ""
    | some s => " (" ++ s.name ++ ")"

end Font
end FontAccessors
