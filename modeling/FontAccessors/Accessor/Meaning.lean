import FontAccessors.Accessor.Basic
import FontAccessors.Font.Basic

namespace FontAccessors

def TextStyle.ofVariant? (name : String) : Option TextStyle :=
  all.find? (·.variant == name)

def Accessor.font? (a : Accessor) (size : Float32) : Option Font :=
  match a with
  | styled s n =>
    (TextStyle.ofVariant? s.variantName).map (Font.custom n (Float32.ofNat s.pointSize.toNat))
  | sized n => some (Font.fixed n size)

end FontAccessors
