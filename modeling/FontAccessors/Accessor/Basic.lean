import FontAccessors.Accessor.Style
import FontAccessors.Decimal.Shortest
import FontAccessors.Grammar.Basic

namespace FontAccessors
open Grammar (ident operator)

inductive Accessor where
  | styled (style : Style) (fontName : String)
  | sized (fontName : String)
  deriving DecidableEq, Repr

namespace Accessor

def name : Accessor → String
  | styled s _ => s.accessor
  | sized _ => sizeAccessorName

def function : Accessor → Except NameError Ident
  | styled s _ => s.functionIdent
  | sized _ => Ident.ofName sizeFunctionName

def fontName : Accessor → String
  | styled _ n | sized n => n

def pointSize? : Accessor → Option UInt16
  | styled s _ => some s.pointSize
  | sized _ => none

def styleToken? : Accessor → Option String
  | styled s _ => some s.token
  | sized _ => none

def text (s : String) : Token :=
  .literal (Text.Quoted.literal s)

def floatText (x : Float32) : String :=
  let digits := Decimal.binary32.text x.toBits.toNat
  -- Without a point it would be no float.
  if digits.toList.contains '.' then digits else digits ++ ".0"

def sizeText (n : UInt16) : String :=
  floatText n.toFloat32

def documentation : Accessor → String
  | styled s n =>
    "`" ++ n ++ "` at " ++ toString s.pointSize.toNat ++ "pt, scaling with the `" ++ s.token ++
      "` text style."
  | sized n => "`" ++ n ++ "` at a fixed point size."

def defaultRuntime : List Token :=
  operator "::" ++ ident "fontsgen"

def functionTokens (a : Accessor) (i : Ident) (parameters body runtime : List Token) :
    List Token :=
  operator "#" ++
    [.group .bracket (ident "doc" ++ operator "=" ++ [text a.documentation])] ++ operator "#" ++
    [.group .bracket (ident "inline")] ++ ident "pub" ++ ident "fn" ++ [.ident i] ++
    [.group .parenthesis parameters] ++ operator "->" ++ runtime ++ operator "::" ++
    ident "Font" ++ [.group .brace body]

def customFont (fontName : String) (pointSize : UInt16) (variant : Ident)
    (runtime : List Token) : List Token :=
  runtime ++ operator "::" ++ ident "Font" ++ operator "::" ++ ident "custom" ++
    [.group .parenthesis ([text fontName] ++ operator "," ++ [.literal (sizeText pointSize)] ++
      operator "," ++ runtime ++ operator "::" ++ ident "TextStyle" ++ operator "::" ++
      [.ident variant])]

def fixedFont (fontName : String) (runtime : List Token) : List Token :=
  runtime ++ operator "::" ++ ident "Font" ++ operator "::" ++ ident "fixed" ++
    [.group .parenthesis ([text fontName] ++ operator "," ++ ident "size")]

def tokens (a : Accessor) (runtime : List Token) : Except NameError (List Token) := do
  let i ← a.function
  match a with
  | styled s n =>
    let v ← s.variantIdent
    return a.functionTokens i [] (customFont n s.pointSize v runtime) runtime
  | sized n =>
    let parameters := ident "size" ++ operator ":" ++ ident "f32"
    return a.functionTokens i parameters (fixedFont n runtime) runtime

def ofFont (fontName : String) : List Accessor :=
  Style.table.map (styled · fontName) ++ [sized fontName]

end Accessor
end FontAccessors
