import FontAccessors.Text.CamelCase
import FontAccessors.Token.Basic

namespace FontAccessors
open Text

inductive NameError where
  | empty
  | number
  | invalid (text : String)
  deriving DecidableEq, Repr

def NameError.message : NameError → String
  | empty => "Ident is not allowed to be empty; use Option<Ident>"
  | number => "Ident cannot be a number; use Literal instead"
  | invalid text => Quoted.mention text ++ " is not a valid Ident"

/-- A name in generated code; keywords are let through. -/
def Ident.ofName (s : String) : Except NameError Ident :=
  if s.isEmpty then .error .empty
  else if s.toList.all Char.isDigit then .error .number
  else if isIdentifier s.toList then .ok (.plain s)
  else .error (.invalid s)

structure Style where
  accessor : String
  pointSize : UInt16
  token : String
  deriving DecidableEq, Repr

namespace Style

def table : List Style :=
  [⟨"largeTitle", 34, "largeTitle"⟩, ⟨"title", 28, "title"⟩, ⟨"title2", 22, "title2"⟩,
    ⟨"title3", 20, "title3"⟩, ⟨"body", 17, "body"⟩, ⟨"callout", 16, "callout"⟩,
    ⟨"subheadline", 15, "subheadline"⟩, ⟨"footnote", 13, "footnote"⟩, ⟨"caption", 12, "caption"⟩,
    ⟨"caption2", 11, "caption2"⟩]

def functionName (s : Style) : String :=
  snakeCase s.accessor

def variantName (s : Style) : String :=
  pascalCase s.token

def functionIdent (s : Style) : Except NameError Ident :=
  Ident.ofName s.functionName

def variantIdent (s : Style) : Except NameError Ident :=
  Ident.ofName s.variantName

end Style

def padRight (width : Nat) (s : String) : String :=
  s ++ String.ofList (List.replicate (width - s.length) ' ')

def padLeft (width : Nat) (s : String) : String :=
  String.ofList (List.replicate (width - s.length) ' ') ++ s

def sizeAccessorName : String := "ofSize"
def sizeFunctionName : String := "of_size"

def Style.row (s : Style) : String :=
  padRight 12 s.functionName ++ " " ++ padLeft 3 (toString s.pointSize.toNat) ++ "pt  " ++
    s.variantName ++ "\n"

def Style.listing : String :=
  String.join (Style.table.map Style.row) ++
    padRight 12 sizeFunctionName ++ " " ++ padLeft 5 "size" ++ "  -\n"

end FontAccessors
