import FontAccessors.Accessor.Basic
import FontAccessors.Grammar.Source
import FontAccessors.Token.Printer

/-!
Settings of a generation: the name of the font, and the path of the crate that the accessors use.
The arguments of an attribute give them; of several bindings of one key the first counts, and
arguments that cannot be read give nothing.
-/

namespace FontAccessors
open Grammar

inductive GenerateError where
  | missingFontName
  | invalidTypeName (text : String)
  | duplicateTypeName (text : String)
  | invalidCratePath (text : String)
  deriving DecidableEq, Repr

def GenerateError.message : GenerateError → String
  | missingFontName => "Font name is required for the macro."
  | invalidTypeName t => "`" ++ t ++ "` is not a valid Rust type name"
  | duplicateTypeName t => "type `" ++ t ++ "` is declared more than once"
  | invalidCratePath t => "`" ++ t ++ "` is not a valid crate path"

/-- What the crate key is bound to: a string, or tokens of which only the text counts. -/
inductive CrateValue where
  | path (text : String)
  | tokens (text : String)
  deriving DecidableEq, Repr

structure Settings where
  fontName : Option String
  crate : Option CrateValue
  tokens : List Token

namespace Settings

def fontNameKey : String := "font_name"
def crateKey : String := "crate"
def defaultCratePath : String := "::fontsgen"

def none : Settings :=
  ⟨Option.none, Option.none, []⟩

def ofFontName (name : String) : Settings :=
  ⟨some name, Option.none, []⟩

def withCratePath (s : Settings) (path : String) : Settings :=
  { s with crate := some (.path path) }

def firstValue? (key : String) (as : List Argument) : Option Expr :=
  as.findSome? (Argument.valueOf? key)

def crateValue (e : Expr) : CrateValue :=
  match e.string? with
  | some s => .path s
  | Option.none => .tokens (Token.render e.tokens)

def ofArguments (as : List Argument) (tokens : List Token) : Settings where
  fontName := (firstValue? fontNameKey as).bind Expr.string?
  crate := (firstValue? crateKey as).map crateValue
  tokens := tokens

def ofTokens (tokens : List Token) : Settings :=
  -- Malformed arguments count as no arguments, and nothing reports them here.
  ofArguments ((Argument.ofTokens? tokens).getD []) tokens

def runtime (s : Settings) : Except GenerateError Path :=
  let read (text : String) : Except GenerateError Path :=
    match Path.ofText? text with
    | some p => .ok p
    | Option.none => .error (.invalidCratePath text)
  match s.crate with
  | Option.none => read defaultCratePath
  | some (.path text) => read text
  | some (.tokens text) => .error (.invalidCratePath text)

end Settings

inductive Attachment where
  | enumeration
  | other
  deriving DecidableEq, Repr

def Attachment.ofItem : Item → Attachment
  | .enumeration _ => enumeration
  | .other _ => other

structure Request where
  fontName : String
  attachment : Attachment
  deriving DecidableEq, Repr

namespace Settings

def request (s : Settings) (a : Attachment) : Except GenerateError (Option Request) :=
  match a, s.fontName with
  | .other, _ => .ok Option.none
  | .enumeration, Option.none => .error .missingFontName
  | .enumeration, some name => .ok (some ⟨name, a⟩)

def accessors (s : Settings) (a : Attachment) : Except GenerateError (List Accessor) :=
  (s.request a).map fun r => (r.map fun r => Accessor.ofFont r.fontName).getD []

@[simp] theorem accessors_other (s : Settings) : s.accessors .other = .ok [] := rfl

theorem accessors_of_fontName {s : Settings} {name : String} (h : s.fontName = some name) :
    s.accessors .enumeration = .ok (Accessor.ofFont name) := by
  unfold accessors request
  rw [h]
  rfl

theorem accessors_of_no_fontName {s : Settings} (h : s.fontName = Option.none) :
    s.accessors .enumeration = .error .missingFontName := by
  unfold accessors request
  rw [h]
  rfl

end Settings
end FontAccessors
