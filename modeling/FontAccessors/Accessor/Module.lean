import FontAccessors.Accessor.Settings
import FontAccessors.Text.Template

namespace FontAccessors
open Grammar

structure Family where
  typeName : String
  fontName : Option String
  deriving DecidableEq, Repr

def Family.settings (f : Family) : Settings :=
  (f.fontName.map Settings.ofFontName).getD .none

structure Family.Checked where
  typeName : String
  fontName : String
  deriving DecidableEq, Repr

namespace Module

def checkFamily (f : Family) : Except GenerateError Family.Checked := do
  if (nameOfText? f.typeName).isNone then throw (.invalidTypeName f.typeName)
  -- There always is an accessor, and the first one tells the name of the font.
  match (← f.settings.accessors .enumeration).head? with
  | some a => return ⟨f.typeName, a.fontName⟩
  | none => throw .missingFontName

/-- Checks the families in order; `seen` are the type names of those before. -/
def checkFamilies (seen : List String) : List Family → Except GenerateError (List Family.Checked)
  | [] => .ok []
  | f :: fs => do
    let c ← checkFamily f
    if seen.contains f.typeName then .error (.duplicateTypeName f.typeName)
    else return c :: (← checkFamilies (f.typeName :: seen) fs)

def checkPath (path : String) : Except GenerateError Unit :=
  if (Path.ofText? path).isSome then .ok () else .error (.invalidCratePath path)

def templateText : List String := [
  "// @generated by fontsgen. Do not edit by hand.\n",
  "\x7b% for family in families %\x7d\n",
  "\n",
  "/// Text styles for the \x7b\x7b family.font_literal \x7d\x7d font family.\n",
  "pub enum \x7b\x7b family.type_name \x7d\x7d \x7b\x7d\n",
  "\n",
  "impl \x7b\x7b family.type_name \x7d\x7d \x7b\n",
  "\x7b% for accessor in family.accessors %\x7d\n",
  "    pub fn \x7b\x7b accessor.ident \x7d\x7d() -> \x7b\x7b crate_path \x7d\x7d::Font \x7b\n",
  "        \x7b\x7b crate_path \x7d\x7d::Font::custom(",
  "\x7b\x7b family.font_literal \x7d\x7d, \x7b\x7b accessor.size \x7d\x7d.0, ",
  "\x7b\x7b crate_path \x7d\x7d::TextStyle::\x7b\x7b accessor.token \x7d\x7d)\n",
  "    \x7d\n",
  "\n",
  "\x7b% endfor %\x7d\n",
  "    pub fn of_size(size: f32) -> \x7b\x7b crate_path \x7d\x7d::Font \x7b\n",
  "        \x7b\x7b crate_path \x7d\x7d::Font::fixed(",
  "\x7b\x7b family.font_literal \x7d\x7d, size)\n",
  "    \x7d\n",
  "\x7d\n",
  "\x7b% endfor %\x7d\n"]

def template : Template :=
  (Template.ofChars? (templateText.flatMap String.toList)).get (by decide +kernel)

def accessorValue? : Accessor → Option Template.Value
  | .styled s _ => some <| .record [("ident", .text s.functionName),
      ("size", .number s.pointSize.toNat), ("token", .text s.variantName)]
  | .sized _ => none

def familyValue (f : Family.Checked) : Template.Value :=
  .record [("type_name", .text f.typeName),
    ("font_literal", .text (Text.Quoted.literal f.fontName)),
    ("accessors", .list ((Accessor.ofFont f.fontName).filterMap accessorValue?))]

def scope (path : String) (families : List Family.Checked) : Template.Scope :=
  [("crate_path", .text path), ("families", .list (families.map familyValue))]

/-- The text of a module, or the first failure: the path comes before the families. -/
def render (families : List Family) (path : String) : Except GenerateError String := do
  checkPath path
  return template.render (scope path (← checkFamilies [] families))

end Module
end FontAccessors
