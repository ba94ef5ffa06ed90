import FontAccessors.Accessor.Module

namespace FontAccessors.Module
open Template

def header : String :=
  "// @generated by fontsgen. Do not edit by hand.\n"

def styleFunction (path literal : String) (s : Style) : String :=
  "    pub fn " ++ s.functionName ++ "() -> " ++ path ++ "::Font \x7b\n        " ++ path ++
    "::Font::custom(" ++ literal ++ ", " ++ toString s.pointSize.toNat ++ ".0, " ++ path ++
    "::TextStyle::" ++ s.variantName ++ ")\n    \x7d\n\n"

def sizeFunction (path literal : String) : String :=
  "    pub fn " ++ sizeFunctionName ++ "(size: f32) -> " ++ path ++ "::Font \x7b\n        " ++
    path ++ "::Font::fixed(" ++ literal ++ ", size)\n    \x7d\n"

def familyText (path : String) (f : Family.Checked) : String :=
  let literal := Text.Quoted.literal f.fontName
  "\n/// Text styles for the " ++ literal ++ " font family.\npub enum " ++ f.typeName ++
    " \x7b\x7d\n\nimpl " ++ f.typeName ++ " \x7b\n" ++
    String.join (Style.table.map (styleFunction path literal)) ++ sizeFunction path literal ++
    "\x7d\n"

def text (path : String) (families : List Family.Checked) : String :=
  header ++ String.join (families.map (familyText path))

def styleTemplate : Template :=
  .text "    pub fn " <| .output ⟨"accessor", ["ident"]⟩ <| .text "() -> " <|
  .output ⟨"crate_path", []⟩ <| .text "::Font \x7b\n        " <| .output ⟨"crate_path", []⟩ <|
  .text "::Font::custom(" <| .output ⟨"family", ["font_literal"]⟩ <| .text ", " <|
  .output ⟨"accessor", ["size"]⟩ <| .text ".0, " <| .output ⟨"crate_path", []⟩ <|
  .text "::TextStyle::" <| .output ⟨"accessor", ["token"]⟩ <| .text ")\n    \x7d\n\n" .done

def familyTemplate : Template :=
  .text "\n/// Text styles for the " <| .output ⟨"family", ["font_literal"]⟩ <|
  .text " font family.\npub enum " <| .output ⟨"family", ["type_name"]⟩ <|
  .text " \x7b\x7d\n\nimpl " <| .output ⟨"family", ["type_name"]⟩ <| .text " \x7b\n" <|
  .loop "accessor" ⟨"family", ["accessors"]⟩ styleTemplate <|
  .text "    pub fn of_size(size: f32) -> " <| .output ⟨"crate_path", []⟩ <|
  .text "::Font \x7b\n        " <| .output ⟨"crate_path", []⟩ <| .text "::Font::fixed(" <|
  .output ⟨"family", ["font_literal"]⟩ <| .text ", size)\n    \x7d\n\x7d\n" .done

theorem template_eq : template =
    .text header (.loop "family" ⟨"families", []⟩ familyTemplate (.text "" .done)) := by
  decide +kernel

section

variable {path literal : String} {v : Scope}

def styleValue (s : Style) : Template.Value :=
  .record [("ident", .text s.functionName), ("size", .number s.pointSize.toNat),
    ("token", .text s.variantName)]

theorem filterMap_ofFont (fontName : String) :
    (Accessor.ofFont fontName).filterMap accessorValue? = Style.table.map styleValue := by
  -- The accessor that takes a size has no value: the template writes it itself.
  rw [Accessor.ofFont, List.filterMap_append, List.filterMap_map]
  rfl

theorem value?_cons {r : Reference} (name : String) (x : Template.Value)
    (other : (r.name == name) = false) : r.value? ((name, x) :: v) = r.value? v := by
  rw [Reference.value?, List.lookup_cons, other]
  rfl

theorem render_styleTemplate (s : Style)
    (crate : shown (Reference.value? ⟨"crate_path", []⟩ v) = path)
    (font : shown (Reference.value? ⟨"family", ["font_literal"]⟩ v) = literal) :
    styleTemplate.render (("accessor", styleValue s) :: v) = styleFunction path literal s := by
  have ident : shown (Reference.value? ⟨"accessor", ["ident"]⟩ (("accessor", styleValue s) :: v)) =
    s.functionName := rfl
  have size : shown (Reference.value? ⟨"accessor", ["size"]⟩ (("accessor", styleValue s) :: v)) =
    toString s.pointSize.toNat := rfl
  have token : shown (Reference.value? ⟨"accessor", ["token"]⟩ (("accessor", styleValue s) :: v)) =
    s.variantName := rfl
  rw [← value?_cons "accessor" (styleValue s) (by decide)] at crate font
  simp only [styleTemplate, Template.render, ident, size, token, crate, font]
  unfold styleFunction
  simp only [String.append_assoc, String.append_empty]

theorem render_familyTemplate (f : Family.Checked)
    (crate : shown (Reference.value? ⟨"crate_path", []⟩ v) = path) :
    familyTemplate.render (("family", familyValue f) :: v) = familyText path f := by
  have name : shown (Reference.value? ⟨"family", ["type_name"]⟩ (("family", familyValue f) :: v)) =
    f.typeName := rfl
  have font : shown (Reference.value? ⟨"family", ["font_literal"]⟩
    (("family", familyValue f) :: v)) = Text.Quoted.literal f.fontName := rfl
  have accessors : elements (Reference.value? ⟨"family", ["accessors"]⟩
    (("family", familyValue f) :: v)) = Style.table.map styleValue := filterMap_ofFont f.fontName
  rw [← value?_cons "family" (familyValue f) (by decide)] at crate
  have functions := List.map_congr_left fun s (_ : s ∈ Style.table) =>
    render_styleTemplate s crate font
  simp only [familyTemplate, Template.render, name, font, crate, accessors, List.map_map,
    Function.comp_def, functions]
  unfold familyText sizeFunction
  simp only [String.append_assoc, String.append_empty]
  rfl

theorem render_template (path : String) (cs : List Family.Checked) :
    template.render (scope path cs) = text path cs := by
  have families : elements (Reference.value? ⟨"families", []⟩ (scope path cs)) =
    cs.map familyValue := rfl
  have crate : shown (Reference.value? ⟨"crate_path", []⟩ (scope path cs)) = path := rfl
  have texts := List.map_congr_left fun f (_ : f ∈ cs) => render_familyTemplate f crate
  simp only [template_eq, Template.render, families, List.map_map, Function.comp_def, texts, text,
    String.append_empty]

end

theorem render_eq (families : List Family) (path : String) :
    render families path = do
      checkPath path
      return text path (← checkFamilies [] families) := by
  simp only [render, render_template]

end FontAccessors.Module
