import FontAccessors.Accessor.Function
import FontAccessors.Proofs.Accessor.Outcome

namespace FontAccessors
open Grammar Token Text

namespace Accessor

def program : Accessor → Function
  | styled s n =>
    ⟨.plain s.functionName, [], defaultRuntime ++ operator "::" ++ Grammar.ident "Font",
      customFont n s.pointSize (.plain s.variantName) defaultRuntime⟩
  | sized n =>
    ⟨.plain sizeFunctionName, Grammar.ident "size" ++ operator ":" ++ Grammar.ident "f32",
      defaultRuntime ++ operator "::" ++ Grammar.ident "Font", fixedFont n defaultRuntime⟩

theorem cut_accessor (a : Accessor) (rest : List Token) :
    Function.cut? (a.notes ++ a.inModule defaultRuntime ++ rest) = some (a.program, rest) := by
  cases a <;> rfl

theorem ofTokens_accessors (as : List Accessor) :
    Function.ofTokens? (as.map fun a => a.notes ++ a.inModule defaultRuntime).flatten =
      some (as.map program) := by
  induction as with
  | nil =>
    rw [Function.ofTokens?]
    rfl
  | cons a as ih =>
    have nonempty (ts : List Token) : (a.notes ++ ts).isEmpty = false := rfl
    have shorter (ts us : List Token) : ts.length < (a.notes ++ us ++ ts).length := by
      have notes : a.notes.length = 4 := rfl
      simp only [List.length_append]
      omega
    rw [List.map_cons, List.flatten_cons, Function.ofTokens?, cut_accessor, List.append_assoc,
      nonempty, ← List.append_assoc]
    simp only [shorter, ih, if_true, Bool.false_eq_true, if_false]
    rfl

end Accessor

theorem TextStyle.ofVariant_variant (t : TextStyle) : ofVariant? t.variant = some t := by
  cases t <;> rfl

structure Style.Follows (s : Style) (t : TextStyle) : Prop where
  function : s.functionName = snakeCase t.name
  variant : s.variantName = t.variant
  size : Term.ofTokens? [.literal (Accessor.sizeText s.pointSize)] =
    some (.number t.defaultPointSize)

instance (s : Style) (t : TextStyle) : Decidable (s.Follows t) :=
  decidable_of_iff
    (s.functionName = snakeCase t.name ∧ s.variantName = t.variant ∧
      Term.ofTokens? [.literal (Accessor.sizeText s.pointSize)] = some (.number t.defaultPointSize))
    ⟨fun ⟨function, variant, size⟩ => ⟨function, variant, size⟩,
      fun h => ⟨h.function, h.variant, h.size⟩⟩

theorem table_follows :
    List.Forall₂ (fun t s => Style.Follows s t) TextStyle.all Style.table := by
  have rows : ∀ p ∈ TextStyle.all.zip Style.table, p.2.Follows p.1 := by decide +kernel
  rw [List.forall₂_iff_zip]
  exact ⟨rfl, fun mem => rows _ mem⟩

variable {s : Style} {t : TextStyle} (family : String)

theorem term_text (s : String) : Term.ofTokens? [Accessor.text s] = some (.text s) := by
  simp [Accessor.text, Term.ofTokens?, Quoted.value?_literal]

theorem ofTokens_call {callee arguments : List Token} {names : List String}
    (named : rootedNames? callee = some names) (terms : List (List Token))
    (split : arguments.splitOnP isComma = terms) :
    Call.ofTokens? (callee ++ [.group .parenthesis arguments]) =
      (terms.mapM Term.ofTokens?).map (⟨names, ·⟩) := by
  simp [Call.ofTokens?, named, split]

theorem call_styled (h : s.Follows t) : (Accessor.styled s family).program.call? =
    some ⟨["fontsgen", "Font", "custom"], [.text family, .number t.defaultPointSize] ++
      [.item ["fontsgen", "TextStyle", t.variant]]⟩ := by
  have named : rootedNames? (Accessor.defaultRuntime ++ operator "::" ++ Grammar.ident "Font" ++
      operator "::" ++ Grammar.ident "custom") = some ["fontsgen", "Font", "custom"] := rfl
  rw [Function.call?, Accessor.program, Accessor.customFont, ofTokens_call named
    [[Accessor.text family], [.literal (Accessor.sizeText s.pointSize)],
      Accessor.defaultRuntime ++ operator "::" ++ Grammar.ident "TextStyle" ++ operator "::" ++
        Grammar.ident s.variantName] rfl]
  rw [List.mapM_cons, term_text, List.mapM_cons, h.size, h.variant]
  rfl

theorem call_sized : (Accessor.sized family).program.call? =
    some ⟨["fontsgen", "Font", "fixed"], [.text family, .parameter "size"]⟩ := by
  have named : rootedNames? (Accessor.defaultRuntime ++ operator "::" ++ Grammar.ident "Font" ++
      operator "::" ++ Grammar.ident "fixed") = some ["fontsgen", "Font", "fixed"] := rfl
  rw [Function.call?, Accessor.program, Accessor.fixedFont,
    ofTokens_call named [[Accessor.text family], Grammar.ident "size"] rfl]
  rw [List.mapM_cons, term_text]
  rfl

theorem font_styled (h : s.Follows t) :
    (Accessor.styled s family).program.font? [] = some (.custom family t.defaultPointSize t) := by
  have result : rootedNames? (Accessor.styled s family).program.result =
      some ["fontsgen", "Font"] := rfl
  have scope : Function.bind? (Accessor.styled s family).program.parameters [] = some [] := rfl
  have style : Term.value? [] (.item ["fontsgen", "TextStyle", t.variant]) = some (.style t) := by
    rw [Term.value?, TextStyle.ofVariant_variant]
    rfl
  have values : [.text family, .number t.defaultPointSize,
        .item ["fontsgen", "TextStyle", t.variant]].mapM (Term.value? []) =
      some [.text family, .number t.defaultPointSize, .style t] := by
    rw [List.mapM_cons, List.mapM_cons, List.mapM_cons, style]
    rfl
  rw [Function.font?, if_pos result, scope, Option.bind_some, call_styled family h,
    Option.bind_some, Call.font?, List.cons_append, List.cons_append, List.nil_append, values]
  rfl

theorem font_sized (x : Float32) :
    (Accessor.sized family).program.font? [x] = some (.fixed family x) := by
  have result : rootedNames? (Accessor.sized family).program.result =
      some ["fontsgen", "Font"] := rfl
  have scope : Function.bind? (Accessor.sized family).program.parameters [x] =
      some [("size", x)] := rfl
  rw [Function.font?, if_pos result, scope, Option.bind_some, call_sized]
  rfl

/-- A function that gives the font of a text style. -/
structure IsStyleFunction (family : String) (t : TextStyle) (f : Function) : Prop where
  name : f.name = .plain (snakeCase t.name)
  variant : ∃ callee terms,
    f.call? = some ⟨callee, terms ++ [.item ["fontsgen", "TextStyle", t.variant]]⟩
  font : f.font? [] = some ⟨family, t.defaultPointSize, some t⟩
  scaled : ∀ factor,
    (f.font? []).map (Font.scaled · factor) = some (t.defaultPointSize * factor)

/-- A function that gives a font of any size. -/
structure IsSizeFunction (family : String) (f : Function) : Prop where
  name : f.name = .plain "of_size"
  font : ∀ x, f.font? [x] = some ⟨family, x, none⟩
  scaled : ∀ x factor, (f.font? [x]).map (Font.scaled · factor) = some x

theorem isStyleFunction_styled (h : s.Follows t) :
    IsStyleFunction family t (Accessor.styled s family).program := by
  have font := font_styled family h
  refine ⟨?_, ⟨_, _, call_styled family h⟩, font, fun factor => by rw [font]; rfl⟩
  rw [← h.function]
  rfl

theorem isSizeFunction_sized : IsSizeFunction family (Accessor.sized family).program :=
  ⟨rfl, font_sized family, fun x factor => by rw [font_sized]; rfl⟩

theorem functions_ofFont : ∃ styles size,
    (Accessor.ofFont family).map Accessor.program = styles ++ [size] ∧
      List.Forall₂ (IsStyleFunction family) TextStyle.all styles ∧
      IsSizeFunction family size := by
  refine ⟨Style.table.map fun s => (Accessor.styled s family).program, _, ?_, ?_,
    isSizeFunction_sized family⟩
  · rw [Accessor.ofFont, List.map_append, List.map_map]
    rfl
  · rw [List.forall₂_map_right_iff]
    exact table_follows.imp fun _ _ => isStyleFunction_styled family

def Settings.Names (family : String) (settings : List Token) : Prop :=
  (ofTokens settings).fontName = some family ∧ (ofTokens settings).crate = .none

theorem emitted_of_names {settings item : List Token} {e : Enumeration}
    (named : Settings.Names family settings) (read : Item.ofTokens? item = some (.enumeration e))
    (explain : List Token → String) :
    Expansion.emitted explain settings item =
      .ok (e.tokens ++ Expansion.implementation e ((Accessor.ofFont family).map fun a =>
        a.notes ++ a.inModule Accessor.defaultRuntime).flatten) := by
  have runtime : (Settings.ofTokens settings).runtime =
      .ok (.ofNames true (.plain "fontsgen") []) := by
    simp only [Settings.runtime, named.2, Settings.ofText_defaultCratePath]
  rw [Expansion.emitted, Expansion.ofTokens, read]
  simp only [Expansion.ofItem_generated named.1 runtime, Expansion.tokens?, accessorTokens_eq]
  rfl

end FontAccessors
