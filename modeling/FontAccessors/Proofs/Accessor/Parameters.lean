import FontAccessors.Proofs.Accessor.Outcome
import FontAccessors.Proofs.Grammar.Parameters

namespace FontAccessors.Expansion
open Grammar Token

section

variable {settings item : List Token} {e : Enumeration} {accessors : List Accessor} {runtime : Path}

theorem ofTokens_generated {name : String} (read : Item.ofTokens? item = some (.enumeration e))
    (named : (Settings.ofTokens settings).fontName = some name)
    (resolved : (Settings.ofTokens settings).runtime = .ok runtime) :
    ofTokens settings item = .generated e (Accessor.ofFont name) runtime := by
  rw [ofTokens, read]
  exact ofItem_generated named resolved e

theorem emitted_generated (explain : List Token → String)
    (generates : ofTokens settings item = .generated e accessors runtime) :
    Item.ofTokens? item = some (.enumeration e) ∧
      ∃ body, emitted explain settings item = .ok (e.tokens ++ implementation e body) := by
  obtain ⟨ending, ts, emits, ends⟩ := exists_endsAs explain settings item
  cases ends with
  | noItem unread =>
    rw [ofTokens, unread] at generates
    cases generates
  | noEnumeration read =>
    rw [ofTokens, read] at generates
    simp only [ofItem_other] at generates
    cases generates
  | noFontName read unnamed =>
    rw [ofTokens, read] at generates
    simp only [ofItem_no_fontName unnamed] at generates
    cases generates
  | noPath read named bound refused =>
    rw [ofTokens, read] at generates
    simp only [ofItem_no_runtime named (Settings.runtime_of_no_path bound refused)] at generates
    cases generates
  | accessors read named _ resolved _ _ implements =>
    obtain ⟨functions, -, rfl⟩ := implements
    rw [ofTokens_generated read named resolved] at generates
    cases generates
    exact ⟨read, functions.flatten, emits⟩

/-- An enumeration and the block behind it have the same parameters, in the same order. The block
declares them with their attributes and bounds but without defaults, has their names alone as the
arguments of the type, and repeats the conditions. Without parameters there are no lists. -/
theorem emitted_parameters (explain : List Token → String)
    (generates : ofTokens settings item = .generated e accessors runtime) :
    ∃ declared bounded arguments body parameters,
      emitted explain settings item = .ok
        (e.attributes ++ e.visibility ++ ident "enum" ++ [.ident e.name] ++ declared ++
            e.conditions ++ [.group .brace e.variants] ++
          (ident "impl" ++ bounded ++ [.ident e.name] ++ arguments ++ e.conditions ++
            [.group .brace body])) ∧
      elements? (exposed declared) = some parameters ∧
      elements? (exposed bounded) = some (parameters.map withoutDefault) ∧
      elements? (exposed arguments) = some (parameters.map parameterName) ∧
      (∀ p ∈ parameters, Parameter.IsName (parameterName p) ∧
        parameterName (withoutDefault p) = parameterName p) ∧
      parameters = e.generics.ordered.map (fun p => exposed p.declared) ∧
      (parameters = [] → declared = [] ∧ bounded = [] ∧ arguments = []) := by
  obtain ⟨read, body, emits⟩ := emitted_generated explain generates
  -- What a reader read is balanced, so the commas of the list alone tell its elements apart.
  have listed := listed_generics read
  have balanced : ∀ p ∈ e.generics.ordered, p.IsBalanced := by
    intro p mem
    obtain ⟨q, mem', rfl⟩ := Generics.mem_ordered mem
    exact listed.elements q mem'
  refine ⟨e.generics.write Parameter.declared, e.generics.write Parameter.bounded,
    e.generics.write Parameter.argument, body, _, emits,
    elements_write listed fun p h => ⟨h.isElement_declared, h.declared_ne_nil⟩,
    (elements_write listed fun p h => ⟨h.isElement_bounded, h.bounded_ne_nil⟩).trans ?_,
    (elements_write listed fun p _ => ⟨p.isElement_argument, p.argument_ne_nil⟩).trans ?_,
    List.forall_mem_map.2 fun p mem => ?_, rfl, fun none => ?_⟩
  · rw [List.map_map]
    refine congrArg _ (List.map_congr_left fun p mem => ?_)
    exact (balanced p mem).withoutDefault_declared.symm
  · rw [List.map_map]
    refine congrArg _ (List.map_congr_left fun p mem => ?_)
    exact p.exposed_argument.trans (balanced p mem).parameterName_declared.symm
  · rw [(balanced p mem).parameterName_declared, (balanced p mem).withoutDefault_declared,
      (balanced p mem).parameterName_bounded]
    exact ⟨p.isName_argument, rfl⟩
  · have empty : e.generics = [] := Generics.eq_nil_of_ordered (List.map_eq_nil_iff.1 none)
    rw [empty]
    exact ⟨rfl, rfl, rfl⟩

end

def declaredParameters : Item → List (List Token)
  | .enumeration e => e.generics.ordered.map fun p => exposed p.declared
  | .other _ => []

def monoText : String :=
  "enum Mono<#[cfg(a)] T: Iterator<Item = u8> + Copy = u8, const N: usize = 3, 'a: 'static> " ++
    "where T: Fn(u8) -> u8 \x7b\x7d"

theorem emitted_parameters_mono : ∃ settings item e accessors runtime,
    ∃ declared bounded arguments body parameters,
    settings = [.ident (.plain "font_name"), .punct '=' .alone, .literal "\"Menlo\""] ∧
    lex monoText = some item ∧ ofTokens settings item = .generated e accessors runtime ∧
    emitted (fun _ => "") settings item = .ok
      (e.attributes ++ e.visibility ++ ident "enum" ++ [.ident e.name] ++ declared ++
          e.conditions ++ [.group .brace e.variants] ++
        (ident "impl" ++ bounded ++ [.ident e.name] ++ arguments ++ e.conditions ++
          [.group .brace body])) ∧
    elements? (exposed declared) = some parameters ∧
    elements? (exposed bounded) = some (parameters.map withoutDefault) ∧
    elements? (exposed arguments) = some (parameters.map parameterName) ∧
    parameters.map Token.render = ["'a : 'static",
      "# [cfg (a)] T : Iterator < Item = u8 > + Copy = u8", "const N : usize = 3"] ∧
    (parameters.map withoutDefault).map Token.render = ["'a : 'static",
      "# [cfg (a)] T : Iterator < Item = u8 > + Copy", "const N : usize"] ∧
    (parameters.map parameterName).map Token.render = ["'a", "T", "N"] := by
  obtain ⟨i, found, texts⟩ := (Option.any_eq_true _ _).1 (by decide +kernel :
    (((lex monoText).bind Item.ofTokens?).any fun i =>
      (declaredParameters i).map Token.render == ["'a : 'static",
        "# [cfg (a)] T : Iterator < Item = u8 > + Copy = u8", "const N : usize = 3"] &&
      ((declaredParameters i).map withoutDefault).map Token.render == ["'a : 'static",
        "# [cfg (a)] T : Iterator < Item = u8 > + Copy", "const N : usize"] &&
      ((declaredParameters i).map parameterName).map Token.render == ["'a", "T", "N"]) = true)
  obtain ⟨item, lexed, read⟩ := Option.bind_eq_some_iff.1 found
  cases i with
  | other => cases texts
  | enumeration e =>
    simp only [Bool.and_eq_true, beq_iff_eq] at texts
    obtain ⟨⟨declaredTexts, boundedTexts⟩, names⟩ := texts
    have value : Text.Quoted.value? "\"Menlo\"".toList = some "Menlo".toList := by decide +kernel
    have settings := Settings.ofTokens_fontName value .alone
    have resolved : _ = Except.ok (Path.ofNames true (.plain "fontsgen") []) :=
      (congrArg Settings.runtime settings).trans
        (by simp only [Settings.runtime, Settings.ofFontName, Settings.ofText_defaultCratePath])
    have generates := ofTokens_generated read (congrArg Settings.fontName settings) resolved
    obtain ⟨declared, bounded, arguments, body, _, emits, list, list', list'', -, rfl, -⟩ :=
      emitted_parameters (fun _ => "") generates
    exact ⟨_, item, e, _, _, declared, bounded, arguments, body, _, rfl, lexed, generates, emits,
      list, list', list'', declaredTexts, boundedTexts, names⟩

end FontAccessors.Expansion
