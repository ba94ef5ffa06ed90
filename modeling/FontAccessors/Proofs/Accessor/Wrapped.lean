import FontAccessors.Proofs.Accessor.Bindings
import FontAccessors.Proofs.Grammar.Wrapped

namespace FontAccessors.Settings
open Grammar Token Text

theorem firstValue_before {key : String} (h : key ∈ keys)
    {before : List (SimpleArgument × Spacing)} (unbound : ∀ b ∈ before, b.1.valueOf? key = .none)
    (e : Expr) (as : List Argument) :
    firstValue? key (before.map (·.1.toArgument) ++ .binding (namePath (.plain key)) e :: as) =
      some e := by
  have other : key ≠ "unsafe" := by
    have all : ∀ key ∈ keys, key ≠ "unsafe" := by decide
    exact all key h
  rw [firstValue?, List.findSome?_append]
  have passed : (before.map (·.1.toArgument)).findSome? (Argument.valueOf? key) = .none := by
    rw [List.findSome?_eq_none_iff]
    intro a mem
    obtain ⟨b, earlier, rfl⟩ := List.mem_map.1 mem
    rw [SimpleArgument.valueOf_toArgument other, unbound b earlier]
    rfl
  rw [passed, Option.none_or, List.findSome?_cons, valueOf_namePath, if_pos rfl]

def wrappedBinding {key : String} (h : key ∈ keys) (before : List (SimpleArgument × Spacing))
    (sign : Spacing) (text : String) (ds : List Delimiter)
    (behind : Option (Spacing × ArgumentList)) : List Token :=
  wrappedTokens before (.single (.plain key) (named_of_mem h)) sign text ds behind

section

variable {key text s : String} (value : Quoted.value? text.toList = some s.toList)
  (before : List (SimpleArgument × Spacing)) (sign : Spacing) (ds : List Delimiter)
  (behind : Option (Spacing × ArgumentList))

include value

theorem string_wrappedExpr : (wrappedExpr text ds).string? =
    if ∀ d ∈ ds, d = .invisible then some s else .none := by
  rw [Expr.string?, wrappedExpr, string_wrapped, value, Option.map_some, String.ofList_toList]

theorem firstValue_wrapped (h : key ∈ keys) (unbound : ∀ b ∈ before, b.1.valueOf? key = .none) :
    ∃ e, firstValue? key
          ((Argument.ofTokens? (wrappedBinding h before sign text ds behind)).getD []) = some e ∧
      e.string? = (if ∀ d ∈ ds, d = .invisible then some s else .none) ∧
      ((∃ d ∈ ds, d ≠ .invisible) → e.tokens = [wrapped text ds]) := by
  obtain ⟨e, read, string, kept⟩ :=
    ofTokens_wrapped before (.single (.plain key) (named_of_mem h)) sign text ds behind
  refine ⟨e, ?_, string.trans (string_wrappedExpr value ds), fun visible => ?_⟩
  · rw [wrappedBinding, read]
    exact firstValue_before h unbound e _
  · rw [kept visible]
    rfl

/-- A string literal in groups is a string for both keys if all groups are invisible. Otherwise it
is no font name, and as the path of the crate it is refused as the tokens that it is. -/
theorem ofTokens_wrappedValue :
    ((∀ b ∈ before, b.1.valueOf? fontNameKey = .none) →
      (ofTokens (wrappedBinding fontNameKey_mem before sign text ds behind)).fontName =
        if ∀ d ∈ ds, d = .invisible then some s else .none) ∧
    ((∀ b ∈ before, b.1.valueOf? crateKey = .none) →
      let settings := ofTokens (wrappedBinding crateKey_mem before sign text ds behind)
      settings.crate = some (if ∀ d ∈ ds, d = .invisible then .path s
        else .tokens (Token.render [wrapped text ds])) ∧
      settings.runtime = if ∀ d ∈ ds, d = .invisible then (none.withCratePath s).runtime
        else .error (.invalidCratePath (Token.render [wrapped text ds]))) := by
  constructor
  · intro unbound
    obtain ⟨e, first, string, -⟩ :=
      firstValue_wrapped value before sign ds behind fontNameKey_mem unbound
    simp only [ofTokens, ofArguments, first, Option.bind_some, string]
  · intro unbound
    obtain ⟨e, first, string, kept⟩ :=
      firstValue_wrapped value before sign ds behind crateKey_mem unbound
    have bound : (ofTokens (wrappedBinding crateKey_mem before sign text ds behind)).crate =
        some (crateValue e) := by
      simp only [ofTokens, ofArguments, first, Option.map_some]
    by_cases invisible : ∀ d ∈ ds, d = .invisible
    · rw [if_pos invisible] at string
      rw [crateValue, string] at bound
      simp only [runtime, bound, if_pos invisible, withCratePath, and_self]
    · have visible : ∃ d ∈ ds, d ≠ .invisible := by simpa using invisible
      rw [if_neg invisible] at string
      rw [crateValue, string, kept visible] at bound
      simp only [runtime, bound, if_neg invisible, and_self]

end

theorem ofTokens_wrappedValue_nested :
    Quoted.value? "\"Menlo\"".toList = some "Menlo".toList ∧
    Token.render (wrappedBinding fontNameKey_mem [] .alone "\"Menlo\"" [.invisible, .brace]
        (some (.alone, ⟨[], some (literalBinding fontNameKey_mem .alone "\"x\"")⟩))) =
      "font_name = \x7b \"Menlo\" \x7d , font_name = \"x\"" ∧
    (ofTokens (wrappedBinding fontNameKey_mem [] .alone "\"Menlo\"" [.invisible, .brace]
        (some (.alone, ⟨[], some (literalBinding fontNameKey_mem .alone "\"x\"")⟩)))).fontName =
      .none ∧
    (ofTokens (wrappedBinding crateKey_mem [] .alone "\"Menlo\"" [.invisible, .brace]
        .none)).runtime = .error (.invalidCratePath "\x7b \"Menlo\" \x7d") ∧
    (ofTokens (wrappedBinding fontNameKey_mem [] .alone "\"Menlo\"" [.invisible, .invisible]
        .none)).fontName = some "Menlo" := by
  have value : Quoted.value? "\"Menlo\"".toList = some "Menlo".toList := by decide +kernel
  have text : Token.render [wrapped "\"Menlo\"" [.invisible, .brace]] = "\x7b \"Menlo\" \x7d" := by
    decide +kernel
  obtain ⟨font, -⟩ := ofTokens_wrappedValue value [] .alone [.invisible, .brace]
    (some (.alone, ⟨[], some (literalBinding fontNameKey_mem .alone "\"x\"")⟩))
  obtain ⟨-, crate⟩ := ofTokens_wrappedValue value [] .alone [.invisible, .brace] .none
  obtain ⟨font', -⟩ :=
    ofTokens_wrappedValue value [] .alone [.invisible, .invisible] .none
  refine ⟨value, by decide +kernel, font nofun, ?_, font' nofun⟩
  rw [← text]
  exact (crate nofun).2

end FontAccessors.Settings
