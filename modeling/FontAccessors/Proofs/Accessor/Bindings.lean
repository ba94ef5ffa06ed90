import FontAccessors.Proofs.Accessor.Outcome
import FontAccessors.Proofs.Accessor.Settings

namespace FontAccessors.Grammar
open Text

namespace ArgumentValue

def IsString (v : ArgumentValue) (s : String) : Prop :=
  ∃ text, v = literal text ∧ Quoted.value? text.toList = some s.toList

theorem string_expr_iff {v : ArgumentValue} {s : String} :
    v.expr.string? = some s ↔ v.IsString s := by
  cases v with
  | literal text =>
    have value : (literal text).expr.string? = some s ↔
        ∃ cs, Quoted.value? text.toList = some cs ∧ String.ofList cs = s := by
      simp [expr, literalExpr, Expr.string?, ExprForm.string?]
    rw [value]
    constructor
    · rintro ⟨cs, eq, rfl⟩
      exact ⟨text, rfl, by rw [eq, String.toList_ofList]⟩
    · rintro ⟨_, ⟨⟩, eq⟩
      exact ⟨s.toList, eq, String.ofList_toList⟩
  | truth b => simp [expr, Expr.string?, ExprForm.string?, IsString]
  | name i named => simp [expr, Expr.string?, ExprForm.string?, IsString]

end ArgumentValue

namespace SimpleArgument

def valueOf? (key : String) : SimpleArgument → Option ArgumentValue
  | binding (.path none i [] _) _ v => if i = .plain key then some v else none
  | _ => none

theorem valueOf_toArgument {key : String} (other : key ≠ "unsafe") (a : SimpleArgument) :
    Argument.valueOf? key a.toArgument = (a.valueOf? key).map ArgumentValue.expr := by
  cases a with
  | flag k | list k => rfl
  | binding k sign v =>
    cases k with
    | unsafeWord =>
      simp [toArgument, ArgumentKey.toPath, valueOf?, Argument.valueOf?, Path.isName, Ident.plain,
        other.symm]
    | path lead i further named =>
      cases lead with
      | some s =>
        simp [toArgument, ArgumentKey.toPath, valueOf?, Argument.valueOf?, Path.isName]
      | none =>
        cases further with
        | cons p further =>
          simp [toArgument, ArgumentKey.toPath, valueOf?, Argument.valueOf?, Path.isName]
        | nil =>
          by_cases same : i = .plain key <;>
            simp [toArgument, ArgumentKey.toPath, valueOf?, Argument.valueOf?, Path.isName,
              Arguments.isNone, same]

end SimpleArgument

end FontAccessors.Grammar

namespace FontAccessors.Settings
open Grammar Token Text

theorem valueOf_literalBinding {key : String} (h : key ∈ keys) (sign : Spacing)
    (literal name : String) : (literalBinding h sign literal).valueOf? name =
      if key = name then some (.literal literal) else .none := by
  simp [literalBinding, ArgumentKey.single, SimpleArgument.valueOf?, Ident.plain]

def first? (key : String) (as : List SimpleArgument) : Option ArgumentValue :=
  as.findSome? (SimpleArgument.valueOf? key)

def bindings (key : String) (as : List SimpleArgument) : List ArgumentValue :=
  as.filterMap (SimpleArgument.valueOf? key)

theorem first_eq_head (key : String) (as : List SimpleArgument) :
    first? key as = (bindings key as).head? :=
  (List.head?_filterMap).symm

section

variable {l : ArgumentList} {key s : String}

theorem firstValue_list (h : key ∈ keys) (as : List SimpleArgument) :
    firstValue? key (as.map SimpleArgument.toArgument) =
      (first? key as).map ArgumentValue.expr := by
  have other : key ≠ "unsafe" := by
    have all : ∀ key ∈ keys, key ≠ "unsafe" := by decide
    exact all key h
  rw [firstValue?, first?, List.findSome?_map, List.map_findSome?]
  congr 1
  funext a
  exact SimpleArgument.valueOf_toArgument other a

theorem fontName_list (l : ArgumentList) : (ofTokens l.tokens).fontName =
    (first? fontNameKey l.arguments).bind fun v => v.expr.string? := by
  have first := firstValue_list fontNameKey_mem l.arguments
  rw [ofTokens, ofTokens_list]
  simp only [ofArguments, Option.getD_some, first, Option.bind_map, Function.comp_def]

theorem crate_list (l : ArgumentList) : (ofTokens l.tokens).crate =
    (first? crateKey l.arguments).map fun v => crateValue v.expr := by
  have first := firstValue_list crateKey_mem l.arguments
  rw [ofTokens, ofTokens_list]
  simp only [ofArguments, Option.getD_some, first, Option.map_map, Function.comp_def]

theorem fontName_list_iff : (ofTokens l.tokens).fontName = some s ↔
    ∃ v, first? fontNameKey l.arguments = some v ∧ v.IsString s := by
  simp only [fontName_list, Option.bind_eq_some_iff, ArgumentValue.string_expr_iff]

theorem crateValue_path_iff {v : ArgumentValue} :
    crateValue v.expr = .path s ↔ v.IsString s := by
  rw [← ArgumentValue.string_expr_iff, crateValue]
  cases v.expr.string? <;> simp

theorem crateValue_tokens_iff {v : ArgumentValue} : crateValue v.expr = .tokens s ↔
    (∀ path, ¬v.IsString path) ∧ s = Token.render [v.token] := by
  simp only [← ArgumentValue.string_expr_iff, crateValue, v.tokens_expr]
  cases v.expr.string? with
  | none => simp [eq_comm]
  | some path => simp

theorem crate_path_iff : (ofTokens l.tokens).crate = some (.path s) ↔
    ∃ v, first? crateKey l.arguments = some v ∧ v.IsString s := by
  simp only [crate_list, Option.map_eq_some_iff, crateValue_path_iff]

theorem crate_tokens_iff : (ofTokens l.tokens).crate = some (.tokens s) ↔
    ∃ v, first? crateKey l.arguments = some v ∧ (∀ path, ¬v.IsString path) ∧
      s = Token.render [v.token] := by
  simp only [crate_list, Option.map_eq_some_iff, crateValue_tokens_iff]

end

/-- Arguments are added anywhere; a key that one of them binds was bound before it. -/
inductive Grown : List SimpleArgument → List SimpleArgument → List SimpleArgument → Prop
  | nil (before : List SimpleArgument) : Grown before [] []
  | keep {before as bs : List SimpleArgument} (a : SimpleArgument)
    (rest : Grown (a :: before) as bs) : Grown before (a :: as) (a :: bs)
  | add {before as bs : List SimpleArgument} (a : SimpleArgument)
    (bound : ∀ key ∈ keys, a.valueOf? key ≠ .none → ∃ b ∈ before, b.valueOf? key ≠ .none)
    (rest : Grown (a :: before) as bs) : Grown before as (a :: bs)

theorem Grown.first_eq {before as bs : List SimpleArgument} (h : Grown before as bs)
    {key : String} (mem : key ∈ keys) (unbound : ∀ b ∈ before, b.valueOf? key = .none) :
    first? key bs = first? key as := by
  -- As long as nothing before binds the key, nothing added here does.
  induction h with
  | nil => rfl
  | keep a rest ih =>
    cases value : a.valueOf? key with
    | some v => simp [first?, value]
    | none =>
      have same := ih (by simpa [value] using unbound)
      simpa [first?, value] using same
  | add a bound rest ih =>
    have value : a.valueOf? key = .none := by
      by_contra binds
      obtain ⟨b, earlier, binds'⟩ := bound key mem binds
      exact binds' (unbound b earlier)
    have same := ih (by simpa [value] using unbound)
    simpa [first?, value] using same

/-- Settings that lead to the same values, and to the same tokens in place of every item. -/
structure SameEffect (ts us : List Token) : Prop where
  fontName : (ofTokens ts).fontName = (ofTokens us).fontName
  crate : (ofTokens ts).crate = (ofTokens us).crate
  emitted : ∀ explain item, Expansion.emitted explain ts item = Expansion.emitted explain us item

theorem runtime_congr {s s' : Settings} (crate : s.crate = s'.crate) : s.runtime = s'.runtime := by
  rw [runtime, runtime, crate]

theorem ofItem_congr {s s' : Settings} (fontName : s.fontName = s'.fontName)
    (crate : s.crate = s'.crate) (i : Item) : Expansion.ofItem s i = Expansion.ofItem s' i := by
  have accessors (a : Attachment) : s.accessors a = s'.accessors a := by
    simp only [Settings.accessors, request, fontName]
  have resolved (a : Attachment) : Expansion.resolve s a = Expansion.resolve s' a := by
    rw [Expansion.resolve, Expansion.resolve, accessors, runtime_congr crate]
  simp only [Expansion.ofItem, resolved]

theorem sameEffect_of_values {ts us : List Token}
    (fontName : (ofTokens ts).fontName = (ofTokens us).fontName)
    (crate : (ofTokens ts).crate = (ofTokens us).crate) : SameEffect ts us := by
  refine ⟨fontName, crate, fun explain item => ?_⟩
  rw [Expansion.emitted, Expansion.emitted, Expansion.ofTokens, Expansion.ofTokens]
  cases Item.ofTokens? item with
  | none => rfl
  | some i => simp only [ofItem_congr fontName crate i]

theorem sameEffect_of_first {l l' : ArgumentList}
    (same : ∀ key ∈ keys, first? key l'.arguments = first? key l.arguments) :
    SameEffect l.tokens l'.tokens := by
  refine sameEffect_of_values ?_ ?_
  · rw [fontName_list, fontName_list, same fontNameKey fontNameKey_mem]
  · rw [crate_list, crate_list, same crateKey crateKey_mem]

/-- The values of a list are those of the first binding of each key. Nothing else has an effect:
neither arguments that bind no key, nor later bindings, nor the order between different keys. -/
theorem ofTokens_firstBindings (l : ArgumentList) :
    (∀ s, (ofTokens l.tokens).fontName = some s ↔
        ∃ v, first? fontNameKey l.arguments = some v ∧ v.IsString s) ∧
      (∀ s, (ofTokens l.tokens).crate = some (.path s) ↔
        ∃ v, first? crateKey l.arguments = some v ∧ v.IsString s) ∧
      (∀ s, (ofTokens l.tokens).crate = some (.tokens s) ↔
        ∃ v, first? crateKey l.arguments = some v ∧ (∀ path, ¬v.IsString path) ∧
          s = Token.render [v.token]) ∧
      (∀ l' : ArgumentList, (∀ key ∈ keys, first? key l'.arguments = first? key l.arguments) →
        SameEffect l.tokens l'.tokens) ∧
      (∀ l' : ArgumentList, Grown [] l.arguments l'.arguments → SameEffect l.tokens l'.tokens) ∧
      ∀ l' : ArgumentList, (∀ key ∈ keys, bindings key l'.arguments = bindings key l.arguments) →
        SameEffect l.tokens l'.tokens := by
  refine ⟨fun s => fontName_list_iff, fun s => crate_path_iff, fun s => crate_tokens_iff,
    fun l' same => sameEffect_of_first same, fun l' grown => ?_, fun l' same => ?_⟩
  · exact sameEffect_of_first fun key mem => grown.first_eq mem (by simp)
  · refine sameEffect_of_first fun key mem => ?_
    rw [first_eq_head, first_eq_head, same key mem]

theorem ofTokens_firstBindings_menlo :
    ∃ l l' : ArgumentList, Token.render l.tokens = "font_name = \"Menlo\"" ∧
      Token.render l'.tokens =
        "derive (Debug) , font_name = \"Menlo\" , font_name = \"Avenir\"" ∧
      SameEffect l.tokens l'.tokens ∧ (ofTokens l'.tokens).fontName = some "Menlo" := by
  let derives : SimpleArgument :=
    .list (.single (.plain "derive") (.inr (.inl (by decide)))) .parenthesis
      [.ident (.plain "Debug")] (by decide)
  let menlo := literalBinding fontNameKey_mem .alone "\"Menlo\""
  let avenir := literalBinding fontNameKey_mem .alone "\"Avenir\""
  let l : ArgumentList := ⟨[], some menlo⟩
  let l' : ArgumentList := ⟨[(derives, .alone), (menlo, .alone)], some avenir⟩
  have grown : Grown [] l.arguments l'.arguments := by
    refine .add derives (fun _ _ binds => absurd rfl binds) (.keep menlo (.add avenir ?_ (.nil _)))
    intro key mem binds
    refine ⟨menlo, List.mem_cons_self, ?_⟩
    simpa [menlo, avenir, valueOf_literalBinding] using binds
  obtain ⟨-, -, -, -, same, -⟩ := ofTokens_firstBindings l
  obtain ⟨fontName, -⟩ := ofTokens_firstBindings l'
  refine ⟨l, l', by decide +kernel, by decide +kernel, same l' grown, (fontName "Menlo").2 ?_⟩
  exact ⟨.literal "\"Menlo\"", rfl, _, rfl, by decide +kernel⟩

end FontAccessors.Settings
