import FontAccessors.Proofs.Accessor.Expansion
import Mathlib.Data.List.Forall2

namespace FontAccessors
open Grammar Token Text

namespace Settings

def crateValue? (settings : List Token) : Option Expr :=
  firstValue? crateKey ((Argument.ofTokens? settings).getD [])

def HoldsPath (value : Expr) : Prop :=
  ∃ text p, value.string? = some text ∧ Path.ofText? text = some p

def valueText (value : Expr) : String :=
  value.string?.getD (Token.render value.tokens)

variable {settings : List Token} {value : Expr}

theorem ofText_defaultCratePath :
    Path.ofText? defaultCratePath = some (.ofNames true (.plain "fontsgen") []) := by
  refine ofText_pathText rfl ?_
  intro j mem
  cases List.mem_singleton.1 mem
  exact ⟨⟨by decide +kernel, nofun⟩, .inl (by decide)⟩

theorem runtime_of_unbound (h : crateValue? settings = .none) :
    (ofTokens settings).runtime = .ok (.ofNames true (.plain "fontsgen") []) := by
  have unset : (ofTokens settings).crate = .none := by
    show (crateValue? settings).map crateValue = .none
    rw [h]
    rfl
  simp only [runtime, unset, ofText_defaultCratePath]

theorem runtime_of_path {text : String} {p : Path} (h : crateValue? settings = some value)
    (string : value.string? = some text) (isPath : Path.ofText? text = some p) :
    (ofTokens settings).runtime = .ok p := by
  have set : (ofTokens settings).crate = some (.path text) := by
    show (crateValue? settings).map crateValue = some (.path text)
    rw [h, Option.map_some, crateValue, string]
  simp only [runtime, set, isPath]

theorem runtime_of_no_path (h : crateValue? settings = some value) (refused : ¬HoldsPath value) :
    (ofTokens settings).runtime = .error (.invalidCratePath (valueText value)) := by
  have set : (ofTokens settings).crate = some (crateValue value) := by
    show (crateValue? settings).map crateValue = some (crateValue value)
    rw [h, Option.map_some]
  cases string : value.string? with
  | none =>
    rw [crateValue, string] at set
    simp only [runtime, set, valueText, string, Option.getD_none]
  | some text =>
    have noPath : Path.ofText? text = .none := by
      rw [Option.eq_none_iff_forall_ne_some]
      intro p isPath
      exact refused ⟨text, p, string, isPath⟩
    rw [crateValue, string] at set
    simp only [runtime, set, noPath, valueText, string, Option.getD_some]

theorem runtime_ok_iff : (∃ p, (ofTokens settings).runtime = .ok p) ↔
    ∀ value, crateValue? settings = some value → HoldsPath value := by
  cases bound : crateValue? settings with
  | none => simp [runtime_of_unbound bound]
  | some value =>
    constructor
    · rintro ⟨p, ok⟩ value' eq
      cases eq
      refine Classical.byContradiction fun refused => ?_
      rw [runtime_of_no_path bound refused] at ok
      cases ok
    · intro holds
      obtain ⟨text, p, string, isPath⟩ := holds value rfl
      exact ⟨p, runtime_of_path bound string isPath⟩

end Settings

namespace Expansion
open Settings (crateValue? HoldsPath valueText)

def IsError (message : String) (ts : List Token) : Prop :=
  ∃ literal, Quoted.value? literal.toList = some message.toList ∧
    ts = operator "::" ++ ident "core" ++ operator "::" ++ ident "compile_error" ++ operator "!" ++
      [.group .brace [.literal literal]]

def IsBlock (e : Enumeration) (accessors : List Accessor) (runtime : Path) (ts : List Token) :
    Prop :=
  ∃ functions : List (List Token),
    List.Forall₂ (fun a ts => a.tokens runtime.tokens = .ok ts) accessors functions ∧
      ts = implementation e functions.flatten

theorem isError_compileError (message : String) : IsError message (compileError message) :=
  ⟨Quoted.literal message, Quoted.value?_literal message, rfl⟩

def Reports (ts : List Token) : Prop :=
  ∃ message error rest, IsError message error ∧ ts = error ++ rest

def Implements (e : Enumeration) (ts : List Token) : Prop :=
  ∃ before body, ts = before ++ (e.tokens ++ implementation e body)

theorem IsError.not_mem {message : String} {ts : List Token} (h : IsError message ts) {t : Token}
    (front : t ∈ [.punct '#' .alone, .ident (.plain "pub"), .ident (.plain "enum")]) :
    t ∉ ts := by
  obtain ⟨literal, -, rfl⟩ := h
  simp only [List.mem_cons, List.not_mem_nil, or_false] at front
  rcases front with rfl | rfl | rfl <;> simp [operator, operatorTokens, Grammar.ident, Ident.plain]

theorem IsError.ne_nil {message : String} {ts : List Token} (h : IsError message ts) : ts ≠ [] := by
  obtain ⟨literal, -, rfl⟩ := h
  simp

section

variable {item : List Token} {e : Enumeration}

theorem not_reports (read : Item.ofTokens? item = some (.enumeration e)) (block : List Token) :
    ¬Reports (e.tokens ++ block) := by
  rintro ⟨message, error, rest, reports, same⟩
  obtain ⟨t, ts, tokens, front⟩ := tokens_front read
  refine reports.not_mem front ?_
  cases error with
  | nil => exact absurd rfl reports.ne_nil
  | cons t' error =>
    rw [tokens, List.cons_append, List.cons_append] at same
    rw [(List.cons.inj same).1]
    exact List.mem_cons_self

theorem not_implements (read : Item.ofTokens? item = some (.enumeration e)) {message : String}
    {error : List Token} (reports : IsError message error) : ¬Implements e (error ++ e.tokens) := by
  rintro ⟨before, body, same⟩
  have block : implementation e body ≠ [] := by simp [implementation]
  obtain ⟨t, ts, tokens, front⟩ := tokens_front read
  rcases List.append_eq_append_iff.1 same with ⟨more, -, same'⟩ | ⟨more, rfl, same'⟩
  · have length := congrArg List.length same'
    simp only [List.length_append] at length
    have := List.length_pos_iff.2 block
    omega
  · cases more with
    | nil =>
      exact block (List.append_right_eq_self.1 same')
    | cons t' more =>
      rw [tokens, List.cons_append, List.cons_append] at same'
      refine reports.not_mem front ?_
      rw [(List.cons.inj same').1]
      simp

end

theorem exists_block (e : Enumeration) (name : String) (runtime : Path) :
    ∃ block, IsBlock e (Accessor.ofFont name) runtime block ∧
      (generated e (Accessor.ofFont name) runtime).tokens? = .ok (some (e.tokens ++ block)) := by
  refine ⟨_, ⟨_, ?_, rfl⟩, by rw [tokens?, accessorTokens_eq]; rfl⟩
  rw [List.forall₂_map_right_iff, List.forall₂_same]
  exact tokens_ofFont name runtime.tokens

inductive Ending where
  | noItem
  | noEnumeration
  | noFontName
  | noPath
  | accessors
  deriving DecidableEq, Repr

/-- What takes the place of an item for each ending; `explain` says why tokens are no item. -/
inductive EndsAs (explain : List Token → String) (settings item : List Token) :
    Ending → List Token → Prop
  | noItem {ts : List Token} (unread : Item.ofTokens? item = none)
    (reports : IsError (explain item) ts) : EndsAs explain settings item .noItem ts
  | noEnumeration {kept : List Token} (read : Item.ofTokens? item = some (.other kept)) :
    EndsAs explain settings item .noEnumeration kept
  | noFontName {e : Enumeration} {error : List Token}
    (read : Item.ofTokens? item = some (.enumeration e))
    (unnamed : (Settings.ofTokens settings).fontName = none)
    (reports : IsError "Font name is required for the macro." error) :
    EndsAs explain settings item .noFontName (error ++ e.tokens)
  | noPath {e : Enumeration} {name : String} {value : Expr} {error : List Token}
    (read : Item.ofTokens? item = some (.enumeration e))
    (named : (Settings.ofTokens settings).fontName = some name)
    (bound : crateValue? settings = some value) (refused : ¬HoldsPath value)
    (reports : IsError ("`" ++ valueText value ++ "` is not a valid crate path") error) :
    EndsAs explain settings item .noPath (error ++ e.tokens)
  | accessors {e : Enumeration} {name : String} {accessors : List Accessor} {runtime : Path}
    {block : List Token} (read : Item.ofTokens? item = some (.enumeration e))
    (named : (Settings.ofTokens settings).fontName = some name)
    (holds : ∀ value, crateValue? settings = some value → HoldsPath value)
    (resolved : (Settings.ofTokens settings).runtime = .ok runtime)
    (wanted : (Settings.ofTokens settings).accessors .enumeration = .ok accessors)
    (count : accessors.length = 11) (implements : IsBlock e accessors runtime block) :
    EndsAs explain settings item .accessors (e.tokens ++ block)

variable {explain : List Token → String} {settings item ts : List Token} {e : Enumeration}

theorem EndsAs.unique {a b : Ending} {ts' : List Token} (h : EndsAs explain settings item a ts)
    (h' : EndsAs explain settings item b ts') : b = a := by
  cases h <;> cases h' <;> simp_all

theorem emitted_unread (unread : Item.ofTokens? item = none) :
    emitted explain settings item = .ok (compileError (explain item)) := by
  rw [emitted, ofTokens, unread]
  rfl

theorem emitted_other {kept : List Token} (read : Item.ofTokens? item = some (.other kept)) :
    emitted explain settings item = .ok kept := by
  rw [emitted, ofTokens, read]
  simp only [ofItem_other]
  rfl

theorem emitted_failed {error : GenerateError} (read : Item.ofTokens? item = some (.enumeration e))
    (failure : ofItem (Settings.ofTokens settings) (.enumeration e) =
      failed error (.enumeration e)) :
    emitted explain settings item = .ok (compileError error.message ++ e.tokens) := by
  rw [emitted, ofTokens, read]
  simp only [failure]
  rfl

theorem exists_endsAs (explain : List Token → String) (settings item : List Token) :
    ∃ ending ts, emitted explain settings item = .ok ts ∧
      EndsAs explain settings item ending ts := by
  cases read : Item.ofTokens? item with
  | none => exact ⟨_, _, emitted_unread read, .noItem read (isError_compileError _)⟩
  | some i =>
    cases i with
    | other kept => exact ⟨_, _, emitted_other read, .noEnumeration read⟩
    | enumeration e =>
      cases named : (Settings.ofTokens settings).fontName with
      | none =>
        refine ⟨.noFontName, _, emitted_failed read (ofItem_no_fontName named e), ?_⟩
        exact .noFontName read named (isError_compileError _)
      | some name =>
        by_cases holds : ∀ value, crateValue? settings = some value → HoldsPath value
        · obtain ⟨runtime, resolved⟩ := Settings.runtime_ok_iff.2 holds
          obtain ⟨block, implements, generated⟩ := exists_block e name runtime
          refine ⟨.accessors, e.tokens ++ block, ?_, .accessors read named holds resolved
            (Settings.accessors_of_fontName named) rfl implements⟩
          rw [emitted, ofTokens, read]
          simp only [ofItem_generated named resolved, generated]
          rfl
        · obtain ⟨value, bound⟩ := Classical.not_forall.1 holds
          obtain ⟨bound, refused⟩ := Classical.not_imp.1 bound
          have failure := ofItem_no_runtime named (Settings.runtime_of_no_path bound refused) e
          refine ⟨.noPath, _, emitted_failed read failure, ?_⟩
          exact .noPath read named bound refused (isError_compileError _)

theorem EndsAs.keeps {a : Ending} (h : EndsAs explain settings item a ts) {i : Item}
    (read : Item.ofTokens? item = some i) : i.tokens <:+: ts := by
  cases h with
  | noItem unread =>
    rw [read] at unread
    cases unread
  | noEnumeration read' =>
    rw [read] at read'
    cases read'
    exact List.infix_rfl
  | noFontName read' =>
    rw [read] at read'
    cases read'
    exact (List.suffix_append _ _).isInfix
  | noPath read' =>
    rw [read] at read'
    cases read'
    exact (List.suffix_append _ _).isInfix
  | accessors read' =>
    rw [read] at read'
    cases read'
    exact (List.prefix_append _ _).isInfix

theorem EndsAs.reports_iff {a : Ending} (h : EndsAs explain settings item a ts)
    (read : Item.ofTokens? item = some (.enumeration e)) : Reports ts ↔ ¬Implements e ts := by
  cases h with
  | noItem unread =>
    rw [read] at unread
    cases unread
  | noEnumeration read' =>
    rw [read] at read'
    cases read'
  | noFontName read' _ reports =>
    rw [read] at read'
    cases read'
    exact ⟨fun _ => not_implements read reports, fun _ => ⟨_, _, _, reports, rfl⟩⟩
  | noPath read' _ _ _ reports =>
    rw [read] at read'
    cases read'
    exact ⟨fun _ => not_implements read reports, fun _ => ⟨_, _, _, reports, rfl⟩⟩
  | accessors read' _ _ _ _ _ implements =>
    rw [read] at read'
    cases read'
    obtain ⟨functions, -, rfl⟩ := implements
    exact ⟨fun reports => absurd reports (not_reports read _),
      fun missing => absurd ⟨[], _, rfl⟩ missing⟩

end Expansion
end FontAccessors
