import FontAccessors.Proofs.Accessor.Expansion
import FontAccessors.Proofs.Decimal.Whole
import FontAccessors.Proofs.Token.Printed

namespace FontAccessors
open Grammar Lexeme Token Text

theorem isWritable_of_ofName {s : String} {i : Ident} (h : Ident.ofName s = .ok i) :
    IsWritable i := by
  rw [Ident.ofName] at h
  split at h
  · cases h
  split at h
  · cases h
  split at h
  · rename_i isName
    cases h
    exact ⟨isName, (absurd · Bool.false_ne_true)⟩
  · cases h

namespace Token

theorem allPrintable_ident {w : String} (h : isIdentifier w.toList = true) :
    AllPrintable (Grammar.ident w) :=
  ⟨⟨h, nofun⟩, trivial⟩

theorem allPrintable_operator {m : String}
    (h : ∀ c ∈ m.toList, c ∈ marks ∧ c ≠ '/' ∧ c ≠ '\'') : AllPrintable (operator m) := by
  rw [operator]
  revert h
  generalize m.toList = cs
  intro h
  induction cs with
  | nil => trivial
  | cons c cs ih =>
    have rest := ih fun d mem => h d (List.mem_cons_of_mem _ mem)
    cases cs with
    | nil => exact ⟨h c List.mem_cons_self, trivial⟩
    | cons d cs => exact ⟨h c List.mem_cons_self, rest⟩

theorem allPrintable_colons : AllPrintable (operator "::") :=
  allPrintable_operator (by decide)

@[simp] theorem allLiterals_ident (w : String) : allLiterals (Grammar.ident w) = [] := rfl

@[simp] theorem allLiterals_operator (m : String) : allLiterals (operator m) = [] := by
  rw [operator]
  induction m.toList with
  | nil => rfl
  | cons c cs ih =>
    cases cs with
    | nil => rfl
    | cons d cs => exact ih

end Token

section

variable {isRooted : Bool} {i : Ident} {is : List Ident}

theorem allPrintable_ofNames (writable : ∀ j ∈ i :: is, IsWritable j) :
    AllPrintable (Path.ofNames isRooted i is).tokens := by
  have more : AllPrintable (moreTokens is) := by
    induction is with
    | nil => trivial
    | cons j is ih =>
      have rest : AllPrintable (moreTokens is) := ih fun k mem => writable k (by grind)
      have split : moreTokens (j :: is) = operator "::" ++ [.ident j] ++ moreTokens is := rfl
      rw [split, allPrintable_append, allPrintable_append]
      exact ⟨⟨allPrintable_colons, writable j (by simp), trivial⟩, rest⟩
  have root : AllPrintable (if isRooted then operator "::" else []) := by
    cases isRooted
    · trivial
    · exact allPrintable_colons
  rw [tokens_ofNames, allPrintable_append]
  exact ⟨root, writable i List.mem_cons_self, more⟩

theorem allLiterals_ofNames : allLiterals (Path.ofNames isRooted i is).tokens = [] := by
  have more : allLiterals (moreTokens is) = [] := by
    induction is with
    | nil => rfl
    | cons j is ih => simpa [moreTokens, allLiterals, literals] using ih
  rw [tokens_ofNames]
  cases isRooted <;> simp [allLiterals, literals, more]

end

namespace Accessor

def IsNamed : Accessor → Prop
  | styled s _ => (∃ i, s.functionIdent = .ok i) ∧ ∃ v, s.variantIdent = .ok v
  | sized _ => True

theorem sizeText_eq (n : UInt16) : sizeText n = toString n.toNat ++ ".0" := by
  have noPoint : '.' ∉ (toString n.toNat).toList := fun mem => by
    cases Decimal.isDigit_toString _ _ mem
  rw [sizeText, floatText, Decimal.text_toFloat32]
  exact if_neg (by simpa using noPoint)

def shownLiterals (a : Accessor) : List String :=
  Quoted.literal a.documentation :: Quoted.literal a.fontName ::
    (a.pointSize?.map sizeText).toList

section

variable {runtime : List Token} {i v : Ident}

theorem allPrintable_functionTokens (a : Accessor) (writable : IsWritable i)
    {parameters body : List Token} (printable : AllPrintable runtime)
    (hp : AllPrintable parameters) (hb : AllPrintable body) :
    AllPrintable (a.functionTokens i parameters body runtime) := by
  have hash : AllPrintable (operator "#") := allPrintable_operator (by decide)
  have sign : AllPrintable (operator "=") := allPrintable_operator (by decide)
  have arrow : AllPrintable (operator "->") := allPrintable_operator (by decide)
  have doc : AllPrintable (Grammar.ident "doc") := allPrintable_ident (by decide +kernel)
  have inline : AllPrintable (Grammar.ident "inline") := allPrintable_ident (by decide +kernel)
  have pub : AllPrintable (Grammar.ident "pub") := allPrintable_ident (by decide +kernel)
  have fn : AllPrintable (Grammar.ident "fn") := allPrintable_ident (by decide +kernel)
  have font : AllPrintable (Grammar.ident "Font") := allPrintable_ident (by decide +kernel)
  simp [functionTokens, AllPrintable, Printable, hash, sign, arrow, doc, inline, pub, fn, font,
    writable, hp, hb, printable, allPrintable_colons, text, isLiteral_quoted]

theorem allPrintable_customFont (fontName : String) (pointSize : UInt16) (writable : IsWritable v)
    (printable : AllPrintable runtime) :
    AllPrintable (customFont fontName pointSize v runtime) := by
  have comma : AllPrintable (operator ",") := allPrintable_operator (by decide)
  have font : AllPrintable (Grammar.ident "Font") := allPrintable_ident (by decide +kernel)
  have custom : AllPrintable (Grammar.ident "custom") := allPrintable_ident (by decide +kernel)
  have style : AllPrintable (Grammar.ident "TextStyle") := allPrintable_ident (by decide +kernel)
  have size : IsLiteral (sizeText pointSize) := by
    rw [sizeText_eq]
    exact isLiteral_pointed _
  simp [customFont, AllPrintable, Printable, comma, font, custom, style, size, writable, printable,
    allPrintable_colons, text, isLiteral_quoted]

theorem allPrintable_fixedFont (fontName : String) (printable : AllPrintable runtime) :
    AllPrintable (fixedFont fontName runtime) := by
  have comma : AllPrintable (operator ",") := allPrintable_operator (by decide)
  have font : AllPrintable (Grammar.ident "Font") := allPrintable_ident (by decide +kernel)
  have fixed : AllPrintable (Grammar.ident "fixed") := allPrintable_ident (by decide +kernel)
  have size : AllPrintable (Grammar.ident "size") := allPrintable_ident (by decide +kernel)
  simp [fixedFont, AllPrintable, Printable, comma, font, fixed, size, printable,
    allPrintable_colons, text, isLiteral_quoted]

theorem tokens_styled_bind (s : Style) (n : String) (runtime : List Token) :
    (styled s n).tokens runtime = s.functionIdent.bind fun i => s.variantIdent.bind fun v =>
      .ok ((styled s n).functionTokens i [] (customFont n s.pointSize v runtime) runtime) := rfl

theorem tokens_sized_bind (n : String) (runtime : List Token) :
    (sized n).tokens runtime = (Ident.ofName sizeFunctionName).bind fun i =>
      .ok ((sized n).functionTokens i
        (Grammar.ident "size" ++ operator ":" ++ Grammar.ident "f32")
        (fixedFont n runtime) runtime) := rfl

theorem tokens_ok {a : Accessor} (named : a.IsNamed) (printable : AllPrintable runtime)
    (noLiteral : allLiterals runtime = []) :
    ∃ ts, a.tokens runtime = .ok ts ∧ AllPrintable ts ∧ allLiterals ts = a.shownLiterals := by
  cases a with
  | styled s n =>
    obtain ⟨⟨i, function⟩, v, variant⟩ := named
    refine ⟨(styled s n).functionTokens i [] (customFont n s.pointSize v runtime) runtime,
      ?_, ?_, ?_⟩
    · rw [tokens_styled_bind, function, variant]
      rfl
    · exact allPrintable_functionTokens _ (isWritable_of_ofName function) printable trivial
        (allPrintable_customFont n s.pointSize (isWritable_of_ofName variant) printable)
    · simp [functionTokens, customFont, allLiterals, literals, noLiteral, text, shownLiterals,
        fontName, pointSize?]
  | sized n =>
    have function : Ident.ofName sizeFunctionName = .ok (.plain sizeFunctionName) :=
      ofName_of_isIdentifier (by decide +kernel)
    have parameters :
        AllPrintable (Grammar.ident "size" ++ operator ":" ++ Grammar.ident "f32") := by
      simp [allPrintable_ident (w := "size") (by decide +kernel),
        allPrintable_ident (w := "f32") (by decide +kernel),
        allPrintable_operator (m := ":") (by decide)]
    refine ⟨(sized n).functionTokens (.plain sizeFunctionName)
      (Grammar.ident "size" ++ operator ":" ++ Grammar.ident "f32") (fixedFont n runtime) runtime,
      ?_, ?_, ?_⟩
    · rw [tokens_sized_bind, function]
      rfl
    · exact allPrintable_functionTokens _ (isWritable_of_ofName function) printable parameters
        (allPrintable_fixedFont n printable)
    · simp [functionTokens, fixedFont, allLiterals, literals, noLiteral, text, shownLiterals,
        fontName, pointSize?]

end

def withFont (fontName : String) : Accessor → Accessor
  | styled s _ => styled s fontName
  | sized _ => sized fontName

/-- The text of an accessor's tokens is read as these tokens. -/
def PrintsAs (a : Accessor) (runtime read : List Token) : Prop :=
  ∃ ts, a.tokens runtime = .ok ts ∧ Token.lex (Token.render ts) = some read ∧ Token.Alike read ts

theorem value_quoted (s : String) :
    (Quoted.value? (Quoted.literal s).toList).map String.ofList = some s := by
  rw [Quoted.value?_literal, Option.map_some, String.ofList_toList]

theorem value_sizeText (n : UInt16) : Quoted.value? (sizeText n).toList = none := by
  obtain ⟨d, ds, chars, all⟩ := chars_pointed n.toNat
  have digit := all d List.mem_cons_self
  rw [sizeText_eq, chars, Quoted.value?.eq_def]
  split
  · rename_i eq
    cases eq
    cases digit
  · rename_i eq
    cases eq
    cases digit
  · rfl

theorem strings_of_literals {a : Accessor} {ts : List Token}
    (h : allLiterals ts = a.shownLiterals) : allStrings ts = [a.documentation, a.fontName] := by
  rw [allStrings, h, shownLiterals]
  cases a <;> simp [value_quoted, pointSize?, value_sizeText]

theorem blanked_text (s : String) : blanked (text s) = .literal "" := by
  simp [text, blanked, Quoted.value?_literal]

theorem blanked_withFont {a : Accessor} {runtime ts ts' : List Token} {fontName : String}
    (h : a.tokens runtime = .ok ts) (h' : (a.withFont fontName).tokens runtime = .ok ts') :
    allBlanked ts = allBlanked ts' := by
  cases a with
  | styled s n =>
    rw [tokens_styled_bind] at h
    rw [withFont, tokens_styled_bind] at h'
    cases function : s.functionIdent with
    | error e =>
      rw [function] at h
      cases h
    | ok i =>
      cases variant : s.variantIdent with
      | error e =>
        rw [function, variant] at h
        cases h
      | ok v =>
        rw [function, variant] at h h'
        cases h
        cases h'
        simp [functionTokens, customFont, allBlanked, blanked, blanked_text]
  | sized n =>
    rw [tokens_sized_bind] at h
    rw [withFont, tokens_sized_bind] at h'
    cases function : Ident.ofName sizeFunctionName with
    | error e =>
      rw [function] at h
      cases h
    | ok i =>
      rw [function] at h h'
      cases h
      cases h'
      simp [functionTokens, fixedFont, allBlanked, blanked, blanked_text]

theorem printsAs {a : Accessor} {runtime : List Token} (named : a.IsNamed)
    (printable : AllPrintable runtime) (noLiteral : allLiterals runtime = []) :
    ∃ read, a.PrintsAs runtime read ∧ allLiterals read = a.shownLiterals ∧
      allStrings read = [a.documentation, a.fontName] := by
  obtain ⟨ts, ok, printable', shown⟩ := tokens_ok named printable noLiteral
  obtain ⟨read, lexed, alike⟩ := lex_render printable'
  have shown' := (allLiterals_of_alike alike).trans shown
  exact ⟨read, ⟨ts, ok, lexed, alike⟩, shown', strings_of_literals shown'⟩

theorem PrintsAs.blanked {a : Accessor} {runtime read read' : List Token} {fontName : String}
    (h : a.PrintsAs runtime read) (h' : (a.withFont fontName).PrintsAs runtime read') :
    Token.Alike (allBlanked read) (allBlanked read') := by
  obtain ⟨ts, ok, -, alike⟩ := h
  obtain ⟨ts', ok', -, alike'⟩ := h'
  have first := alike_allBlanked alike
  have second := alike_allBlanked alike'
  rw [blanked_withFont ok ok'] at first
  exact first.trans second.symm

end Accessor

open Accessor in
/-- The text of an accessor reads as its tokens, for every font name. Its strings are the
documentation and the name, its only other literal is the size, and nothing but the two strings
changes with the name. -/
theorem printed_accessors {path : String} (plain : IsPlainPath path) :
    ∃ p, Path.ofText? path = some p ∧
      (∀ s : Style, (∃ i, s.functionIdent = .ok i) → (∃ v, s.variantIdent = .ok v) →
        (∀ fontName, ∃ read, (styled s fontName).PrintsAs p.tokens read ∧
          allLiterals read = [Quoted.literal ("`" ++ fontName ++ "` at " ++
              toString s.pointSize.toNat ++ "pt, scaling with the `" ++ s.token ++ "` text style."),
            Quoted.literal fontName, toString s.pointSize.toNat ++ ".0"] ∧
          allStrings read = ["`" ++ fontName ++ "` at " ++ toString s.pointSize.toNat ++
            "pt, scaling with the `" ++ s.token ++ "` text style.", fontName]) ∧
        ∀ fontName fontName' read read', (styled s fontName).PrintsAs p.tokens read →
          (styled s fontName').PrintsAs p.tokens read' →
          Token.Alike (allBlanked read) (allBlanked read')) ∧
      (∀ fontName, ∃ read, (sized fontName).PrintsAs p.tokens read ∧
        allLiterals read = [Quoted.literal ("`" ++ fontName ++ "` at a fixed point size."),
          Quoted.literal fontName] ∧
        allStrings read = ["`" ++ fontName ++ "` at a fixed point size.", fontName]) ∧
      ∀ fontName fontName' read read', (sized fontName).PrintsAs p.tokens read →
        (sized fontName').PrintsAs p.tokens read' →
        Token.Alike (allBlanked read) (allBlanked read') := by
  obtain ⟨isRooted, i, is, chars, named⟩ := plain
  have printable : AllPrintable (Path.ofNames isRooted i is).tokens :=
    allPrintable_ofNames fun j mem => (named j mem).1
  have noLiteral : allLiterals (Path.ofNames isRooted i is).tokens = [] := allLiterals_ofNames
  refine ⟨_, ofText_pathText chars named, fun s function variant => ⟨fun fontName => ?_, ?_⟩,
    fun fontName => ?_, ?_⟩
  · rw [← sizeText_eq]
    exact printsAs (a := styled s fontName) ⟨function, variant⟩ printable noLiteral
  · intro fontName fontName' read read' h h'
    have sibling : ((styled s fontName).withFont fontName').PrintsAs _ read' := h'
    exact h.blanked sibling
  · exact printsAs (a := sized fontName) trivial printable noLiteral
  · intro fontName fontName' read read' h h'
    have sibling : ((sized fontName).withFont fontName').PrintsAs _ read' := h'
    exact h.blanked sibling

open Accessor in
theorem printed_accessors_title : ∃ p read, Path.ofText? "crate::fonts" = some p ∧
    (styled ⟨"title9", 65535, "title"⟩ "\"); //\n").PrintsAs p.tokens read ∧
    allStrings read =
      ["`\"); //\n` at 65535pt, scaling with the `title` text style.", "\"); //\n"] := by
  have plain : IsPlainPath "crate::fonts" := by
    refine ⟨false, .plain "crate", [.plain "fonts"], by decide, ?_⟩
    simp only [List.forall_mem_cons]
    exact ⟨⟨⟨by decide +kernel, nofun⟩, .inr ⟨rfl, by decide⟩⟩,
      ⟨⟨by decide +kernel, nofun⟩, .inl (by decide)⟩, nofun⟩
  obtain ⟨p, isPath, styles, -⟩ := printed_accessors plain
  obtain ⟨reads, -⟩ := styles ⟨"title9", 65535, "title"⟩
    ⟨_, ofName_of_isIdentifier (by decide +kernel)⟩
    ⟨_, ofName_of_isIdentifier (by decide +kernel)⟩
  obtain ⟨read, prints, -, strings⟩ := reads "\"); //\n"
  exact ⟨p, read, isPath, prints, strings.trans (by decide +kernel)⟩

end FontAccessors
