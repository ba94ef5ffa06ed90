import FontAccessors.Accessor.Expansion
import FontAccessors.Proofs.Accessor.Settings
import FontAccessors.Proofs.Grammar.Item
import FontAccessors.Proofs.Grammar.Path
import FontAccessors.Proofs.Module.Pasting
import FontAccessors.Proofs.Token.Notes

namespace FontAccessors
open Grammar Lexeme Token Text

def Accessor.notes (a : Accessor) : List Token :=
  operator "#" ++
    [.group .bracket (Grammar.ident "doc" ++ operator "=" ++ [Accessor.text a.documentation])] ++
    operator "#" ++ [.group .bracket (Grammar.ident "inline")]

def Accessor.inModule (runtime : List Token) : Accessor → List Token
  | .styled s fontName => Module.styleTokens runtime fontName s
  | .sized fontName => Module.sizeTokens runtime fontName

theorem ofName_of_isIdentifier {s : String} (h : isIdentifier s.toList = true) :
    Ident.ofName s = .ok (.plain s) := by
  cases chars : s.toList with
  | nil => simp [chars, isIdentifier] at h
  | cons c cs =>
    have start : isIdentStart c = true := by
      rw [chars, isIdentifier, Bool.and_eq_true] at h
      exact h.1
    have nonempty : s.isEmpty = false := by
      rw [Bool.eq_false_iff]
      intro empty
      rw [String.isEmpty_iff.1 empty] at chars
      cases chars
    have digits : s.toList.all Char.isDigit = false := by
      rw [chars, List.all_cons, not_isDigit_of_isIdentStart start, Bool.false_and]
    simp only [Ident.ofName, nonempty, digits, h, Bool.false_eq_true, if_false, if_true]

theorem idents_ok {s : Style} (hs : s ∈ Style.table) :
    s.functionIdent = .ok (.plain s.functionName) ∧
      s.variantIdent = .ok (.plain s.variantName) := by
  obtain ⟨function, variant⟩ := Module.isIdentifier_names hs
  exact ⟨ofName_of_isIdentifier function, ofName_of_isIdentifier variant⟩

theorem tokens_styled {s : Style} (hs : s ∈ Style.table) (fontName : String)
    (runtime : List Token) :
    (Accessor.styled s fontName).tokens runtime =
      .ok ((Accessor.styled s fontName).notes ++ Module.styleTokens runtime fontName s) := by
  obtain ⟨function, variant⟩ := idents_ok hs
  have tokens : (Accessor.styled s fontName).tokens runtime =
      s.functionIdent.bind fun i => s.variantIdent.bind fun v =>
        .ok ((Accessor.styled s fontName).functionTokens i []
          (Accessor.customFont fontName s.pointSize v runtime) runtime) := rfl
  rw [tokens, function, variant]
  simp [Except.bind, Accessor.functionTokens, Accessor.notes, Module.styleTokens,
    Module.functionTokens, Grammar.ident]

theorem tokens_sized (fontName : String) (runtime : List Token) :
    (Accessor.sized fontName).tokens runtime =
      .ok ((Accessor.sized fontName).notes ++ Module.sizeTokens runtime fontName) := by
  have function : Ident.ofName sizeFunctionName = .ok (.plain sizeFunctionName) :=
    ofName_of_isIdentifier (by decide +kernel)
  have tokens : (Accessor.sized fontName).tokens runtime =
      (Ident.ofName sizeFunctionName).bind fun i =>
        .ok ((Accessor.sized fontName).functionTokens i
          (Grammar.ident "size" ++ operator ":" ++ Grammar.ident "f32")
          (Accessor.fixedFont fontName runtime) runtime) := rfl
  rw [tokens, function]
  simp [Except.bind, Accessor.functionTokens, Accessor.notes, Module.sizeTokens,
    Module.functionTokens, Grammar.ident]

theorem mapM_ok {α β ε : Type} {f : α → Except ε β} {g : α → β} {l : List α}
    (h : ∀ a ∈ l, f a = .ok (g a)) : l.mapM f = .ok (l.map g) := by
  induction l with
  | nil => rfl
  | cons a l ih =>
    rw [List.mapM_cons, h a List.mem_cons_self, ih fun b mem => h b (List.mem_cons_of_mem _ mem)]
    rfl

theorem tokens_ofFont (fontName : String) (runtime : List Token) :
    ∀ a ∈ Accessor.ofFont fontName, a.tokens runtime = .ok (a.notes ++ a.inModule runtime) := by
  intro a mem
  rcases List.mem_append.1 mem with mem | mem
  · obtain ⟨s, hs, rfl⟩ := List.mem_map.1 mem
    exact tokens_styled hs fontName runtime
  · cases List.mem_singleton.1 mem
    exact tokens_sized fontName runtime

theorem accessorTokens_eq (fontName : String) (runtime : List Token) :
    Expansion.accessorTokens (Accessor.ofFont fontName) runtime =
      .ok ((Accessor.ofFont fontName).map fun a => a.notes ++ a.inModule runtime).flatten := by
  rw [Expansion.accessorTokens, mapM_ok (tokens_ofFont fontName runtime)]
  rfl

theorem accessorTokens_ofFont (fontName : String) (runtime : List Token) :
    Expansion.accessorTokens (Accessor.ofFont fontName) runtime =
      .ok (Style.table.flatMap (fun s =>
          (Accessor.styled s fontName).notes ++ Module.styleTokens runtime fontName s) ++
        ((Accessor.sized fontName).notes ++ Module.sizeTokens runtime fontName)) := by
  rw [accessorTokens_eq, Accessor.ofFont, List.map_append, List.map_map, List.flatMap_def]
  simp [Function.comp_def, Accessor.inModule]

theorem bare_notes (a : Accessor) (ts : List Token) : bare (a.notes ++ ts) = bare ts := by
  have parts : a.notes ++ ts = .punct '#' .alone ::
      .group .bracket (Grammar.ident "doc" ++ operator "=" ++ [Accessor.text a.documentation]) ::
      .punct '#' .alone :: .group .bracket (Grammar.ident "inline") :: ts := rfl
  rw [parts, bare_note rfl, bare_note rfl]

theorem bare_accessors (fontName : String) (runtime : List Token) :
    bare (Style.table.flatMap (fun s =>
          (Accessor.styled s fontName).notes ++ Module.styleTokens runtime fontName s) ++
        ((Accessor.sized fontName).notes ++ Module.sizeTokens runtime fontName)) =
      bare (Style.table.flatMap (Module.styleTokens runtime fontName) ++
        Module.sizeTokens runtime fontName) := by
  have noted (a : Accessor) (ts : List Token) : Unbracketed (a.notes ++ ts) :=
    unbracketed_cons (by nofun) _
  have style (s : Style) : Unbracketed (Module.styleTokens runtime fontName s) :=
    unbracketed_cons (by nofun) _
  have size : Unbracketed (Module.sizeTokens runtime fontName) :=
    unbracketed_cons (by nofun) _
  rw [bare_append _ (noted _ _), (bare_flatMap fun s _ => noted _ _).1, bare_notes,
    bare_append (Style.table.flatMap _) size, (bare_flatMap fun s _ => style s).1]
  simp only [bare_notes]

theorem bare_braces (front body : List Token) :
    bare (front ++ [.group .brace body]) = bare front ++ [.group .brace (bare body)] := by
  have single : bare [.group .brace body] = [.group .brace (bare body)] := by
    have brace : ∀ s content rest, Token.group .brace body = .punct '#' s →
        ([] : List Token) ≠ .group .bracket content :: rest := nofun
    rw [bare_cons brace, bareToken, bare_nil]
  rw [bare_append _ (unbracketed_cons (by nofun) _), single]

theorem bare_family {runtime body : List Token} {fontName : String} (i : Ident)
    (h : bare body = bare (Style.table.flatMap (Module.styleTokens runtime fontName) ++
      Module.sizeTokens runtime fontName)) :
    bare ((Enumeration.ofName i).tokens ++ Expansion.implementation (.ofName i) body) =
      bare (Module.familyTokens runtime i fontName) := by
  have front : (Enumeration.ofName i).tokens ++ Expansion.implementation (.ofName i) body =
      (Grammar.ident "pub" ++ Grammar.ident "enum" ++ [.ident i] ++ [.group .brace []] ++
        Grammar.ident "impl" ++ [.ident i]) ++ [.group .brace body] := rfl
  have family : Module.familyTokens runtime i fontName = .punct '#' .alone ::
      .group .bracket (Grammar.ident "doc" ++ operator "=" ++
        [Accessor.text (Module.documentation fontName)]) ::
      ((Grammar.ident "pub" ++ Grammar.ident "enum" ++ [.ident i] ++ [.group .brace []] ++
        Grammar.ident "impl" ++ [.ident i]) ++
      [.group .brace (Style.table.flatMap (Module.styleTokens runtime fontName) ++
        Module.sizeTokens runtime fontName)]) := rfl
  rw [front, family, bare_note rfl, bare_braces, bare_braces, h]

def IsPlainName (name : String) : Prop :=
  isIdentifier name.toList = true ∧ name ∉ keywords

def enumerationText (name : String) : String :=
  "pub enum " ++ name ++ " \x7b\x7d"

theorem IsPlainName.writable {name : String} (h : IsPlainName name) : IsWritable (.plain name) :=
  ⟨h.1, nofun⟩

theorem IsPlainName.isName {name : String} (h : IsPlainName name) :
    Grammar.isName (.plain name) = true := by
  simpa [Grammar.isName, Ident.plain] using h.2

theorem lex_enumerationText {name : String} (h : IsPlainName name) :
    lex (enumerationText name) = some (Enumeration.ofName (.plain name)).tokens := by
  have space (s : List Char) : NameEnds (' ' :: s) :=
    nameEnds_of_separated (separated_cons (by decide) s)
  have word (w : String) (hw : isIdentifier w.toList = true) : IsWritable (.plain w) := ⟨hw, nofun⟩
  have braces : Complete ['{', '}'] [.opening .brace, .closing .brace] := by
    have opening : cut ['{', '}'] = some ([.opening .brace], ['}']) := rfl
    have closing : cut ['}'] = some ([.closing .brace], []) := rfl
    have last : ['}'] ≠ [] := List.cons_ne_nil _ _
    exact (complete_nil.of_cut closing (Nat.lt_succ_self _) fun _ => rfl).of_cut opening
      (Nat.lt_succ_self _) fun eq => absurd eq last
  have text := complete_name (word "pub" (by decide +kernel)) (space _)
    (complete_name (word "enum" (by decide +kernel)) (space _)
      (complete_name h.writable (space _) braces.blank).blank).blank
  have chars : (enumerationText name).toList = (Ident.plain "pub").chars ++ ' ' ::
      ((Ident.plain "enum").chars ++ ' ' :: ((Ident.plain name).chars ++
        [' ', '{', '}'])) := by
    have lead : "pub enum ".toList = "pub".toList ++ ' ' :: ("enum".toList ++ [' ']) := by decide
    have last : " \x7b\x7d".toList = [' ', '{', '}'] := by decide
    delta enumerationText
    simp only [String.toList_append, lead, last, Ident.chars, Ident.plain, Bool.false_eq_true,
      if_false, List.append_assoc, List.cons_append, List.nil_append]
  rw [← chars] at text
  refine lex_of_complete text ?_
  rw [chars]
  intro mark
  cases mark

theorem tokens_generated (i : Ident) (fontName : String) (p : Path) :
    ∃ body, bare body = bare (Style.table.flatMap (Module.styleTokens p.tokens fontName) ++
        Module.sizeTokens p.tokens fontName) ∧
      (Expansion.generated (.ofName i) (Accessor.ofFont fontName) p).tokens? =
        .ok (some ((Enumeration.ofName i).tokens ++
          Expansion.implementation (.ofName i) body)) := by
  refine ⟨_, bare_accessors fontName p.tokens, ?_⟩
  rw [Expansion.tokens?, accessorTokens_ofFont]
  rfl

theorem ofTokens_generated {settings : List Token} {i : Ident} {fontName path : String} {p : Path}
    (named : isName i = true)
    (hsettings : Settings.ofTokens settings =
      { (Settings.ofFontName fontName).withCratePath path with tokens := settings })
    (hpath : Path.ofText? path = some p) :
    Expansion.ofTokens settings (Enumeration.ofName i).tokens =
      .generated (.ofName i) (Accessor.ofFont fontName) p := by
  have font : (Settings.ofTokens settings).fontName = some fontName := by
    rw [hsettings]
    rfl
  have path' : (Settings.ofTokens settings).runtime = .ok p := by
    rw [hsettings]
    simp [Settings.runtime, Settings.withCratePath, hpath]
  rw [Expansion.ofTokens, ofTokens_enumeration named]
  exact Expansion.ofItem_generated font path' _

theorem nameOfText_plain {name : String} (h : IsPlainName name) :
    nameOfText? name = some (.plain name) ∧ Module.Pasteable name := by
  have complete : Complete name.toList (flatAll [.ident (.plain name)]) := by
    have text := complete_name h.writable (nameEnds_of_separated separated_nil) complete_nil
    rw [List.append_nil] at text
    exact text
  have unmarked : name.toList.head? ≠ some '\uFEFF' := by
    intro mark
    obtain ⟨cs, chars⟩ := List.head?_eq_some_iff.1 mark
    have other : isIdentStart '\uFEFF' = false := by decide +kernel
    have start := h.1
    rw [chars, isIdentifier, other] at start
    cases start
  have written : ∀ l ∈ flatAll [.ident (.plain name)], l.isWritten = true := by
    simp [flat, isWritten]
  refine ⟨?_, unmarked, complete.2⟩
  rw [nameOfText?, lex_of_complete complete unmarked]
  exact (whole_name_iff written).2 ⟨rfl, h.isName⟩

theorem render_family {name path : String} {p : Path} (hname : IsPlainName name)
    (hpath : Path.ofText? path = some p) (lexed : lex path = some p.tokens)
    (pasteable : Module.Pasteable path) (fontName : String) :
    ∃ text tokens, Module.render [⟨name, some fontName⟩] path = .ok text ∧
      lex text = some tokens ∧
      Alike tokens (Module.familyTokens p.tokens (.plain name) fontName) := by
  obtain ⟨named, pasteable'⟩ := nameOfText_plain hname
  have valid : ∀ c ∈ [(⟨name, fontName⟩ : Family.Checked)],
      (nameOfText? c.typeName).isSome = true := by
    simp [named]
  have rendered := Module.render_ok_iff.2
    ⟨by rw [hpath]; rfl, [⟨name, fontName⟩], rfl, valid, by simp, rfl⟩
  have wellFormed := Module.wellFormed_of_pasteable lexed valid pasteable
    (by simpa using pasteable')
  obtain ⟨tokens, expected, lexed', asked, alike⟩ := wellFormed
  have expected_eq : expected = Module.familyTokens p.tokens (.plain name) fontName := by
    simpa [Module.tokens?, lexed, Family.Checked.request, Module.requestTokens?, named] using
      asked.symm
  rw [expected_eq] at alike
  exact ⟨_, tokens, rendered, lexed', alike⟩

/-- An attribute on an enumeration and a module of one family generate the same code, whatever the
font is called: their tokens differ in notes alone. -/
theorem expansion_alike_module {name path : String} (hname : IsPlainName name)
    (hpath : IsPlainPath path) (fontName : String) :
    ∃ settings item generated text written,
      lex (Settings.argumentsText (Quoted.literal fontName) (Quoted.literal path) false false) =
        some settings ∧
      lex (enumerationText name) = some item ∧
      (Expansion.ofTokens settings item).tokens? = .ok (some generated) ∧
      Module.render [⟨name, some fontName⟩] path = .ok text ∧
      lex text = some written ∧ Alike (bare generated) (bare written) := by
  obtain ⟨p, isPath, lexed, unmarked, closed⟩ := exists_of_plainPath hpath
  have holds (s : String) : LiteralForm.quoted.Holds s := trivial
  obtain ⟨settings, hsettings, decoded⟩ :=
    Settings.ofTokens_argumentsText (holds fontName) (holds path) trivial trivial false false
  obtain ⟨body, bare_body, generated⟩ := tokens_generated (.plain name) fontName p
  obtain ⟨text, written, rendered, lexed', alike⟩ :=
    render_family hname isPath lexed ⟨unmarked, closed⟩ fontName
  rw [← ofTokens_generated hname.isName decoded isPath] at generated
  refine ⟨settings, _, _, text, written, hsettings, lex_enumerationText hname, generated, rendered,
    lexed', ?_⟩
  rw [bare_family _ bare_body]
  exact (alike_bare alike).symm

theorem expansion_alike_module_zapfino :
    ∃ settings item generated text written,
      lex (Settings.argumentsText (Quoted.literal "\"Zap\\fino\"") (Quoted.literal "crate::fonts")
        false false) = some settings ∧
      lex (enumerationText "Zapfino") = some item ∧
      (Expansion.ofTokens settings item).tokens? = .ok (some generated) ∧
      Module.render [⟨"Zapfino", some "\"Zap\\fino\""⟩] "crate::fonts" = .ok text ∧
      lex text = some written ∧ Alike (bare generated) (bare written) := by
  have hname : IsPlainName "Zapfino" := ⟨by decide +kernel, by decide⟩
  have hpath : IsPlainPath "crate::fonts" := by
    refine ⟨false, .plain "crate", [.plain "fonts"], by decide, ?_⟩
    simp only [List.forall_mem_cons]
    exact ⟨⟨⟨by decide +kernel, nofun⟩, .inr ⟨rfl, by decide⟩⟩,
      ⟨⟨by decide +kernel, nofun⟩, .inl (by decide)⟩, nofun⟩
  exact expansion_alike_module hname hpath _

end FontAccessors
