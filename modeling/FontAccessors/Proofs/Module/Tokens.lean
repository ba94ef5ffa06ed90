import FontAccessors.Proofs.Module.Checks
import FontAccessors.Proofs.Token.Reading

namespace FontAccessors

namespace Module
open Grammar (ident operator)
open Accessor (customFont fixedFont)

def functionTokens (name : String) (parameters body runtime : List Token) : List Token :=
  ident "pub" ++ ident "fn" ++ ident name ++ [.group .parenthesis parameters] ++ operator "->" ++
    runtime ++ operator "::" ++ ident "Font" ++ [.group .brace body]

def styleTokens (runtime : List Token) (fontName : String) (s : Style) : List Token :=
  functionTokens s.functionName []
    (customFont fontName s.pointSize (.plain s.variantName) runtime) runtime

def sizeTokens (runtime : List Token) (fontName : String) : List Token :=
  functionTokens sizeFunctionName (ident "size" ++ operator ":" ++ ident "f32")
    (fixedFont fontName runtime) runtime

def documentation (fontName : String) : String :=
  " Text styles for the " ++ Text.Quoted.literal fontName ++ " font family."

/-- A family: the documented enumeration, and its accessors in the order of the style table, with
the one that takes a size at the end. -/
def familyTokens (runtime : List Token) (name : Ident) (fontName : String) : List Token :=
  operator "#" ++
    [.group .bracket (ident "doc" ++ operator "=" ++ [Accessor.text (documentation fontName)])] ++
    ident "pub" ++ ident "enum" ++ [.ident name] ++ [.group .brace []] ++ ident "impl" ++
    [.ident name] ++
    [.group .brace
      (Style.table.flatMap (styleTokens runtime fontName) ++ sizeTokens runtime fontName)]

def requestTokens? (runtime : List Token) (f : Family) : Option (List Token) :=
  (Grammar.nameOfText? f.typeName).bind fun name => f.fontName.map (familyTokens runtime name)

def tokens? (families : List Family) (path : String) : Option (List Token) :=
  (Token.lex path).bind fun runtime =>
    (families.mapM (requestTokens? runtime)).map List.flatten

/-- A text holds what was asked for and nothing else. -/
def WellFormed (families : List Family) (path text : String) : Prop :=
  ∃ tokens expected, Token.lex text = some tokens ∧ tokens? families path = some expected ∧
    Token.Alike tokens expected

open Lexeme Token Text

theorem isIdentifier_names {s : Style} (hs : s ∈ Style.table) :
    isIdentifier s.functionName.toList = true ∧ isIdentifier s.variantName.toList = true := by
  have all : ∀ s ∈ Style.table, isIdentifier s.functionName.toList = true ∧
      isIdentifier s.variantName.toList = true := by decide +kernel
  exact all s hs

theorem reads_functionName {s : Style} (hs : s ∈ Style.table) :
    Reads ("    pub fn " ++ s.functionName ++ "() ->").toList
      (plainly (ident "pub" ++ ident "fn" ++ ident s.functionName ++ [.group .parenthesis []] ++
        operator "->")) := by
  have front : Reads "    pub fn".toList (plainly (ident "pub" ++ ident "fn")) :=
    reads_of_check (by decide +kernel)
  have name := (reads_plain (isIdentifier_names hs).1).blank
  have back : Reads "() ->".toList (plainly ([.group .parenthesis []] ++ operator "->")) :=
    reads_of_check (by decide +kernel)
  have chars : ("    pub fn " ++ s.functionName ++ "() ->").toList =
      "    pub fn".toList ++ ' ' :: s.functionName.toList ++ "() ->".toList := by
    have lead : "    pub fn ".toList = "    pub fn".toList ++ [' '] := by decide
    simp only [String.toList_append, lead, List.append_assoc, List.cons_append, List.nil_append]
  have tokens : plainly (ident "pub" ++ ident "fn" ++ ident s.functionName ++
      [.group .parenthesis []] ++ operator "->") = plainly (ident "pub" ++ ident "fn") ++
        [.token (.ident (.plain s.functionName))] ++
        plainly ([.group .parenthesis []] ++ operator "->") := by
    simp only [plainly_append, Grammar.ident, plainly_ident, plainly_nil, List.append_assoc]
  rw [chars, tokens]
  exact (front.append name (separated_cons (by decide) _)).append back
    (separated_of_head (by decide))

theorem reads_pointSize {s : Style} (hs : s ∈ Style.table) :
    Reads (", " ++ toString s.pointSize.toNat ++ ".0,").toList
      (plainly (operator "," ++ [.literal (Accessor.sizeText s.pointSize)] ++ operator ",")) := by
  have all : ∀ s ∈ Style.table, (scan 0 (", " ++ toString s.pointSize.toNat ++ ".0,").toList).any
      (allAgree · (plainly
        (operator "," ++ [.literal (Accessor.sizeText s.pointSize)] ++ operator ","))) = true := by
    decide +kernel
  exact reads_of_check (all s hs)

theorem reads_variantName {s : Style} (hs : s ∈ Style.table) :
    Reads ("::TextStyle::" ++ s.variantName ++ ")\n    \x7d\n\n").toList
      (plainly (operator "::" ++ ident "TextStyle" ++ operator "::" ++ ident s.variantName) ++
        [.closing .parenthesis, .closing .brace]) := by
  have front : Reads "::TextStyle".toList (plainly (operator "::" ++ ident "TextStyle")) :=
    reads_of_check (by decide +kernel)
  have back : Reads ")\n    \x7d\n\n".toList [.closing .parenthesis, .closing .brace] :=
    reads_of_check (by decide +kernel)
  have ends : NameEnds ")\n    \x7d\n\n".toList := by
    intro c hc
    cases hc
    decide
  have name := (back.name (i := .plain s.variantName) ⟨(isIdentifier_names hs).2, nofun⟩ ends
    (by decide)).colons
  have chars : ("::TextStyle::" ++ s.variantName ++ ")\n    \x7d\n\n").toList =
      "::TextStyle".toList ++
        ':' :: ':' :: ((Ident.plain s.variantName).chars ++ ")\n    \x7d\n\n".toList) := by
    have lead : "::TextStyle::".toList = "::TextStyle".toList ++ [':', ':'] := by decide
    simp only [String.toList_append, lead, List.append_assoc, List.cons_append, List.nil_append,
      Ident.chars, Ident.plain, Bool.false_eq_true, if_false]
  have tokens : plainly (operator "::" ++ ident "TextStyle" ++ operator "::" ++
      ident s.variantName) ++ [.closing .parenthesis, .closing .brace] =
      plainly (operator "::" ++ ident "TextStyle") ++ (.token (.punct ':' .alone) ::
        .token (.punct ':' .alone) :: .token (.ident (.plain s.variantName)) ::
        [.closing .parenthesis, .closing .brace]) := by
    rw [plainly_append, plainly_append, List.append_assoc, List.append_assoc]
    rfl
  rw [chars, tokens]
  exact front.append name (separated_cons (by decide) _)

theorem reads_fontBrace :
    Reads "::Font \x7b\n       ".toList
      (plainly (operator "::" ++ ident "Font") ++ [.opening .brace]) :=
  reads_of_check (by decide +kernel)

theorem reads_custom :
    Reads "::Font::custom".toList
      (plainly (operator "::" ++ ident "Font" ++ operator "::" ++ ident "custom")) :=
  reads_of_check (by decide +kernel)

theorem styleFunction_toList (path literal : String) (s : Style) :
    (styleFunction path literal s).toList =
      ("    pub fn " ++ s.functionName ++ "() ->").toList ++ (' ' :: path.toList) ++
        "::Font \x7b\n       ".toList ++ (' ' :: path.toList) ++ "::Font::custom".toList ++
        ('(' :: literal.toList) ++ (", " ++ toString s.pointSize.toNat ++ ".0,").toList ++
        (' ' :: path.toList) ++
        ("::TextStyle::" ++ s.variantName ++ ")\n    \x7d\n\n").toList := by
  have arrow : "() -> ".toList = "() ->".toList ++ [' '] := by decide
  have brace : "::Font \x7b\n        ".toList = "::Font \x7b\n       ".toList ++ [' '] := by decide
  have call : "::Font::custom(".toList = "::Font::custom".toList ++ ['('] := by decide
  have comma : ".0, ".toList = ".0,".toList ++ [' '] := by decide
  delta styleFunction
  simp only [String.toList_append, arrow, brace, call, comma, List.append_assoc, List.cons_append,
    List.nil_append]

theorem plainly_styleTokens (runtime : List Token) (fontName : String) (s : Style) :
    plainly (styleTokens runtime fontName s) =
      plainly (ident "pub" ++ ident "fn" ++ ident s.functionName ++ [Token.group .parenthesis []] ++
          operator "->") ++ plainly runtime ++
        (plainly (operator "::" ++ ident "Font") ++ [Lexeme.opening .brace]) ++ plainly runtime ++
        plainly (operator "::" ++ ident "Font" ++ operator "::" ++ ident "custom") ++
        [Lexeme.opening .parenthesis, .token (.literal (Quoted.literal fontName))] ++
        plainly (operator "," ++ [Token.literal (Accessor.sizeText s.pointSize)] ++ operator ",") ++
        plainly runtime ++
        (plainly (operator "::" ++ ident "TextStyle" ++ operator "::" ++ ident s.variantName) ++
          [Lexeme.closing .parenthesis, .closing .brace]) := by
  simp [styleTokens, functionTokens, customFont, Accessor.text, Grammar.ident]

theorem reads_styleFunction {path : String} {runtime : List Token} (fontName : String)
    (hpath : Reads path.toList (plainly runtime)) {s : Style} (hs : s ∈ Style.table) :
    Reads (styleFunction path (Quoted.literal fontName) s).toList
      (plainly (styleTokens runtime fontName s)) := by
  have spaced : Reads (' ' :: path.toList) (plainly runtime) := hpath.blank
  have sep : Separated (' ' :: path.toList) := separated_cons (by decide) _
  rw [styleFunction_toList, plainly_styleTokens]
  refine ((((((((reads_functionName hs).append spaced sep).append reads_fontBrace ?_).append
    spaced sep).append reads_custom ?_).append (reads_argument fontName) ?_).append
    (reads_pointSize hs) ?_).append spaced sep).append (reads_variantName hs) ?_
  · exact separated_of_head (by decide)
  · exact separated_of_head (by decide)
  · exact separated_cons (by decide) _
  · exact separated_of_head (by simp; decide)
  · exact separated_of_head (by simp; decide)

theorem sizeFunction_toList (path literal : String) :
    (sizeFunction path literal ++ "\x7d\n").toList =
      "    pub fn of_size(size: f32) ->".toList ++ (' ' :: path.toList) ++
        "::Font \x7b\n       ".toList ++ (' ' :: path.toList) ++ "::Font::fixed".toList ++
        ('(' :: literal.toList) ++ ", size)\n    \x7d\n\x7d\n".toList := by
  have arrow : "    pub fn ".toList ++ (sizeFunctionName.toList ++ "(size: f32) -> ".toList) =
      "    pub fn of_size(size: f32) ->".toList ++ [' '] := by decide
  have brace : "::Font \x7b\n        ".toList = "::Font \x7b\n       ".toList ++ [' '] := by decide
  have call : "::Font::fixed(".toList = "::Font::fixed".toList ++ ['('] := by decide
  have last : ", size)\n    \x7d\n".toList ++ "\x7d\n".toList =
      ", size)\n    \x7d\n\x7d\n".toList := by decide
  delta sizeFunction
  simp only [String.toList_append, List.append_assoc]
  rw [← last, ← List.append_assoc sizeFunctionName.toList, ← List.append_assoc "    pub fn ".toList,
    arrow, brace, call]
  simp only [List.append_assoc, List.cons_append, List.nil_append]

theorem plainly_sizeTokens (runtime : List Token) (fontName : String) :
    plainly (sizeTokens runtime fontName) ++ [Lexeme.closing .brace] =
      plainly (ident "pub" ++ ident "fn" ++ ident sizeFunctionName ++
          [Token.group .parenthesis (ident "size" ++ operator ":" ++ ident "f32")] ++
          operator "->") ++ plainly runtime ++
        (plainly (operator "::" ++ ident "Font") ++ [Lexeme.opening .brace]) ++
        plainly runtime ++
        plainly (operator "::" ++ ident "Font" ++ operator "::" ++ ident "fixed") ++
        [Lexeme.opening .parenthesis, .token (.literal (Quoted.literal fontName))] ++
        (plainly (operator "," ++ ident "size") ++
          [Lexeme.closing .parenthesis, .closing .brace, .closing .brace]) := by
  simp [sizeTokens, functionTokens, fixedFont, Accessor.text, Grammar.ident]

theorem reads_sizeFunction {path : String} {runtime : List Token} (fontName : String)
    (hpath : Reads path.toList (plainly runtime)) :
    Reads (sizeFunction path (Quoted.literal fontName) ++ "\x7d\n").toList
      (plainly (sizeTokens runtime fontName) ++ [.closing .brace]) := by
  have spaced : Reads (' ' :: path.toList) (plainly runtime) := hpath.blank
  have sep : Separated (' ' :: path.toList) := separated_cons (by decide) _
  have start : Reads "    pub fn of_size(size: f32) ->".toList
      (plainly (ident "pub" ++ ident "fn" ++ ident sizeFunctionName ++
        [.group .parenthesis (ident "size" ++ operator ":" ++ ident "f32")] ++ operator "->")) :=
    reads_of_check (by decide +kernel)
  have fixed : Reads "::Font::fixed".toList
      (plainly (operator "::" ++ ident "Font" ++ operator "::" ++ ident "fixed")) :=
    reads_of_check (by decide +kernel)
  have last : Reads ", size)\n    \x7d\n\x7d\n".toList
      (plainly (operator "," ++ ident "size") ++
        [.closing .parenthesis, .closing .brace, .closing .brace]) :=
    reads_of_check (by decide +kernel)
  rw [sizeFunction_toList, plainly_sizeTokens]
  refine (((((start.append spaced sep).append reads_fontBrace ?_).append spaced sep).append
    fixed ?_).append (reads_argument fontName) ?_).append last ?_
  · exact separated_of_head (by decide)
  · exact separated_of_head (by decide)
  · exact separated_cons (by decide) _
  · exact separated_of_head (by decide)

theorem join_cons_toList (s : String) (l : List String) :
    (String.join (s :: l)).toList = s.toList ++ (String.join l).toList := by
  simp [String.toList_join]

theorem reads_join {α : Type} {l : List α} {text : α → String} {tokens : α → List Token}
    (h : ∀ a ∈ l, Reads (text a).toList (plainly (tokens a)))
    (sep : ∀ a ∈ l, Separated (text a).toList) :
    Reads (String.join (l.map text)).toList (plainly (l.flatMap tokens)) ∧
      Separated (String.join (l.map text)).toList := by
  induction l with
  | nil => exact ⟨Reads.nil, separated_nil⟩
  | cons a l ih =>
    obtain ⟨reads, sep'⟩ := ih (fun b mem => h b (List.mem_cons_of_mem _ mem))
      fun b mem => sep b (List.mem_cons_of_mem _ mem)
    rw [List.map_cons, join_cons_toList, List.flatMap_cons, plainly_append]
    exact ⟨(h a List.mem_cons_self).append reads sep', (sep a List.mem_cons_self).append sep'⟩

theorem separated_styleFunction (path literal : String) (s : Style) :
    Separated (styleFunction path literal s).toList := by
  rw [styleFunction_toList]
  exact separated_of_head (by simp; decide)

theorem documentation_toList (fontName : String) :
    (documentation fontName).toList = " Text styles for the ".toList ++
      (Quoted.literalChars fontName.toList ++ " font family.".toList) := by
  delta documentation
  simp only [String.toList_append, Quoted.literal, String.toList_ofList, List.append_assoc]

theorem not_mem_documentation {c : Char} (hc : c = '\n' ∨ c = '\r') (fontName : String) :
    c ∉ (documentation fontName).toList := by
  have literal := Quoted.not_mem_literalChars hc fontName.toList
  have front : c ∉ " Text styles for the ".toList := by rcases hc with rfl | rfl <;> decide
  have back : c ∉ " font family.".toList := by rcases hc with rfl | rfl <;> decide
  rw [documentation_toList, List.mem_append, List.mem_append]
  rintro (mem | mem | mem)
  · exact front mem
  · exact literal mem
  · exact back mem

def front (fontName : String) : List Char :=
  '\n' :: ("///".toList ++ (documentation fontName).toList ++ '\n' :: "pub enum".toList)

def frontLexemes (fontName : String) : List Lexeme :=
  (Lexeme.documentation false (documentation fontName).toList).map Lexeme.unspaced ++
    plainly (ident "pub" ++ ident "enum")

theorem reads_front (fontName : String) : Reads (front fontName) (frontLexemes fontName) := by
  refine Reads.feed (Reads.line (not_mem_documentation (.inl rfl) _)
    (not_mem_documentation (.inr rfl) _) ?_ (reads_of_check (by decide +kernel)))
  rw [documentation_toList]
  rfl

theorem familyText_toList (path : String) (f : Family.Checked) :
    (familyText path f).toList =
      front f.fontName ++ (' ' :: f.typeName.toList) ++ " \x7b\x7d\n\nimpl".toList ++
        (' ' :: f.typeName.toList) ++ " \x7b\n".toList ++
        (String.join (Style.table.map (styleFunction path (Quoted.literal f.fontName)))).toList ++
        (sizeFunction path (Quoted.literal f.fontName) ++ "\x7d\n").toList := by
  have first : "\n/// Text styles for the ".toList =
      '\n' :: ("///".toList ++ " Text styles for the ".toList) := by decide
  have second : " font family.\npub enum ".toList =
      " font family.".toList ++ '\n' :: ("pub enum".toList ++ [' ']) := by decide
  have third : " \x7b\x7d\n\nimpl ".toList = " \x7b\x7d\n\nimpl".toList ++ [' '] := by decide
  delta familyText front documentation
  simp only [String.toList_append, first, second, third, List.append_assoc, List.cons_append,
    List.nil_append]

theorem plainly_familyTokens (runtime : List Token) (name : Ident) (fontName : String) :
    plainly (familyTokens runtime name fontName) =
      frontLexemes fontName ++ plainly [.ident name] ++
        plainly ([.group .brace []] ++ ident "impl") ++ plainly [.ident name] ++
        [.opening .brace] ++ plainly (Style.table.flatMap (styleTokens runtime fontName)) ++
        (plainly (sizeTokens runtime fontName) ++ [.closing .brace]) := by
  have hash : operator "#" = [.punct '#' .alone] := rfl
  have equals : operator "=" = [.punct '=' .alone] := rfl
  simp [familyTokens, frontLexemes, Lexeme.documentation, hash, equals, Accessor.text,
    Grammar.ident, Lexeme.unspaced, Token.unspaced]

theorem reads_implementation : Reads " \x7b\x7d\n\nimpl".toList
    (plainly ([.group .brace []] ++ ident "impl")) :=
  reads_of_check (by decide +kernel)

theorem reads_brace : Reads " \x7b\n".toList [.opening .brace] :=
  reads_of_check (by decide +kernel)

theorem reads_familyText {path : String} {f : Family.Checked} {runtime : List Token} {name : Ident}
    (hpath : Reads path.toList (plainly runtime))
    (hname : Reads f.typeName.toList (plainly [.ident name])) :
    Reads (familyText path f).toList (plainly (familyTokens runtime name f.fontName)) := by
  have spaced : Reads (' ' :: f.typeName.toList) (plainly [.ident name]) := hname.blank
  have sep : Separated (' ' :: f.typeName.toList) := separated_cons (by decide) _
  obtain ⟨styles, styles_sep⟩ := reads_join
    (fun s hs => reads_styleFunction f.fontName hpath hs)
    fun s _ => separated_styleFunction path (Quoted.literal f.fontName) s
  have size := reads_sizeFunction f.fontName hpath
  rw [familyText_toList, plainly_familyTokens]
  refine ((((((reads_front f.fontName).append spaced sep).append reads_implementation ?_).append
    spaced sep).append reads_brace ?_).append styles styles_sep).append size ?_
  · exact separated_of_head (by decide)
  · exact separated_of_head (by decide)
  · rw [sizeFunction_toList]
    exact separated_of_head (by simp; decide)

theorem separated_familyText (path : String) (f : Family.Checked) :
    Separated (familyText path f).toList := by
  rw [familyText_toList, front]
  exact separated_cons (by decide) _

theorem reads_families {path : String} {runtime : List Token} {cs : List Family.Checked}
    (hpath : Reads path.toList (plainly runtime))
    (hnames : ∀ c ∈ cs, ∃ name, Grammar.nameOfText? c.typeName = some name ∧
      Reads c.typeName.toList (plainly [.ident name])) :
    ∃ parts, (cs.map Family.Checked.request).mapM (requestTokens? runtime) = some parts ∧
      Reads (String.join (cs.map (familyText path))).toList (plainly parts.flatten) ∧
      Separated (String.join (cs.map (familyText path))).toList := by
  induction cs with
  | nil => exact ⟨[], rfl, Reads.nil, separated_nil⟩
  | cons c cs ih =>
    obtain ⟨name, named, reads⟩ := hnames c List.mem_cons_self
    obtain ⟨parts, hparts, more, sep⟩ := ih fun d mem => hnames d (List.mem_cons_of_mem _ mem)
    have part : requestTokens? runtime c.request = some (familyTokens runtime name c.fontName) := by
      rw [requestTokens?, Family.Checked.request, named]
      rfl
    refine ⟨familyTokens runtime name c.fontName :: parts, ?_, ?_, ?_⟩
    · rw [List.map_cons, List.mapM_cons, part, hparts]
      rfl
    · rw [List.map_cons, join_cons_toList, List.flatten_cons, plainly_append]
      exact (reads_familyText hpath reads).append more sep
    · rw [List.map_cons, join_cons_toList]
      exact (separated_familyText path c).append sep

theorem reads_header : Reads header.toList [] :=
  reads_of_check (by decide +kernel)

theorem text_toList (path : String) (cs : List Family.Checked) :
    (text path cs).toList = header.toList ++ (String.join (cs.map (familyText path))).toList := by
  rw [text, String.toList_append]

theorem text_unmarked (path : String) (cs : List Family.Checked) :
    (text path cs).toList.head? ≠ some '\uFEFF' := by
  rw [text_toList]
  nofun

theorem wellFormed_of_reads {path : String} {runtime : List Token} {cs : List Family.Checked}
    (lexed : lex path = some runtime) (hpath : Reads path.toList (plainly runtime))
    (hnames : ∀ c ∈ cs, ∃ name, Grammar.nameOfText? c.typeName = some name ∧
      Reads c.typeName.toList (plainly [.ident name])) :
    WellFormed (cs.map Family.Checked.request) path (text path cs) := by
  obtain ⟨parts, hparts, reads, sep⟩ := reads_families hpath hnames
  have skimmed := (reads_header.append reads sep).whole
  rw [List.nil_append, ← text_toList] at skimmed
  obtain ⟨tokens, lexed', alike⟩ := (lexChars_alike_iff (text_unmarked path cs)).2 skimmed
  refine ⟨tokens, parts.flatten, lexed', ?_, alike⟩
  rw [tokens?, lexed, Option.bind_some, hparts]
  rfl

theorem skim_of_wellFormed {path : String} {families : List Family} {cs : List Family.Checked}
    (h : WellFormed families path (text path cs)) :
    ∃ runtime parts, lex path = some runtime ∧
      families.mapM (requestTokens? runtime) = some parts ∧
      skim (text path cs).toList = some (plainly parts.flatten) := by
  obtain ⟨tokens, expected, lexed, asked, alike⟩ := h
  obtain ⟨runtime, hpath, rest⟩ := Option.bind_eq_some_iff.1 asked
  obtain ⟨parts, hparts, rfl⟩ := Option.map_eq_some_iff.1 rest
  exact ⟨runtime, parts, hpath, hparts,
    (lexChars_alike_iff (text_unmarked path cs)).1 ⟨tokens, lexed, alike⟩⟩

end Module
end FontAccessors
