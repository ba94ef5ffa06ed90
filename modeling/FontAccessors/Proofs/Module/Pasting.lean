import FontAccessors.Proofs.Module.Tokens
import FontAccessors.Proofs.Token.Occurrences

/-!
# Texts pasted into a module

Names and paths are checked on their own and then pasted into the text of the module.

* `wellFormed_of_pasteable`: what neither begins with a byte order mark nor ends in a line comment
  keeps its meaning there.
* `wellFormed_iff_pasteable`: nothing else does in every module.
-/

namespace FontAccessors.Module
open Grammar (nameOfText? Path.ofText? ident operator)
open Lexeme Token Text

/-- A text that keeps its meaning inside another one. -/
def Pasteable (s : String) : Prop :=
  s.toList.head? ≠ some '\uFEFF' ∧ endsInComment s.toList = false

/-! ## Texts that can be pasted -/

theorem lexemes_of_name {text : String} {name : Ident} (named : nameOfText? text = some name)
    (unmarked : text.toList.head? ≠ some '\uFEFF') :
    lexemes text.toList = some [.token (.ident name)] := by
  have spells := (Grammar.nameOfText_iff.1 named).1
  rw [Token.unmarked, if_neg unmarked] at spells
  exact lexemes_name_iff.2 spells

theorem reads_of_name {text : String} {name : Ident} (named : nameOfText? text = some name)
    (pasteable : Pasteable text) : Reads text.toList (plainly [.ident name]) :=
  Reads.of_lexemes (lexemes_of_name named pasteable.1) pasteable.2

theorem reads_of_tokens {text : String} {ts : List Token} (lexed : lex text = some ts)
    (pasteable : Pasteable text) : Reads text.toList (plainly ts) :=
  Reads.of_lexemes (lexemes_of_lexChars pasteable.1 lexed) pasteable.2

theorem wellFormed_of_pasteable {path : String} {runtime : List Token} {cs : List Family.Checked}
    (lexed : lex path = some runtime) (named : ∀ c ∈ cs, (nameOfText? c.typeName).isSome = true)
    (hpath : Pasteable path) (hnames : ∀ c ∈ cs, Pasteable c.typeName) :
    WellFormed (cs.map Family.Checked.request) path (text path cs) := by
  refine wellFormed_of_reads lexed (reads_of_tokens lexed hpath) fun c mem => ?_
  obtain ⟨name, hname⟩ := Option.isSome_iff_exists.1 (named c mem)
  exact ⟨name, hname, reads_of_name hname (hnames c mem)⟩

/-! ## Names that cannot be pasted -/

theorem skim_mark (s : List Char) : skim ('\uFEFF' :: s) = none := by
  have literal : Literal.after ('\uFEFF' :: s) = none :=
    Literal.after_of_head (by decide) (by decide) s
  have mark : startsMark ('\uFEFF' :: s) = false := by
    have none : '\uFEFF' ∉ marks := by decide
    simp [startsMark, none]
  have name : cutIdent ('\uFEFF' :: s) = none := by
    have start : isIdentStart '\uFEFF' = false := by decide +kernel
    have raw : startsWith ('\uFEFF' :: s) "r#" = false := rfl
    simp [cutIdent, raw, Literal.afterName, start]
  have leaf : cutLeaf ('\uFEFF' :: s) = none := by
    rw [cutLeaf, literal, cutMark_of_ne (by decide), mark, name]
    simp
  have bracket : bracketOf? '\uFEFF' = none := by decide
  have front : cut ('\uFEFF' :: s) = none := by
    have gap : isBlank '\uFEFF' = false := by decide
    have lead : startsWith ('\uFEFF' :: s) placeholder = false := rfl
    rw [cut_of_plain rfl, gap, cutPlain, lead]
    simp [bracket, leaf]
  exact skim_of_cut_none front (List.cons_ne_nil _ _)

theorem marked_or_open {s : String} (bad : ¬Pasteable s) :
    (∃ cs, s.toList = '\uFEFF' :: cs) ∨
      s.toList.head? ≠ some '\uFEFF' ∧ endsInComment s.toList = true := by
  by_cases mark : s.toList.head? = some '\uFEFF'
  · exact .inl (List.head?_eq_some_iff.1 mark)
  · rw [Pasteable, not_and] at bad
    exact .inr ⟨mark, by simpa using bad mark⟩

theorem skim_name_ne {text : String} {name : Ident} (named : nameOfText? text = some name)
    (bad : ¬Pasteable text) (s : List Char) (ls : List Lexeme) :
    skim (text.toList ++ (" \x7b\x7d\n\nimpl".toList ++ ' ' :: s)) ≠
      some (.token (.ident name) :: .opening .brace :: ls) := by
  intro h
  rcases marked_or_open bad with ⟨cs, chars⟩ | ⟨unmarked, open_⟩
  · rw [chars, List.cons_append, skim_mark] at h
    cases h
  · have sep : Separated (" \x7b\x7d\n\nimpl".toList ++ ' ' :: s) :=
      separated_cons (by decide) _
    rcases skim_append_of_open (lexemes_of_name named unmarked) open_ with
      swallows | ⟨before, inner, documentation, eq, -⟩
    -- The braces are in the line that is lost, and `impl` comes next.
    · have line : (cutLine (" \x7b\x7d\n\nimpl".toList ++ ' ' :: s)).2 =
          "\n\nimpl".toList ++ ' ' :: s := by
        have split : " \x7b\x7d\n\nimpl".toList =
            " \x7b\x7d".toList ++ "\n\nimpl".toList := by decide
        have feed : "\n\nimpl".toList = '\n' :: "\nimpl".toList := by decide
        rw [split, List.append_assoc, feed, List.cons_append,
          cutLine_of_feed (by decide) (by decide)]
      have impl : Reads "\n\nimpl".toList [.token (.ident (.plain "impl"))] :=
        reads_of_check (by decide +kernel)
      rw [swallows _ sep, line, impl _ (separated_cons (by decide) _)] at h
      cases more : skim (' ' :: s) with
      | none => simp [more] at h
      | some ms => simp [more] at h
    · have length := congrArg List.length eq
      cases inner <;> simp [Lexeme.documentation] at length

theorem familyText_split (path : String) (f : Family.Checked) :
    ∃ s, (familyText path f).toList =
      front f.fontName ++
        ' ' :: (f.typeName.toList ++ (" \x7b\x7d\n\nimpl".toList ++ ' ' :: s)) := by
  rw [familyText_toList]
  simp only [List.append_assoc, List.cons_append]
  exact ⟨_, rfl⟩

theorem familyTokens_split (runtime : List Token) (name : Ident) (fontName : String) :
    ∃ ls : List Lexeme, plainly (familyTokens runtime name fontName) =
      frontLexemes fontName ++ .token (.ident name) :: .opening .brace :: ls := by
  rw [plainly_familyTokens]
  simp only [plainly_ident, plainly_nil, plainly_group, List.append_assoc, List.cons_append,
    List.nil_append]
  exact ⟨_, rfl⟩

theorem requestTokens_request {runtime : List Token} {c : Family.Checked} {part : List Token}
    (h : requestTokens? runtime c.request = some part) :
    ∃ name, nameOfText? c.typeName = some name ∧ part = familyTokens runtime name c.fontName := by
  obtain ⟨name, named, eq⟩ := Option.bind_eq_some_iff.1 h
  cases eq
  exact ⟨name, named, rfl⟩

theorem not_wellFormed_of_name {path : String} (before : List Family.Checked)
    {c : Family.Checked} {after : List Family.Checked}
    (good : ∀ runtime parts, lex path = some runtime →
      (before.map Family.Checked.request).mapM (requestTokens? runtime) = some parts →
      Reads (String.join (before.map (familyText path))).toList (plainly parts.flatten) ∧
        Separated (String.join (before.map (familyText path))).toList)
    (bad : ¬Pasteable c.typeName) :
    ¬WellFormed ((before ++ c :: after).map Family.Checked.request) path
      (text path (before ++ c :: after)) := by
  intro h
  obtain ⟨runtime, parts, lexed, hparts, skimmed⟩ := skim_of_wellFormed h
  rw [List.map_append, List.map_cons, List.mapM_append, List.mapM_cons] at hparts
  simp only [Option.bind_eq_bind, Option.pure_def, Option.bind_eq_some_iff] at hparts
  obtain ⟨first, hfirst, others, ⟨part, hpart, rest, hrest, eq⟩, eq'⟩ := hparts
  cases eq
  cases eq'
  obtain ⟨reads, sep⟩ := good runtime first lexed hfirst
  obtain ⟨name, named, rfl⟩ := requestTokens_request hpart
  obtain ⟨s, text_c⟩ := familyText_split path c
  obtain ⟨ls, tokens_c⟩ := familyTokens_split runtime name c.fontName
  have split : (text path (before ++ c :: after)).toList =
      (header.toList ++ (String.join (before.map (familyText path))).toList ++ front c.fontName) ++
        ' ' :: (c.typeName.toList ++ (" \x7b\x7d\n\nimpl".toList ++
          ' ' :: (s ++ (String.join (after.map (familyText path))).toList))) := by
    rw [text_toList, List.map_append, List.map_cons, String.toList_join, List.flatMap_append,
      List.flatMap_cons, text_c, ← String.toList_join, ← String.toList_join]
    simp only [List.append_assoc, List.cons_append]
  -- Up to the name the text reads as it should, so what is left reads as the name and the rest.
  have upToName := ((reads_header.append reads sep).append (reads_front c.fontName)
    (separated_cons (by decide) _)) _ (separated_cons (c := ' ') (by decide)
      (c.typeName.toList ++ (" \x7b\x7d\n\nimpl".toList ++
        ' ' :: (s ++ (String.join (after.map (familyText path))).toList))))
  rw [← split, skimmed, skim_blank] at upToName
  obtain ⟨ms, hms, eq⟩ := Option.map_eq_some_iff.1 upToName.symm
  rw [List.flatten_append, List.flatten_cons, plainly_append, plainly_append, tokens_c] at eq
  simp only [List.nil_append, List.append_assoc, List.cons_append,
    List.append_cancel_left_eq] at eq
  rw [eq] at hms
  exact skim_name_ne named bad _ _ hms

/-! ## Paths that cannot be pasted -/

def firstStyle : Style :=
  ⟨"largeTitle", 34, "largeTitle"⟩

def laterStyles : List Style :=
  Style.table.tail

theorem table_eq : Style.table = firstStyle :: laterStyles := rfl

def upToPath (f : Family.Checked) : List Char :=
  header.toList ++ front f.fontName ++ (' ' :: f.typeName.toList) ++ " \x7b\x7d\n\nimpl".toList ++
    (' ' :: f.typeName.toList) ++ " \x7b\n".toList ++
    ("    pub fn " ++ firstStyle.functionName ++ "() ->").toList

def upToPathLexemes (name : Ident) (fontName : String) : List Lexeme :=
  frontLexemes fontName ++ plainly [.ident name] ++ plainly ([.group .brace []] ++ ident "impl") ++
    plainly [.ident name] ++ [.opening .brace] ++
    plainly (ident "pub" ++ ident "fn" ++ ident firstStyle.functionName ++
      [.group .parenthesis []] ++ operator "->")

theorem reads_upToPath {f : Family.Checked} {name : Ident}
    (hname : Reads f.typeName.toList (plainly [.ident name])) :
    Reads (upToPath f) (upToPathLexemes name f.fontName) := by
  have spaced : Reads (' ' :: f.typeName.toList) (plainly [.ident name]) := hname.blank
  have sep : Separated (' ' :: f.typeName.toList) := separated_cons (by decide) _
  have first : firstStyle ∈ Style.table := List.mem_cons_self
  refine ((((((reads_header.append (reads_front f.fontName) ?_).append spaced sep).append
    reads_implementation ?_).append spaced sep).append reads_brace ?_).append
    (reads_functionName first) ?_)
  · exact separated_cons (by decide) _
  · exact separated_of_head (by decide)
  · exact separated_of_head (by decide)
  · exact separated_of_head (by simp; decide)

def behindArgument (path literal : String) (after : List Family.Checked) : List Char :=
  (", " ++ toString firstStyle.pointSize.toNat ++ ".0,").toList ++ (' ' :: path.toList) ++
    ("::TextStyle::" ++ firstStyle.variantName ++ ")\n    \x7d\n\n").toList ++
    (String.join (laterStyles.map (styleFunction path literal))).toList ++
    (sizeFunction path literal ++ "\x7d\n").toList ++
    (String.join (after.map (familyText path))).toList

theorem text_split (path : String) (c : Family.Checked) (after : List Family.Checked) :
    (text path (c :: after)).toList = upToPath c ++ ' ' :: (path.toList ++
      ("::Font \x7b\n       ".toList ++ ' ' :: (path.toList ++ ("::Font::custom".toList ++
        '(' :: ((Quoted.literal c.fontName).toList ++
          behindArgument path (Quoted.literal c.fontName) after))))) := by
  rw [text_toList, List.map_cons, join_cons_toList, familyText_toList, table_eq, List.map_cons,
    join_cons_toList, styleFunction_toList]
  delta upToPath behindArgument
  simp only [List.append_assoc, List.cons_append]

theorem occurrences_styles (runtime : List Token) (fontName : String) (l : List Style) :
    l.length ≤ (plainly (l.flatMap (styleTokens runtime fontName))).countP
      (isLiteral (Quoted.literal fontName)) := by
  induction l with
  | nil => simp
  | cons s l ih =>
    rw [List.flatMap_cons, plainly_append, plainly_styleTokens]
    simp only [List.countP_append, List.countP_cons, isLiteral, decide_true, if_true,
      List.length_cons]
    omega

theorem plainly_split (runtime : List Token) (name : Ident) (fontName : String)
    (more : List Lexeme) :
    ∃ ls : List Lexeme, plainly (familyTokens runtime name fontName) ++ more =
        upToPathLexemes name fontName ++ (plainly runtime ++
          (plainly (operator "::" ++ ident "Font") ++ .opening .brace :: (plainly runtime ++ ls))) ∧
      11 ≤ ls.countP (isLiteral (Quoted.literal fontName)) := by
  have later := occurrences_styles runtime fontName laterStyles
  have length : laterStyles.length = 9 := rfl
  rw [plainly_familyTokens, table_eq, List.flatMap_cons, plainly_append (styleTokens _ _ _),
    plainly_styleTokens, plainly_sizeTokens, upToPathLexemes]
  simp only [List.append_assoc, List.cons_append, List.nil_append]
  refine ⟨_, rfl, ?_⟩
  simp only [List.countP_append, List.countP_cons, isLiteral, decide_true, if_true]
  omega

theorem length_cutLine_call (fontName : String) (s : List Char) :
    (cutLine ("::Font::custom".toList ++ '(' :: ((Quoted.literal fontName).toList ++ s))).2.length ≤
      s.length := by
  have literal {c : Char} (hc : c = '\n' ∨ c = '\r') : c ∉ (Quoted.literal fontName).toList := by
    simpa [Quoted.literal] using Quoted.not_mem_literalChars hc fontName.toList
  have call {c : Char} (hc : c = '\n' ∨ c = '\r') :
      c ∉ "::Font::custom(".toList ++ (Quoted.literal fontName).toList := by
    rw [List.mem_append, not_or]
    refine ⟨?_, literal hc⟩
    rcases hc with rfl | rfl <;> decide
  have line := cutLine_of_line (call (.inl rfl)) (call (.inr rfl)) s
  rw [List.append_assoc] at line
  have front : "::Font::custom(".toList = "::Font::custom".toList ++ ['('] := by decide
  rw [front, List.append_assoc, List.singleton_append] at line
  rw [line]
  exact length_cutLine_le s

theorem cutLine_font (t : List Char) :
    cutLine ("::Font \x7b\n       ".toList ++ t) =
      ("::Font \x7b".toList, "\n       ".toList ++ t) := by
  have split : "::Font \x7b\n       ".toList =
      "::Font \x7b".toList ++ '\n' :: "       ".toList := by decide
  have feed : "\n       ".toList = '\n' :: "       ".toList := by decide
  rw [split, List.append_assoc, feed, List.cons_append, cutLine_of_feed (by decide) (by decide)]

theorem separated_font (t : List Char) : Separated ("::Font \x7b\n       ".toList ++ t) :=
  separated_cons (by decide) _

theorem skim_ne_of_swallows {path : String} {fontName : String} {runtime between : List Lexeme}
    (swallows : Swallows path.toList runtime) {s : List Char} {ls : List Lexeme}
    (plain : (Quoted.literal fontName).toList.length ≤ fontName.toList.length + 2)
    (room : s.length < 11 * (Quoted.literal fontName).toList.length)
    (often : 11 ≤ ls.countP (isLiteral (Quoted.literal fontName))) :
    skim (path.toList ++ ("::Font \x7b\n       ".toList ++ ' ' :: (path.toList ++
        ("::Font::custom".toList ++ '(' :: ((Quoted.literal fontName).toList ++ s))))) ≠
      some (runtime ++ (between ++ (runtime ++ ls))) := by
  intro h
  have call : Separated ("::Font::custom".toList ++
      '(' :: ((Quoted.literal fontName).toList ++ s)) := separated_cons (by decide) _
  have gap : Reads "\n       ".toList [] := reads_of_check (by decide +kernel)
  rw [swallows _ (separated_font _), cutLine_font, gap _ (separated_cons (by decide) _),
    skim_blank, swallows _ call] at h
  cases rest : skim (cutLine ("::Font::custom".toList ++
      '(' :: ((Quoted.literal fontName).toList ++ s))).2 with
  | none =>
    rw [rest] at h
    cases h
  | some ms =>
    rw [rest] at h
    simp only [Option.map_some, List.nil_append, Option.some.injEq] at h
    have counts := congrArg (List.countP (isLiteral (Quoted.literal fontName))) h
    simp only [List.countP_append] at counts
    -- What is left has to hold eleven literals, and the text has no room for them.
    have fits := Nat.le_trans (occurrences_le plain rest) (length_cutLine_call fontName s)
    have many : 11 ≤ ms.countP (isLiteral (Quoted.literal fontName)) := by omega
    have := Nat.mul_le_mul_right (Quoted.literal fontName).toList.length many
    omega

theorem skim_ne_of_documents {path : String} {before : List Lexeme} {inner : Bool}
    {documentation : List Char} (documents : Documents path.toList before inner documentation)
    (s : List Char) (ls : List Lexeme) :
    skim (path.toList ++ ("::Font \x7b\n       ".toList ++ s)) ≠
      some (before ++ (Lexeme.documentation inner documentation).map Lexeme.unspaced ++ ls) := by
  intro h
  rcases documents _ (separated_font s) with failed | more
  · rw [h] at failed
    cases failed
  · rw [h, cutLine_font] at more
    obtain ⟨ms, -, eq⟩ := Option.map_eq_some_iff.1 more.symm
    rw [List.append_assoc, List.append_assoc, List.append_cancel_left_eq] at eq
    have length : ((Lexeme.documentation inner (documentation ++ "::Font \x7b".toList)).map
        Lexeme.unspaced).length =
        ((Lexeme.documentation inner documentation).map Lexeme.unspaced).length := by
      rw [List.length_map, List.length_map, length_documentation]
    have same := documentation_inj (List.append_inj eq length).1
    simp at same

theorem skim_path_ne {path : String} {runtime : List Token} {fontName : String}
    (lexed : lex path = some runtime) (bad : ¬Pasteable path) {s : List Char} {ls : List Lexeme}
    (plain : (Quoted.literal fontName).toList.length ≤ fontName.toList.length + 2)
    (room : s.length < 11 * (Quoted.literal fontName).toList.length)
    (often : 11 ≤ ls.countP (isLiteral (Quoted.literal fontName))) :
    skim (path.toList ++ ("::Font \x7b\n       ".toList ++ ' ' :: (path.toList ++
        ("::Font::custom".toList ++ '(' :: ((Quoted.literal fontName).toList ++ s))))) ≠
      some (plainly runtime ++ (plainly (operator "::" ++ ident "Font") ++ [.opening .brace] ++
        (plainly runtime ++ ls))) := by
  rcases marked_or_open bad with ⟨cs, chars⟩ | ⟨unmarked, open_⟩
  · rw [chars, List.cons_append, skim_mark]
    nofun
  · rcases skim_append_of_open (lexemes_of_lexChars unmarked lexed) open_ with
      swallows | ⟨before, inner, documentation, eq, documents⟩
    · exact skim_ne_of_swallows swallows plain room often
    · have split : plainly runtime = before.map Lexeme.unspaced ++
          (Lexeme.documentation inner documentation).map Lexeme.unspaced := by
        rw [plainly, eq, List.map_append]
      rw [split]
      exact skim_ne_of_documents documents _ _

theorem not_wellFormed_of_path {path : String} {c : Family.Checked} {after : List Family.Checked}
    (bad : ¬Pasteable path) (good : Pasteable c.typeName)
    (plain : (Quoted.literal c.fontName).toList.length ≤ c.fontName.toList.length + 2)
    (room : (behindArgument path (Quoted.literal c.fontName) after).length <
      11 * (Quoted.literal c.fontName).toList.length) :
    ¬WellFormed ((c :: after).map Family.Checked.request) path (text path (c :: after)) := by
  intro h
  obtain ⟨runtime, parts, lexed, hparts, skimmed⟩ := skim_of_wellFormed h
  rw [List.map_cons, List.mapM_cons] at hparts
  simp only [Option.bind_eq_bind, Option.pure_def, Option.bind_eq_some_iff] at hparts
  obtain ⟨part, hpart, rest, hrest, eq⟩ := hparts
  cases eq
  obtain ⟨name, named, rfl⟩ := requestTokens_request hpart
  obtain ⟨ls, split, often⟩ := plainly_split runtime name c.fontName (plainly rest.flatten)
  have upTo (s : List Char) := reads_upToPath (reads_of_name named good) (' ' :: s)
    (separated_cons (by decide) s)
  rw [text_split, upTo, skim_blank, List.flatten_cons, plainly_append, split] at skimmed
  obtain ⟨ms, hms, eq⟩ := Option.map_eq_some_iff.1 skimmed
  rw [List.append_cancel_left_eq] at eq
  rw [eq] at hms
  exact skim_path_ne lexed bad plain room often hms

/-! ## Every module -/

theorem length_styleFunction (path literal : String) (s : Style) :
    (styleFunction path literal s).toList.length =
      (styleFunction path "" s).toList.length + literal.toList.length := by
  rw [styleFunction_toList, styleFunction_toList]
  simp only [List.length_append, List.length_cons, String.toList_empty, List.length_nil]
  omega

theorem length_styleFunctions (path literal : String) (l : List Style) :
    (String.join (l.map (styleFunction path literal))).toList.length =
      (String.join (l.map (styleFunction path ""))).toList.length +
        l.length * literal.toList.length := by
  induction l with
  | nil => simp
  | cons s l ih =>
    rw [List.map_cons, List.map_cons, join_cons_toList, join_cons_toList, List.length_append,
      List.length_append, length_styleFunction, ih, List.length_cons, Nat.succ_mul]
    omega

theorem length_sizeFunction (path literal : String) :
    (sizeFunction path literal ++ "\x7d\n").toList.length =
      (sizeFunction path "" ++ "\x7d\n").toList.length + literal.toList.length := by
  rw [sizeFunction_toList, sizeFunction_toList]
  simp only [List.length_append, List.length_cons, String.toList_empty, List.length_nil]
  omega

theorem length_behindArgument (path literal : String) (after : List Family.Checked) :
    (behindArgument path literal after).length =
      (behindArgument path "" after).length + 10 * literal.toList.length := by
  have rows : laterStyles.length = 9 := rfl
  delta behindArgument
  simp only [List.length_append]
  rw [length_styleFunctions, length_sizeFunction, rows]
  omega

def longName (path : String) (after : List Family.Checked) : String :=
  String.ofList (List.replicate (behindArgument path "" after).length 'a')

theorem length_longName (path : String) (after : List Family.Checked) :
    (longName path after).toList.length = (behindArgument path "" after).length ∧
      (Quoted.literal (longName path after)).toList.length =
        (behindArgument path "" after).length + 2 := by
  constructor
  · simp [longName]
  · simp [Quoted.literal, longName, Quoted.literalChars_replicate]

theorem wellFormed_nil {path : String} (isPath : (Path.ofText? path).isSome = true) :
    WellFormed [] path (text path []) := by
  obtain ⟨p, hp⟩ := Option.isSome_iff_exists.1 isPath
  obtain ⟨runtime, lexed, -⟩ := Option.bind_eq_some_iff.1 hp
  have skimmed : skim (text path []).toList = some (plainly []) := by
    rw [text_toList]
    simpa using reads_header.whole
  obtain ⟨tokens, lexed', alike⟩ := (lexChars_alike_iff (text_unmarked path [])).2 skimmed
  refine ⟨tokens, [], lexed', ?_, alike⟩
  rw [tokens?, lexed]
  rfl

theorem first_failure {α : Type} (p : α → Prop) (l : List α) :
    (∀ a ∈ l, p a) ∨ ∃ before a after, l = before ++ a :: after ∧ (∀ b ∈ before, p b) ∧ ¬p a := by
  induction l with
  | nil => exact .inl (by simp)
  | cons a l ih =>
    by_cases h : p a
    · rcases ih with all | ⟨before, b, after, rfl, good, bad⟩
      · exact .inl (List.forall_mem_cons.2 ⟨h, all⟩)
      · exact .inr ⟨a :: before, b, after, rfl, List.forall_mem_cons.2 ⟨h, good⟩, bad⟩
    · exact .inr ⟨[], a, l, rfl, by simp, h⟩

theorem reads_of_pasteable {path : String} {runtime : List Token} {cs : List Family.Checked}
    {parts : List (List Token)} (lexed : lex path = some runtime)
    (named : ∀ c ∈ cs, (nameOfText? c.typeName).isSome = true) (hpath : Pasteable path)
    (hnames : ∀ c ∈ cs, Pasteable c.typeName)
    (hparts : (cs.map Family.Checked.request).mapM (requestTokens? runtime) = some parts) :
    Reads (String.join (cs.map (familyText path))).toList (plainly parts.flatten) ∧
      Separated (String.join (cs.map (familyText path))).toList := by
  obtain ⟨parts', hparts', reads⟩ := reads_families (reads_of_tokens lexed hpath) fun c mem => by
    obtain ⟨name, hname⟩ := Option.isSome_iff_exists.1 (named c mem)
    exact ⟨name, hname, reads_of_name hname (hnames c mem)⟩
  rw [hparts, Option.some.injEq] at hparts'
  subst hparts'
  exact reads

theorem spoils {path : String} {c : Family.Checked} {after : List Family.Checked}
    (valid : ∀ d ∈ c :: after, (nameOfText? d.typeName).isSome = true)
    (bad : ¬(Pasteable path ∧ ∀ d ∈ c :: after, Pasteable d.typeName)) :
    ∃ fontName, ¬WellFormed ((⟨c.typeName, fontName⟩ :: after).map Family.Checked.request) path
      (text path (⟨c.typeName, fontName⟩ :: after)) := by
  by_cases name : Pasteable c.typeName
  · by_cases hpath : Pasteable path
    · rcases first_failure (fun d => Pasteable d.typeName) (c :: after) with
        good | ⟨before, d, rest, eq, good, spoilt⟩
      · exact absurd ⟨hpath, good⟩ bad
      · refine ⟨c.fontName, ?_⟩
        show ¬WellFormed ((c :: after).map Family.Checked.request) path (text path (c :: after))
        rw [eq] at valid ⊢
        refine not_wellFormed_of_name before (fun runtime parts lexed hparts => ?_) spoilt
        exact reads_of_pasteable lexed (fun b mem => valid b (List.mem_append_left _ mem)) hpath
          good hparts
    -- The font may be called anything: a name longer than all the text behind cannot occur there.
    · obtain ⟨chars, literal⟩ := length_longName path after
      refine ⟨longName path after, not_wellFormed_of_path hpath name ?_ ?_⟩
      · exact Nat.le_of_eq (by rw [chars, literal])
      · rw [length_behindArgument, literal]
        omega
  · refine ⟨c.fontName, not_wellFormed_of_name []
      (fun runtime parts _ hparts => ?_) name⟩
    cases hparts
    exact ⟨Reads.nil, separated_nil⟩

/-- Names and a path give well-formed modules for all fonts exactly if each of them keeps its
meaning inside another text, or if there is no family to write. -/
theorem wellFormed_iff_pasteable (names : List String) (path : String) :
    (∀ families text, families.map Family.typeName = names →
        render families path = .ok text → WellFormed families path text) ↔
      ((∃ families text, families.map Family.typeName = names ∧
          render families path = .ok text) →
        names = [] ∨ Pasteable path ∧ ∀ name ∈ names, Pasteable name) := by
  constructor
  · rintro all ⟨families, text, rfl, h⟩
    obtain ⟨isPath, cs, rfl, valid, unique, rfl⟩ := render_ok_iff.1 h
    cases cs with
    | nil => exact .inl rfl
    | cons c after =>
      right
      by_cases good : Pasteable path ∧ ∀ d ∈ c :: after, Pasteable d.typeName
      · refine ⟨good.1, fun name mem => ?_⟩
        obtain ⟨f, hf, rfl⟩ := List.mem_map.1 mem
        obtain ⟨d, hd, rfl⟩ := List.mem_map.1 hf
        exact good.2 d hd
      · -- Another font name for the first family brings the damage to light.
        obtain ⟨fontName, spoilt⟩ := spoils valid good
        have valid' : ∀ d ∈ (⟨c.typeName, fontName⟩ : Family.Checked) :: after,
            (nameOfText? d.typeName).isSome = true :=
          List.forall_mem_cons.2 (List.forall_mem_cons.1 valid)
        have rendered := render_ok_iff.2
          ⟨isPath, (⟨c.typeName, fontName⟩ : Family.Checked) :: after, rfl, valid', unique, rfl⟩
        exact absurd (all _ _ (by rfl) rendered) spoilt
  · intro good families text hnames h
    obtain ⟨isPath, cs, rfl, valid, unique, rfl⟩ := render_ok_iff.1 h
    rcases good ⟨_, _, hnames, h⟩ with empty | ⟨hpath, hall⟩
    · rw [← hnames, List.map_eq_nil_iff, List.map_eq_nil_iff] at empty
      subst empty
      exact wellFormed_nil isPath
    · obtain ⟨p, hp⟩ := Option.isSome_iff_exists.1 isPath
      obtain ⟨runtime, lexed, -⟩ := Option.bind_eq_some_iff.1 hp
      refine wellFormed_of_pasteable lexed valid hpath fun c mem => hall _ ?_
      rw [← hnames]
      exact List.mem_map_of_mem (List.mem_map_of_mem mem)

end FontAccessors.Module
