import FontAccessors.Accessor.Settings
import FontAccessors.Proofs.Grammar.ArgumentList
import FontAccessors.Proofs.Token.Reading

namespace FontAccessors
open Grammar Lexeme Token Text

/-! ## String literals -/

inductive LiteralForm where
  | quoted
  | raw (hashes : Nat)
  deriving DecidableEq, Repr

namespace LiteralForm

def write : LiteralForm → String → String
  | quoted, s => Quoted.literal s
  | raw n, s => String.ofList (Quoted.rawChars n s.toList)

def Holds : LiteralForm → String → Prop
  | quoted, _ => True
  | raw n, s => Quoted.IsRawText n s.toList

def IsAllowed : LiteralForm → Prop
  | quoted => True
  | raw n => n ≤ 255

variable {u : LiteralForm} {s : String}

theorem value?_write (holds : u.Holds s) (allowed : u.IsAllowed) :
    Quoted.value? (u.write s).toList = some s.toList := by
  cases u with
  | quoted => exact Quoted.value?_literal s
  | raw n =>
    rw [write, String.toList_ofList]
    exact Quoted.value?_rawChars holds allowed

theorem cut_raw {n : Nat} {s t : List Char} (holds : Quoted.IsRawText n s) (allowed : n ≤ 255)
    (ht : Separated t) :
    cut (Quoted.rawChars n s ++ t) =
      some ([.token (.literal (String.ofList (Quoted.rawChars n s)))], t) := by
  have after : Literal.after (Quoted.rawChars n s ++ t) = some t := by
    have read := Quoted.readHashed_rawChars holds allowed t
    have hashed : Literal.afterQuoted (Quoted.rawChars n s ++ t) = some t := by
      simp [Quoted.rawChars, Literal.afterQuoted, Literal.afterHashed, read,
        dropSuffix_of_separated ht]
    rw [Literal.after, hashed, Option.some_or]
  exact cut_literal (.inr (.inl rfl)) after

theorem reads_write (holds : u.Holds s) (allowed : u.IsAllowed) :
    Reads (u.write s).toList [.token (.literal (u.write s))] := by
  cases u with
  | quoted => exact reads_quoted s
  | raw n =>
    intro t ht
    rw [write, String.toList_ofList]
    refine skim_of_cut (cut_raw holds allowed ht) ?_
    simp [Quoted.rawChars]
    omega

theorem cut_raw_eq_none {n : Nat} (many : 255 < n) (s t : List Char) :
    cut (Quoted.rawChars n s ++ t) = none := by
  obtain ⟨m, rfl⟩ : ∃ m, n = m + 2 := ⟨n - 2, by omega⟩
  obtain ⟨cs, hcs⟩ : ∃ cs, cs = List.replicate m '#' ++ '"' :: (s ++ '"' ::
      (List.replicate (m + 2) '#' ++ t)) := ⟨_, rfl⟩
  have chars : Quoted.rawChars (m + 2) s ++ t = 'r' :: '#' :: '#' :: cs := by
    simp [Quoted.rawChars, hcs, List.replicate_succ (n := m), List.replicate_succ (n := m + 1)]
  have hashes : Quoted.leadingHashes ('#' :: '#' :: cs) = m + 2 := by
    simp [hcs, Quoted.leadingHashes]
  have refused : Quoted.readHashed .string ('#' :: '#' :: cs) = none := by
    rw [Quoted.readHashed, hashes]
    split
    · rw [if_neg (by omega)]
    · rfl
  have literal : Literal.after ('r' :: '#' :: '#' :: cs) = none := by
    have quoted : Literal.afterQuoted ('r' :: '#' :: '#' :: cs) = none := by
      rw [Literal.afterQuoted, Literal.afterHashed, refused]
      rfl
    rw [Literal.after, quoted, Literal.afterNumber_of_not_digit (by decide)]
    rfl
  have leaf : cutLeaf ('r' :: '#' :: '#' :: cs) = none := by
    have mark : cutMark ('r' :: '#' :: '#' :: cs) = none := rfl
    have lead : literalLeads.any (startsWith ('r' :: '#' :: '#' :: cs)) = true := rfl
    rw [cutLeaf, literal, mark, lead]
    rfl
  rw [chars, cut_of_plain rfl, cutPlain, leaf]
  rfl

theorem skim_write_of_not_allowed (refused : ¬u.IsAllowed) (s : String) (t : List Char) :
    skim ((u.write s).toList ++ t) = none := by
  cases u with
  | quoted => exact absurd trivial refused
  | raw n =>
    rw [write, String.toList_ofList]
    exact skim_of_cut_none (cut_raw_eq_none (Nat.lt_of_not_le refused) _ t) (List.cons_ne_nil _ _)

end LiteralForm

/-! ## Arguments -/

namespace Settings

def bindingText (key literal : String) : String :=
  key ++ " = " ++ literal

def pairText (key literal key' literal' : String) (comma : Bool) : String :=
  bindingText key literal ++ ", " ++ bindingText key' literal' ++ if comma then "," else ""

def argumentsText (fontName crate : String) (crateFirst comma : Bool) : String :=
  if crateFirst then pairText crateKey crate fontNameKey fontName comma
  else pairText fontNameKey fontName crateKey crate comma

def keys : List String :=
  [fontNameKey, crateKey]

theorem fontNameKey_mem : fontNameKey ∈ keys :=
  List.mem_cons_self

theorem crateKey_mem : crateKey ∈ keys :=
  List.mem_cons_of_mem _ List.mem_cons_self

def bindingLexemes (key literal : String) : List Lexeme :=
  [.token (.ident (.plain key)), .token (.punct '=' .alone), .token (.literal literal)]

variable {u v : LiteralForm} {key key' s s' : String}

theorem reads_key (h : key ∈ keys) :
    Reads (key ++ " =").toList [.token (.ident (.plain key)), .token (.punct '=' .alone)] := by
  have all : ∀ key ∈ keys, (scan 0 (key ++ " =").toList).any (allAgree ·
      [.token (.ident (.plain key)), .token (.punct '=' .alone)]) = true := by decide +kernel
  exact reads_of_check (all key h)

theorem bindingText_toList (key literal : String) :
    (bindingText key literal).toList = (key ++ " =").toList ++ ' ' :: literal.toList := by
  have sign : " = ".toList = " =".toList ++ [' '] := by decide
  delta bindingText
  simp only [String.toList_append, sign, List.append_assoc, List.cons_append, List.nil_append]

theorem reads_binding (h : key ∈ keys) (holds : u.Holds s) (allowed : u.IsAllowed) :
    Reads (bindingText key (u.write s)).toList (bindingLexemes key (u.write s)) := by
  rw [bindingText_toList]
  exact (reads_key h).append (LiteralForm.reads_write holds allowed).blank
    (separated_cons (by decide) _)

theorem skim_binding_of_not_allowed (h : key ∈ keys) (refused : ¬u.IsAllowed) (t : List Char) :
    skim ((bindingText key (u.write s)).toList ++ t) = .none := by
  have sep : Separated (' ' :: (u.write s).toList ++ t) := separated_cons (by decide) _
  rw [bindingText_toList, List.append_assoc, reads_key h _ sep, List.cons_append, skim_blank,
    LiteralForm.skim_write_of_not_allowed refused]
  rfl

theorem pairText_toList (key literal key' literal' : String) (comma : Bool) :
    (pairText key literal key' literal' comma).toList =
      (bindingText key literal).toList ++ (',' :: ' ' :: (bindingText key' literal').toList ++
        if comma then [','] else []) := by
  have separator : ", ".toList = [',', ' '] := by decide
  have last : (if comma then "," else "").toList = if comma then [','] else [] := by
    cases comma <;> decide
  delta pairText
  simp only [String.toList_append, separator, last, List.append_assoc, List.cons_append,
    List.nil_append]

def pairLexemes (key literal key' literal' : String) (comma : Bool) : List Lexeme :=
  bindingLexemes key literal ++ (.token (.punct ',' .alone) :: bindingLexemes key' literal' ++
    if comma then [.token (.punct ',' .alone)] else [])

theorem reads_pair (h : key ∈ keys) (h' : key' ∈ keys) (holds : u.Holds s) (holds' : v.Holds s')
    (allowed : u.IsAllowed) (allowed' : v.IsAllowed) (comma : Bool) :
    Reads (pairText key (u.write s) key' (v.write s') comma).toList
      (pairLexemes key (u.write s) key' (v.write s') comma) := by
  have separator (t : List Char) :
      cut (',' :: ' ' :: t) = some ([.token (.punct ',' .alone)], ' ' :: t) := rfl
  have second : Reads (',' :: ' ' :: (bindingText key' (v.write s')).toList)
      (.token (.punct ',' .alone) :: bindingLexemes key' (v.write s')) :=
    Reads.of_cut (fun _ => separator _) (reads_binding h' holds' allowed').blank
  have last : Reads (if comma then [','] else [])
      (if comma then [.token (.punct ',' .alone)] else []) := by
    cases comma with
    | false => exact Reads.nil
    | true => exact reads_of_check (by decide +kernel)
  have sep : Separated (if comma then [','] else []) := by
    cases comma with
    | false => exact separated_nil
    | true => exact separated_cons (by decide) _
  rw [pairText_toList]
  exact (reads_binding h holds allowed).append (second.append last sep)
    (separated_cons (by decide) _)

theorem skim_pair_of_not_allowed (h : key ∈ keys) (h' : key' ∈ keys) (holds : u.Holds s)
    (s' : String) (refused : ¬(u.IsAllowed ∧ v.IsAllowed)) (comma : Bool) :
    skim (pairText key (u.write s) key' (v.write s') comma).toList = .none := by
  rw [pairText_toList]
  by_cases allowed : u.IsAllowed
  · have refused' : ¬v.IsAllowed := fun allowed' => refused ⟨allowed, allowed'⟩
    have second (t : List Char) :
        skim (',' :: ' ' :: (bindingText key' (v.write s')).toList ++ t) = .none := by
      have separator (t : List Char) :
          cut (',' :: ' ' :: t) = some ([.token (.punct ',' .alone)], ' ' :: t) := rfl
      rw [List.cons_append, List.cons_append, skim_of_cut (separator _) (Nat.lt_succ_self _),
        skim_blank, skim_binding_of_not_allowed h' refused']
      rfl
    have sep (t : List Char) :
        Separated (',' :: ' ' :: (bindingText key' (v.write s')).toList ++ t) :=
      separated_cons (by decide) _
    rw [reads_binding h holds allowed _ (sep _), second]
    rfl
  · exact skim_binding_of_not_allowed h allowed _

/-! ## Settings -/

theorem named_of_mem (h : key ∈ keys) : IsSegmentName (.plain key) := by
  have all : ∀ key ∈ keys, key ∉ keywords ∨ key ∈ pathWords := by decide
  exact .inr (all key h)

def literalBinding (h : key ∈ keys) (sign : Spacing) (literal : String) : SimpleArgument :=
  .binding (.single (.plain key) (named_of_mem h)) sign (.literal literal)

theorem valueOf_namePath (key name : String) (e : Expr) :
    Argument.valueOf? name (.binding (namePath (.plain key)) e) =
      if key = name then some e else .none := by
  simp [Argument.valueOf?, namePath, Path.isName, Arguments.isNone, Ident.plain]

def pairTokens (key literal key' literal' : String) (comma : Bool) : List Token :=
  [.ident (.plain key), .punct '=' .alone, .literal literal, .punct ',' .alone,
    .ident (.plain key'), .punct '=' .alone, .literal literal'] ++
    if comma then [.punct ',' .alone] else []

theorem exists_of_alike_binding {literal : String} {ts us : List Token}
    (alike : Alike ts (.ident (.plain key) :: .punct '=' .alone :: .literal literal :: us)) :
    ∃ spacing rest, ts = .ident (.plain key) :: .punct '=' spacing :: .literal literal :: rest ∧
      Alike rest us := by
  obtain ⟨_, rfl, alike₁⟩ := exists_of_alike_ident alike
  obtain ⟨spacing, _, rfl, alike₂⟩ := exists_of_alike_punct alike₁
  obtain ⟨rest, rfl, alike₃⟩ := exists_of_alike_literal alike₂
  exact ⟨spacing, rest, rfl, alike₃⟩

theorem arguments_of_alike (h : key ∈ keys) (h' : key' ∈ keys) {literal literal' : String}
    {comma : Bool} {tokens : List Token}
    (alike : Alike tokens (pairTokens key literal key' literal' comma)) :
    Argument.ofTokens? tokens =
      some [.binding (namePath (.plain key)) (literalExpr literal),
        .binding (namePath (.plain key')) (literalExpr literal')] := by
  obtain ⟨sign, _, rfl, alike₁⟩ := exists_of_alike_binding alike
  obtain ⟨separator, _, rfl, alike₂⟩ := exists_of_alike_punct alike₁
  obtain ⟨sign', _, rfl, alike₃⟩ := exists_of_alike_binding alike₂
  cases comma with
  | false =>
    cases eq_nil_of_alike alike₃
    exact ofTokens_list ⟨[(literalBinding h sign literal, separator)],
      some (literalBinding h' sign' literal')⟩
  | true =>
    obtain ⟨last, _, rfl, alike₄⟩ := exists_of_alike_punct alike₃
    cases eq_nil_of_alike alike₄
    exact ofTokens_list ⟨[(literalBinding h sign literal, separator),
      (literalBinding h' sign' literal', last)], .none⟩

theorem string_literalExpr (holds : u.Holds s) (allowed : u.IsAllowed) :
    (literalExpr (u.write s)).string? = some s := by
  simp [literalExpr, Expr.string?, ExprForm.string?, LiteralForm.value?_write holds allowed]

theorem bindingText_unmarked (h : key ∈ keys) (literal : String) (t : List Char) :
    ((bindingText key literal).toList ++ t).head? ≠ some '\uFEFF' := by
  have all : ∀ key ∈ keys, key.toList.head?.any (· ≠ '\uFEFF') = true := by decide
  obtain ⟨c, hc, unmarked⟩ := (Option.any_eq_true _ _).1 (all key h)
  rw [bindingText_toList, String.toList_append, List.append_assoc, List.append_assoc,
    List.head?_append, hc]
  simpa using unmarked

theorem pairText_unmarked (h : key ∈ keys) (literal key' literal' : String) (comma : Bool) :
    (pairText key literal key' literal' comma).toList.head? ≠ some '\uFEFF' := by
  rw [pairText_toList]
  exact bindingText_unmarked h literal _

theorem lex_pairText (h : key ∈ keys) (h' : key' ∈ keys) (holds : u.Holds s) (holds' : v.Holds s')
    (allowed : u.IsAllowed) (allowed' : v.IsAllowed) (comma : Bool) :
    ∃ tokens, lex (pairText key (u.write s) key' (v.write s') comma) = some tokens ∧
      Argument.ofTokens? tokens =
        some [.binding (namePath (.plain key)) (literalExpr (u.write s)),
          .binding (namePath (.plain key')) (literalExpr (v.write s'))] := by
  have flat : (flatAll (pairTokens key (u.write s) key' (v.write s') comma)).map Lexeme.unspaced =
      pairLexemes key (u.write s) key' (v.write s') comma := by
    cases comma <;> rfl
  have skimmed := (reads_pair h h' holds holds' allowed allowed' comma).whole
  rw [← flat] at skimmed
  obtain ⟨tokens, lexed, alike⟩ := (lexChars_alike_iff (pairText_unmarked h _ _ _ _)).2 skimmed
  exact ⟨tokens, lexed, arguments_of_alike h h' alike⟩

theorem lex_pairText_eq_none (h : key ∈ keys) (h' : key' ∈ keys) (holds : u.Holds s)
    (refused : ¬(u.IsAllowed ∧ v.IsAllowed)) (comma : Bool) :
    lex (pairText key (u.write s) key' (v.write s') comma) = .none := by
  have skimmed := skim_pair_of_not_allowed h h' holds s' refused comma
  rw [lex, lexChars_of_head (pairText_unmarked h _ _ _ _), Option.map_eq_none_iff.1 skimmed]
  rfl

theorem lex_argumentsText_eq_none {name path : String} (hu : u.Holds name) (hv : v.Holds path)
    (refused : ¬(u.IsAllowed ∧ v.IsAllowed)) (crateFirst comma : Bool) :
    lex (argumentsText (u.write name) (v.write path) crateFirst comma) = .none := by
  cases crateFirst with
  | false => exact lex_pairText_eq_none fontNameKey_mem crateKey_mem hu refused comma
  | true =>
    have refused' : ¬(v.IsAllowed ∧ u.IsAllowed) := fun h => refused h.symm
    exact lex_pairText_eq_none crateKey_mem fontNameKey_mem hv refused' comma

theorem ofTokens_argumentsText {name path : String} (hu : u.Holds name) (hv : v.Holds path)
    (allowed : u.IsAllowed) (allowed' : v.IsAllowed) (crateFirst comma : Bool) :
    ∃ tokens, lex (argumentsText (u.write name) (v.write path) crateFirst comma) = some tokens ∧
      ofTokens tokens = { (ofFontName name).withCratePath path with tokens := tokens } := by
  have differ : fontNameKey ≠ crateKey := by decide
  have name_eq := string_literalExpr hu allowed
  have path_eq := string_literalExpr hv allowed'
  cases crateFirst with
  | false =>
    obtain ⟨tokens, lexed, read⟩ :=
      lex_pairText fontNameKey_mem crateKey_mem hu hv allowed allowed' comma
    refine ⟨tokens, lexed, ?_⟩
    simp [ofTokens, read, ofArguments, firstValue?, valueOf_namePath, differ, name_eq, crateValue,
      path_eq, ofFontName, withCratePath]
  | true =>
    obtain ⟨tokens, lexed, read⟩ :=
      lex_pairText crateKey_mem fontNameKey_mem hv hu allowed' allowed comma
    refine ⟨tokens, lexed, ?_⟩
    simp [ofTokens, read, ofArguments, firstValue?, valueOf_namePath, differ.symm, name_eq,
      crateValue, path_eq, ofFontName, withCratePath]

/-! ## The font name alone -/

theorem ofTokens_fontName {literal name : String}
    (value : Quoted.value? literal.toList = some name.toList) (spacing : Spacing) :
    ofTokens [.ident (.plain fontNameKey), .punct '=' spacing, .literal literal] =
      { ofFontName name with
        tokens := [.ident (.plain fontNameKey), .punct '=' spacing, .literal literal] } := by
  have differ : fontNameKey ≠ crateKey := by decide
  have read : Argument.ofTokens?
      [.ident (.plain fontNameKey), .punct '=' spacing, .literal literal] =
        some [.binding (namePath (.plain fontNameKey)) (literalExpr literal)] :=
    ofTokens_list ⟨[], some (literalBinding fontNameKey_mem spacing literal)⟩
  rw [ofTokens, read]
  simp [ofArguments, firstValue?, valueOf_namePath, differ, ofFontName, literalExpr, Expr.string?,
    ExprForm.string?, value]

theorem lex_bindingText (h : key ∈ keys) (holds : u.Holds s) (allowed : u.IsAllowed) :
    ∃ spacing, lex (bindingText key (u.write s)) =
      some [.ident (.plain key), .punct '=' spacing, .literal (u.write s)] := by
  have unmarked := bindingText_unmarked h (u.write s) []
  rw [List.append_nil] at unmarked
  have skimmed := (reads_binding h holds allowed).whole
  have flat : (flatAll [.ident (.plain key), .punct '=' .alone, .literal (u.write s)]).map
      Lexeme.unspaced = bindingLexemes key (u.write s) := rfl
  rw [← flat] at skimmed
  obtain ⟨tokens, lexed, alike⟩ := (lexChars_alike_iff unmarked).2 skimmed
  obtain ⟨spacing, _, rfl, alike'⟩ := exists_of_alike_binding alike
  cases eq_nil_of_alike alike'
  exact ⟨spacing, lexed⟩

/-- Arguments are tokens if no literal has too many hash signs, and then they decode to the font
name and to the path, or to the failure of that path, that were written. -/
theorem decode_argumentsText {name path : String} (hu : u.Holds name) (hv : v.Holds path)
    (crateFirst comma : Bool) :
    ((∃ tokens, lex (argumentsText (u.write name) (v.write path) crateFirst comma) = some tokens) ↔
        u.IsAllowed ∧ v.IsAllowed) ∧
      ∀ tokens, lex (argumentsText (u.write name) (v.write path) crateFirst comma) = some tokens →
        (ofTokens tokens).fontName = some name ∧
          (ofTokens tokens).runtime = ((ofFontName name).withCratePath path).runtime := by
  by_cases allowed : u.IsAllowed ∧ v.IsAllowed
  · obtain ⟨tokens, lexed, settings⟩ :=
      ofTokens_argumentsText hu hv allowed.1 allowed.2 crateFirst comma
    refine ⟨⟨fun _ => allowed, fun _ => ⟨tokens, lexed⟩⟩, fun tokens' lexed' => ?_⟩
    cases lexed.symm.trans lexed'
    rw [settings]
    exact ⟨rfl, rfl⟩
  · have refused := lex_argumentsText_eq_none hu hv allowed crateFirst comma
    rw [refused]
    exact ⟨⟨nofun, fun allowed' => absurd allowed' allowed⟩, nofun⟩

theorem decode_argumentsText_raw :
    ∃ tokens, lex (argumentsText ((LiteralForm.raw 1).write "a\"b") (LiteralForm.quoted.write "c")
        true true) = some tokens ∧
      (ofTokens tokens).fontName = some "a\"b" ∧
      (ofTokens tokens).runtime = ((ofFontName "a\"b").withCratePath "c").runtime := by
  have holds : (LiteralForm.raw 1).Holds "a\"b" := by
    simp only [LiteralForm.Holds, Quoted.IsRawText]
    decide
  have holds' : LiteralForm.quoted.Holds "c" := trivial
  obtain ⟨lexed, decoded⟩ := decode_argumentsText holds holds' true true
  obtain ⟨tokens, eq⟩ := lexed.2 ⟨by simp [LiteralForm.IsAllowed], trivial⟩
  exact ⟨tokens, eq, decoded tokens eq⟩

theorem decode_argumentsText_many :
    (LiteralForm.raw 256).Holds "x" ∧ LiteralForm.quoted.Holds "c" ∧
      ¬∃ tokens, lex (argumentsText ((LiteralForm.raw 256).write "x")
          (LiteralForm.quoted.write "c") false false) = some tokens ∧
        (ofTokens tokens).fontName = some "x" ∧
        (ofTokens tokens).runtime = ((ofFontName "x").withCratePath "c").runtime := by
  have holds : (LiteralForm.raw 256).Holds "x" := by
    simp only [LiteralForm.Holds, Quoted.IsRawText]
    decide
  have holds' : LiteralForm.quoted.Holds "c" := trivial
  refine ⟨holds, holds', ?_⟩
  rintro ⟨tokens, lexed, -⟩
  have refused := lex_argumentsText_eq_none holds holds'
    (fun allowed => absurd allowed.1 (by simp [LiteralForm.IsAllowed])) false false
  rw [refused] at lexed
  cases lexed

end Settings
end FontAccessors
