import FontAccessors.Proofs.Accessor.Expansion
import FontAccessors.Proofs.Generator.Render
import FontAccessors.Proofs.Manifest.Reader
import FontAccessors.Proofs.Yaml.Progress
import FontAccessors.Proofs.Yaml.Tree

/-!
# Font names in manifests

* `ofText_entryText`: the manifest of a text that writes one family.
* `ofText_fontName`: each font name is read as itself, except the plain words for null.
-/

namespace FontAccessors

namespace Yaml
open Lexer Text

variable {c : Char}

/-! ## Names in documents -/

theorem isOrdinary_of_isIdentContinue (h : isIdentContinue c = true) : isOrdinary c = true := by
  have none : ∀ x ∈ [' ', '\t', '\n', '\r', '\u0085', '\u2028', '\u2029', ':', '#', '\'', '"',
      '\\', '\uFEFF'], isIdentContinue x = false := by decide +kernel
  cases ordinary : isOrdinary c with
  | true => rfl
  | false =>
    have mem : c ∈ [' ', '\t', '\n', '\r', '\u0085', '\u2028', '\u2029', ':', '#', '\'', '"',
        '\\', '\uFEFF'] := by
      simpa [isOrdinary, isGap, isSpace, isBreak, imp_iff_not_or, or_assoc] using ordinary
    rw [none c mem] at h
    cases h

theorem not_isIndicator_of_isIdentContinue (h : isIdentContinue c = true) :
    isIndicator c = false := by
  have none : ∀ x, isIndicator x = true → isIdentContinue x = false := by
    simp only [isIndicator, List.contains_iff_mem]
    decide +kernel
  cases indicator : isIndicator c with
  | false => rfl
  | true =>
    rw [none c indicator] at h
    cases h

theorem isAllowed_of_isAlphanum (h : c.isAlphanum = true) : isAllowed c = true := by
  have bounds : 32 ≤ c.toNat ∧ c.toNat ≤ 126 := by
    delta Char.isAlphanum Char.isAlpha Char.isUpper Char.isLower Char.isDigit at h
    simp only [Bool.or_eq_true, Bool.and_eq_true, decide_eq_true_eq, ge_iff_le,
      UInt32.le_iff_toNat_le, Char.toNat] at h ⊢
    have ends : 'A'.val.toNat = 65 ∧ 'Z'.val.toNat = 90 ∧ 'a'.val.toNat = 97 ∧
      'z'.val.toNat = 122 ∧ '0'.val.toNat = 48 ∧ '9'.val.toNat = 57 := by decide
    omega
  simp [isAllowed, bounds]

theorem isAllowed_of_isIdentContinue (h : isIdentContinue c = true) : isAllowed c = true := by
  have tables : ∀ r ∈ identifierStarts.ranges ++ identifierMarks.ranges,
      160 ≤ r.1 ∧ (r.2 ≤ 65533 ∨ 65536 ≤ r.1) := by decide +kernel
  simp only [isIdentContinue, Bool.or_eq_true, Bool.and_eq_true, beq_iff_eq,
    CodePoints.contains_iff] at h
  rcases h with (rfl | h) | ⟨-, h⟩
  · decide
  · exact isAllowed_of_isAlphanum h
  · obtain ⟨r, mem, low, high⟩ : ∃ r ∈ identifierStarts.ranges ++ identifierMarks.ranges,
        r.1 ≤ c.toNat ∧ c.toNat ≤ r.2 := by
      rcases h with ⟨r, mem, bounds⟩ | ⟨r, mem, bounds⟩
      · exact ⟨r, List.mem_append_left _ mem, bounds⟩
      · exact ⟨r, List.mem_append_right _ mem, bounds⟩
    have range := tables r mem
    simp only [isAllowed, Bool.or_eq_true, Bool.and_eq_true, beq_iff_eq, decide_eq_true_eq]
    omega

end Yaml

namespace Manifest
open Yaml Lexer Text

variable {c : Char} {typeName x : String}

/-! ## Texts with one family -/

inductive Quoting where
  | plain
  | single
  | double
  deriving DecidableEq, Repr

def Quoting.write (s : String) : Quoting → String
  | plain => s
  | single => "'" ++ s ++ "'"
  | double => "\"" ++ s ++ "\""

/-- A manifest of one family, with a font name as it is written. -/
def entryText (typeName written : String) : String :=
  "families:\n  - type_name: " ++ typeName ++ "\n    font_name: " ++ written ++ "\n"

def isFontChar (c : Char) : Bool :=
  c.isAlphanum || c == '.'

/-- Words of letters, digits and dots, with a space between each two. -/
def IsFontText (x : String) : Prop :=
  ∃ words : List (List Char), words ≠ [] ∧
    (∀ w ∈ words, w ≠ [] ∧ ∀ c ∈ w, isFontChar c = true) ∧ x = String.ofList (spaced words)

theorem isFontChar_ordinary (h : isFontChar c = true) :
    isOrdinary c = true ∧ isIndicator c = false ∧ isAllowed c = true := by
  rcases Bool.or_eq_true _ _ ▸ h with letter | dot
  · have part : isIdentContinue c = true := by simp [isIdentContinue, letter]
    exact ⟨isOrdinary_of_isIdentContinue part, not_isIndicator_of_isIdentContinue part,
      isAllowed_of_isAlphanum letter⟩
  · rw [beq_iff_eq.1 dot]
    decide

theorem isLine_fontText {words : List (List Char)} (nonempty : words ≠ [])
    (chars : ∀ w ∈ words, w ≠ [] ∧ ∀ c ∈ w, isFontChar c = true) : IsLine words :=
  ⟨nonempty, fun w mem =>
    ⟨(chars w mem).1, fun c mem' => (isFontChar_ordinary ((chars w mem).2 c mem')).1⟩⟩

/-! ## Tokens -/

def entryKinds (typeName : String) (isPlain : Bool) (x : String) : List TokenKind :=
  [.blockMappingStart, .key, .scalar true familiesKey, .value, .blockSequenceStart, .blockEntry,
    .blockMappingStart, .key, .scalar true typeNameKey, .value, .scalar true typeName,
    .key, .scalar true fontNameKey, .value, .scalar isPlain x, .blockEnd, .blockEnd, .blockEnd,
    .streamEnd]

theorem isKeyWord_families : IsKeyWord familiesKey.toList :=
  ⟨by decide, by decide, by decide, by decide⟩

theorem isKeyWord_typeName : IsKeyWord typeNameKey.toList :=
  ⟨by decide, by decide, by decide, by decide⟩

theorem isKeyWord_fontName : IsKeyWord fontNameKey.toList :=
  ⟨by decide, by decide, by decide, by decide⟩

def entryChars (typeName rest : List Char) : List Char :=
  familiesKey.toList ++ ':' :: '\n' :: ' ' :: ' ' :: '-' :: ' ' :: (typeNameKey.toList ++ ':' ::
    ' ' :: (typeName ++ '\n' :: (List.replicate 4 ' ' ++ (fontNameKey.toList ++ ':' :: rest))))

theorem reaches_typeName (rest : List Char) (gap : atGapOrEnd rest = true) :
    ∃ n, 4 ≤ n ∧ Reaches (familiesKey.toList ++ ':' :: '\n' :: ' ' :: ' ' :: '-' :: ' ' ::
        (typeNameKey.toList ++ ':' :: rest)) rest n [4, 2, 0] false
      [.blockMappingStart, .key, .scalar true familiesKey, .value, .blockSequenceStart,
        .blockEntry, .blockMappingStart, .key, .scalar true typeNameKey, .value] := by
  have families := (Reaches.start (familiesKey.toList ++ ':' :: '\n' :: ' ' :: ' ' :: '-' :: ' ' ::
    (typeNameKey.toList ++ ':' :: rest))).key (.word isKeyWord_families true 0 _)
      isKeyWord_families rfl nofun
  have entry := families.entry (.line (.space (.space (.stop rfl true 2 _)))) rfl (by decide)
    (by simp [keyColumns])
  have typeName := entry.key (.space (.word isKeyWord_typeName true 4 _)) isKeyWord_typeName gap
    (by simp)
  refine ⟨_, ?_, by simpa [keyColumns, keyOpening] using typeName⟩
  omega

theorem isIdentContinue_of_mem (named : IsPlainName typeName) (mem : c ∈ typeName.toList) :
    isIdentContinue c = true := by
  obtain ⟨identifier, -⟩ := named
  cases chars : typeName.toList with
  | nil => simp [chars] at mem
  | cons d ds =>
    rw [chars, isIdentifier, Bool.and_eq_true, List.all_eq_true] at identifier
    rw [chars, List.mem_cons] at mem
    rcases mem with rfl | mem
    · exact isIdentContinue_of_isIdentStart identifier.1
    · exact identifier.2 c mem

theorem isLine_name (named : IsPlainName typeName) : IsLine [typeName.toList] := by
  refine ⟨List.cons_ne_nil _ _, ?_⟩
  rw [List.forall_mem_singleton]
  refine ⟨fun empty => ?_, fun c mem =>
    isOrdinary_of_isIdentContinue (isIdentContinue_of_mem named mem)⟩
  have identifier := named.1
  rw [empty] at identifier
  cases identifier

theorem readPlain_nextKey {w : List Char} (word : IsKeyWord w) (cs : List Char) (m : Mark) :
    ∃ m' : Mark, m'.column = 4 ∧
      readPlain false 5 m .none ('\n' :: (List.replicate 4 ' ' ++ (w ++ cs))) =
        some ⟨[], ⟨w ++ cs, m'⟩, true⟩ := by
  obtain ⟨d, w, rfl⟩ := List.exists_cons_of_ne_nil word.nonempty
  refine ⟨(m.down 1).past (List.replicate 4 ' '), by simp [Mark.past_column, Mark.down], ?_⟩
  exact readPlain_line (by decide)
    (not_isGap_of_isOrdinary (word.ordinary d List.mem_cons_self))

theorem reaches_fontName (named : IsPlainName typeName) (rest : List Char)
    (gap : atGapOrEnd rest = true) :
    ∃ n, 4 ≤ n ∧ Reaches (entryChars typeName.toList rest) rest n [4, 2, 0] false
      [.blockMappingStart, .key, .scalar true familiesKey, .value, .blockSequenceStart,
        .blockEntry, .blockMappingStart, .key, .scalar true typeNameKey, .value,
        .scalar true typeName, .key, .scalar true fontNameKey, .value] := by
  obtain ⟨n, inside, before⟩ := reaches_typeName (' ' :: (spaced [typeName.toList] ++ '\n' ::
    (List.replicate 4 ' ' ++ (fontNameKey.toList ++ ':' :: rest)))) rfl
  have unmarked : ∀ w ∈ [typeName.toList], ∀ c ∈ w, isIndicator c = false := by
    simpa using fun c mem => not_isIndicator_of_isIdentContinue (isIdentContinue_of_mem named mem)
  have name := Reaches.plain (isLine_name named) unmarked before inside
    (readPlain_nextKey isKeyWord_fontName (':' :: rest))
    (by simp only [List.length_cons, List.length_append]; omega)
  have font := name.key (.word isKeyWord_fontName true 4 _) isKeyWord_fontName gap (by simp)
  rw [spaced_singleton] at font
  refine ⟨_, ?_, by simpa [entryChars, keyColumns, keyOpening] using font⟩
  omega

theorem reaches_end {words : List (List Char)} {s : List Char} {n : Nat} {kinds : List TokenKind}
    (nonempty : words ≠ []) (chars : ∀ w ∈ words, w ≠ [] ∧ ∀ c ∈ w, isFontChar c = true)
    (q : Quoting) (inside : 4 ≤ n)
    (h : Reaches s (' ' :: ((q.write (String.ofList (spaced words))).toList ++ ['\n'])) n
      [4, 2, 0] false kinds) :
    (run (start s)).ready.reverse.map Token.kind = kinds ++
      [.scalar (q = .plain) (String.ofList (spaced words)), .blockEnd, .blockEnd, .blockEnd,
        .streamEnd] := by
  have line := isLine_fontText nonempty chars
  have level : ∀ i ∈ [4, 2, 0].head?, i ≤ n := by simpa using inside
  cases q with
  | plain =>
    have unmarked : ∀ w ∈ words, ∀ c ∈ w, isIndicator c = false :=
      fun w mem c mem' => (isFontChar_ordinary ((chars w mem).2 c mem')).2.1
    rw [Quoting.write, String.toList_ofList] at h
    -- A plain scalar takes the line break behind it along, a quoted one leaves it to the blanks.
    have ends : ∀ m, ∃ m' : Mark, m'.column = 0 ∧
        readPlain false 5 m .none ['\n'] = some ⟨[], ⟨[], m'⟩, true⟩ :=
      fun m => ⟨_, rfl, readPlain_last⟩
    have last := Reaches.plain line unmarked h inside ends (Nat.zero_le _)
    simpa using last.finish (.nil true 0)
  | single =>
    have h : Reaches s (' ' :: '\'' :: (spaced words ++ '\'' :: ['\n'])) n [4, 2, 0] false
        kinds := by
      simpa [Quoting.write] using h
    obtain ⟨k, last⟩ := Reaches.quoted line takesWords_single rfl step_single
      (fun m => readSingle_quote (by decide)) h level
    simpa using last.finish (.line (.nil true 0))
  | double =>
    have h : Reaches s (' ' :: '"' :: (spaced words ++ '"' :: ['\n'])) n [4, 2, 0] false
        kinds := by
      simpa [Quoting.write] using h
    obtain ⟨k, last⟩ := Reaches.quoted line takesWords_double rfl step_double
      (fun m => readDouble_quote) h level
    simpa using last.finish (.line (.nil true 0))

theorem toList_entryText (typeName written : String) :
    (entryText typeName written).toList =
      entryChars typeName.toList (' ' :: (written.toList ++ ['\n'])) := by
  have front : "families:\n  - type_name: ".toList = familiesKey.toList ++ ':' :: '\n' :: ' ' ::
    ' ' :: '-' :: ' ' :: (typeNameKey.toList ++ [':', ' ']) := by decide +kernel
  have middle : "\n    font_name: ".toList =
    '\n' :: (List.replicate 4 ' ' ++ (fontNameKey.toList ++ [':', ' '])) := by decide +kernel
  have last : "\n".toList = ['\n'] := by decide
  delta entryText
  simp only [String.toList_append, front, middle, last, entryChars, List.append_assoc,
    List.cons_append, List.nil_append]

theorem isAllowed_spaced {words : List (List Char)}
    (h : ∀ w ∈ words, ∀ c ∈ w, isAllowed c = true) : (spaced words).all isAllowed = true := by
  induction words with
  | nil => rfl
  | cons w words ih =>
    obtain ⟨first, rest⟩ := List.forall_mem_cons.1 h
    cases words with
    | nil => simpa [spaced_singleton] using first
    | cons v words =>
      have allowed : isAllowed ' ' = true := rfl
      rw [spaced_cons_cons, List.all_append, List.all_cons, ih rest, List.all_eq_true.2 first,
        allowed]
      rfl

theorem isAllowed_entryText (named : IsPlainName typeName) (q : Quoting) (h : IsFontText x) :
    (entryText typeName (q.write x)).toList.all isAllowed = true := by
  have front : "families:\n  - type_name: ".toList.all isAllowed = true := by decide +kernel
  have middle : "\n    font_name: ".toList.all isAllowed = true := by decide +kernel
  have last : "\n".toList.all isAllowed = true := by decide +kernel
  have name : typeName.toList.all isAllowed = true := List.all_eq_true.2 fun c mem =>
    isAllowed_of_isIdentContinue (isIdentContinue_of_mem named mem)
  have font : (q.write x).toList.all isAllowed = true := by
    obtain ⟨words, -, chars, rfl⟩ := h
    have text := isAllowed_spaced fun w mem c mem' =>
      (isFontChar_ordinary ((chars w mem).2 c mem')).2.2
    have single : "'".toList.all isAllowed = true := rfl
    have double : "\"".toList.all isAllowed = true := rfl
    cases q <;> simp only [Quoting.write, String.toList_append, String.toList_ofList,
      List.all_append, text, single, double, Bool.and_self]
  delta entryText
  simp only [String.toList_append, List.all_append, front, middle, last, name, font,
    Bool.and_self]

theorem tokens_entryText (named : IsPlainName typeName) (q : Quoting) (h : IsFontText x) :
    (tokensOf (entryText typeName (q.write x))).map Token.kind =
      entryKinds typeName (q = .plain) x := by
  rw [tokensOf, if_pos (isAllowed_entryText named q h), toList_entryText]
  obtain ⟨words, nonempty, chars, rfl⟩ := h
  obtain ⟨n, inside, reaches⟩ := reaches_fontName named
    (' ' :: ((q.write (String.ofList (spaced words))).toList ++ ['\n'])) rfl
  exact reaches_end nonempty chars q inside reaches

/-! ## What the text says -/

def entryNode (mark : Nat → Mark) (typeName : String) (isPlain : Bool) (x : String) : Node :=
  .mapping (mark 0) [(.scalar (mark 2) none true familiesKey, .sequence (mark 4)
    [.mapping (mark 6) [(.scalar (mark 8) none true typeNameKey,
        .scalar (mark 10) none true typeName),
      (.scalar (mark 12) none true fontNameKey, .scalar (mark 14) none isPlain x)]])]

theorem entryNode_spelled (mark stop : Nat → Mark) (typeName : String) (isPlain : Bool)
    (x : String) : ∃ ts last, last.kind = .streamEnd ∧
      (entryKinds typeName isPlain x).mapIdx (fun i k => ⟨k, mark i, stop i⟩) = ts ++ [last] ∧
        Spells (entryNode mark typeName isPlain x) ts := by
  have family := Spells.mapping (mark 6) (stop 6) (mark 15) (stop 15)
    (.cons (mark 7) (stop 7) (mark 9) (stop 9) (.scalar (mark 8) (stop 8) true typeNameKey)
      (.scalar (mark 10) (stop 10) true typeName)
      (.cons (mark 11) (stop 11) (mark 13) (stop 13) (.scalar (mark 12) (stop 12) true fontNameKey)
        (.scalar (mark 14) (stop 14) isPlain x) .nil))
  have families := Spells.sequence (mark 4) (stop 4) (mark 16) (stop 16)
    (.cons (mark 5) (stop 5) family .nil)
  have whole := Spells.mapping (mark 0) (stop 0) (mark 17) (stop 17)
    (.cons (mark 1) (stop 1) (mark 3) (stop 3) (.scalar (mark 2) (stop 2) true familiesKey)
      families .nil)
  refine ⟨_, ⟨.streamEnd, mark 18, stop 18⟩, rfl, ?_, whole⟩
  simp [entryKinds, List.mapIdx_cons]

theorem holdsManifest_entryNode (mark : Nat → Mark) {isPlain : Bool} {font : Option String}
    (h : optional? (.scalar (mark 14) none isPlain x) = some font) :
    HoldsManifest (entryNode mark typeName isPlain x) ⟨none, [⟨typeName, font⟩]⟩ := by
  have other : fontNameKey ≠ typeNameKey := by decide
  have other' : familiesKey ≠ cratePathKey := by decide
  have family : HoldsFamily (.mapping (mark 6) [(.scalar (mark 8) none true typeNameKey,
        .scalar (mark 10) none true typeName),
      (.scalar (mark 12) none true fontNameKey, .scalar (mark 14) none isPlain x)])
      ⟨typeName, font⟩ := by
    refine ⟨_, rfl, ?_, ⟨.scalar (mark 10) none true typeName, ?_, rfl⟩, ?_⟩
    · simp [Sound, text?, familyKeys]
    · simp [valuesOf, text?, other]
    · simpa [valuesOf, text?, other.symm, Takes, SaysOptional] using h
  refine ⟨_, rfl, ?_, ?_, ?_⟩
  · simp [Sound, text?, manifestKeys]
  · simp [valuesOf, text?, other', Takes]
  · simpa [valuesOf, text?, Takes, HoldsFamilies, items?] using family

/-! ## Font names -/

def nullWords : List String :=
  ["null", "Null", "NULL"]

theorem isFontChar_first (h : IsFontText x) :
    ∃ c cs, x.toList = c :: cs ∧ isFontChar c = true := by
  obtain ⟨words, nonempty, chars, rfl⟩ := h
  obtain ⟨c, cs, text, -, w, mem, mem'⟩ := (isLine_fontText nonempty chars).exists_first
  exact ⟨c, cs, by rw [String.toList_ofList, text], (chars w mem).2 c mem'⟩

theorem isNullWord_fontText (h : IsFontText x) :
    (x.isEmpty || isNullWord x) = decide (x ∈ nullWords) := by
  obtain ⟨c, cs, text, font⟩ := isFontChar_first h
  have nonempty : x.isEmpty = false := by
    rw [Bool.eq_false_iff]
    intro empty
    rw [String.isEmpty_iff.1 empty] at text
    cases text
  have tilde : x ≠ "~" := by
    rintro rfl
    cases text
    cases font
  simp [isNullWord, nullWords, nonempty, tilde, Bool.beq_eq_decide_eq, Bool.or_assoc]

theorem optional_fontText (h : IsFontText x) (mark : Mark) (q : Quoting) :
    optional? (.scalar mark none (q = .plain) x) =
      some (if q = .plain ∧ x ∈ nullWords then none else some x) := by
  cases q with
  | plain =>
    have plain : optional? (.scalar mark none true x) =
      some (if x.isEmpty || isNullWord x then none else some x) := rfl
    simpa [isNullWord_fontText h] using plain
  | single => rfl
  | double => rfl

theorem ofText_entryText (named : IsPlainName typeName) (q : Quoting) (h : IsFontText x) :
    ofText (entryText typeName (q.write x)) =
      .ok ⟨none, [⟨typeName, if q = .plain ∧ x ∈ nullWords then none else some x⟩]⟩ := by
  obtain ⟨mark, stop, tokens⟩ := exists_marks (tokensOf (entryText typeName (q.write x)))
  rw [tokens_entryText named q h] at tokens
  obtain ⟨ts, last, ends, split, spelled⟩ :=
    entryNode_spelled mark stop typeName (q = .plain) x
  obtain ⟨root, complete⟩ := ofTokens_spelled spelled ends
  rw [← split, ← tokens] at root complete
  exact (ofDocument_ok_iff root rfl).2
    ⟨holdsManifest_entryNode mark (optional_fontText h (mark 14) q), complete⟩

/-! ## Rendering -/

theorem render_named {path : String} (isPath : Module.IsCratePath path)
    (named : IsPlainName typeName) (font : String) :
    Module.render [⟨typeName, some font⟩] path = .ok (Module.text path [⟨typeName, font⟩]) := by
  have name : (Grammar.nameOfText? typeName).isSome = true := by
    rw [(nameOfText_plain named).1]
    rfl
  exact Module.render_ok_iff.2 ⟨Module.isCratePath_iff.1 isPath, [⟨typeName, font⟩], rfl,
    by simpa using name, by simp, rfl⟩

theorem render_nameless {path : String} (isPath : Module.IsCratePath path)
    (named : IsPlainName typeName) :
    Module.render [⟨typeName, none⟩] path = .error .missingFontName := by
  have name : Module.IsTypeName typeName := by
    rw [Module.isTypeName_iff, (nameOfText_plain named).1]
    rfl
  exact Module.render_refused isPath (.noFont name rfl)

theorem isCratePath_default : Module.IsCratePath Settings.defaultCratePath := by
  rw [Module.isCratePath_iff]
  decide +kernel

/-- A font name of words is read as it is written, whatever it looks like, except that a null word
without quotes stands for no name. A module is written with the name that was read, and there is
none for want of a name just where none was read. -/
theorem ofText_fontName (named : IsPlainName typeName) (words : IsFontText x) (q : Quoting) :
    ∃ font : Option String,
      ofText (entryText typeName (q.write x)) = .ok ⟨none, [⟨typeName, font⟩]⟩ ∧
        (font = none ∨ font = some x) ∧ (font = none ↔ q = .plain ∧ x ∈ nullWords) ∧
        ∀ path requested tree, tree.read path = .ok (entryText typeName (q.write x)).toUTF8 →
          (∀ crate ∈ requested, Module.IsCratePath crate) →
            (font = some x → Generator.outcome (.manifest path) requested tree =
              .ok (Module.text (requested.getD Settings.defaultCratePath) [⟨typeName, x⟩])) ∧
            (Generator.outcome (.manifest path) requested tree =
              .error (.refused .missingFontName) ↔ font = none) := by
  refine ⟨_, ofText_entryText named q words, ?_, ?_, fun path requested tree read valid => ?_⟩
  · split <;> simp
  · simp
  · have isPath : Module.IsCratePath (requested.getD Settings.defaultCratePath) := by
      cases requested with
      | none => exact isCratePath_default
      | some crate => exact valid crate rfl
    have precedence : (requested.or none).getD "::fontsgen" =
        requested.getD Settings.defaultCratePath := by
      rw [Option.or_none]
      rfl
    rw [Generator.outcome_manifest (.of_read read (ofText_entryText named q words)) precedence]
    by_cases null : q = .plain ∧ x ∈ nullWords
    · rw [if_pos null, render_nameless isPath named]
      simp [Except.mapError]
    · rw [if_neg null, render_named isPath named]
      simp [Except.mapError]

def exampleTree (text : String) : FileTree :=
  FileTree.empty.put ⟨.above 0, ["fonts.yaml"]⟩ (.file text.toUTF8)

theorem ofText_fontName_number :
    ofText (entryText "Menlo" "1e3 No") = .ok ⟨none, [⟨"Menlo", some "1e3 No"⟩]⟩ ∧
      ofText (entryText "Menlo" "null") = .ok ⟨none, [⟨"Menlo", none⟩]⟩ ∧
      Generator.outcome (.manifest "fonts.yaml") none (exampleTree (entryText "Menlo" "null")) =
        .error (.refused .missingFontName) := by
  have named : IsPlainName "Menlo" := ⟨by decide +kernel, by decide⟩
  have number : IsFontText "1e3 No" :=
    ⟨[['1', 'e', '3'], ['N', 'o']], by decide, by decide, by decide⟩
  have null : IsFontText "null" := ⟨[['n', 'u', 'l', 'l']], by decide, by decide, by decide⟩
  obtain ⟨font, read, either, missing, -⟩ := ofText_fontName named number .plain
  obtain ⟨font', read', -, missing', rendered⟩ := ofText_fontName named null .plain
  have given : font = some "1e3 No" := either.resolve_left (mt missing.1 (by decide))
  have lost : font' = none := missing'.2 (by decide)
  have file : (exampleTree (entryText "Menlo" "null")).read "fonts.yaml" =
    .ok (entryText "Menlo" "null").toUTF8 := by decide +kernel
  subst given lost
  exact ⟨read, read', (rendered "fonts.yaml" none _ file nofun).2.2 rfl⟩

end Manifest
end FontAccessors
