import FontAccessors.Proofs.Accessor.Printed
import FontAccessors.Proofs.Text.CamelCase

namespace FontAccessors
open Text

theorem ofName_ok_iff {s : String} :
    (∃ i, Ident.ofName s = .ok i) ↔ isIdentifier s.toList = true := by
  constructor
  · rintro ⟨i, h⟩
    rw [Ident.ofName] at h
    split at h
    · cases h
    split at h
    · cases h
    split at h
    · assumption
    · cases h
  · exact fun h => ⟨_, ofName_of_isIdentifier h⟩

def IsAsciiName : List Char → Prop
  | [] => False
  | c :: cs => (c.isAlpha = true ∨ c = '_') ∧ ∀ d ∈ cs, d.isAlphanum = true ∨ d = '_'

section

variable {c : Char} {cs : List Char}

theorem isIdentStart_ascii (ascii : isAscii c = true) :
    isIdentStart c = true ↔ c.isAlpha = true ∨ c = '_' := by
  simp [isIdentStart, ascii, or_comm]

theorem isIdentContinue_ascii (ascii : isAscii c = true) :
    isIdentContinue c = true ↔ c.isAlphanum = true ∨ c = '_' := by
  simp [isIdentContinue, ascii, or_comm]

theorem isIdentifier_iff (ascii : ∀ c ∈ cs, isAscii c = true) :
    isIdentifier cs = true ↔ IsAsciiName cs := by
  cases cs with
  | nil => simp [isIdentifier, IsAsciiName]
  | cons c cs =>
    obtain ⟨first, rest⟩ := List.forall_mem_cons.1 ascii
    rw [isIdentifier, Bool.and_eq_true, isIdentStart_ascii first, List.all_eq_true]
    exact and_congr_right fun _ => forall₂_congr fun d mem => isIdentContinue_ascii (rest d mem)

theorem isAscii_unhyphenated (ascii : isAscii c = true) : isAscii (unhyphenated c) = true := by
  rw [unhyphenated]
  split
  · rfl
  · exact ascii

theorem isIdentStart_toLower (ascii : isAscii c = true) :
    isIdentStart (unhyphenated c.toLower) = isIdentStart (unhyphenated c) := by
  have each : ∀ c, isAscii c = true →
      isIdentStart (unhyphenated c.toLower) = isIdentStart (unhyphenated c) :=
    forall_ascii (by decide)
  exact each c ascii

theorem isIdentContinue_toLower (ascii : isAscii c = true) :
    isIdentContinue (unhyphenated c.toLower) = isIdentContinue (unhyphenated c) := by
  have each : ∀ c, isAscii c = true →
      isIdentContinue (unhyphenated c.toLower) = isIdentContinue (unhyphenated c) :=
    forall_ascii (by decide)
  exact each c ascii

theorem continues_snakeChars (ascii : ∀ c ∈ cs, isAscii c = true) (afterWord : Bool) :
    (snakeChars afterWord cs).all isIdentContinue =
      (cs.map unhyphenated).all isIdentContinue := by
  induction cs generalizing afterWord with
  | nil => rfl
  | cons c cs ih =>
    obtain ⟨first, rest⟩ := List.forall_mem_cons.1 ascii
    have underscore : isIdentContinue '_' = true := rfl
    rw [snakeChars_cons first, List.all_append, List.all_cons, List.map_cons, List.all_cons,
      ih rest, isIdentContinue_toLower first]
    split <;> simp [underscore]

theorem isIdentifier_snakeChars (ascii : ∀ c ∈ cs, isAscii c = true) :
    isIdentifier (snakeChars false cs) = isIdentifier (cs.map unhyphenated) := by
  cases cs with
  | nil => rfl
  | cons c cs =>
    obtain ⟨first, rest⟩ := List.forall_mem_cons.1 ascii
    rw [snakeChars_cons first, Bool.false_and, if_neg Bool.false_ne_true, List.nil_append,
      List.map_cons, isIdentifier, isIdentifier, isIdentStart_toLower first,
      continues_snakeChars rest]

theorem isIdentifier_pascalChars (ascii : ∀ c ∈ cs, isAscii c = true) :
    isIdentifier (pascalChars cs) = isIdentifier cs := by
  cases cs with
  | nil => rfl
  | cons c cs =>
    have each : ∀ c, isAscii c = true → isIdentStart c.toUpper = isIdentStart c :=
      forall_ascii (by decide)
    obtain ⟨first, -⟩ := List.forall_mem_cons.1 ascii
    rw [pascalChars, upperCase, if_pos first, List.singleton_append, isIdentifier, isIdentifier,
      each c first]

end

namespace Style

variable {s : Style}

theorem functionIdent_ok_iff (ascii : ∀ c ∈ s.accessor.toList, isAscii c = true) :
    (∃ i, s.functionIdent = .ok i) ↔ IsAsciiName (s.accessor.toList.map unhyphenated) := by
  have ascii' : ∀ c ∈ s.accessor.toList.map unhyphenated, isAscii c = true :=
    List.forall_mem_map.2 fun c mem => isAscii_unhyphenated (ascii c mem)
  rw [functionIdent, ofName_ok_iff, functionName, snakeCase, String.toList_ofList,
    isIdentifier_snakeChars ascii, isIdentifier_iff ascii']

theorem variantIdent_ok_iff (ascii : ∀ c ∈ s.token.toList, isAscii c = true) :
    (∃ i, s.variantIdent = .ok i) ↔ IsAsciiName s.token.toList := by
  rw [variantIdent, ofName_ok_iff, variantName, pascalCase, String.toList_ofList,
    isIdentifier_pascalChars ascii, isIdentifier_iff ascii]

end Style

theorem exists_error_iff {α ε : Type} {x : Except ε α} : (∃ e, x = .error e) ↔ ¬∃ a, x = .ok a := by
  cases x <;> simp

section

variable {s : Style} {fontName : String} {runtime : List Token} {e : NameError}

theorem tokens_styled_error_iff : (Accessor.styled s fontName).tokens runtime = .error e ↔
    s.functionIdent = .error e ∨ (∃ i, s.functionIdent = .ok i) ∧ s.variantIdent = .error e := by
  rw [Accessor.tokens_styled_bind]
  cases s.functionIdent with
  | error e' => simp [Except.bind]
  | ok i =>
    cases s.variantIdent with
    | error e' => simp [Except.bind]
    | ok v => simp [Except.bind]

end

/-- A row is refused just where its accessor's name, with underscores for hyphens, or the name of
its text style is none. If both are none, the refusal is that of the function. Neither the font's
name nor the path of the crate matters, and the accessor that takes a size is never refused. -/
theorem accessors_refused (s : Style) (function : ∀ c ∈ s.accessor.toList, isAscii c = true)
    (variant : ∀ c ∈ s.token.toList, isAscii c = true) :
    ((∃ i, s.functionIdent = .ok i) ↔ IsAsciiName (s.accessor.toList.map unhyphenated)) ∧
      ((∃ i, s.variantIdent = .ok i) ↔ IsAsciiName s.token.toList) ∧
      ∀ fontName runtime,
        ((∃ e, (Accessor.styled s fontName).tokens runtime = .error e) ↔
          ¬IsAsciiName (s.accessor.toList.map unhyphenated) ∨ ¬IsAsciiName s.token.toList) ∧
        (∀ e, (Accessor.styled s fontName).tokens runtime = .error e ↔ s.functionIdent = .error e ∨
          (∃ i, s.functionIdent = .ok i) ∧ s.variantIdent = .error e) ∧
        ∃ ts, (Accessor.sized fontName).tokens runtime = .ok ts := by
  have functions := Style.functionIdent_ok_iff function
  have variants := Style.variantIdent_ok_iff variant
  refine ⟨functions, variants, fun fontName runtime => ⟨?_, fun e => tokens_styled_error_iff,
    _, tokens_sized fontName runtime⟩⟩
  simp only [tokens_styled_error_iff, exists_or, exists_and_left, exists_error_iff, functions,
    variants]
  tauto

theorem accessors_refused_hyphen :
    (∀ c ∈ "my-field".toList, isAscii c = true) ∧
      (⟨"my-field", 12, "my-field"⟩ : Style).functionIdent = .ok (.plain "my_field") ∧
      ∀ fontName runtime, (Accessor.styled ⟨"my-field", 12, "my-field"⟩ fontName).tokens runtime =
        .error (.invalid "My-field") := by
  have ascii : ∀ c ∈ "my-field".toList, isAscii c = true := by decide
  obtain ⟨-, -, tokens⟩ := accessors_refused ⟨"my-field", 12, "my-field"⟩ ascii ascii
  have function :
      (⟨"my-field", 12, "my-field"⟩ : Style).functionIdent = .ok (.plain "my_field") := by
    decide +kernel
  refine ⟨ascii, function, fun fontName runtime => ((tokens fontName runtime).2.1 _).2 ?_⟩
  exact .inr ⟨⟨_, function⟩, by decide +kernel⟩

end FontAccessors
