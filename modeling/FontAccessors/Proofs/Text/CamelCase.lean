import FontAccessors.Accessor.Style
import Mathlib.Data.List.Chain
import Mathlib.Data.List.Nodup

namespace FontAccessors

namespace Text

variable {c : Char}

theorem forall_ascii {p : Char → Prop} (h : ∀ n < 128, p (Char.ofNat n)) :
    ∀ c, isAscii c = true → p c := by
  intro c ascii
  have small : c.toNat < 128 := of_decide_eq_true ascii
  rw [← Char.ofNat_toNat c]
  exact h _ small

theorem isAscii_of_isAlphanum (h : c.isAlphanum = true) : isAscii c = true := by
  delta Char.isAlphanum Char.isAlpha Char.isUpper Char.isLower Char.isDigit at h
  simp only [Bool.or_eq_true, Bool.and_eq_true, decide_eq_true_eq, ge_iff_le,
    UInt32.le_iff_toNat_le] at h
  have ends : 'Z'.val.toNat = 90 ∧ 'z'.val.toNat = 122 ∧ '9'.val.toNat = 57 := by decide
  refine decide_eq_true ?_
  rw [Char.toNat]
  omega

theorem isAscii_of_isUpper (h : c.isUpper = true) : isAscii c = true := by
  refine isAscii_of_isAlphanum ?_
  show (c.isUpper || c.isLower || c.isDigit) = true
  rw [h]
  rfl

@[simp] theorem isUpperCase_ascii (ascii : isAscii c = true) : isUpperCase c = c.isUpper := by
  simp [isUpperCase, ascii]

@[simp] theorem isLowerCase_ascii (ascii : isAscii c = true) : isLowerCase c = c.isLower := by
  simp [isLowerCase, ascii]

@[simp] theorem lowerCase_ascii (ascii : isAscii c = true) : lowerCase c = [c.toLower] := by
  simp [lowerCase, ascii]

theorem toUpper_toLower (h : c.isUpper = true) : c.toLower.toUpper = c := by
  have each : ∀ c, isAscii c = true → c.isUpper = true → c.toLower.toUpper = c :=
    forall_ascii (by decide)
  exact each c (isAscii_of_isUpper h) h

def unhyphenated (c : Char) : Char :=
  if c = '-' then '_' else c

section

variable {cs : List Char}

theorem snakeChars_cons (ascii : isAscii c = true) (afterWord : Bool) :
    snakeChars afterWord (c :: cs) = (if afterWord && c.isUpper then ['_'] else []) ++
      unhyphenated c.toLower :: snakeChars (c.isLower || c.isDigit) cs := by
  have capitals : ∀ c, isAscii c = true → c.isUpper = true →
      unhyphenated c.toLower = c.toLower ∧ (c.isLower || c.isDigit) = false :=
    forall_ascii (by decide)
  have others : ∀ c, isAscii c = true → c.isUpper = false → c.toLower = c :=
    forall_ascii (by decide)
  rw [snakeChars, isUpperCase_ascii ascii, isLowerCase_ascii ascii, lowerCase_ascii ascii]
  cases capital : c.isUpper with
  | true =>
    obtain ⟨same, noWord⟩ := capitals c ascii capital
    rw [if_pos rfl, same, noWord, Bool.and_true, List.append_assoc]
    rfl
  | false =>
    rw [if_neg Bool.false_ne_true, Bool.and_false, if_neg Bool.false_ne_true,
      others c ascii capital, List.nil_append, unhyphenated]
    by_cases hyphen : c = '-'
    · rw [if_pos hyphen, if_pos hyphen, hyphen]
      rfl
    · rw [if_neg hyphen, if_neg hyphen]

def camelChars : List Char → List Char
  | '_' :: c :: cs => c.toUpper :: camelChars cs
  | c :: cs => c :: camelChars cs
  | [] => []

theorem camelChars_cons (h : c ≠ '_') : camelChars (c :: cs) = c :: camelChars cs := by
  rw [camelChars.eq_def]
  split
  · rename_i eq
    exact absurd (List.cons.inj eq).1 h
  · rename_i eq
    cases eq
    rfl
  · rename_i eq
    cases eq

def Apart (cs : List Char) : Prop :=
  cs.IsChain fun c d => ¬(c.isUpper = true ∧ d.isUpper = true)

instance (cs : List Char) : Decidable (Apart cs) :=
  inferInstanceAs (Decidable (cs.IsChain _))

theorem camelChars_snakeChars {afterWord : Bool} (alphanumeric : ∀ c ∈ cs, c.isAlphanum = true)
    (apart : Apart cs) (front : afterWord = false → ∀ c ∈ cs.head?, c.isUpper = false) :
    camelChars (snakeChars afterWord cs) = cs := by
  induction cs generalizing afterWord with
  | nil => rfl
  | cons c cs ih =>
    have rest : ∀ d ∈ cs, d.isAlphanum = true := fun d mem =>
      alphanumeric d (List.mem_cons_of_mem c mem)
    obtain ⟨next, apart'⟩ := List.isChain_cons.1 apart
    have letter := alphanumeric c List.mem_cons_self
    have ascii := isAscii_of_isAlphanum letter
    have noHyphen : unhyphenated c.toLower = c.toLower := by
      have each : ∀ c, isAscii c = true → c.isAlphanum = true → c.toLower ≠ '-' :=
        forall_ascii (by decide)
      exact if_neg (each c ascii letter)
    rw [snakeChars_cons ascii, noHyphen]
    cases capital : c.isUpper with
    | true =>
      -- The capital got an underscore, which makes it a capital again.
      have word : afterWord = true := by
        cases afterWord with
        | true => rfl
        | false => exact absurd capital (by rw [front rfl c rfl]; exact Bool.false_ne_true)
      have recovered : camelChars (snakeChars (c.isLower || c.isDigit) cs) = cs :=
        ih rest apart' fun _ d mem => Bool.eq_false_iff.2 fun other => next d mem ⟨capital, other⟩
      rw [word, Bool.and_true, if_pos rfl, List.singleton_append, camelChars, recovered,
        toUpper_toLower capital]
    | false =>
      have each : ∀ c, isAscii c = true → c.isAlphanum = true → c.isUpper = false →
          c.toLower = c ∧ c ≠ '_' ∧ (c.isLower || c.isDigit) = true := forall_ascii (by decide)
      obtain ⟨same, noUnderscore, word⟩ := each c ascii letter capital
      have recovered : camelChars (snakeChars (c.isLower || c.isDigit) cs) = cs :=
        ih rest apart' fun noWord => absurd (word.symm.trans noWord) (by decide)
      rw [Bool.and_false, if_neg Bool.false_ne_true, List.nil_append, same,
        camelChars_cons noUnderscore, recovered]

end

/-- A name in camel case: letters and digits, a small letter first, and no capital after another
one. -/
structure IsCamelCase (name : String) : Prop where
  alphanumeric : ∀ c ∈ name.toList, c.isAlphanum = true
  first : name.toList.head?.any Char.isLower = true
  apart : Apart name.toList

instance (name : String) : Decidable (IsCamelCase name) :=
  decidable_of_iff (name.toList.all Char.isAlphanum = true ∧
      name.toList.head?.any Char.isLower = true ∧ Apart name.toList)
    ⟨fun ⟨alphanumeric, first, apart⟩ => ⟨List.all_eq_true.1 alphanumeric, first, apart⟩,
      fun h => ⟨List.all_eq_true.2 h.alphanumeric, h.first, h.apart⟩⟩

def camelCase (name : String) : String :=
  String.ofList (camelChars name.toList)

theorem camelCase_snakeCase {name : String} (h : IsCamelCase name) :
    camelCase (snakeCase name) = name := by
  have front : ∀ c ∈ name.toList.head?, c.isUpper = false := by
    obtain ⟨c, first, small⟩ := (Option.any_eq_true _ _).1 h.first
    intro d mem
    have each : ∀ c, isAscii c = true → c.isLower = true → c.isUpper = false :=
      forall_ascii (by decide)
    rw [first] at mem
    cases mem
    have letter := h.alphanumeric c (List.mem_of_mem_head? first)
    exact each c (isAscii_of_isAlphanum letter) small
  rw [camelCase, snakeCase, String.toList_ofList,
    camelChars_snakeChars h.alphanumeric h.apart fun _ => front, String.ofList_toList]

end Text

open Text

/-- Names in camel case are recovered from their functions. Rows of different names therefore become
different functions, and only a row with the name of the accessor that takes a size becomes the
function of that accessor. -/
theorem functionNames_distinct {rows : List Style}
    (camel : ∀ s ∈ rows, IsCamelCase s.accessor) :
    (∀ s ∈ rows, camelCase s.functionName = s.accessor) ∧
      (∀ s ∈ rows, ∀ t ∈ rows, s.functionName = t.functionName → s.accessor = t.accessor) ∧
      ((rows.map Style.accessor).Nodup → (rows.map Style.functionName).Nodup) ∧
      ∀ s ∈ rows, s.functionName = sizeFunctionName ↔ s.accessor = sizeAccessorName := by
  have recovered : ∀ s ∈ rows, camelCase s.functionName = s.accessor := fun s mem =>
    camelCase_snakeCase (camel s mem)
  refine ⟨recovered, fun s hs t ht same => ?_, fun distinct => ?_, fun s mem => ⟨?_, ?_⟩⟩
  · rw [← recovered s hs, ← recovered t ht, same]
  · have names : rows.map Style.accessor = (rows.map Style.functionName).map camelCase := by
      rw [List.map_map]
      exact List.map_congr_left fun s mem => (recovered s mem).symm
    rw [names] at distinct
    exact distinct.of_map
  · intro size
    rw [← recovered s mem, size]
    decide +kernel
  · intro size
    rw [Style.functionName, size]
    decide +kernel

def headings : List Style :=
  [⟨"title2Big", 22, "title2"⟩, ⟨"title2big", 20, "title"⟩, ⟨"ofSize", 9, "body"⟩]

theorem functionNames_distinct_headings :
    (∀ s ∈ headings, IsCamelCase s.accessor) ∧ (headings.map Style.functionName).Nodup ∧
      ∀ s ∈ headings, camelCase s.functionName = s.accessor := by
  have camel : ∀ s ∈ headings, IsCamelCase s.accessor := by decide +kernel
  obtain ⟨recovered, -, distinct, -⟩ := functionNames_distinct camel
  exact ⟨camel, distinct (by decide +kernel), recovered⟩

end FontAccessors
