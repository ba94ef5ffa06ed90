import FontAccessors.Grammar.Source
import FontAccessors.Proofs.Grammar.Segment

namespace FontAccessors.Grammar
open Token

def EndsArgument (ts : List Token) : Prop :=
  ts = [] ∨ ∃ s rest, ts = .punct ',' s :: rest

namespace EndsArgument

variable {ts : List Token} (ends : EndsArgument ts)

include ends

theorem atMark {m : String} (h : m.toList.head? ≠ some ',') : atMark m ts = false := by
  rcases ends with rfl | ⟨s, rest, rfl⟩
  · exact atMark_of_none markAt_nil m
  · exact atMark_of_ne h

theorem identAt : identAt? ts = none := by
  rcases ends with rfl | ⟨s, rest, rfl⟩
  · simp [identAt?]
  · exact identAt_punct ',' s rest

theorem groupAt (d : Delimiter) : groupAt? d ts = none := by
  rcases ends with rfl | ⟨s, rest, rfl⟩
  · simp [groupAt?]
  · exact groupAt_punct d ',' s rest

theorem operatorAhead : operatorAhead? ts = none := by
  rw [operatorAhead?, List.find?_eq_none]
  intro o mem
  have other : ∀ o ∈ operators, o.1.toList.head? ≠ some ',' := by decide
  simpa using ends.atMark (other o mem)

end EndsArgument

theorem atPathName_ident {i : Ident} (named : IsSegmentName i) (ts : List Token) :
    atPathName (.ident i :: ts) = true := by
  obtain ⟨name, isRaw⟩ := i
  cases isRaw with
  | true => simp [atPathName, atName, isName]
  | false => simpa [atPathName, atName, isName, atWords, IsSegmentName] using named

theorem atWords_ident {i : Ident} (named : IsSegmentName i) {ws : List String}
    (reserved : ∀ w ∈ ws, w ∈ keywords ∧ w ∉ pathWords) (ts : List Token) :
    atWords ws (.ident i :: ts) = false := by
  obtain ⟨name, isRaw⟩ := i
  cases isRaw with
  | true => simp [atWords]
  | false =>
    have other : name ∉ ws := by
      intro mem
      rcases named with raw | free | word
      · cases raw
      · exact free (reserved name mem).1
      · exact (reserved name mem).2 word
    simpa [atWords] using other

theorem atWord_ident {i : Ident} (named : IsSegmentName i) {w : String}
    (reserved : w ∈ keywords ∧ w ∉ pathWords) (ts : List Token) :
    atWord w (.ident i :: ts) = false := by
  have other : atWords [w] (.ident i :: ts) = false :=
    atWords_ident named (by simpa using reserved) ts
  obtain ⟨name, isRaw⟩ := i
  cases isRaw <;> simp_all [atWords, atWord, Ident.plain]

theorem valueAt_name {i : Ident} (named : IsSegmentName i) (ts : List Token) :
    valueAt? (.ident i :: ts) = none := by
  have differs {w : String} (reserved : w ∈ keywords ∧ w ∉ pathWords) : i ≠ .plain w := by
    rintro rfl
    simpa [atWord] using atWord_ident named reserved ts
  simp [valueAt?, differs (w := "true") (by decide), differs (w := "false") (by decide)]

def literalExpr (text : String) : Expr :=
  ⟨.literal text, [.literal text]⟩

def namePath (i : Ident) : Path :=
  ⟨[], false, [⟨i, .none⟩]⟩

inductive ArgumentValue where
  | literal (text : String)
  | truth (b : Bool)
  | name (i : Ident) (named : IsSegmentName i)

namespace ArgumentValue

def token : ArgumentValue → Token
  | literal text => .literal text
  | truth b => .ident (.plain (if b then "true" else "false"))
  | name i _ => .ident i

def expr : ArgumentValue → Expr
  | literal text => literalExpr text
  | truth b => ⟨.other, [.ident (.plain (if b then "true" else "false"))]⟩
  | name i _ => ⟨.path (namePath i), [.ident i]⟩

theorem tokens_expr (v : ArgumentValue) : v.expr.tokens = [v.token] := by
  cases v <;> rfl

theorem not_isRange (v : ArgumentValue) : v.expr.form.isRange = false := by
  cases v <;> rfl

end ArgumentValue

section

variable {v : ArgumentValue} {ts : List Token} {g : Rules} {n : Nat} {braces : Bool}

theorem markAt_value (v : ArgumentValue) (ts : List Token) : markAt? (v.token :: ts) = none := by
  cases v <;> simp [ArgumentValue.token]

theorem not_atArguments_ended (ends : EndsArgument ts) : atArguments true ts = false := by
  rw [atArguments, atTurbofish, ends.atMark (m := "::") (by decide)]
  rfl

theorem path_ended {i : Ident} (named : IsSegmentName i) (ends : EndsArgument ts) :
    path g true (n + 1) (.ident i :: ts) = some (namePath i, ts) := by
  have next : atMark "::" ts = false := ends.atMark (by decide)
  have front : atMark "::" (.ident i :: ts) = false := atMark_of_none (markAt_ident i ts) _
  have bare := not_atArguments_ended ends
  simp [path, root, maybeMark, whenAt, front, segment_bare (.inl named) bare, Path.extend,
    segmentsAfter, next, namePath]

theorem atom_path {i : Ident} (named : IsSegmentName i) (hash : atMark "#" ts = false) :
    atom g braces n (.ident i :: ts) =
      (path g true n (.ident i :: ts)).bind fun r => afterPath g braces r.1 n r.2 := by
  have visible : atInvisible (.ident i :: ts) = false := rfl
  have noValue : atValue (.ident i :: ts) = false := by
    rw [atValue, valueAt_name named]
    rfl
  have reserved {w : String} (h : w ∈ keywords ∧ w ∉ pathWords) :
      atWord w (.ident i :: ts) = false := atWord_ident named h ts
  have async : atWord "async" (.ident i :: ts) = false := reserved (by decide)
  have noTry : atWord "try" (.ident i :: ts) = false := reserved (by decide)
  have noFor : atWord "for" (.ident i :: ts) = false := reserved (by decide)
  have const : atWord "const" (.ident i :: ts) = false := reserved (by decide)
  have closure : atWords ["move", "static"] (.ident i :: ts) = false :=
    atWords_ident named (by decide) ts
  have here (m : String) : atMark m (.ident i :: ts) = false :=
    atMark_of_none (markAt_ident i ts) m
  have builtin : atBuiltin (.ident i :: ts) = false := by simp [atBuiltin, second, skip, hash]
  simp [atom, visible, noValue, atAsyncBlock, atTryBlock, atClosure, atQuantifiedClosure, async,
    noTry, noFor, const, closure, here, builtin, atPathExpr, atPath, atPathName_ident named,
    qualifiablePath]

theorem atom_name {i : Ident} (named : IsSegmentName i) (ends : EndsArgument ts) :
    atom g braces (n + 1) (.ident i :: ts) = some ((ArgumentValue.name i named).expr, ts) := by
  have call : atMark "!" ts = false := ends.atMark (by decide)
  rw [atom_path named (ends.atMark (by decide)), path_ended named ends]
  simp [afterPath, call, atGroup, ends.groupAt]
  rfl

theorem atom_literal (text : String) (ts : List Token) :
    atom g braces n (.literal text :: ts) = some (literalExpr text, ts) := by
  have shown : atInvisible (.literal text :: ts) = false := rfl
  have here : valueAt? (.literal text :: ts) = some ([.literal text], ts) := by simp [valueAt?]
  have ahead : atValue (.literal text :: ts) = true := by rw [atValue, here]; rfl
  have read : value (.literal text :: ts) = some ([.literal text], ts) := here
  rw [atom]
  simp only [run_bind, run_get, Option.bind_some, run_ite, run_pure, shown, ahead, read,
    Bool.false_eq_true, if_false, if_true]
  rfl

theorem atom_value (ends : EndsArgument ts) :
    atom g braces (n + 1) (v.token :: ts) = some (v.expr, ts) := by
  cases v with
  | literal text => exact atom_literal text ts
  | truth b =>
    cases b <;>
      simp [atom, atInvisible, invisibleAt?, atValue, valueAt?, value, ArgumentValue.token,
        ArgumentValue.expr]
  | name i named => exact atom_name named ends

theorem trail_ended (e : Expr) (ends : EndsArgument ts) :
    trail g (n + 1) e ts = some (e, ts) := by
  have dot : atMark "." ts = false := ends.atMark (by decide)
  have question : atMark "?" ts = false := ends.atMark (by decide)
  simp [trail, atGroup, ends.groupAt, dot, question]

theorem climb_ended {e : Expr} (single : e.form.isRange = false) (ends : EndsArgument ts) :
    climb g braces Level.lowest (n + 1) e ts = some (e, ts) := by
  have equals : atMark "=" ts = false := ends.atMark (by decide)
  have dots : atMark ".." ts = false := ends.atMark (by decide)
  simp [climb, single, ends.operatorAhead, equals, dots, atWord, ends.identAt]

theorem unaryRule_value (ends : EndsArgument ts) :
    unaryRule g braces (n + 1) (v.token :: ts) = some (v.expr, ts) := by
  have here (m : String) : atMark m (v.token :: ts) = false :=
    atMark_of_none (markAt_value v ts) m
  simp [unaryRule, exprAttributes, until?, here, atMarks, atom_value ends, trail_ended _ ends]

theorem argumentValue_of_expr (further : ∀ v, valueAt? ts ≠ some (v, []))
    (hash : atMark "#" ts = false) : argumentValue g ts = g.expr true ts := by
  cases found : valueAt? ts with
  | none => simp [argumentValue, found, hash]
  | some r =>
    obtain ⟨v, rest⟩ := r
    cases rest with
    | nil => exact absurd found (further v)
    | cons t rest => simp [argumentValue, found, hash]

theorem rest_of_valueAt {us rest : List Token} (h : valueAt? (v.token :: ts) = some (us, rest)) :
    rest = ts := by
  cases v with
  | literal text => simp_all [ArgumentValue.token, valueAt?]
  | truth b => cases b <;> simp_all [ArgumentValue.token, valueAt?]
  | name i named =>
    rw [ArgumentValue.token, valueAt_name named] at h
    cases h

theorem argumentValue_alone {us : List Token} (h : valueAt? [v.token] = some (us, [])) :
    argumentValue g [v.token] = some (v.expr, []) := by
  cases v with
  | literal text =>
    simp [argumentValue, ArgumentValue.token, ArgumentValue.expr, literalExpr, valueAt?]
  | truth b =>
    cases b <;> simp [argumentValue, ArgumentValue.token, ArgumentValue.expr, valueAt?]
  | name i named =>
    rw [ArgumentValue.token, valueAt_name named] at h
    cases h

theorem argumentValue_simple (v : ArgumentValue) (ends : EndsArgument ts) :
    argumentValue (rules (n + 2)) (v.token :: ts) = some (v.expr, ts) := by
  have hash : atMark "#" (v.token :: ts) = false := atMark_of_none (markAt_value v ts) _
  have expr : (rules (n + 2)).expr true (v.token :: ts) = some (v.expr, ts) := by
    simp [rules, exprRule, unaryRule_value ends, climb_ended v.not_isRange ends]
  -- A literal with nothing behind it is taken as it is, any other one as an expression.
  by_cases alone : ∃ us, valueAt? (v.token :: ts) = some (us, [])
  · obtain ⟨us, alone⟩ := alone
    cases rest_of_valueAt alone
    exact argumentValue_alone alone
  · rw [argumentValue_of_expr (not_exists.1 alone) hash, expr]

end

def colons (s : Spacing) : List Token :=
  [.punct ':' .joint, .punct ':' s]

def furtherTokens (is : List (Spacing × Ident)) : List Token :=
  is.flatMap fun p => colons p.1 ++ [.ident p.2]

inductive ArgumentKey where
  | path (root : Option Spacing) (first : Ident) (further : List (Spacing × Ident))
    (named : ∀ i ∈ first :: further.map Prod.snd, IsSegmentName i)
  | unsafeWord

namespace ArgumentKey

def single (i : Ident) (named : IsSegmentName i) : ArgumentKey :=
  path none i [] (by simpa using named)

def tokens : ArgumentKey → List Token
  | path root first further _ => (root.map colons).getD [] ++ .ident first :: furtherTokens further
  | unsafeWord => [.ident (.plain "unsafe")]

def toPath : ArgumentKey → Path
  | path root first further _ =>
    ⟨[], root.isSome, (first :: further.map Prod.snd).map (⟨·, .none⟩)⟩
  | unsafeWord => ⟨[], false, [⟨.plain "unsafe", .none⟩]⟩

def size : ArgumentKey → Nat
  | path _ _ further _ => further.length
  | unsafeWord => 0

end ArgumentKey

section

variable {ts us : List Token} {n : Nat} {i : Ident} {further : List (Spacing × Ident)}

theorem mark_colons (s : Spacing) (ts : List Token) :
    atMark "::" (colons s ++ ts) = true ∧
      mark "::" (colons s ++ ts) = some (operatorTokens "::".toList, ts) := by
  simp [colons, atMark, mark, operatorAt?, markAt?]

@[simp] theorem atWord_colons (w : String) (s : Spacing) (ts : List Token) :
    atWord w (colons s ++ ts) = false := by
  simp [colons, atWord]

@[simp] theorem atWords_colons (ws : List String) (s : Spacing) (ts : List Token) :
    atWords ws (colons s ++ ts) = false := by
  simp [colons, atWords]

@[simp] theorem atGroup_colons (d : Delimiter) (s : Spacing) (ts : List Token) :
    atGroup d (colons s ++ ts) = false := by
  simp [colons, atGroup]

@[simp] theorem atPath_colons (s : Spacing) (ts : List Token) : atPath (colons s ++ ts) = true := by
  simp [atPath, atMarks, mark_colons]

theorem furtherTokens_cons (p : Spacing × Ident) (further : List (Spacing × Ident))
    (ts : List Token) : furtherTokens (p :: further) ++ ts =
      colons p.1 ++ .ident p.2 :: (furtherTokens further ++ ts) := by
  simp [furtherTokens]

theorem moduleSegments_names (named : ∀ j ∈ i :: further.map Prod.snd, IsSegmentName j)
    (enough : further.length < n) (next : atMark "::" ts = false) :
    moduleSegments n (.ident i :: (furtherTokens further ++ ts)) =
      some ((i :: further.map Prod.snd).map (⟨·, .none⟩), ts) := by
  obtain ⟨m, rfl⟩ : ∃ m, n = m + 1 := ⟨n - 1, by omega⟩
  have front := named i List.mem_cons_self
  induction further generalizing i m with
  | nil => simp [moduleSegments, atPathName_ident front, anyIdent, furtherTokens, next]
  | cons p further ih =>
    have named' : ∀ j ∈ p.2 :: further.map Prod.snd, IsSegmentName j := fun j mem =>
      named j (List.mem_cons_of_mem _ mem)
    rw [List.length_cons] at enough
    obtain ⟨m, rfl⟩ : ∃ m', m = m' + 1 := ⟨m - 1, by omega⟩
    have rest := ih named' m (by omega) (named' p.2 List.mem_cons_self)
    obtain ⟨ahead, read⟩ := mark_colons p.1 (.ident p.2 :: (furtherTokens further ++ ts))
    rw [moduleSegments, furtherTokens_cons]
    simp [atPathName_ident front, anyIdent, ahead, read, rest]

theorem moduleSegments_open (named : ∀ j ∈ i :: further.map Prod.snd, IsSegmentName j)
    (next : operatorAt? "::".toList ts = some us) (unnamed : atPathName us = false) :
    moduleSegments n (.ident i :: (furtherTokens further ++ ts)) = none := by
  have ahead : atMark "::" ts = true := by rw [atMark, next]; rfl
  have read : mark "::" ts = some (operatorTokens "::".toList, us) := by
    rw [mark, run_reading, next]
    rfl
  have front := named i List.mem_cons_self
  -- The induction is on the bound, which may run out before the names do.
  induction n generalizing i further with
  | zero => rfl
  | succ n ih =>
    cases further with
    | nil =>
      cases n with
      | zero => simp [moduleSegments, atPathName_ident front, anyIdent, furtherTokens, ahead]
      | succ n =>
        simp [moduleSegments, atPathName_ident front, anyIdent, furtherTokens, ahead, read, unnamed]
    | cons p further =>
      have named' : ∀ j ∈ p.2 :: further.map Prod.snd, IsSegmentName j := fun j mem =>
        named j (List.mem_cons_of_mem _ mem)
      have rest := ih named' (named' p.2 List.mem_cons_self)
      obtain ⟨ahead', read'⟩ := mark_colons p.1 (.ident p.2 :: (furtherTokens further ++ ts))
      rw [moduleSegments, furtherTokens_cons]
      simp [atPathName_ident front, anyIdent, ahead', read', rest]

theorem argumentKey_path {lead : Option Spacing}
    {named : ∀ j ∈ i :: further.map Prod.snd, IsSegmentName j} :
    argumentKey n ((ArgumentKey.path lead i further named).tokens ++ ts) =
      (moduleSegments n (.ident i :: (furtherTokens further ++ ts))).map fun r =>
        (⟨[], lead.isSome, r.1⟩, r.2) := by
  cases lead with
  | none =>
    have safe (ts : List Token) : atWord "unsafe" (.ident i :: ts) = false :=
      atWord_ident (named i List.mem_cons_self) (by decide) ts
    have here (ts : List Token) : atMark "::" (.ident i :: ts) = false :=
      atMark_of_none (markAt_ident i ts) _
    simp [argumentKey, ArgumentKey.tokens, safe, modulePath, root, maybeMark, whenAt, here]
  | some s =>
    obtain ⟨ahead, read⟩ := mark_colons s (.ident i :: (furtherTokens further ++ ts))
    simp [argumentKey, ArgumentKey.tokens, modulePath, root, maybeMark, whenAt, ahead, read,
      operatorTokens]

theorem argumentKey_word (ts : List Token) :
    argumentKey n (ArgumentKey.unsafeWord.tokens ++ ts) =
      some (ArgumentKey.unsafeWord.toPath, ts) := by
  simp [argumentKey, ArgumentKey.tokens, ArgumentKey.toPath, anyIdent, atWord]

theorem argumentKey_read (k : ArgumentKey) (enough : k.size < n) (next : atMark "::" ts = false) :
    argumentKey n (k.tokens ++ ts) = some (k.toPath, ts) := by
  cases k with
  | unsafeWord => exact argumentKey_word ts
  | path lead i further named =>
    rw [argumentKey_path, moduleSegments_names named enough next]
    rfl

end

inductive SimpleArgument where
  | flag (key : ArgumentKey)
  | list (key : ArgumentKey) (delimiter : Delimiter) (content : List Token)
    (visible : delimiter ≠ .invisible)
  | binding (key : ArgumentKey) (sign : Spacing) (value : ArgumentValue)

namespace SimpleArgument

def key : SimpleArgument → ArgumentKey
  | flag key | list key .. | binding key .. => key

def behindKey : SimpleArgument → List Token
  | flag _ => []
  | list _ delimiter content _ => [.group delimiter content]
  | binding _ sign value => [.punct '=' sign, value.token]

def tokens (a : SimpleArgument) : List Token :=
  a.key.tokens ++ a.behindKey

def toArgument : SimpleArgument → Argument
  | flag key => .flag key.toPath
  | list key delimiter content _ => .list key.toPath [.group delimiter content]
  | binding key _ value => .binding key.toPath value.expr

end SimpleArgument

section

variable {ts : List Token} {n m : Nat}

theorem groupAt_front {d : Delimiter} (visible : d ≠ .invisible) (content ts : List Token) :
    groupAt? d (.group d content :: ts) = some (content, ts) := by
  simp [groupAt?, enter_group visible]

theorem markAt_group {d : Delimiter} (visible : d ≠ .invisible) (content ts : List Token) :
    markAt? (.group d content :: ts) = none := by
  simp [markAt?, enter_group visible]

theorem mark_equals (s : Spacing) (ts : List Token) :
    atMark "=" (.punct '=' s :: ts) = true ∧
      mark "=" (.punct '=' s :: ts) = some ([.punct '=' .alone], ts) := by
  simp [atMark, mark, operatorAt?, markAt?, operatorTokens]

theorem argument_simple (a : SimpleArgument) (enough : a.key.size < m) (ends : EndsArgument ts) :
    argument (rules (n + 2)) m (a.tokens ++ ts) = some (a.toArgument, ts) := by
  have key (next : atMark "::" (a.behindKey ++ ts) = false) :
      argumentKey m (a.tokens ++ ts) = some (a.key.toPath, a.behindKey ++ ts) := by
    rw [SimpleArgument.tokens, List.append_assoc]
    exact argumentKey_read a.key enough next
  cases a with
  | flag k =>
    have equals : atMark "=" ts = false := ends.atMark (by decide)
    have read := key (ends.atMark (by decide))
    simp [argument, read, SimpleArgument.behindKey, SimpleArgument.key, atGroup, ends.groupAt,
      equals, SimpleArgument.toArgument]
  | list k d content visible =>
    have read := key (atMark_of_none (markAt_group visible content ts) _)
    have group : atGroup d (.group d content :: ts) = true := by
      simp [atGroup, groupAt_front visible]
    have input : macroInput (.group d content :: ts) = some ([.group d content], ts) := by
      simp [macroInput, rawGroup, visible]
    cases d with
    | invisible => exact absurd rfl visible
    | parenthesis | bracket | brace =>
      simp [argument, read, SimpleArgument.behindKey, SimpleArgument.key, group, input,
        SimpleArgument.toArgument]
  | binding k s v =>
    have read := key (atMark_of_ne (by decide))
    obtain ⟨equals, sign⟩ := mark_equals s (v.token :: ts)
    simp [argument, read, SimpleArgument.behindKey, SimpleArgument.key, atGroup, equals, sign,
      argumentValue_simple v ends, SimpleArgument.toArgument]

end

end FontAccessors.Grammar
