import FontAccessors.Proofs.Grammar.ArgumentList

namespace FontAccessors.Grammar
open Token

def wrapped (text : String) : List Delimiter → Token
  | [] => .literal text
  | d :: ds => .group d [wrapped text ds]

def wrappedForm (text : String) : List Delimiter → ExprForm
  | [] => .literal text
  | .invisible :: ds => .group (wrappedForm text ds)
  | .brace :: _ => .block
  | .parenthesis :: _ | .bracket :: _ => .other

def wrappedExpr (text : String) (ds : List Delimiter) : Expr :=
  ⟨wrappedForm text ds, [wrapped text ds]⟩

section

variable (text : String) (ds : List Delimiter)

theorem string_wrapped : (wrappedForm text ds).string? =
    if ∀ d ∈ ds, d = .invisible then (Text.Quoted.value? text.toList).map String.ofList
    else none := by
  induction ds with
  | nil => simp [wrappedForm, ExprForm.string?]
  | cons d ds ih => cases d <;> simp [wrappedForm, ExprForm.string?, ih]

theorem not_path_wrapped (p : Path) : (wrappedExpr text ds).form ≠ .path p := by
  cases ds with
  | nil => nofun
  | cons d ds => cases d <;> nofun

theorem not_isRange_wrapped : (wrappedExpr text ds).form.isRange = false := by
  cases ds with
  | nil => rfl
  | cons d ds => cases d <;> rfl

theorem not_isVerbatim_wrapped : (wrappedExpr text ds).form.isVerbatim = false := by
  cases ds with
  | nil => rfl
  | cons d ds => cases d <;> rfl

theorem weight_wrapped : (wrapped text ds).weight = ds.length + 1 := by
  induction ds with
  | nil => rfl
  | cons d ds ih => simp [wrapped, weight, ih]; omega

end

section

variable (text : String) (ds : List Delimiter) (ts : List Token)

theorem enter_wrapped :
    (∀ d ∈ ds, d = .invisible) ∧ enter (wrapped text ds :: ts) = .literal text :: ts ∨
      ∃ d content, d ∈ ds ∧ d ≠ .invisible ∧
        enter (wrapped text ds :: ts) = .group d content :: ts := by
  induction ds with
  | nil => simp [wrapped]
  | cons d ds ih =>
    by_cases invisible : d = .invisible
    · subst invisible
      rw [wrapped, enter_invisible, List.singleton_append]
      rcases ih with ⟨all, front⟩ | ⟨d, content, mem, visible, front⟩
      · exact .inl ⟨by simpa using all, front⟩
      · exact .inr ⟨d, content, List.mem_cons_of_mem _ mem, visible, front⟩
    · exact .inr ⟨d, _, List.mem_cons_self, invisible, enter_group invisible _ _⟩

theorem identAt_wrapped : identAt? (wrapped text ds :: ts) = none := by
  rcases enter_wrapped text ds ts with ⟨-, front⟩ | ⟨d, content, -, -, front⟩ <;>
    simp [identAt?, front]

theorem markAt_wrapped : markAt? (wrapped text ds :: ts) = none := by
  rcases enter_wrapped text ds ts with ⟨-, front⟩ | ⟨d, content, -, -, front⟩ <;>
    simp [markAt?, front]

theorem lifetimeAt_wrapped : lifetimeAt? (wrapped text ds :: ts) = none := by
  rcases enter_wrapped text ds ts with ⟨-, front⟩ | ⟨d, content, -, -, front⟩ <;>
    simp [lifetimeAt?, front]

theorem atMark_wrapped (m : String) : atMark m (wrapped text ds :: ts) = false :=
  atMark_of_none (markAt_wrapped text ds ts) m

end

theorem atom_group {g : Rules} {braces : Bool} {n : Nat} {d : Delimiter} (visible : d ≠ .invisible)
    (content ts : List Token) : atom g braces n (.group d content :: ts) =
      match d with
      | .parenthesis => (tupleExpr g n (.group d content :: ts)).map fun r => (⟨.other, r.1⟩, r.2)
      | .bracket => (arrayExpr g n (.group d content :: ts)).map fun r => (⟨.other, r.1⟩, r.2)
      | _ => (attributedBlock g n (.group d content :: ts)).map fun r => (⟨.block, r.1⟩, r.2) := by
  have front : enter (.group d content :: ts) = .group d content :: ts := enter_group visible _ _
  have nameless : identAt? (.group d content :: ts) = none := by simp [identAt?, front]
  have noValue : valueAt? (.group d content :: ts) = none := by simp [valueAt?, front]
  have marks (m : String) : atMark m (.group d content :: ts) = false :=
    atMark_of_none (markAt_group visible content ts) m
  cases d with
  | invisible => exact absurd rfl visible
  | parenthesis | bracket | brace =>
    simp [atom, atInvisible, invisibleAt?, atValue, noValue, atAsyncBlock, atTryBlock, atClosure,
      atQuantifiedClosure, atBuiltin, atPathExpr, atPath, atPathName, atName, atWord, atWords,
      nameless, marks, atMarks, atGroup, groupAt?, front, atLifetime]

theorem grouped_of_content {r : Reader (List Token)} {d : Delimiter} (visible : d ≠ .invisible)
    {content : List Token} (inner : List Token) (read : r content = some (inner, []))
    (ts : List Token) : grouped d r (.group d content :: ts) = some ([.group d inner], ts) := by
  have front : groupContent d (.group d content :: ts) = some (content, ts) :=
    groupAt_front visible content ts
  simp only [grouped, run_bind, run_pure, front, within, run_reading, read, Option.bind_some,
    isSpent, enter_nil, List.isEmpty_nil, if_true]

theorem groupExpr_of_inner {g : Rules} {braces : Bool} {n : Nat} {content ts : List Token}
    {inner : Expr} (read : g.expr true content = some (inner, []))
    (noPath : ∀ p, inner.form ≠ .path p) :
    groupExpr g braces n (.group .invisible content :: ts) =
      some (⟨.group inner.form, [.group .invisible inner.tokens]⟩, ts) := by
  obtain ⟨form, tokens⟩ := inner
  simp only [groupExpr, invisibleContent, within, run_bind, run_reading, invisibleAt?, read,
    Option.bind_some, isSpent, enter_nil, List.isEmpty_nil, if_true]
  cases form with
  | path p => exact absurd rfl (noPath p)
  | literal | block | braced | range | comparison | verbatim | group | other => rfl

section

variable {g : Rules} {braces : Bool} {n : Nat} {text : String} {ds : List Delimiter}
  {ts : List Token}

theorem unaryRule_wrapped (ends : EndsArgument ts)
    (read : atom g braces (n + 1) (wrapped text ds :: ts) = some (wrappedExpr text ds, ts)) :
    unaryRule g braces (n + 1) (wrapped text ds :: ts) = some (wrappedExpr text ds, ts) := by
  simp [unaryRule, exprAttributes, until?, atMark_wrapped, atMarks, read, trail_ended _ ends]

theorem exprRule_wrapped (ends : EndsArgument ts)
    (read : atom g braces (n + 1) (wrapped text ds :: ts) = some (wrappedExpr text ds, ts)) :
    exprRule g braces (n + 1) (wrapped text ds :: ts) = some (wrappedExpr text ds, ts) := by
  simp [exprRule, unaryRule_wrapped ends read, climb_ended (not_isRange_wrapped text ds) ends]

def earlyOperand (g : Rules) (n : Nat) (ts : List Token) : Reader Expr :=
  if atInvisible ts then do
    let e ← groupExpr g true n
    if e.form.ungrouped.isBlock then return e else trail g n e
  else if atGroup .brace ts then do return ⟨.block, ← attributedBlock g n⟩
  else unaryRule g true n

def earlyEnd (g : Rules) (n : Nat) (start : List Token) (e : Expr) : Reader Expr := do
  let ts ← get
  let e ← afterAttributes start [] e
  if !e.form.ungrouped.isBlock then climb g true Level.lowest n e
  else if (atMark "." ts && !atMark ".." ts) || atMark "?" ts then
    climb g true Level.lowest n (← trail g n e)
  else return e

theorem earlyRule_eq (nameless : identAt? ts = none) (front : ∀ m, atMark m ts = false)
    (noLifetime : lifetimeAt? ts = none) : earlyRule g (n + 1) ts =
      (earlyOperand g (n + 1) ts ts).bind fun r => earlyEnd g (n + 1) ts r.1 r.2 := by
  have noWord (w : String) : atWord w ts = false := by rw [atWord, nameless]; rfl
  have noWords (ws : List String) : atWords ws ts = false := by rw [atWords, nameless]; rfl
  have noLabel : atLifetime ts = false := by rw [atLifetime, noLifetime]; rfl
  have noAttributes : exprAttributes g (n + 1) ts = some ([], ts) := by
    simp only [exprAttributes, until?, run_bind, run_get, Option.bind_some, run_ite, run_pure,
      front, Bool.not_false, Bool.or_true, if_true]
  simp only [earlyRule, earlyOperand, earlyEnd, noAttributes, run_bind, run_get, Option.bind_some,
    run_ite, run_pure, noWord, noWords, noLabel, atTryBlock, atConstBlock, Bool.false_and,
    Bool.or_false, Bool.false_eq_true, if_false]
  split
  · rw [Option.bind_assoc]
    congr 1
    funext r
    split <;> rfl
  · split <;> rfl

theorem earlyEnd_ended {e : Expr} (start : List Token) (notRange : e.form.isRange = false)
    (notVerbatim : e.form.isVerbatim = false) :
    earlyEnd g (n + 1) start e [] = some (e, []) := by
  have climbed : climb g true Level.lowest (n + 1) e [] = some (e, []) :=
    climb_ended notRange (.inl rfl)
  have noMark (m : String) : atMark m [] = false := atMark_of_none markAt_nil m
  have same : e.withAttributes [] = e := rfl
  simp only [earlyEnd, afterAttributes, run_bind, run_get, Option.bind_some, run_ite, run_pure,
    notVerbatim, same, noMark, climbed, Bool.false_and, Bool.or_false, Bool.false_eq_true,
    if_false, ite_self]

theorem earlyRule_wrapped
    (read : atom g true (n + 1) [wrapped text ds] = some (wrappedExpr text ds, [])) :
    earlyRule g (n + 1) [wrapped text ds] = some (wrappedExpr text ds, []) := by
  have ends : EndsArgument [] := .inl rfl
  have unary := unaryRule_wrapped ends read
  have trailed := trail_ended (g := g) (n := n) (wrappedExpr text ds) ends
  have ended := earlyEnd_ended (g := g) (n := n) [wrapped text ds] (not_isRange_wrapped text ds)
    (not_isVerbatim_wrapped text ds)
  rw [earlyRule_eq (identAt_wrapped text ds []) (atMark_wrapped text ds [])
    (lifetimeAt_wrapped text ds [])]
  suffices operand : earlyOperand g (n + 1) [wrapped text ds] [wrapped text ds] =
      some (wrappedExpr text ds, []) by
    rw [operand]
    exact ended
  cases ds with
  | nil => simpa [earlyOperand, wrapped, atInvisible, invisibleAt?, atGroup, groupAt?] using unary
  | cons d ds =>
    cases d with
    | invisible =>
      have hidden : atInvisible [wrapped text (.invisible :: ds)] = true := rfl
      have group : groupExpr g true (n + 1) [wrapped text (.invisible :: ds)] =
          some (wrappedExpr text (.invisible :: ds), []) := by simpa [atom, hidden] using read
      simp [earlyOperand, hidden, group, trailed]
    | brace =>
      simpa [earlyOperand, wrapped, atInvisible, invisibleAt?, atGroup, atom_group,
        Option.bind_eq_some_iff] using read
    | parenthesis | bracket =>
      simpa [earlyOperand, wrapped, atInvisible, invisibleAt?, atGroup, groupAt?, enter_group]
        using unary

theorem statement_wrapped
    (read : g.early [wrapped text ds] = some (wrappedExpr text ds, [])) :
    ∃ isUnfinished, statement g (n + 1) [wrapped text ds] =
      some (⟨isUnfinished, [wrapped text ds]⟩, []) := by
  have front (m : String) : atMark m [wrapped text ds] = false := atMark_wrapped text ds [] m
  have nameless : identAt? [wrapped text ds] = none := identAt_wrapped text ds []
  have noMark (m : String) : atMark m [] = false := atMark_of_none markAt_nil m
  have noAttributes :
      outerAttributes g (n + 1) [wrapped text ds] = some ([], [wrapped text ds]) := by
    simp [outerAttributes, until?, front]
  have noPath : modulePath (n + 1) [wrapped text ds] = none := by
    simp [modulePath, root, maybeMark, whenAt, front, moduleSegments, atPathName, atName, atWords,
      nameless]
  have noCall : atBracedMacro (n + 1) [wrapped text ds] = false := by
    rw [atBracedMacro, afterModulePath, noPath]
    rfl
  have noItem : atItem (n + 1) [wrapped text ds] = false := by
    simp [atItem, atItemMacro, afterModulePath, noPath, atWord, atWords, nameless]
  have noBinding : atWord "let" [wrapped text ds] = false := by
    rw [atWord, nameless]
    rfl
  have single : (wrappedExpr text ds).form.isVerbatim = false := not_isVerbatim_wrapped text ds
  have same : (wrappedExpr text ds).withAttributes [] = wrappedExpr text ds := rfl
  simp only [statement, run_bind, run_get, Option.bind_some, run_ite, run_pure, noAttributes,
    noCall, noBinding, noItem, read, afterAttributes, single, same, maybeMark, whenAt, noMark,
    Bool.false_and, Bool.false_eq_true, if_false, List.append_nil]
  exact ⟨_, rfl⟩

theorem statementsRule_wrapped
    (read : g.early [wrapped text ds] = some (wrappedExpr text ds, [])) :
    statementsRule g (n + 2) [wrapped text ds] = some ([wrapped text ds], []) := by
  obtain ⟨isUnfinished, first⟩ := statement_wrapped (n := n) read
  have front : atMark ";" [wrapped text ds] = false := atMark_wrapped text ds [] ";"
  simp [statementsRule, front, first]

end

section

variable {text : String} {ds : List Delimiter} {n m : Nat} {ts : List Token}

theorem atom_wrapped (enough : 2 * ds.length < n) (braces : Bool) (ts : List Token) :
    atom (rules n) braces n (wrapped text ds :: ts) = some (wrappedExpr text ds, ts) := by
  have ends : EndsArgument [] := .inl rfl
  induction ds generalizing n braces ts with
  | nil => exact atom_literal text ts
  | cons d ds ih =>
    -- A block takes two rounds of the rules, any other group one.
    rw [List.length_cons] at enough
    obtain ⟨n, rfl⟩ : ∃ m, n = m + 3 := ⟨n - 3, by omega⟩
    have expr : (rules (n + 3)).expr true [wrapped text ds] = some (wrappedExpr text ds, []) :=
      exprRule_wrapped ends (ih (by omega) true [])
    cases d with
    | invisible =>
      have hidden : atInvisible (wrapped text (.invisible :: ds) :: ts) = true := rfl
      rw [atom]
      simp only [run_bind, run_get, Option.bind_some, hidden, if_true]
      exact groupExpr_of_inner expr (not_path_wrapped text ds)
    | parenthesis =>
      rw [wrapped, atom_group (by decide), tupleExpr,
        grouped_of_content (by decide) [wrapped text ds]
          (by simp [exprList, commaList, listUntil, expr, writeList, wrappedExpr])]
      rfl
    | bracket =>
      rw [wrapped, atom_group (by decide), arrayExpr,
        grouped_of_content (by decide) [wrapped text ds] (by simp [expr, wrappedExpr])]
      rfl
    | brace =>
      have early : (rules (n + 2)).early [wrapped text ds] = some (wrappedExpr text ds, []) :=
        earlyRule_wrapped (ih (by omega) true [])
      have statements : (rules (n + 3)).statements [wrapped text ds] =
          some ([wrapped text ds], []) := statementsRule_wrapped early
      rw [wrapped, atom_group (by decide), attributedBlock,
        grouped_of_content (by decide) [wrapped text ds]
          (by simp [innerAttributes, until?, atMark_wrapped, statements])]
      rfl

theorem expr_wrapped (enough : 2 * ds.length < n) (ends : EndsArgument ts) :
    (rules (n + 1)).expr true (wrapped text ds :: ts) = some (wrappedExpr text ds, ts) := by
  obtain ⟨n, rfl⟩ : ∃ m, n = m + 1 := ⟨n - 1, by omega⟩
  exact exprRule_wrapped ends (atom_wrapped enough true ts)

theorem argumentValue_wrapped (text : String) (enough : 2 * ds.length < n)
    (ends : EndsArgument ts) :
    ∃ e, argumentValue (rules (n + 1)) (wrapped text ds :: ts) = some (e, ts) ∧
      e.string? = (wrappedExpr text ds).string? ∧
      ((∃ d ∈ ds, d ≠ .invisible) → e = wrappedExpr text ds) := by
  have hash : atMark "#" (wrapped text ds :: ts) = false := atMark_wrapped text ds ts _
  rcases enter_wrapped text ds ts with ⟨all, front⟩ | ⟨d, content, mem, visible, front⟩
  · have value : valueAt? (wrapped text ds :: ts) = some ([.literal text], ts) := by
      simp [valueAt?, front]
    have noGroup : ¬∃ d ∈ ds, d ≠ .invisible := by
      rintro ⟨d, mem, visible⟩
      exact visible (all d mem)
    rcases ts with _ | ⟨t, ts⟩
    · refine ⟨literalExpr text, by simp [argumentValue, value, literalExpr], ?_, (absurd · noGroup)⟩
      rw [Expr.string?, Expr.string?, wrappedExpr, string_wrapped, if_pos all]
      rfl
    · refine ⟨wrappedExpr text ds, ?_, rfl, fun _ => rfl⟩
      rw [argumentValue_of_expr (by simp [value]) hash, expr_wrapped enough ends]
  · have noValue : valueAt? (wrapped text ds :: ts) = none := by
      simp [valueAt?, front]
    refine ⟨wrappedExpr text ds, ?_, rfl, fun _ => rfl⟩
    rw [argumentValue_of_expr (by simp [noValue]) hash, expr_wrapped enough ends]

theorem argument_wrapped (key : ArgumentKey) (sign : Spacing) (text : String)
    (size : key.size < m) (enough : 2 * ds.length < n) (ends : EndsArgument ts) :
    ∃ e, argument (rules (n + 1)) m (key.tokens ++ .punct '=' sign :: wrapped text ds :: ts) =
        some (.binding key.toPath e, ts) ∧
      e.string? = (wrappedExpr text ds).string? ∧
      ((∃ d ∈ ds, d ≠ .invisible) → e = wrappedExpr text ds) := by
  obtain ⟨e, value, string, kept⟩ := argumentValue_wrapped text enough ends
  have read : argumentKey m (key.tokens ++ .punct '=' sign :: wrapped text ds :: ts) =
      some (key.toPath, .punct '=' sign :: wrapped text ds :: ts) :=
    argumentKey_read key size (atMark_of_ne (by decide))
  obtain ⟨equals, sign'⟩ := mark_equals sign (wrapped text ds :: ts)
  exact ⟨e, by simp [argument, read, atGroup, equals, sign', value], string, kept⟩

end

def behindTokens : Option (Spacing × ArgumentList) → List Token
  | none => []
  | some (s, l) => .punct ',' s :: l.tokens

def behindArguments : Option (Spacing × ArgumentList) → List SimpleArgument
  | none => []
  | some (_, l) => l.arguments

def wrappedTokens (before : List (SimpleArgument × Spacing)) (key : ArgumentKey) (sign : Spacing)
    (text : String) (ds : List Delimiter) (behind : Option (Spacing × ArgumentList)) :
    List Token :=
  closedTokens before ++
    (key.tokens ++ .punct '=' sign :: wrapped text ds :: behindTokens behind)

theorem ofTokens_wrapped (before : List (SimpleArgument × Spacing)) (key : ArgumentKey)
    (sign : Spacing) (text : String) (ds : List Delimiter)
    (behind : Option (Spacing × ArgumentList)) :
    ∃ e, Argument.ofTokens? (wrappedTokens before key sign text ds behind) =
        some (before.map (·.1.toArgument) ++ .binding key.toPath e ::
          (behindArguments behind).map SimpleArgument.toArgument) ∧
      e.string? = (wrappedExpr text ds).string? ∧
      ((∃ d ∈ ds, d ≠ .invisible) → e = wrappedExpr text ds) := by
  obtain ⟨n, m, k, ⟨deep, size, rounds⟩, read⟩ := ofTokens_closed before
    (key.tokens ++ .punct '=' sign :: wrapped text ds :: behindTokens behind)
  have keySize := key.size_le_length
  simp only [totalWeight_append, totalWeight_cons, weight_wrapped] at deep
  simp only [List.length_append, List.length_cons] at size rounds
  have ends : EndsArgument (behindTokens behind) := by
    rcases behind with _ | ⟨s, l⟩
    · exact .inl rfl
    · exact .inr ⟨s, l.tokens, rfl⟩
  have keyFits : key.size < m := by omega
  have groupsFit : 2 * ds.length < n + 1 := by omega
  obtain ⟨e, argument, string, kept⟩ := argument_wrapped key sign text keyFits groupsFit ends
  refine ⟨e, ?_, string, kept⟩
  have nonempty : key.tokens ++ .punct '=' sign :: wrapped text ds :: behindTokens behind ≠ [] := by
    simp
  have spent : isSpent [] = true := by simp [isSpent]
  rw [wrappedTokens, read]
  rcases behind with _ | ⟨s, l⟩
  · rw [behindTokens] at argument nonempty ⊢
    simp [listUntil, argument, nonempty, spent, behindArguments]
  · rw [behindTokens] at argument nonempty ⊢
    simp only [behindTokens, List.length_cons] at size rounds
    obtain ⟨r, list, eq⟩ := listUntil_list l (n := n) (m := m) (k := k) (by omega) (by omega)
    simp [listUntil, argument, nonempty, spent, mark_comma, list, eq, behindArguments]

end FontAccessors.Grammar
