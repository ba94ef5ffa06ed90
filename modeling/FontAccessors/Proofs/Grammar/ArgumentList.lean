import FontAccessors.Proofs.Grammar.Argument

namespace FontAccessors.Grammar
open Token

def closedTokens (closed : List (SimpleArgument × Spacing)) : List Token :=
  closed.flatMap fun p => p.1.tokens ++ [.punct ',' p.2]

structure ArgumentList where
  closed : List (SimpleArgument × Spacing)
  last : Option SimpleArgument

namespace ArgumentList

def tokens (l : ArgumentList) : List Token :=
  closedTokens l.closed ++ (l.last.map SimpleArgument.tokens).getD []

def arguments (l : ArgumentList) : List SimpleArgument :=
  l.closed.map Prod.fst ++ l.last.toList

end ArgumentList

theorem mark_comma (s : Spacing) (ts : List Token) :
    mark "," (.punct ',' s :: ts) = some ([.punct ',' .alone], ts) := by
  simp [mark, operatorAt?, markAt?, operatorTokens]

theorem SimpleArgument.tokens_ne_nil (a : SimpleArgument) : a.tokens ≠ [] := by
  have key : a.key.tokens ≠ [] := by
    cases a.key <;> simp [ArgumentKey.tokens]
  simp [SimpleArgument.tokens, key]

theorem listUntil_closed {element : Reader Argument} {closed : List (SimpleArgument × Spacing)}
    (read : ∀ p ∈ closed, ∀ ts, EndsArgument ts →
      element (p.1.tokens ++ ts) = some (p.1.toArgument, ts)) (n : Nat) (ts : List Token) :
    listUntil List.isEmpty element (mark ",") (closed.length + n) (closedTokens closed ++ ts) =
      (listUntil List.isEmpty element (mark ",") n ts).map fun r =>
        (closed.map (fun p => (p.1.toArgument, [.punct ',' .alone])) ++ r.1, r.2) := by
  induction closed with
  | nil => simp [closedTokens]
  | cons p closed ih =>
    have rest := ih fun q mem => read q (List.mem_cons_of_mem _ mem)
    have front := read p List.mem_cons_self (.punct ',' p.2 :: (closedTokens closed ++ ts))
      (.inr ⟨_, _, rfl⟩)
    have tokens : closedTokens (p :: closed) ++ ts =
        p.1.tokens ++ .punct ',' p.2 :: (closedTokens closed ++ ts) := by
      simp [closedTokens]
    have length : (p :: closed).length + n = closed.length + n + 1 := by
      rw [List.length_cons]
      omega
    rw [length, tokens, listUntil]
    simp [front, mark_comma, rest, SimpleArgument.tokens_ne_nil]
    rfl

theorem ArgumentKey.size_le_length (k : ArgumentKey) : k.size ≤ k.tokens.length := by
  cases k with
  | unsafeWord => exact Nat.zero_le _
  | path lead i further named =>
    have length : further.length ≤ (furtherTokens further).length := by
      induction further with
      | nil => exact Nat.zero_le _
      | cons p further ih =>
        have := ih fun j mem => named j (by grind)
        simp [furtherTokens, colons] at this ⊢
        omega
    simp [ArgumentKey.size, ArgumentKey.tokens]
    omega

theorem length_le_closedTokens (closed : List (SimpleArgument × Spacing)) :
    closed.length ≤ (closedTokens closed).length := by
  induction closed with
  | nil => exact Nat.zero_le _
  | cons p closed ih =>
    simp [closedTokens] at ih ⊢
    omega

theorem size_le_closedTokens {closed : List (SimpleArgument × Spacing)}
    {p : SimpleArgument × Spacing} (mem : p ∈ closed) :
    p.1.key.size ≤ (closedTokens closed).length := by
  have key := p.1.key.size_le_length
  obtain ⟨before, behind, rfl⟩ := List.append_of_mem mem
  simp [closedTokens, SimpleArgument.tokens]
  omega

structure Enough (ts : List Token) (n m k : Nat) : Prop where
  depth : 2 * totalWeight ts < n
  size : ts.length < m
  rounds : ts.length < k

theorem ofTokens_closed (closed : List (SimpleArgument × Spacing)) (ts : List Token) :
    ∃ n m k, Enough ts n m k ∧ Argument.ofTokens? (closedTokens closed ++ ts) =
      (listUntil List.isEmpty (argument (rules (n + 2)) m) (mark ",") (k + 1) ts).bind fun r =>
        if isSpent r.2 then some (closed.map (·.1.toArgument) ++ r.1.map Prod.fst) else none := by
  obtain ⟨d, hd⟩ : ∃ d, d = depth (closedTokens closed ++ ts) := ⟨_, rfl⟩
  have weight := length_le_totalWeight (closedTokens closed)
  have weight' := length_le_totalWeight ts
  have length := length_le_closedTokens closed
  have enough : closed.length + ts.length + 2 * totalWeight ts + 4 < d := by
    rw [hd, depth, totalWeight_append]
    omega
  obtain ⟨n, hn⟩ : ∃ n, d = n + 2 := ⟨d - 2, by omega⟩
  obtain ⟨k, hk⟩ : ∃ k, d = closed.length + (k + 1) := ⟨d - closed.length - 1, by omega⟩
  have read : ∀ p ∈ closed, ∀ ts, EndsArgument ts →
      argument (rules (n + 2)) d (p.1.tokens ++ ts) = some (p.1.toArgument, ts) := by
    intro p mem us ends
    have size := size_le_closedTokens mem
    refine argument_simple p.1 ?_ ends
    rw [hd, depth, totalWeight_append]
    omega
  have list := listUntil_closed read (k + 1) ts
  rw [← hk] at list
  refine ⟨n, d, k, ⟨by omega, by omega, by omega⟩, ?_⟩
  have nested : rules d = rules (n + 2) := by rw [hn]
  rw [Argument.ofTokens?, whole, ← hd, nested]
  simp only [arguments, run_bind, list, run_pure, Option.bind_map, Option.bind_assoc,
    Option.bind_some, Function.comp_def, List.map_append, List.map_map]

theorem listUntil_list (l : ArgumentList) {n m k : Nat} (size : l.tokens.length < m)
    (rounds : l.tokens.length < k) :
    ∃ r, listUntil List.isEmpty (argument (rules (n + 2)) m) (mark ",") k l.tokens =
      some (r, []) ∧ r.map Prod.fst = l.arguments.map SimpleArgument.toArgument := by
  obtain ⟨closed, last⟩ := l
  rw [ArgumentList.tokens, List.length_append] at size rounds
  dsimp only at size rounds
  have length := length_le_closedTokens closed
  have read : ∀ p ∈ closed, ∀ ts, EndsArgument ts →
      argument (rules (n + 2)) m (p.1.tokens ++ ts) = some (p.1.toArgument, ts) := by
    intro p mem ts ends
    have := size_le_closedTokens mem
    exact argument_simple p.1 (by omega) ends
  -- One round for each argument before a comma, and one for the last.
  obtain ⟨k, rfl⟩ : ∃ k', k = closed.length + (k' + 1) := ⟨k - closed.length - 1, by omega⟩
  have list := listUntil_closed read (k + 1) ((last.map SimpleArgument.tokens).getD [])
  rw [ArgumentList.tokens, list]
  cases last with
  | none => exact ⟨_, rfl, by simp [ArgumentList.arguments]⟩
  | some a =>
    have key := a.key.size_le_length
    have front : argument (rules (n + 2)) m (a.tokens ++ []) = some (a.toArgument, []) := by
      refine argument_simple a ?_ (.inl rfl)
      simp only [Option.map_some, Option.getD_some, SimpleArgument.tokens,
        List.length_append] at size
      omega
    rw [List.append_nil] at front
    refine ⟨closed.map (fun p => (p.1.toArgument, [.punct ',' .alone])) ++ [(a.toArgument, [])],
      ?_, by simp [ArgumentList.arguments]⟩
    simp [listUntil, a.tokens_ne_nil, front]

theorem ofTokens_list (l : ArgumentList) :
    Argument.ofTokens? l.tokens = some (l.arguments.map SimpleArgument.toArgument) := by
  obtain ⟨n, m, k, enough, read⟩ := ofTokens_closed [] l.tokens
  obtain ⟨r, list, eq⟩ := listUntil_list l (n := n) enough.size (Nat.lt_succ_of_lt enough.rounds)
  have ended : isSpent [] = true := by simp [isSpent]
  rw [closedTokens, List.flatMap_nil, List.nil_append] at read
  simp [read, list, eq, ended]

/-- Behind a key these tokens neither continue it nor begin or end anything. -/
structure IsStray (ts : List Token) : Prop where
  nonempty : ts ≠ []
  no_group : ∀ d, atGroup d ts = false
  no_sign : atMark "=" ts = false
  no_comma : atMark "," ts = false
  no_name : ∀ us, operatorAt? "::".toList ts = some us → atPathName us = false

theorem isStray_cons {t : Token} {ts : List Token} (no_group : ∀ d content, t ≠ .group d content)
    (no_sign : ∀ s, t ≠ .punct '=' s) (no_comma : ∀ s, t ≠ .punct ',' s)
    (no_name : ∀ us, operatorAt? "::".toList (t :: ts) = some us → atPathName us = false) :
    IsStray (t :: ts) := by
  cases t with
  | group d content => exact absurd rfl (no_group d content)
  | ident i =>
    have marks (m : String) : atMark m (.ident i :: ts) = false :=
      atMark_of_none (markAt_ident i ts) m
    exact ⟨List.cons_ne_nil _ _, by simp [atGroup], marks _, marks _, no_name⟩
  | literal text =>
    have marks (m : String) : atMark m (.literal text :: ts) = false :=
      atMark_of_none (markAt_literal text ts) m
    exact ⟨List.cons_ne_nil _ _, by simp [atGroup, groupAt?], marks _, marks _, no_name⟩
  | punct c s =>
    refine ⟨List.cons_ne_nil _ _, by simp [atGroup], atMark_of_ne ?_, atMark_of_ne ?_, no_name⟩
    · rintro ⟨⟩
      exact no_sign s rfl
    · rintro ⟨⟩
      exact no_comma s rfl

def valueMarks : List Char :=
  ['#', '&', '*', '!', '-', '|', '<', ':', '.', '\'']

/-- What stands in the place of an argument and is none, whatever comes after it. -/
inductive Malformed : List Token → Prop
  | value {ts : List Token} (h : atValue ts = true) : Malformed ts
  | empty {ts : List Token} (h : atMark "," ts = true) : Malformed ts
  | stray (key : ArgumentKey) {ts : List Token} (h : IsStray ts) : Malformed (key.tokens ++ ts)
  | unvalued (key : ArgumentKey) (s s' : Spacing) {c : Char} (h : c ∉ valueMarks)
    (ts : List Token) : Malformed (key.tokens ++ .punct '=' s :: .punct c s' :: ts)

section

variable {ts : List Token} {g : Rules} {n m : Nat}

theorem argument_keyless (unnamed : atPathName ts = false) (unrooted : atMark "::" ts = false)
    (safe : atWord "unsafe" ts = false) : argument g m ts = none := by
  have segments : moduleSegments m ts = none := by
    cases m with
    | zero => rfl
    | succ m => simp [moduleSegments, unnamed]
  simp [argument, argumentKey, safe, modulePath, root, maybeMark, whenAt, unrooted, segments]

theorem argument_nameless (nameless : identAt? ts = none) (unrooted : atMark "::" ts = false) :
    argument g m ts = none := by
  refine argument_keyless ?_ unrooted ?_
  · simp [atPathName, atName, atWords, nameless]
  · simp [atWord, nameless]

theorem atMark_colons_of_enter {c : Char} {s : Spacing} {us : List Token}
    (front : enter ts = .punct c s :: us) (other : c ≠ ':') : atMark "::" ts = false := by
  by_cases tick : c = '\'' <;> simp [atMark, operatorAt?, markAt?, front, tick, other]

theorem argument_value (h : atValue ts = true) : argument g m ts = none := by
  rw [atValue, valueAt?] at h
  split at h
  · next text us front =>
    refine argument_nameless (by simp [identAt?, front]) (atMark_of_none ?_ _)
    simp [markAt?, front]
  · next i us front =>
    have truth : i = .plain "true" ∨ i = .plain "false" := by simpa using h
    have unrooted : atMark "::" ts = false := atMark_of_none (by simp [markAt?, front]) _
    have reads : identAt? ts = some (i, us) := by simp [identAt?, front]
    refine argument_keyless ?_ unrooted ?_
    · rcases truth with rfl | rfl <;>
        simp [atPathName, atName, atWords, reads, isName, keywords, pathWords, Ident.plain]
    · rcases truth with rfl | rfl <;> simp [atWord, reads, Ident.plain]
  · next s us front =>
    exact argument_nameless (by simp [identAt?, front]) (atMark_colons_of_enter front (by decide))
  · cases h

theorem argument_comma (h : atMark "," ts = true) : argument g m ts = none := by
  cases front : enter ts with
  | nil => simp [atMark, operatorAt?, markAt?, front] at h
  | cons t us =>
    cases t with
    | punct c s =>
      have other : c ≠ ':' := by
        rintro rfl
        simp [atMark, operatorAt?, markAt?, front] at h
      exact argument_nameless (by simp [identAt?, front]) (atMark_colons_of_enter front other)
    | ident i | literal text | group d content => simp [atMark, operatorAt?, markAt?, front] at h

theorem argument_stray (key : ArgumentKey) (h : IsStray ts) (enough : key.size < m) :
    argument g m (key.tokens ++ ts) = none ∨
      argument g m (key.tokens ++ ts) = some (.flag key.toPath, ts) := by
  have flag (read : argumentKey m (key.tokens ++ ts) = some (key.toPath, ts)) :
      argument g m (key.tokens ++ ts) = some (.flag key.toPath, ts) := by
    simp [argument, read, h.no_group, h.no_sign]
  cases next : operatorAt? "::".toList ts with
  | none => exact .inr (flag (argumentKey_read key enough (by rw [atMark, next]; rfl)))
  | some us =>
    cases key with
    | unsafeWord => exact .inr (flag (argumentKey_word ts))
    | path lead i further named =>
      have unread := moduleSegments_open (n := m) named next (h.no_name us next)
      left
      simp [argument, argumentKey_path, unread]

section

variable {c : Char} (other : c ∉ valueMarks)

include other

theorem atMark_unvalued (s : Spacing) (ts : List Token) {m : String}
    (h : m.toList.head?.any (valueMarks.contains ·) = true) :
    atMark m (.punct c s :: ts) = false := by
  apply atMark_of_ne
  intro same
  rw [same] at h
  exact other (by simpa using h)

theorem valueAt_unvalued (s : Spacing) (ts : List Token) : valueAt? (.punct c s :: ts) = none := by
  have minus : c ≠ '-' := by
    rintro rfl
    exact other (by decide)
  simp [valueAt?, minus]

theorem atom_unvalued (s : Spacing) (ts : List Token) :
    atom g true n (.punct c s :: ts) = none := by
  have tick : c ≠ '\'' := by
    rintro rfl
    exact other (by decide)
  have here {m : String} := atMark_unvalued other s ts (m := m)
  have bar : atMark "|" (.punct c s :: ts) = false := here (by decide)
  have dots : atMark ".." (.punct c s :: ts) = false := here (by decide)
  have colons : atMark "::" (.punct c s :: ts) = false := here (by decide)
  have angle : atMark "<" (.punct c s :: ts) = false := here (by decide)
  simp [atom, atInvisible, invisibleAt?, atValue, valueAt_unvalued other, atAsyncBlock, atTryBlock,
    atClosure, atQuantifiedClosure, atBuiltin, atPathExpr, atPath, atPathName, atName, atWords,
    atWord, atMarks, atGroup, atLifetime, lifetimeAt?, tick, bar, dots, colons, angle]

theorem unaryRule_unvalued (s : Spacing) (ts : List Token) :
    unaryRule g true n (.punct c s :: ts) = none := by
  have here {m : String} := atMark_unvalued other s ts (m := m)
  have hash : atMark "#" (.punct c s :: ts) = false := here (by decide)
  have signs : atMark "&" (.punct c s :: ts) = false ∧ atMark "*" (.punct c s :: ts) = false ∧
      atMark "!" (.punct c s :: ts) = false ∧ atMark "-" (.punct c s :: ts) = false :=
    ⟨here (by decide), here (by decide), here (by decide), here (by decide)⟩
  cases n with
  | zero => rfl
  | succ n => simp [unaryRule, exprAttributes, until?, hash, signs, atMarks, atom_unvalued other]

theorem argument_unvalued (key : ArgumentKey) (s s' : Spacing) (ts : List Token)
    (enough : key.size < m) :
    argument (rules (n + 2)) m (key.tokens ++ .punct '=' s :: .punct c s' :: ts) = none := by
  have read : argumentKey m (key.tokens ++ .punct '=' s :: .punct c s' :: ts) =
      some (key.toPath, .punct '=' s :: .punct c s' :: ts) :=
    argumentKey_read key enough (atMark_of_ne (by decide))
  obtain ⟨equals, sign⟩ := mark_equals s (.punct c s' :: ts)
  have hash : atMark "#" (.punct c s' :: ts) = false := atMark_unvalued other s' ts (by decide)
  have value : argumentValue (rules (n + 2)) (.punct c s' :: ts) = none := by
    rw [argumentValue_of_expr (by simp [valueAt_unvalued other]) hash]
    simp [rules, exprRule, unaryRule_unvalued other]
  simp [argument, read, atGroup, equals, sign, value]

end

theorem Malformed.ne_nil (h : Malformed ts) : ts ≠ [] := by
  cases h with
  | value h =>
    rintro rfl
    simp [atValue, valueAt?] at h
  | empty h =>
    rintro rfl
    rw [atMark_of_none markAt_nil] at h
    cases h
  | stray key h => simp [h.nonempty]
  | unvalued => simp

/-- Nothing is read of a list in which one argument is malformed. -/
theorem ofTokens_malformed (closed : List (SimpleArgument × Spacing)) (h : Malformed ts) :
    Argument.ofTokens? (closedTokens closed ++ ts) = none := by
  obtain ⟨n, m, k, enough, read⟩ := ofTokens_closed closed ts
  have fits (key : ArgumentKey) (us : List Token) (eq : ts = key.tokens ++ us) : key.size < m := by
    have size := key.size_le_length
    have enough := enough.size
    rw [eq, List.length_append] at enough
    omega
  -- Either no argument can be read, or a flag can, but no comma after it.
  have refused : argument (rules (n + 2)) m ts = none ∨
      ∃ a us, argument (rules (n + 2)) m ts = some (a, us) ∧ us ≠ [] ∧ atMark "," us = false := by
    cases h with
    | value h => exact .inl (argument_value h)
    | empty h => exact .inl (argument_comma h)
    | stray key h =>
      rcases argument_stray key h (fits key _ rfl) with unread | flag
      · exact .inl unread
      · exact .inr ⟨_, _, flag, h.nonempty, h.no_comma⟩
    | unvalued key s s' h us => exact .inl (argument_unvalued h key s s' us (fits key _ rfl))
  have unread :
      listUntil List.isEmpty (argument (rules (n + 2)) m) (mark ",") (k + 1) ts = none := by
    rcases refused with unread | ⟨a, us, flag, nonempty, noComma⟩
    · simp [listUntil, unread, h.ne_nil]
    · have comma : mark "," us = none := by
        rw [mark, run_reading, Option.not_isSome_iff_eq_none.1 (ne_true_of_eq_false noComma)]
        rfl
      simp [listUntil, flag, comma, nonempty, h.ne_nil]
  rw [read, unread]
  rfl

end

end FontAccessors.Grammar
