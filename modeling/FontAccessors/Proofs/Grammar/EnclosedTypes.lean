import FontAccessors.Grammar.Source
import FontAccessors.Proofs.Grammar.Enclosed

namespace FontAccessors.Grammar
open Token

/-! ## What is read -/

def IsAttributes (ts : List Token) : Prop :=
  ∃ contents : List (List Token),
    ts = contents.flatMap fun content => operator "#" ++ [.group .bracket content]

def IsIntroduced (m : String) (ts : List Token) : Prop :=
  ts = [] ∨ ∃ list, Balanced false list ∧ ts = operator m ++ list

def Parameter.IsBalanced : Parameter → Prop
  | lifetime attributes _ bounds => IsAttributes attributes ∧ IsIntroduced ":" bounds
  | type attributes name bounds default =>
    IsAttributes attributes ∧ name ≠ .plain "const" ∧ IsIntroduced ":" bounds ∧
      IsIntroduced "=" default
  | const attributes _ ty default =>
    IsAttributes attributes ∧ IsIntroduced ":" ty ∧ IsIntroduced "=" default

def Entry.IsBalanced (e : Entry) : Prop :=
  Balanced true e.tokens ∧ Balanced true e.separator

structure Path.IsBalanced (p : Path) : Prop where
  qualifier : Balanced false p.qualifier
  arguments : ∀ s ∈ p.segments, Balanced false s.arguments.tokens

structure TypeExpr.IsBalanced (t : TypeExpr) : Prop where
  tokens : Balanced false t.tokens
  path : ∀ p, t.form = .path p → p.IsBalanced

structure Rules.Enclose (g : Rules) : Prop where
  type : ∀ plus arguments, Encloses false TypeExpr.IsBalanced (g.type plus arguments)
  bound : ∀ capturing consts, Encloses false (Balanced false) (g.bound capturing consts)

theorem IsAttributes.balanced {ts : List Token} (h : IsAttributes ts) (inside : Bool) :
    Balanced inside ts := by
  obtain ⟨contents, rfl⟩ := h
  exact .flatMap fun content _ => (balanced_operator rfl).append (.group (by decide) content)

theorem IsIntroduced.balanced {m : String} {inside : Bool} {ts : List Token}
    (h : IsIntroduced m ts) (plain : isPlainOperator inside m = true) : Balanced inside ts := by
  rcases h with rfl | ⟨list, balanced, rfl⟩
  · exact .nil
  · exact (balanced_operator plain).append (balanced.inner inside)

namespace Parameter.IsBalanced

variable {p : Parameter}

theorem bounded (h : p.IsBalanced) : Balanced false p.bounded := by
  cases p with
  | lifetime attributes name bounds =>
    obtain ⟨attributes, bounds⟩ := h
    exact ((attributes.balanced false).append (.lifetime name)).append (bounds.balanced rfl)
  | type attributes name bounds default =>
    obtain ⟨attributes, -, bounds, -⟩ := h
    exact ((attributes.balanced false).append (.ident name)).append (bounds.balanced rfl)
  | const attributes name ty default =>
    obtain ⟨attributes, ty, -⟩ := h
    exact (((attributes.balanced false).append (.ident _)).append (.ident name)).append
      (ty.balanced rfl)

theorem default (h : p.IsBalanced) : IsIntroduced "=" p.default := by
  cases p with
  | lifetime => exact .inl rfl
  | type => exact h.2.2.2
  | const => exact h.2.2

theorem declared (h : p.IsBalanced) : Balanced true p.declared :=
  (h.bounded.inner true).append (h.default.balanced rfl)

end Parameter.IsBalanced

theorem balanced_angled {entries : List Entry} {inside : Bool} (h : ∀ e ∈ entries, e.IsBalanced) :
    Balanced inside (angled entries) := by
  have written (p : Entry → Bool) : Balanced true ((entries.filter p).flatMap Entry.written) :=
    .flatMap fun e mem => (h e (List.mem_filter.1 mem).1).1.append
      (h e (List.mem_filter.1 mem).1).2
  refine .angled (.append (.append (written _) ?_) (written _))
  split
  · exact balanced_operator rfl
  · exact .nil

namespace Path.IsBalanced

variable {p : Path}

theorem tokens (h : p.IsBalanced) : Balanced false p.tokens := by
  have segments : ∀ ss : List Segment, (∀ s ∈ ss, Balanced false s.arguments.tokens) →
      Balanced false (segmentTokens ss) := by
    intro ss all
    induction ss with
    | nil => exact .nil
    | cons s ss ih =>
      obtain ⟨first, others⟩ := List.forall_mem_cons.1 all
      have here : Balanced false s.tokens := .cons (.ident s.name) first
      cases ss with
      | nil => exact here
      | cons s' ss => exact (here.append (balanced_operator rfl)).append (ih others)
  refine .append (h.qualifier.append ?_) (segments _ h.arguments)
  split
  · exact balanced_operator rfl
  · exact .nil

theorem extend (h : p.IsBalanced) {ss : List Segment}
    (more : ∀ s ∈ ss, Balanced false s.arguments.tokens) :
    Path.IsBalanced { p with segments := p.segments ++ ss } :=
  ⟨h.qualifier, List.forall_mem_append.2 ⟨h.arguments, more⟩⟩

theorem withArguments (h : p.IsBalanced) {a : Arguments} (balanced : Balanced false a.tokens) :
    (p.withArguments a).IsBalanced := by
  rw [Path.withArguments.eq_def]
  split
  · exact h
  · refine ⟨h.qualifier, List.forall_mem_append.2 ⟨fun s mem => ?_, by simpa using balanced⟩⟩
    exact h.arguments s (List.dropLast_subset _ mem)

end Path.IsBalanced

theorem TypeExpr.IsBalanced.of_path {p : Path} (h : p.IsBalanced) :
    TypeExpr.IsBalanced ⟨.path p, p.tokens⟩ :=
  ⟨h.tokens, by rintro _ ⟨⟩; exact h⟩

section

variable {g : Rules} {inside : Bool} (n : Nat)

/-! ## Attributes and blocks -/

theorem encloses_outerAttributes (g : Rules) :
    Encloses inside IsAttributes (outerAttributes g n) := by
  refine encloses_until ⟨[], rfl⟩ ?_ ?_ n
  · rintro _ _ ⟨contents, rfl⟩ ⟨contents', rfl⟩
    exact ⟨contents ++ contents', List.flatMap_append.symm⟩
  · have group : Encloses inside (∃ content, · = [.group .bracket content])
        (inOrder [grouped .bracket do return (← argument g n).tokens]) :=
      (encloses_grouped (by decide) _).bind fun ts group => .pure (by simpa [inOrder] using group)
    have behind : Encloses inside (∃ content, · = [.group .bracket content])
        (inOrder [pure [], grouped .bracket do return (← argument g n).tokens]) :=
      Encloses.bind (P := (· = [])) (.pure rfl) fun _ none => group.map fun ts group => by
        subst none
        exact group
    refine (encloses_mark rfl).bind fun sign same => behind.map fun ts group => ?_
    obtain ⟨content, rfl⟩ := group
    exact ⟨[content], by simp [same]⟩

theorem encloses_attributedBlock (g : Rules) :
    Encloses inside (Balanced inside) (attributedBlock g n) :=
  encloses_groupedTokens (by decide) _

theorem encloses_constArgument (g : Rules) :
    Encloses inside (Balanced inside) (constArgument g n) :=
  .get fun _ => .ite encloses_value <| .ite encloses_nameToken (encloses_attributedBlock n g)

theorem encloses_builtin : Encloses inside (Balanced inside) builtin :=
  encloses_verbatim <| (encloses_inOrder_cons (encloses_word _) <|
    encloses_inOrder_cons (encloses_markTokens rfl) <|
    encloses_inOrder_cons encloses_nameToken encloses_inOrder_nil).bind fun _ _ =>
      (encloses_groupContent (by decide)).bind fun _ _ => .pure trivial

theorem encloses_macroInput : Encloses inside (Balanced inside) macroInput :=
  encloses_rawGroup.map fun g visible => .group visible g.2

theorem encloses_root : Encloses inside (fun _ => True) root :=
  (encloses_maybeMark rfl).map fun _ _ => trivial

/-! ## Lists between angle brackets -/

theorem encloses_angleList {element : Reader Entry}
    (he : Encloses true (fun e => Balanced true e.tokens) element) :
    Encloses inside (fun es => ∀ e ∈ es, e.IsBalanced) (angleList element n) :=
  .angled (encloses_listUntil rfl he n) fun _ listed => List.forall_mem_map.2 fun p mem =>
    ⟨listed.elements p mem, listed.separator rfl mem⟩

theorem encloses_introduced {list : Reader (List Token)} {m : String}
    (plain : isPlainOperator false m = true) (hl : Encloses false (Balanced false) list) :
    Encloses false (IsIntroduced m) (introduced m list) := by
  refine .get fun _ => .ite ?_ (.pure (.inl rfl))
  refine (encloses_mark plain).bind fun sign same => hl.map fun ts balanced => ?_
  rw [unlessEmpty]
  split
  · exact .inl rfl
  · exact .inr ⟨ts, balanced, by rw [same]⟩

theorem encloses_default {α : Type} {P : α → Prop} {x : Reader α} {f : α → List Token}
    {p : List Token → Bool} (hx : Encloses false P x) (hf : ∀ a, P a → Balanced false (f a)) :
    Encloses true (IsIntroduced "=") (whenAt p do return (← mark "=") ++ f (← x)) :=
  .get fun _ => .ite
    ((encloses_mark rfl).bind fun _ same => (hx.inner true).map fun a holds =>
      .inr ⟨f a, hf a holds, by rw [same]⟩) (.pure (.inl rfl))

section

variable (h : g.Enclose)

include h

theorem encloses_typeAfter (plus arguments : Bool) {lead : List Token}
    (balanced : Balanced false lead) :
    Encloses false (Balanced false) (do return lead ++ (← g.type plus arguments).tokens) :=
  (h.type plus arguments).map fun _ t => balanced.append t.tokens

theorem encloses_bounds {stop : List Token → Bool} :
    Encloses true (IsIntroduced ":")
      (introduced ":" (joined stop (g.bound false true) "+" n)) :=
  (encloses_introduced rfl (encloses_joined rfl (h.bound false true) n)).inner true

theorem encloses_parameter (unnamed : Bool) :
    Encloses true Parameter.IsBalanced (parameter g unnamed n) := by
  refine (encloses_outerAttributes n g).bind fun attributes isAttributes =>
    .get_here fun ts => ?_
  split
  · -- The name of a lifetime is skipped by setting the position, not by a reader.
    rename_i i rest found
    have bounds {stop : List Token → Bool} :
        Encloses true (IsIntroduced ":") (introduced ":" (joined stop lifetime "+" n)) :=
      (encloses_introduced rfl (encloses_joined rfl encloses_lifetime n)).inner true
    have parameter {stop : List Token → Bool} : Encloses true Parameter.IsBalanced (do
        return .lifetime attributes i (← introduced ":" (joined stop lifetime "+" n))) :=
      bounds.map fun _ bounds => ⟨isAttributes, bounds⟩
    intro p rest' read
    obtain ⟨span, holds⟩ := parameter rest p rest' read
    exact ⟨.trans ⟨_, lifetimeAt_passes found, Balanced.lifetime i⟩ span, holds⟩
  · split
    · refine (encloses_name.bind fun i named => (encloses_bounds n h).bind fun _ bounds =>
        (encloses_default (h.type true true) fun _ t => t.tokens).map fun _ default => ?_).here
      refine ⟨isAttributes, ?_, bounds, default⟩
      rintro rfl
      cases named
    · split
      · exact ((encloses_word _).bind fun _ _ => encloses_name.bind fun i _ =>
          (encloses_mark rfl).bind fun _ colon => ((h.type true true).inner true).bind fun t ty =>
          (encloses_default (encloses_constArgument n g) fun _ value => value).map fun _ default =>
            ⟨isAttributes, .inr ⟨_, ty.tokens, by rw [colon]⟩, default⟩).here
      · split
        · -- The word that was ahead is the name, so it is not the one for a constant.
          rename_i ahead
          intro p rest read
          obtain ⟨⟨i, _⟩, found, eq⟩ := Option.bind_eq_some_iff.1 read
          cases eq
          obtain ⟨r, front, isUnderscore⟩ :=
            (Option.any_eq_true _ _).1 (Bool.and_eq_true_iff.1 ahead).2
          obtain rfl := Option.some.inj (front.symm.trans found)
          refine ⟨.token (identAt_passes found) rfl, isAttributes, ?_, .inl rfl, .inl rfl⟩
          rintro rfl
          simp [Ident.plain] at isUnderscore
        · exact Encloses.failure.here

theorem encloses_parameterList (unnamed : Bool) :
    Encloses inside (Listed Parameter.IsBalanced ",") (parameterList g unnamed n) :=
  .angled (encloses_listUntil rfl (encloses_parameter n h unnamed) n) fun _ listed => listed

theorem encloses_binder : Encloses inside (Balanced inside) (binder g n) := by
  refine (encloses_word "for").bind fun lead word =>
    (encloses_parameterList n h false).map fun l listed => ?_
  rw [List.append_assoc, List.append_assoc, ← List.append_assoc (operator "<")]
  refine word.append (.angled (.flatMap fun p mem => ?_))
  obtain ⟨q, listedAt, rfl⟩ := List.mem_map.1 mem
  exact (listed.elements q listedAt).declared.append (listed.separator rfl listedAt)

theorem encloses_maybeBinder : Encloses inside (Balanced inside) (maybeBinder g n) :=
  encloses_whenAt (encloses_binder n h)

/-! ## Paths -/

theorem encloses_genericArgument :
    Encloses true (fun e => Balanced true e.tokens) (genericArgument g n) := by
  have equals : Encloses true (Balanced true) (mark "=") := encloses_markTokens rfl
  have colon : Encloses true (Balanced true) (mark ":") := encloses_markTokens rfl
  refine .get fun _ => .ite (encloses_lifetime.map fun _ written => written) <|
    .ite ((encloses_constArgument n g).map fun _ written => written) <|
    ((h.type true true).inner true).bind fun t balanced => .get fun _ => ?_
  have name := balanced.tokens.inner true
  refine .ite (equals.bind fun _ sign => .get fun _ => .ite ?constant ?type) <|
    .ite (colon.bind fun _ sign => ?bounds) (.pure name)
  case constant =>
    exact (encloses_constArgument n g).map fun _ value => (name.append sign).append value
  case type =>
    exact ((h.type true true).inner true).map fun _ t =>
      (name.append sign).append (t.tokens.inner true)
  case bounds =>
    exact ((encloses_joined rfl (h.bound false true) n).inner true).map fun _ bounds =>
      (name.append sign).append (bounds.inner true)

theorem encloses_angleArguments :
    Encloses inside (fun a => Balanced inside a.tokens) (angleArguments g n) :=
  encloses_root.bind fun turbofish _ =>
    (encloses_angleList n (encloses_genericArgument n h)).map fun entries balanced => by
      refine .append ?_ (balanced_angled balanced)
      split
      · exact balanced_operator rfl
      · exact .nil

theorem encloses_segment (inExpr : Bool) :
    Encloses false (fun s => Balanced false s.arguments.tokens) (segment g inExpr n) := by
  have arguments (i : Ident) : Encloses false (fun s => Balanced false s.arguments.tokens) do
      let ts ← get
      if (!inExpr && atMark "<" ts && !atMarks ["<=", "<<="] ts) || atTurbofish ts then
        return Segment.mk i (← angleArguments g n)
      else return ⟨i, .none⟩ :=
    .get fun _ => .ite ((encloses_angleArguments n h).map fun _ written => written) (.pure .nil)
  exact .get fun _ => .ite (encloses_anyIdent.map fun _ _ => .nil) <|
    .ite (encloses_anyIdent.bind fun i _ => arguments i) (encloses_name.bind fun i _ => arguments i)

theorem encloses_segmentsAfter (inExpr : Bool) :
    Encloses false (fun ss => ∀ s ∈ ss, Balanced false s.arguments.tokens)
      (segmentsAfter g inExpr n) := by
  induction n with
  | zero => exact .failure
  | succ n ih =>
    exact .get fun _ => .ite ((encloses_mark rfl).bind fun _ _ =>
      (encloses_segment n h inExpr).bind fun _ first => ih.map fun _ others =>
        List.forall_mem_cons.2 ⟨first, others⟩) (.pure nofun)

theorem encloses_extend (inExpr : Bool) {p : Path} (balanced : p.IsBalanced) :
    Encloses false Path.IsBalanced (Path.extend g inExpr n p) :=
  (encloses_segmentsAfter n h inExpr).map fun _ more => balanced.extend more

theorem encloses_path (inExpr : Bool) : Encloses false Path.IsBalanced (path g inExpr n) :=
  encloses_root.bind fun _ _ => (encloses_segment n h inExpr).bind fun _ first =>
    encloses_extend n h inExpr ⟨.nil, by simpa using first⟩

theorem encloses_qualifiedSegments (inExpr : Bool) :
    Encloses false (fun ss => ∀ s ∈ ss, Balanced false s.arguments.tokens)
      (qualifiedSegments g inExpr n) := by
  induction n with
  | zero => exact .failure
  | succ n ih =>
    exact (encloses_segment n h inExpr).bind fun _ first => .get fun _ =>
      .ite ((encloses_mark rfl).bind fun _ _ => ih.map fun _ others =>
        List.forall_mem_cons.2 ⟨first, others⟩) (.pure (by simpa using first))

theorem encloses_qualifiablePath (inExpr : Bool) :
    Encloses false Path.IsBalanced (qualifiablePath g inExpr n) := by
  have trait : Encloses true (Balanced true) (whenAt (atWord "as") do
      return (← word "as") ++ (← path g false n).tokens) :=
    encloses_whenAt <| (encloses_word "as").bind fun _ lead =>
      ((encloses_path n h false).inner true).map fun _ p => lead.append (p.tokens.inner true)
  have segments : Encloses false (fun ss => ∀ s ∈ ss, Balanced false s.arguments.tokens) (do
      let _ ← mark "::"
      qualifiedSegments g inExpr n) :=
    (encloses_mark rfl).bind fun _ _ => encloses_qualifiedSegments n h inExpr
  refine .get fun _ => .ite (fun ts p rest read => ?_) (encloses_path n h inExpr)
  simp only [run_bind, run_pure, Option.bind_eq_some_iff] at read
  obtain ⟨⟨_, opening⟩, opens, ⟨t, _⟩, type, ⟨as, closing⟩, asTrait, ⟨_, after⟩, closes,
    ⟨_, _⟩, colons, ⟨ss, _⟩, names, eq⟩ := read
  cases eq
  obtain ⟨span, balanced⟩ := (h.type true true).inner true opening t _ type
  obtain ⟨span', balanced'⟩ := trait _ as closing asTrait
  obtain ⟨span'', all⟩ := segments after ss _ (Option.bind_eq_some_iff.2 ⟨_, colons, names⟩)
  refine ⟨(Spans.angled opens (span.trans span') closes).trans span'', ?_, all⟩
  rw [(mark_passes opens).1, (mark_passes closes).1, List.append_assoc (operator "<")]
  exact .angled ((balanced.tokens.inner true).append balanced')

/-! ## Bounds -/

end

theorem encloses_captures : Encloses inside (Balanced inside) (captures n) := by
  have element : Encloses true (fun e => Balanced true e.tokens) (do
      let ts ← get
      if atLifetime ts then return Entry.mk true (← lifetime) []
      else if atName ts || atWord "Self" ts then return ⟨false, ← identToken, []⟩
      else failure) :=
    .get fun _ => .ite (encloses_lifetime.map fun _ written => written) <|
      .ite (encloses_identToken.map fun _ written => written) .failure
  exact (encloses_word "use").bind fun _ lead => (encloses_angleList n element).map fun _ entries =>
    lead.append (balanced_angled entries)

theorem encloses_constBound : Encloses inside (Balanced inside) constBound :=
  .get fun _ => .ite (encloses_word "const") (encloses_groupedTokens (by decide) _)

section

variable (h : g.Enclose)

include h

theorem encloses_returnType (plus : Bool) :
    Encloses false (Balanced false) (returnType g plus) :=
  encloses_whenAt <| encloses_arrow.bind fun _ arrow => encloses_typeAfter h plus true arrow

theorem encloses_parenthesizedArguments :
    Encloses false (fun a => Balanced false a.tokens) (parenthesizedArguments g n) :=
  (encloses_groupedTokens (by decide) _).bind fun _ inputs =>
    (encloses_returnType h false).map fun _ output => inputs.append output

theorem encloses_traitBound (consts : Bool) :
    Encloses false (fun a => Balanced false a.tokens) (traitBound g consts n) := by
  refine (encloses_maybeBinder n h).bind fun lifetimes quantified => .get fun _ =>
    .ite .failure_bind <| (encloses_whenAt encloses_constBound).bind fun _ _ =>
    (encloses_maybeMark rfl).bind fun modifier relaxed => .get fun _ => .ite .failure_bind <|
    (encloses_path n h false).bind fun p balanced => .get fun _ => .ite ?_ (.pure ?_)
  · exact encloses_root.bind fun _ _ => (encloses_parenthesizedArguments n h).bind fun a written =>
      .pure ((quantified.append relaxed).append (balanced.withArguments written).tokens)
  · exact (quantified.append relaxed).append balanced.tokens

theorem encloses_boundsAfter (capturing consts plus : Bool) :
    Encloses false (Listed (Balanced false) "+") (boundsAfter g capturing consts plus n) := by
  induction n with
  | zero => exact .failure
  | succ n ih =>
    exact (h.bound capturing consts).bind fun b bound => .get fun _ =>
      .ite ((encloses_mark rfl).bind fun s sign => .get fun _ => .ite
        (ih.map fun l listed => listed.cons bound sign) (.pure (.singleton bound (.inr sign))))
        (.pure (.singleton bound (.inl rfl)))

theorem encloses_objectBounds (isOpaque plus : Bool) :
    Encloses false (Listed (Balanced false) "+") (objectBounds g isOpaque plus n) :=
  (encloses_boundsAfter n h isOpaque isOpaque plus).bind fun _ listed =>
    .ite (.pure listed) .failure

theorem encloses_plusBounds : Encloses false (Balanced false) (plusBounds g n) :=
  encloses_until .nil (fun _ _ => .append)
    (encloses_append (encloses_markTokens rfl) (h.bound false false)) n

theorem encloses_boundRule (capturing consts : Bool) :
    Encloses false (Balanced false) (boundRule g capturing consts n) :=
  .get_here fun _ => .ite encloses_lifetime.here <|
    .ite (.ite (encloses_captures n).here Encloses.failure.here) <|
    encloses_finish <| .ite
      ((encloses_groupContent (by decide)).bind fun _ _ => (encloses_within _ _).map fun _ _ =>
        .group (by decide) _)
      (encloses_traitBound n h consts)

/-! ## Types -/

end

theorem encloses_abi : Encloses inside (Balanced inside) abi :=
  (encloses_word "extern").bind fun _ lead =>
    (encloses_whenAt encloses_stringLiteral).map fun _ name => lead.append name

theorem balanced_inParentheses (t : TypeExpr) : Balanced inside t.inParentheses := by
  rw [TypeExpr.inParentheses.eq_def]
  split <;> exact .group (by decide) _

theorem TypeExpr.IsBalanced.other {ts : List Token} (balanced : Balanced false ts) :
    TypeExpr.IsBalanced ⟨.other, ts⟩ :=
  ⟨balanced, nofun⟩

theorem TypeExpr.IsBalanced.group {ts : List Token} {form : TypeForm}
    (balanced : Balanced false ts) : TypeExpr.IsBalanced ⟨.group form, ts⟩ :=
  ⟨balanced, nofun⟩

theorem TypeExpr.IsBalanced.bounds {ts : List Token} {isOne : Bool} (balanced : Balanced false ts) :
    TypeExpr.IsBalanced ⟨.bounds isOne, ts⟩ :=
  ⟨balanced, nofun⟩

theorem encloses_other {r : Reader (List Token)} {ts : List Token}
    (hr : EnclosesAt false (Balanced false) r ts) :
    EnclosesAt false TypeExpr.IsBalanced (do return ⟨.other, ← r⟩) ts := by
  intro t rest read
  obtain ⟨⟨out, after⟩, inner, eq⟩ := Option.bind_eq_some_iff.1 read
  cases eq
  exact (hr out _ inner).imp_right .other

section

variable (h : g.Enclose)

include h

theorem encloses_functionType : Encloses false (Balanced false) (functionType g n) :=
  encloses_inOrder_cons (encloses_maybeWord "unsafe") <|
    encloses_inOrder_cons (encloses_whenAt encloses_abi) <|
    encloses_inOrder_cons (encloses_word "fn") <|
    encloses_inOrder_cons (encloses_groupedTokens (by decide) _) <|
    encloses_inOrder_cons (encloses_returnType h false) encloses_inOrder_nil

theorem encloses_parenthesisType (plus : Bool) :
    Encloses false TypeExpr.IsBalanced (parenthesisType g plus n) := by
  have group (content : List Token) : Balanced false [.group .parenthesis content] :=
    .group (by decide) content
  refine (encloses_groupContent (by decide)).bind fun content _ =>
    .ite (.pure (.other (group []))) <|
    .ite ((encloses_within _ _).map fun _ _ => .other (group _)) <|
    .ite ((encloses_within _ _).bind fun b _ => (encloses_plusBounds n h).map fun more written =>
      .bounds ((group b.tokens).append written)) <|
    (encloses_within _ _).bind fun t _ => .ite (.pure (.other (group _))) <| .get fun _ =>
      .ite ((encloses_plusBounds n h).map fun more written =>
        .bounds ((balanced_inParentheses _).append written)) (.pure (.other (group _)))

theorem encloses_pathType {lifetimes : List Token} (quantified : Balanced false lifetimes)
    (plus : Bool) : Encloses false TypeExpr.IsBalanced (pathType g lifetimes plus n) := by
  refine (encloses_qualifiablePath n h false).bind fun p balanced => .get fun _ =>
    .ite (.ite (.pure (.of_path balanced)) .failure) <|
    .ite ((encloses_inOrder_cons (encloses_markTokens rfl) <|
      encloses_inOrder_cons encloses_macroInput encloses_inOrder_nil).map fun _ call =>
        .other (balanced.tokens.append call)) <|
    .ite (.ite ?_ (.pure (.bounds (quantified.append balanced.tokens)))) (.pure (.of_path balanced))
  refine (encloses_markTokens rfl).bind fun _ sign => .get fun _ => .ite
    ((encloses_boundsAfter n h false false plus).map fun _ listed => ?_) (.pure ?_)
  · exact .bounds (((quantified.append balanced.tokens).append sign).append
      (listed.balanced_writeList rfl))
  · exact .bounds ((quantified.append balanced.tokens).append sign)

theorem encloses_typeAfterBinder {lifetimes : List Token} (quantified : Balanced false lifetimes)
    (plus : Bool) : Encloses false TypeExpr.IsBalanced (typeAfterBinder g lifetimes plus n) :=
  .get fun _ => .ite ((encloses_functionType n h).map fun _ written =>
    .other (quantified.append written)) <| .ite .failure (encloses_pathType n h quantified plus)

theorem encloses_groupType (arguments : Bool) :
    Encloses false TypeExpr.IsBalanced (groupType g arguments n) := by
  refine encloses_invisible (h.type true true) fun inner balanced => .get fun _ => ?_
  have grouped : Balanced false [.group .invisible inner.tokens] := by
    simpa [Balanced] using balanced.tokens
  have kept : Encloses false TypeExpr.IsBalanced
      (pure ⟨.group inner.form, [.group .invisible inner.tokens]⟩) := .pure (.group grouped)
  refine .ite ?further (.ite ?arguments kept)
  case further =>
    split
    · rename_i p form
      exact (encloses_extend n h false (balanced.path p form)).map fun _ p => .of_path p
    · exact (encloses_path n h false).map fun _ p =>
        .of_path ⟨.angled (balanced.tokens.inner true), p.arguments⟩
  case arguments =>
    split
    · rename_i p form
      exact .ite ((encloses_angleArguments n h).bind fun a written =>
        (encloses_extend n h false ((balanced.path p form).withArguments written)).map fun _ p =>
          .of_path p) kept
    · exact kept

theorem encloses_typeRule (plus arguments : Bool) :
    Encloses false TypeExpr.IsBalanced (typeRule g plus arguments n) := by
  refine .get_here fun ts => .ite (encloses_groupType n h arguments).here <| .ite ?quantified <|
    .ite (encloses_parenthesisType n h plus).here <|
    .ite (encloses_other (encloses_functionType n h).here) <|
    .ite (encloses_other encloses_builtin.here) <| .ite (encloses_pathType n h .nil plus).here <|
    .ite (encloses_other (encloses_finish ?object)) <|
    .ite (encloses_other (encloses_groupedTokens (by decide) _).here) <|
    .ite (encloses_other (Encloses.here ?pointer)) <|
    .ite (encloses_other (Encloses.here ?reference)) <|
    .ite (encloses_other (encloses_markTokens rfl).here) <|
    .ite (encloses_other (Encloses.here ?opaqueType)) <|
    .ite (encloses_other (encloses_word "_").here) <|
    .ite (Encloses.here ?lifetime) Encloses.failure.here
  case quantified =>
    intro t rest read
    obtain ⟨⟨lifetimes, after⟩, list, read⟩ := Option.bind_eq_some_iff.1 read
    obtain ⟨span, quantified⟩ := encloses_binder n h ts lifetimes after list
    simp only [run_bind, run_get, Option.bind_some, run_ite] at read
    split at read
    · -- A built-in form is kept together with the parameters before it.
      obtain ⟨⟨out, _⟩, kept, eq⟩ := Option.bind_eq_some_iff.1 read
      cases eq
      exact (finish_spans (encloses_builtin.map fun _ form => form) span kept).imp_right .other
    · exact (encloses_typeAfterBinder n h quantified plus after t rest read).imp_left span.trans
  case object =>
    exact (encloses_word "dyn").bind fun _ lead => (encloses_maybeMark rfl).bind fun _ star =>
      (encloses_objectBounds n h false plus).map fun _ listed =>
        lead.append (listed.balanced_writeList rfl)
  case pointer =>
    exact (encloses_markTokens rfl).bind fun _ star => .get fun _ =>
      .ite ((encloses_word "const").bind fun _ access =>
        encloses_typeAfter h false true (star.append access))
      ((encloses_word "mut").bind fun _ access =>
        encloses_typeAfter h false true (star.append access))
  case reference =>
    exact (encloses_inOrder_cons (encloses_markTokens rfl) <|
      encloses_inOrder_cons encloses_maybeLifetime <|
      encloses_inOrder_cons (encloses_maybeWord "mut") encloses_inOrder_nil).bind fun _ borrow =>
        encloses_typeAfter h false true borrow
  case opaqueType =>
    exact (encloses_word "impl").bind fun _ lead => (encloses_objectBounds n h true plus).map
      fun _ listed => lead.append (listed.balanced_writeList rfl)
  case lifetime =>
    exact (encloses_objectBounds n h false true).map fun _ listed =>
      .bounds (listed.balanced_writeList rfl)

end

end

theorem rules_enclose (n : Nat) : (rules n).Enclose := by
  induction n with
  | zero => exact ⟨fun _ _ => .failure, fun _ _ => .failure⟩
  | succ n ih => exact ⟨encloses_typeRule n ih, encloses_boundRule n ih⟩

end FontAccessors.Grammar
