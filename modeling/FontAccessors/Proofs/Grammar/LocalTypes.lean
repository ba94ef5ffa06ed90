import FontAccessors.Proofs.Grammar.Local

namespace FontAccessors.Grammar
open Token

structure Rules.Local (g : Rules) : Prop where
  type : ∀ plus arguments, Grammar.Local (g.type plus arguments)
  bound : ∀ capturing consts, Grammar.Local (g.bound capturing consts)

section

variable {g : Rules} (n : Nat)

theorem local_outerAttributes (g : Rules) : Local (outerAttributes g n) :=
  local_until (.not (stable_atMark "#" rfl))
    (local_inOrder_cons (local_mark "#" rfl) <| local_inOrder_cons (.pure _) <|
      local_inOrder_cons (local_grouped _ _) local_inOrder_nil) n

theorem local_constArgument (g : Rules) : Local (constArgument g n) :=
  .get <| .ite stable_atValue local_value <| .ite stable_atName local_nameToken <|
    local_grouped _ _

theorem local_builtin : Local builtin :=
  local_verbatim <| (local_inOrder_cons (local_word _) <| local_inOrder_cons (local_mark "#" rfl) <|
    local_inOrder_cons local_nameToken local_inOrder_nil).bind fun _ =>
      (local_groupContent _).bind fun _ => .pure _

theorem local_macroInput : Local macroInput :=
  peeks_rawGroup.local.bind fun _ => .pure _

theorem local_root : Local root :=
  (local_maybeMark "::" rfl).bind fun _ => .pure _

theorem local_angleList {element : Reader Entry} (he : Local element) :
    Local (angleList element n) :=
  (local_mark "<" rfl).bind fun _ =>
    (local_listUntil (stable_atMark ">" rfl) he (local_mark "," rfl) n).bind fun _ =>
      (local_mark ">" rfl).bind fun _ => .pure _

theorem local_introduced {list : Reader (List Token)} (m : String)
    (plain : extendsAngle m = false) (hl : Local list) : Local (introduced m list) :=
  local_whenAt (stable_atMark m plain) <|
    (local_mark m plain).bind fun _ => hl.bind fun _ => .pure _

section

variable (h : g.Local)

include h

theorem local_typeTokens (plus arguments : Bool) (lead : List Token) :
    Local (do return lead ++ (← g.type plus arguments).tokens) :=
  (h.type plus arguments).bind fun _ => .pure _

theorem local_parameter (unnamed : Bool) : Local (parameter g unnamed n) := by
  have lifetimes : Local (introduced ":" (joined (atMarks [",", ">"]) lifetime "+" n)) :=
    local_introduced ":" rfl (local_joined (stable_atMarks _ rfl) local_lifetime "+" rfl n)
  have bounds :
      Local (introduced ":" (joined (atMarks [",", ">", "="]) (g.bound false true) "+" n)) :=
    local_introduced ":" rfl (local_joined (stable_atMarks _ rfl) (h.bound false true) "+" rfl n)
  refine (local_outerAttributes n g).bind fun _ => ?_
  apply peeks_lifetimeAt.local_set
  case taken =>
    intro ts a rest found
    rw [found]
  case refused =>
    intro ts found
    rw [found]
  case hx => exact fun _ => lifetimes.bind fun _ => .pure _
  refine .ite stable_atName (local_name.bind fun _ => bounds.bind fun _ => ?_) <|
    .ite (stable_atWord "const") ((local_word "const").bind fun _ => local_name.bind fun _ =>
      (local_mark ":" rfl).bind fun _ => (h.type true true).bind fun _ => ?_) <|
    .ite (.and (.const unnamed) (stable_atWord "_")) (local_anyIdent.bind fun _ => .pure _) .failure
  · exact (local_whenAt (stable_atMark "=" rfl) ((local_mark "=" rfl).bind fun _ =>
      local_typeTokens h true true _)).bind fun _ => .pure _
  · exact (local_whenAt (stable_atMark "=" rfl)
      (local_append (local_mark "=" rfl) (local_constArgument n g))).bind fun _ => .pure _

theorem local_binder : Local (binder g n) :=
  (local_word "for").bind fun _ => Follows.bind ((local_mark "<" rfl).bind fun _ =>
    (local_listUntil (stable_atMark ">" rfl) (local_parameter n h false)
        (local_mark "," rfl) n).bind
      fun _ => (local_mark ">" rfl).bind fun _ => .pure _) fun _ => .pure _

theorem local_maybeBinder : Local (maybeBinder g n) :=
  local_whenAt (stable_atWord "for") (local_binder n h)

theorem local_genericArgument : Local (genericArgument g n) := by
  have value : Stable fun ts => atValue ts || atGroup .brace ts :=
    stable_atValue.or (stable_atGroup .brace)
  refine .get <| .ite stable_atLoneLifetime
    (local_lifetime.bind fun _ => .pure _) <|
    .ite value ((local_constArgument n g).bind fun _ => .pure _) <|
    (h.type true true).bind fun t => .get <|
      .ite (.and (.const t.isAssociatedName) (stable_atMark "=" rfl)) ?binding <|
      .ite (.and (.const t.isAssociatedName) (stable_atMark ":" rfl)) ?bounded (.pure _)
  case binding =>
    exact (local_mark "=" rfl).bind fun _ => .get <| .ite value
      ((local_constArgument n g).bind fun _ => .pure _) ((h.type true true).bind fun _ => .pure _)
  case bounded =>
    exact (local_mark ":" rfl).bind fun _ =>
      (local_joined (stable_atMarks _ rfl) (h.bound false true) "+" rfl n).bind fun _ => .pure _

theorem local_angleArguments : Local (angleArguments g n) :=
  local_root.bind fun _ =>
    (local_angleList n (local_genericArgument n h)).bind fun _ => .pure _

theorem local_segment (inExpr : Bool) : Local (segment g inExpr n) := by
  have arguments (i : Ident) : Local do
      let ts ← get
      if (!inExpr && atMark "<" ts && !atMarks ["<=", "<<="] ts) || atTurbofish ts then
        return Segment.mk i (← angleArguments g n)
      else return ⟨i, .none⟩ :=
    .get <| .ite
      (.or (.and (.and (.const _) (stable_atMark "<" rfl)) (.not (stable_atMarks _ rfl)))
        stable_atTurbofish)
      ((local_angleArguments n h).bind fun _ => .pure _) (.pure _)
  exact .get <| .ite (stable_atWords _) (local_anyIdent.bind fun _ => .pure _) <|
    .ite (stable_atWord "Self") (local_anyIdent.bind arguments) (local_name.bind arguments)

theorem local_segmentsAfter (inExpr : Bool) : Local (segmentsAfter g inExpr n) := by
  induction n with
  | zero => exact .failure
  | succ n ih =>
    exact .get <| .ite stable_atFurther
      ((local_mark "::" rfl).bind fun _ => (local_segment n h inExpr).bind fun _ =>
        ih.bind fun _ => .pure _) (.pure _)

theorem local_path (inExpr : Bool) : Local (path g inExpr n) :=
  local_root.bind fun _ =>
    (local_segment n h inExpr).bind fun _ =>
      (local_segmentsAfter n h inExpr).bind fun _ => .pure _

theorem local_qualifiedSegments (inExpr : Bool) : Local (qualifiedSegments g inExpr n) := by
  induction n with
  | zero => exact .failure
  | succ n ih =>
    exact (local_segment n h inExpr).bind fun _ => .get <| .ite (stable_atMark "::" rfl)
      ((local_mark "::" rfl).bind fun _ => ih.bind fun _ => .pure _) (.pure _)

theorem local_qualifiablePath (inExpr : Bool) : Local (qualifiablePath g inExpr n) := by
  have trait : Local (whenAt (atWord "as") do
      return (← word "as") ++ (← path g false n).tokens) :=
    local_whenAt (stable_atWord "as") <| (local_word "as").bind fun _ =>
      (local_path n h false).bind fun _ => .pure _
  exact .get <| .ite (stable_atMark "<" rfl)
    ((local_mark "<" rfl).bind fun _ => (h.type true true).bind fun _ => trait.bind fun _ =>
      (local_mark ">" rfl).bind fun _ => (local_mark "::" rfl).bind fun _ =>
        (local_qualifiedSegments n h inExpr).bind fun _ => .pure _)
    (local_path n h inExpr)

end

theorem local_captures : Local (captures n) :=
  (local_word "use").bind fun _ => (local_angleList n (.get <|
    .ite stable_atLifetime (local_lifetime.bind fun _ => .pure _) <|
    .ite (stable_atName.or (stable_atWord "Self")) (local_identToken.bind fun _ => .pure _)
      .failure)).bind fun _ => .pure _

theorem stable_atConstBound : Stable atConstBound :=
  (stable_atWord "const").or (stable_atGroup .bracket)

theorem stable_atBound : Stable atBound :=
  .or (.or (.or stable_atIdent (stable_atMarks _ rfl)) stable_atLifetime)
    (stable_atGroup .parenthesis)

theorem local_constBound : Local constBound :=
  .get <| .ite (stable_atWord "const") (local_word "const") (local_grouped _ _)

section

variable (h : g.Local)

include h

theorem local_returnType (plus : Bool) : Local (returnType g plus) :=
  local_whenAt (stable_atMark "->" rfl) <| (local_mark "->" rfl).bind fun _ =>
    (h.type plus true).bind fun _ => .pure _

theorem local_parenthesizedArguments : Local (parenthesizedArguments g n) :=
  (local_grouped _ _).bind fun _ => Follows.bind (local_returnType h false) fun _ => .pure _

theorem local_traitBound (consts : Bool) : Local (traitBound g consts n) := by
  refine (local_maybeBinder n h).bind fun _ => .get <| .of_seen (fun _ => ?_) ?_
  · refine .ite (.const _) .failure_bind <|
      (local_whenAt stable_atConstBound local_constBound).bind fun _ =>
      (local_maybeMark "?" rfl).bind fun _ => .get <|
      .ite (.and (.const _) (.or (.const _) (stable_atWord "for"))) .failure_bind <|
      (local_path n h false).bind fun p => .get <|
      .ite (.and (.const p.lastArguments.isEmpty) stable_atParenthesis) ?_ (.pure _)
    exact local_root.bind fun _ => (local_parenthesizedArguments n h).bind fun _ => .pure _
  · intro us ts visible closes
    simp only [stable_atConstBound us ts visible closes]

theorem local_boundsAfter (capturing consts plus : Bool) :
    Local (boundsAfter g capturing consts plus n) := by
  induction n with
  | zero => exact .failure
  | succ n ih =>
    exact (h.bound capturing consts).bind fun _ => .get <|
      .ite (.and (.const plus) (stable_atMark "+" rfl)) ((local_mark "+" rfl).bind fun _ => .get <|
        .ite (.or stable_atBound (.and (.const consts) stable_atConstBound))
          (ih.bind fun _ => .pure _) (.pure _)) (.pure _)

theorem local_objectBounds (isOpaque plus : Bool) : Local (objectBounds g isOpaque plus n) :=
  (local_boundsAfter n h isOpaque isOpaque plus).bind fun _ => .ite (.const _) (.pure _) .failure

theorem local_plusBounds : Local (plusBounds g n) :=
  local_until (.not (stable_atMark "+" rfl))
    (local_append (local_mark "+" rfl) (h.bound false false)) n

theorem local_boundRule (capturing consts : Bool) : Local (boundRule g capturing consts n) :=
  .get <| .ite stable_atLifetime local_lifetime <|
    .ite (stable_atWord "use") (.ite (.const capturing) (local_captures n) .failure) <|
    follows_finish <| .ite (stable_atGroup .parenthesis)
      ((local_groupContent _).bind fun _ => (local_within _ _).bind fun _ => .pure _)
      (local_traitBound n h consts)

end

theorem local_abi : Local abi :=
  (local_word "extern").bind fun _ =>
    (local_whenAt stable_atString local_stringLiteral).bind fun _ => .pure _

section

variable (h : g.Local)

include h

theorem local_functionType : Local (functionType g n) :=
  local_inOrder_cons (local_maybeWord "unsafe") <|
    local_inOrder_cons (local_whenAt (stable_atWord "extern") local_abi) <|
    local_inOrder_cons (local_word "fn") <| local_inOrder_cons (local_grouped _ _) <|
    local_inOrder_cons (local_returnType h false) local_inOrder_nil

theorem local_parenthesisType (plus : Bool) : Local (parenthesisType g plus n) := by
  have plusBounds := local_plusBounds n h
  refine (local_groupContent _).bind fun content => .ite (.const _) (.pure _) <|
    .ite (.const _) ((local_within _ _).bind fun _ => .pure _) <|
    .ite (.const _) ((local_within _ _).bind fun _ => plusBounds.bind fun _ => .pure _) <|
    (local_within _ _).bind fun t => .ite (.const t.1) (.pure _) <|
      .get <| .ite (.and (.const _) (stable_atMark "+" rfl)) (plusBounds.bind fun _ => .pure _)
        (.pure _)

theorem local_pathType (lifetimes : List Token) (plus : Bool) :
    Local (pathType g lifetimes plus n) := by
  have plusAhead : Stable fun ts => plus && atMark "+" ts :=
    .and (.const plus) (stable_atMark "+" rfl)
  refine (local_qualifiablePath n h false).bind fun p => .get <| .ite (.const _)
    (.ite (.const _) (.pure _) .failure) <|
    .ite (.and (.and (stable_atMark "!" rfl) (.not (stable_atMark "!=" rfl))) (.const p.isModule))
      ((local_inOrder_cons (local_mark "!" rfl) <|
        local_inOrder_cons local_macroInput local_inOrder_nil).bind fun _ => .pure _) <|
    .ite (.or (.const _) plusAhead) (.ite plusAhead ?several (.pure _)) (.pure _)
  exact (local_mark "+" rfl).bind fun _ => .get <| .ite stable_atBound
    ((local_boundsAfter n h false false plus).bind fun _ => .pure _) (.pure _)

theorem local_typeAfterBinder (lifetimes : List Token) (plus : Bool) :
    Local (typeAfterBinder g lifetimes plus n) :=
  .get <| .ite (stable_atWords _) ((local_functionType n h).bind fun _ => .pure _) <|
    .ite (.not stable_atPathName) .failure (local_pathType n h lifetimes plus)

theorem local_typeRule (plus arguments : Bool) : Local (typeRule g plus arguments n) := by
  have other {r : Reader (List Token)} (hr : Local r) :
      Local (do return TypeExpr.mk .other (← r)) :=
    hr.bind fun _ => .pure _
  refine .get <| .ite_never stable_atInvisible (fun _ => atInvisible_visible) <|
    .ite (stable_atWord "for") ?quantified <|
    .ite (stable_atGroup .parenthesis) (local_parenthesisType n h plus) <|
    .ite (stable_atWords _) (other (local_functionType n h)) <|
    .ite stable_atBuiltin (other local_builtin) <|
    .ite stable_atPath (local_pathType n h [] plus) <|
    .ite (stable_atWord "dyn") ?object <|
    .ite (stable_atGroup .bracket) (other (local_grouped _ _)) <|
    .ite (stable_atMark "*" rfl) (other ((local_mark "*" rfl).bind fun _ => .get <|
      .ite (stable_atWord "const") ((local_word "const").bind fun _ => ?constant)
        ((local_word "mut").bind fun _ => ?mutable))) <|
    .ite (stable_atMark "&" rfl) (other ?borrowed) <|
    .ite (stable_atMark "!" rfl) (other (local_mark "!" rfl)) <|
    .ite (stable_atWord "impl") (other ((local_word "impl").bind fun _ =>
      (local_objectBounds n h true plus).bind fun _ => .pure _)) <|
    .ite (stable_atWord "_") (other (local_word "_")) <|
    .ite stable_atLifetime ((local_objectBounds n h false true).bind fun _ => .pure _) .failure
  case quantified =>
    exact (local_binder n h).bind fun lifetimes => .get_ite stable_atBuiltin
      ((follows_finish (local_builtin.bind fun _ => .pure _)).bind fun _ => .pure _)
      (local_typeAfterBinder n h lifetimes plus)
  case object =>
    exact (follows_finish ((local_word "dyn").bind fun _ => (local_maybeMark "*" rfl).bind fun _ =>
      (local_objectBounds n h false plus).bind fun _ => .pure _)).bind fun _ => .pure _
  case constant | mutable => exact (h.type false true).bind fun _ => .pure _
  case borrowed =>
    exact (local_inOrder_cons (local_mark "&" rfl) <| local_inOrder_cons local_maybeLifetime <|
      local_inOrder_cons (local_maybeWord "mut") local_inOrder_nil).bind fun _ =>
        (h.type false true).bind fun _ => .pure _

end

theorem local_rules (n : Nat) : (rules n).Local := by
  induction n with
  | zero => exact ⟨fun _ _ => .failure, fun _ _ => .failure⟩
  | succ n ih => exact ⟨local_typeRule n ih, local_boundRule n ih⟩

end

end FontAccessors.Grammar
