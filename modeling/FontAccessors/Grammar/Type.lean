import FontAccessors.Grammar.Generics

namespace FontAccessors.Grammar
open Token

def captures (n : Nat) : Reader (List Token) := do
  -- In `use<T, 'a>` too the lifetimes are written first.
  let lead ← word "use"
  let entries ← angleList (do
    let ts ← get
    if atLifetime ts then return ⟨true, ← lifetime, []⟩
    else if atName ts || atWord "Self" ts then return ⟨false, ← identToken, []⟩
    else failure) n
  return lead ++ angled entries

def parenthesizedArguments (g : Rules) (n : Nat) : Reader Arguments := do
  let inputs ← grouped .parenthesis (commaList n do return (← g.type true true).tokens)
  let output ← whenAt (atMark "->") do
    return (← mark "->") ++ (← g.type false true).tokens
  return .parenthesis (inputs ++ output)

def atParenthesis (ts : List Token) : Bool :=
  atGroup .parenthesis ts || (atMark "::" ts && third (atGroup .parenthesis) ts)

def atConstBound (ts : List Token) : Bool :=
  atWord "const" ts || atGroup .bracket ts

def constBound : Reader (List Token) := do
  if atWord "const" (← get) then word "const" else grouped .bracket (word "const")

def traitBound (g : Rules) (consts : Bool) (n : Nat) : Reader Reading := do
  -- What holds in constants is kept as it stands.
  let lifetimes ← maybeBinder g n
  let isConst := atConstBound (← get)
  if isConst && !consts then failure
  let _ ← whenAt atConstBound constBound
  let modifier ← maybeMark "?"
  -- What `?` relaxes is one trait, and none for all lifetimes.
  if !modifier.isEmpty && (!lifetimes.isEmpty || atWord "for" (← get)) then failure
  let p ← path g false n
  let p ← if p.lastArguments.isEmpty && atParenthesis (← get) then do
      let _ ← root
      pure (p.withArguments (← parenthesizedArguments g n))
    else pure p
  return ⟨isConst, lifetimes ++ modifier ++ p.tokens⟩

def boundRule (g : Rules) (capturing consts : Bool) (n : Nat) : Reader (List Token) := do
  let ts ← get
  if atLifetime ts then lifetime
  else if atWord "use" ts then
    if capturing then captures n else failure
  else
    finish ts do
      if atGroup .parenthesis ts then
        let b ← within (← groupContent .parenthesis) (traitBound g consts n)
        return { b with tokens := [.group .parenthesis b.tokens] }
      else traitBound g consts n

def atBound (ts : List Token) : Bool :=
  atIdent ts || atMarks ["::", "?"] ts || atLifetime ts || atGroup .parenthesis ts

def isTraitBound : List Token → Bool
  | .punct '\'' _ :: _ => false
  | .ident i :: _ => i != .plain "use"
  | _ => true

def boundsAfter (g : Rules) (capturing consts plus : Bool) :
    Nat → Reader (List (List Token × List Token))
  | 0 => failure
  | n + 1 => do
    let b ← g.bound capturing consts
    if plus && atMark "+" (← get) then
      let sign ← mark "+"
      let ts ← get
      if atBound ts || (consts && atConstBound ts) then
        return (b, sign) :: (← boundsAfter g capturing consts plus n)
      else return [(b, sign)]
    else return [(b, [])]

/-- The bounds of a trait object or of an opaque type, at least one of which is a trait. An opaque
type may name what it captures, and traits that hold in constants. -/
def objectBounds (g : Rules) (isOpaque plus : Bool) (n : Nat) :
    Reader (List (List Token × List Token)) := do
  let bs ← boundsAfter g isOpaque isOpaque plus n
  if bs.any fun b => isTraitBound b.1 then return bs else failure

def returnType (g : Rules) (plus : Bool) : Reader (List Token) :=
  whenAt (atMark "->") do return (← mark "->") ++ (← g.type plus true).tokens

/-- A type in an invisible group, which further segments or arguments may extend. What is extended
is the type inside. -/
def groupType (g : Rules) (arguments : Bool) (n : Nat) : Reader TypeExpr := do
  let content ← invisibleContent
  let inner ← within content (g.type true true)
  let kept : TypeExpr := ⟨.group inner.form, [.group .invisible inner.tokens]⟩
  let ts ← get
  if atMark "::" ts && third atIdent ts then
    match inner.form with
    | .path p =>
      let p ← Path.extend g false n p
      return ⟨.path p, p.tokens⟩
    | _ =>
      let p ← path g false n
      let p := { p with qualifier := operator "<" ++ inner.tokens ++ operator ">" }
      return ⟨.path p, p.tokens⟩
  else if (atMark "<" ts && arguments) || atTurbofish ts then
    match inner.form with
    | .path p =>
      if p.lastArguments.isNone then
        let a ← angleArguments g n
        let p ← Path.extend g false n (p.withArguments a)
        return ⟨.path p, p.tokens⟩
      else return kept
    | _ => return kept
  else return kept

def plusBounds (g : Rules) (n : Nat) : Reader (List Token) :=
  until? (fun ts => !atMark "+" ts) (do return (← mark "+") ++ (← g.bound false false)) n

def TypeForm.isBound : TypeForm → Bool
  | .path p => !p.isQualified
  | .bounds isOne => isOne
  | _ => false

/-- A bound that is one parenthesis has no second one around it. -/
def TypeExpr.inParentheses (t : TypeExpr) : List Token :=
  match t.form, t.tokens with
  | .bounds _, [.group .parenthesis content] => [.group .parenthesis content]
  | _, ts => [.group .parenthesis ts]

def parenthesisType (g : Rules) (plus : Bool) (n : Nat) : Reader TypeExpr := do
  let content ← groupContent .parenthesis
  let wrap (ts : List Token) : List Token := [.group .parenthesis ts]
  if content.isEmpty then return ⟨.other, wrap []⟩
  else if atLifetime content then
    let bs ← within content (objectBounds g false true n)
    return ⟨.other, wrap (writeList bs)⟩
  else if atMark "?" content then
    let b ← within content (traitBound g false n)
    let more ← plusBounds g n
    return ⟨.bounds more.isEmpty, wrap b.tokens ++ more⟩
  else
    let (isTuple, t) ← within content do
      let first ← g.type true true
      if atMark "," (← get) then
        let comma ← mark ","
        let more ← commaList n do return (← g.type true true).tokens
        return (true, ⟨.other, first.tokens ++ comma ++ more⟩)
      else return (false, first)
    if isTuple then return ⟨.other, wrap t.tokens⟩
    else if plus && t.form.isBound && atMark "+" (← get) then
      return ⟨.bounds false, t.inParentheses ++ (← plusBounds g n)⟩
    else return ⟨.other, wrap t.tokens⟩

def atVariadic (ts : List Token) : Bool :=
  atMark "..." ts ||
    ((atName ts || atWord "_" ts) && second (atMark ":") ts && third (atMark "...") ts)

def functionTypeParameter (g : Rules) (isFirst : Bool) : Reader (List Token) := do
  let start ← get
  let atMutSelf (ts : List Token) := isFirst && atWord "mut" ts && second (atWord "self") ts
  let isMut := atMutSelf start
  finish start do
    let _ ← if isMut then word "mut" else pure []
    let ts ← get
    let isSelf := isFirst && atWord "self" ts
    let isLabelled := (atName ts || atWord "_" ts || isSelf) && second (atMark ":") ts &&
      !second (atMark "::") ts
    let label ← if isLabelled then inOrder [identToken, mark ":"] else pure []
    -- What has `mut self` in it, in front of a colon or behind one, is kept as it stands.
    if isMut && !isLabelled then return ⟨true, ← word "self"⟩
    else if !(isLabelled && isSelf) && atMutSelf (← get) then
      return ⟨true, ← inOrder [word "mut", word "self"]⟩
    else return ⟨isMut, label ++ (← g.type true true).tokens⟩

def functionTypeParameters (g : Rules) (isFirst : Bool) : Nat → Reader (List Token)
  | 0 => failure
  | n + 1 => do
    if (← get).isEmpty then return []
    let attributes ← outerAttributes g n
    if atVariadic (← get) then
      let label ← whenAt (fun ts => !atMark "..." ts) (inOrder [identToken, mark ":"])
      return attributes ++ label ++ (← inOrder [mark "...", maybeMark ","])
    let p ← functionTypeParameter g isFirst
    if (← get).isEmpty then return attributes ++ p
    let comma ← mark ","
    return attributes ++ p ++ comma ++ (← functionTypeParameters g false n)

def abi : Reader (List Token) := do
  return (← word "extern") ++
    (← whenAt (fun ts => (stringAt? ts).isSome) stringLiteral)

def maybeAbi : Reader (List Token) :=
  whenAt (atWord "extern") abi

def functionType (g : Rules) (n : Nat) : Reader (List Token) :=
  inOrder
    [maybeWord "unsafe", maybeAbi, word "fn",
      grouped .parenthesis (functionTypeParameters g true n), returnType g false]

def pathType (g : Rules) (lifetimes : List Token) (plus : Bool) (n : Nat) : Reader TypeExpr := do
  let p ← qualifiablePath g false n
  let ts ← get
  if p.isQualified then
    if lifetimes.isEmpty then return ⟨.path p, p.tokens⟩ else failure
  else if atMark "!" ts && !atMark "!=" ts && p.isModule then
    let call ← inOrder [mark "!", macroInput]
    return ⟨.other, p.tokens ++ call⟩
  else if !lifetimes.isEmpty || (plus && atMark "+" ts) then
    let first := lifetimes ++ p.tokens
    if plus && atMark "+" ts then
      let sign ← mark "+"
      if atBound (← get) then
        return ⟨.bounds false, first ++ sign ++ writeList (← boundsAfter g false false plus n)⟩
      else return ⟨.bounds false, first ++ sign⟩
    else return ⟨.bounds true, first⟩
  else return ⟨.path p, p.tokens⟩

def atFunctionType (ts : List Token) : Bool :=
  atWords ["fn", "unsafe", "extern"] ts

def atPath (ts : List Token) : Bool :=
  atPathName ts || atMarks ["::", "<"] ts

def typeAfterBinder (g : Rules) (lifetimes : List Token) (plus : Bool) (n : Nat) :
    Reader TypeExpr := do
  let ts ← get
  if atFunctionType ts then return ⟨.other, lifetimes ++ (← functionType g n)⟩
  else if !atPathName ts then failure
  else pathType g lifetimes plus n

def bracketType (g : Rules) : Reader (List Token) :=
  grouped .bracket do
    let element := (← g.type true true).tokens
    let length ← whenAt (atMark ";") do return (← mark ";") ++ (← g.expr true).tokens
    return element ++ length

def typeRule (g : Rules) (plus arguments : Bool) (n : Nat) : Reader TypeExpr := do
  let ts ← get
  let other (r : Reader (List Token)) : Reader TypeExpr := do return ⟨.other, ← r⟩
  if atInvisible ts then groupType g arguments n
  else if atWord "for" ts then
    let lifetimes ← binder g n
    if atBuiltin (← get) then
      other (finish ts do return ⟨true, ← builtin⟩)
    else typeAfterBinder g lifetimes plus n
  else if atGroup .parenthesis ts then parenthesisType g plus n
  else if atFunctionType ts then other (functionType g n)
  else if atBuiltin ts then other builtin
  else if atPath ts then pathType g [] plus n
  else if atWord "dyn" ts then
    other (finish ts do
      let lead ← word "dyn"
      let star ← maybeMark "*"
      return ⟨!star.isEmpty, lead ++ writeList (← objectBounds g false plus n)⟩)
  else if atGroup .bracket ts then other (bracketType g)
  else if atMark "*" ts then
    other do
      let star ← mark "*"
      let access ← if atWord "const" (← get) then word "const" else word "mut"
      return star ++ access ++ (← g.type false true).tokens
  else if atMark "&" ts then
    other do
      let borrow ← inOrder [mark "&", maybeLifetime, maybeWord "mut"]
      return borrow ++ (← g.type false true).tokens
  else if atMark "!" ts then other (mark "!")
  else if atWord "impl" ts then
    other do return (← word "impl") ++ writeList (← objectBounds g true plus n)
  else if atWord "_" ts then other (word "_")
  else if atLifetime ts then
    let bs ← objectBounds g false true n
    return ⟨.bounds (bs.length == 1 && (bs.all fun b => b.2.isEmpty)), writeList bs⟩
  else failure

end FontAccessors.Grammar
