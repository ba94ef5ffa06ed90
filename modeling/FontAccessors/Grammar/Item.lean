import FontAccessors.Grammar.Function

namespace FontAccessors.Grammar
open Token

def field (g : Rules) (n : Nat) : Reader (List Token) := do
  let lead := (← outerAttributes g n) ++ (← visibility n)
  return lead ++ (← g.type true true).tokens

def namedFields (g : Rules) : Nat → Reader (List Token)
  | 0 => failure
  | n + 1 =>
    grouped .brace do
      commaList n do
        let lead := (← outerAttributes g n) ++ (← visibility n)
        let isUnnamed := atWord "_" (← get)
        let name ← if isUnnamed then identToken else nameToken
        let colon ← mark ":"
        let ts ← get
        let t ←
          if isUnnamed && (atWord "struct" ts || (atWord "union" ts && second (atGroup .brace) ts))
          then verbatim do
            let _ ← anyIdent
            let _ ← namedFields g n
          else do pure (← g.type true true).tokens
        return lead ++ name ++ colon ++ t

def unnamedFields (g : Rules) (n : Nat) : Reader (List Token) :=
  grouped .parenthesis (commaList n (field g n))

def variant (g : Rules) (n : Nat) : Reader (List Token) := do
  let attributes ← outerAttributes g n
  let _ ← visibility n
  let name ← nameToken
  let ts ← get
  let fields ←
    if atGroup .brace ts then namedFields g n
    else if atGroup .parenthesis ts then unnamedFields g n
    else pure []
  let value ← whenAt (atMark "=") do return (← mark "=") ++ (← g.expr true).tokens
  return attributes ++ name ++ fields ++ value

def enumeration (g : Rules) (n : Nat) (attributes visibility : List Token) :
    Reader Enumeration := do
  let _ ← word "enum"
  let i ← name
  let ps ← generics g n
  let cs ← conditions g n
  let variants ← within (← groupContent .brace) (commaList n (variant g n))
  return ⟨attributes, visibility, i, ps, cs, variants⟩

def heading (g : Rules) (w : String) (n : Nat) : Reader (List Token) := do
  let lead ← inOrder [word w, nameToken]
  return lead ++ (← generics g n).write Parameter.declared

def structItem (g : Rules) (n : Nat) : Reader (List Token) := do
  let lead ← heading g "struct" n
  let ts ← get
  if atGroup .parenthesis ts then
    return lead ++ (← inOrder [unnamedFields g n, conditions g n, mark ";"])
  else
    let cs ← conditions g n
    if atGroup .brace (← get) then return lead ++ cs ++ (← namedFields g n)
    else return lead ++ cs ++ (← mark ";")

def union (g : Rules) (n : Nat) : Reader (List Token) :=
  inOrder [heading g "union" n, conditions g n, namedFields g n]

def function (g : Rules) (n : Nat) : Reader Reading := do
  let s ← signature g false n
  if atMark ";" (← get) then return ⟨true, s ++ (← mark ";")⟩
  else return ⟨false, s ++ (← attributedBlock g n)⟩

structure Definition where
  hasColon : Bool
  hasValue : Bool
  tokens : List Token

def maybeType (g : Rules) : Reader (List Token) :=
  whenAt (atMark ":") do return (← mark ":") ++ (← g.type true true).tokens

def maybeValue (g : Rules) : Reader (List Token) :=
  whenAt (atMark "=") do return (← mark "=") ++ (← g.expr true).tokens

/-- A constant. With parameters or conditions of its own, or without a value where it needs one, it
is kept as it stands. -/
def constant (g : Rules) (needsValue : Bool) (n : Nat) : Reader Reading := do
  let lead ← word "const"
  let name ← if atWord "_" (← get) then identToken else nameToken
  let hasParameters := atMark "<" (← get)
  let ps ← generics g n
  let t ← maybeType g
  if t.isEmpty then failure
  let value ← maybeValue g
  let hasConditions := atWord "where" (← get)
  let cs ← conditions g n
  let stop ← mark ";"
  return ⟨hasParameters || hasConditions || (needsValue && value.isEmpty),
    lead ++ name ++ ps.write Parameter.declared ++ t ++ value ++ cs ++ stop⟩

def static (g : Rules) : Reader Definition := do
  let lead ← inOrder [word "static", maybeWord "mut", nameToken]
  let t ← maybeType g
  let value ← maybeValue g
  if t.isEmpty && value.isEmpty then failure
  return ⟨!t.isEmpty, !value.isEmpty, lead ++ t ++ value ++ (← mark ";")⟩

inductive ConditionPlace where
  | beforeValue
  | afterValue
  | either
  deriving DecidableEq

def typeItem (g : Rules) (place : ConditionPlace) (n : Nat) : Reader Definition := do
  let lead ← heading g "type" n
  let hasBounds := atMark ":" (← get)
  let stop (ts : List Token) := atWord "where" ts || atMarks ["=", ";"] ts
  let bounds ← whenAt (atMark ":") do
    let colon ← mark ":"
    return unlessEmpty colon (writeList (← listUntil stop (g.bound false true) (mark "+") n))
  let hasConditions := place != .afterValue && atWord "where" (← get)
  let before ← if hasConditions then conditions g n else pure []
  let value ← whenAt (atMark "=") do return (← mark "=") ++ (← g.type true true).tokens
  let after ←
    if place = .beforeValue || hasConditions then pure [] else conditions g n
  return ⟨hasBounds, !value.isEmpty, lead ++ bounds ++ before ++ value ++ after ++ (← mark ";")⟩

def macroItem (named : Bool) (n : Nat) : Reader (List Token) := do
  let p ← modulePath n
  let bang ← mark "!"
  let ts ← get
  let name ←
    if named && (atName ts || atWord "try" ts) then identToken else pure []
  let input ← macroInput
  let stop ← if endsInBrace input then pure [] else mark ";"
  return p.tokens ++ bang ++ name ++ input ++ stop

def macroDefinition : Reader Reading := do
  let lead ← inOrder [word "macro", nameToken]
  let input ← whenAt (atGroup .parenthesis) do
    return [.group .parenthesis (← groupContent .parenthesis)]
  return ⟨true, lead ++ input ++ [.group .brace (← groupContent .brace)]⟩

def underscoreOrName : Reader (List Token) := do
  if atWord "_" (← get) then identToken else nameToken

/-- The trees in braces; whether some path among them begins at the root. -/
def useTrees (g : Rules) (roots : Bool) : Nat → Reader (Bool × List Token)
  | 0 => failure
  | n + 1 => do
    if (← get).isEmpty then return (false, [])
    let isRooted ← if roots then root else pure false
    let (hasRoot, tree) ← g.useTree (roots && !isRooted)
    if (← get).isEmpty then return (isRooted || hasRoot, tree)
    let comma ← mark ","
    let (more, trees) ← useTrees g roots n
    return (isRooted || hasRoot || more, tree ++ comma ++ trees)

def useTreeRule (g : Rules) (roots : Bool) (n : Nat) : Reader (Bool × List Token) := do
  let ts ← get
  if atName ts || atWords ["self", "super", "crate", "try"] ts then
    let i ← identToken
    if atMark "::" (← get) then
      let sep ← mark "::"
      return (false, i ++ sep ++ (← g.useTree false).2)
    else if atWord "as" (← get) then
      return (false, i ++ (← word "as") ++ (← underscoreOrName))
    else return (false, i)
  else if atMark "*" ts then return (false, ← mark "*")
  else
    let (hasRoot, trees) ← within (← groupContent .brace) (useTrees g roots n)
    return (hasRoot, [.group .brace trees])

def useItem (g : Rules) : Reader Reading := do
  let lead ← word "use"
  let isRooted ← root
  let (hasRoot, tree) ← g.useTree (!isRooted)
  return ⟨hasRoot, lead ++ (if isRooted then operator "::" else []) ++ tree ++ (← mark ";")⟩

def externCrate : Reader (List Token) := do
  let lead ← inOrder [word "extern", word "crate"]
  let name ← if atWord "self" (← get) then identToken else nameToken
  let rename ← whenAt (atWord "as") (inOrder [word "as", underscoreOrName])
  return lead ++ name ++ rename ++ (← mark ";")

def atMacroPath (ts : List Token) : Bool :=
  atName ts || atWords ["self", "super", "crate"] ts || atMark "::" ts

def memberBody (g : Rules) (n : Nat) : Reader (List Token) := do
  if atMark ";" (← get) then mark ";" else attributedBlock g n

/-- A member of a trait. One with a visibility or a default of its own is kept as it stands. -/
def traitMember (g : Rules) (n : Nat) : Reader (List Token) := do
  let start ← get
  let attributes ← outerAttributes g n
  let vis ← visibility n
  let isDefault := atWord "default" (← get)
  let _ ← maybeWord "default"
  let ts ← get
  let qualified := !vis.isEmpty || isDefault
  finish start do
    if atFunction false ts then
      return ⟨qualified, attributes ++ (← signature g false n) ++ (← memberBody g n)⟩
    else if atWord "const" ts then
      let c ← constant g false n
      return ⟨qualified || c.isVerbatim, attributes ++ c.tokens⟩
    else if atWord "type" ts then
      let t ← typeItem g .afterValue n
      return ⟨qualified, attributes ++ t.tokens⟩
    else if !qualified && atMacroPath ts then
      return ⟨false, attributes ++ (← macroItem false n)⟩
    else failure

def implMember (g : Rules) (n : Nat) : Reader (List Token) := do
  let start ← get
  let attributes ← outerAttributes g n
  let vis ← visibility n
  let ts ← get
  let isDefault := atWord "default" ts && !second (atMark "!") ts
  let default ← if isDefault then word "default" else pure []
  let lead := attributes ++ vis ++ default
  let ts ← get
  finish start do
    if atFunction false ts then
      let f ← function g n
      return { f with tokens := lead ++ f.tokens }
    else if atWord "const" ts then
      let c ← constant g true n
      return { c with tokens := lead ++ c.tokens }
    else if atWord "type" ts then
      let t ← typeItem g .afterValue n
      return ⟨t.hasColon || !t.hasValue, lead ++ t.tokens⟩
    else if vis.isEmpty && !isDefault && atMacroPath ts then
      return ⟨false, lead ++ (← macroItem false n)⟩
    else failure

def foreignMember (g : Rules) (n : Nat) : Reader (List Token) := do
  let start ← get
  let attributes ← outerAttributes g n
  let vis ← visibility n
  let lead := attributes ++ vis
  let ts ← get
  let isStatic := atWord "static" ts ||
    (atWords ["unsafe", "safe"] ts && second (atWord "static") ts)
  finish start do
    if atFunction true ts then
      let isSafe := (functionWords false ts).all fun r => !atWord "fn" r.2
      let s ← signature g true n
      if atGroup .brace (← get) then return ⟨true, s ++ (← attributedBlock g n)⟩
      else return ⟨isSafe, lead ++ s ++ (← mark ";")⟩
    else if isStatic then
      let safety ← if atWord "static" ts then pure [] else identToken
      let s ← static g
      if !s.hasColon then failure
      return ⟨!safety.isEmpty || s.hasValue, lead ++ safety ++ s.tokens⟩
    else if atWord "type" ts then
      let t ← typeItem g .either n
      return ⟨t.hasColon || t.hasValue, lead ++ t.tokens⟩
    else if vis.isEmpty && atMacroPath ts then
      return ⟨false, lead ++ (← macroItem false n)⟩
    else failure

def members (g : Rules) (element : Reader (List Token)) (n : Nat) : Reader (List Token) :=
  grouped .brace do return (← innerAttributes g n) ++ (← until? List.isEmpty element n)

def foreignBlock (g : Rules) (n : Nat) : Reader (List Token) :=
  inOrder [maybeWord "unsafe", abi, members g (foreignMember g n) n]

def module (g : Rules) (n : Nat) : Reader (List Token) := do
  let lead ← inOrder [maybeWord "unsafe", word "mod"]
  let name ← if atWord "try" (← get) then identToken else nameToken
  if atMark ";" (← get) then return lead ++ name ++ (← mark ";")
  else return lead ++ name ++ (← members g (do return (← g.item).tokens) n)

def trait (g : Rules) (n : Nat) : Reader (List Token) := do
  let lead ← inOrder [maybeWord "unsafe", maybeWord "auto"]
  let head ← heading g "trait" n
  let stop (ts : List Token) := atWord "where" ts || atGroup .brace ts
  let bounds ← whenAt (atMark ":") do
    let colon ← mark ":"
    return unlessEmpty colon (writeList (← listUntil stop (g.bound false true) (mark "+") n))
  let cs ← conditions g n
  return lead ++ head ++ bounds ++ cs ++ (← members g (traitMember g n) n)

def traitAlias (g : Rules) (n : Nat) : Reader (List Token) := do
  let head ← heading g "trait" n
  let sign ← mark "="
  let stop (ts : List Token) := atWord "where" ts || atMark ";" ts
  let bounds ← listUntil stop (g.bound false false) (mark "+") n
  return head ++ sign ++ writeList bounds ++ (← conditions g n) ++ (← mark ";")

def atTraitAlias (g : Rules) (n : Nat) (ts : List Token) : Bool :=
  (heading g "trait" n ts).any fun r => atMark "=" r.2

def implBlock (g : Rules) (hasVisibility : Bool) (n : Nat) : Reader Reading := do
  let lead ← inOrder [maybeWord "default", maybeWord "unsafe", word "impl"]
  let ps ← if atParameters (← get) then generics g n else pure []
  let ts ← get
  let isConst := atWord "const" ts || (atMark "?" ts && second (atWord "const") ts)
  let _ ← if isConst then inOrder [maybeMark "?", word "const"] else pure []
  let ts ← get
  let polarity ←
    if atMark "!" ts && !second (atGroup .brace) ts then mark "!" else pure []
  let first ← g.type true true
  let isFor := atWord "for" (← get)
  if !isFor && !polarity.isEmpty then failure
  let target ← whenAt (atWord "for") do return (← word "for") ++ (← g.type true true).tokens
  -- A trait is written without the invisible groups around it, the type of a plain block with them.
  let (isTrait, subject) :=
    match first.form.ungrouped with
    | .path p => if isFor && !p.isQualified then (true, p.tokens) else (false, first.tokens)
    | _ => (false, first.tokens)
  let cs ← conditions g n
  let body ← members g (implMember g n) n
  return ⟨hasVisibility || isConst || (isFor && !isTrait),
    lead ++ ps.write Parameter.declared ++ polarity ++ subject ++ target ++ cs ++ body⟩

def otherItem (g : Rules) (vis : List Token) (n : Nat) : Reader Reading := do
  let ts ← get
  let written (r : Reader (List Token)) : Reader Reading := do return ⟨false, vis ++ (← r)⟩
  let kept (r : Reader Reading) : Reader Reading := do
    let a ← r
    return { a with tokens := vis ++ a.tokens }
  if atFunction false ts then kept (function g n)
  else if atWord "extern" ts then
    if second (atWord "crate") ts then written externCrate
    else if vis.isEmpty then plainly (foreignBlock g n)
    else failure
  else if atWord "use" ts then kept (useItem g)
  else if atWord "static" ts then
    let s ← static g
    return ⟨!s.hasColon || !s.hasValue, vis ++ s.tokens⟩
  else if atWord "const" ts then kept (constant g true n)
  else if atWord "unsafe" ts then
    if second (atWord "trait") ts || (second (atWord "auto") ts && third (atWord "trait") ts) then
      written (trait g n)
    else if second (atWord "impl") ts then implBlock g (!vis.isEmpty) n
    else if second (atWord "extern") ts && vis.isEmpty then plainly (foreignBlock g n)
    else if second (atWord "mod") ts then written (module g n)
    else failure
  else if atWord "mod" ts then written (module g n)
  else if atWord "type" ts then
    let t ← typeItem g .beforeValue n
    return ⟨t.hasColon || !t.hasValue, vis ++ t.tokens⟩
  else if atWord "struct" ts then written (structItem g n)
  else if atWord "union" ts && second atName ts then written (union g n)
  else if atWord "trait" ts then
    if atTraitAlias g n ts then written (traitAlias g n) else written (trait g n)
  else if atWord "auto" ts && second (atWord "trait") ts then written (trait g n)
  else if atWord "impl" ts || (atWord "default" ts && !second (atMark "!") ts) then
    implBlock g (!vis.isEmpty) n
  else if atWord "macro" ts then macroDefinition
  else if vis.isEmpty && atMacroPath ts then plainly (macroItem true n)
  else failure

def itemRule (g : Rules) (n : Nat) : Reader Item := do
  let start ← get
  let attributes ← outerAttributes g n
  let vis ← visibility n
  if atWord "enum" (← get) then return .enumeration (← enumeration g n attributes vis)
  else
    let ts ← finish start do
      let a ← otherItem g vis n
      return { a with tokens := attributes ++ a.tokens }
    return .other ts

end FontAccessors.Grammar
