import FontAccessors.Grammar.Expr

namespace FontAccessors.Grammar
open Token

/-- A statement and whether a semicolon must follow if it is not the last one. -/
structure Statement where
  isUnfinished : Bool
  tokens : List Token

def afterModulePath (n : Nat) (ts : List Token) : Option (List Token) :=
  (modulePath n ts).map Prod.snd

def atItemMacro (n : Nat) (ts : List Token) : Bool :=
  (afterModulePath n ts).any fun r =>
    atMark "!" r && second (fun r => atName r || atWord "try" r) r

def atBracedMacro (n : Nat) (ts : List Token) : Bool :=
  (afterModulePath n ts).any fun r =>
    atMark "!" r && second (atGroup .brace) r &&
      !(third (fun r => (atMark "." r && !atMark ".." r) || atMark "?" r) r)

def atItem (n : Nat) (ts : List Token) : Bool :=
  let followed (w : String) (p : List Token → Bool) := atWord w ts && second p ts
  atWords ["pub", "extern", "use", "fn", "mod", "type", "struct", "enum", "trait", "impl",
    "macro"] ts ||
  (atWord "crate" ts && !second (atMark "::") ts) ||
  followed "static" (fun r => atWord "mut" r || atName r) ||
  (atWord "const" ts && !second (fun r => atGroup .brace r || atWords ["static", "move"] r ||
    atMark "|" r || (atWord "async" r && !second (atWords ["unsafe", "extern", "fn"]) r)) ts) ||
  (atWord "unsafe" ts && !second (atGroup .brace) ts) ||
  followed "async" (atWords ["unsafe", "extern", "fn"]) ||
  followed "union" atName || followed "auto" (atWord "trait") ||
  followed "default" (atWords ["unsafe", "impl"]) || atItemMacro n ts

def letStatement (g : Rules) : Reader (List Token) := do
  let lead ← word "let"
  let p ← g.pattern
  let t ← whenAt (atMark ":") do return (← mark ":") ++ (← g.type true true).tokens
  let init ← whenAt (atMark "=") do
    let sign ← mark "="
    let e ← g.expr true
    let otherwise ←
      if !endsInBrace e.tokens && atWord "else" (← get) then inOrder [word "else", block g]
      else pure []
    return sign ++ e.tokens ++ otherwise
  return lead ++ p.tokens ++ t ++ init ++ (← mark ";")

def statement (g : Rules) (n : Nat) : Reader Statement := do
  let start ← get
  let attributes ← outerAttributes g n
  let ts ← get
  if atBracedMacro n ts then
    let p ← modulePath n
    let call ← inOrder [mark "!", macroInput, maybeMark ";"]
    return ⟨false, attributes ++ p.tokens ++ call⟩
  else if atWord "let" ts && !atInvisible ts then return ⟨false, attributes ++ (← letStatement g)⟩
  else if atItem n ts then
    set start
    return ⟨false, (← g.item).tokens⟩
  else
    let e ← afterAttributes start attributes (← g.early)
    let sign ← maybeMark ";"
    let isFinished := !sign.isEmpty || e.form.isBlock || e.form.isBraced
    return ⟨!isFinished, e.tokens ++ sign⟩

def statementsRule (g : Rules) : Nat → Reader (List Token)
  | 0 => failure
  | n + 1 => do
    if atMark ";" (← get) then return (← mark ";") ++ (← statementsRule g n)
    if (← get).isEmpty then return []
    let s ← statement g n
    if (← get).isEmpty then return s.tokens
    if s.isUnfinished then failure
    return s.tokens ++ (← statementsRule g n)

end FontAccessors.Grammar
