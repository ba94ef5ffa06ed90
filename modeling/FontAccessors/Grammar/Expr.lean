import FontAccessors.Grammar.Pattern

namespace FontAccessors.Grammar
open Token

/-! ## Operators -/

namespace Level
def lowest : Nat := 0
def assign : Nat := 1
def range : Nat := 2
def or : Nat := 3
def and : Nat := 4
def compare : Nat := 6
def bitOr : Nat := 7
def bitXor : Nat := 8
def bitAnd : Nat := 9
def shift : Nat := 10
def sum : Nat := 11
def product : Nat := 12
def cast : Nat := 13
end Level

/-- Operators between two operands; of two that both fit, the first in this list is meant. -/
def operators : List (String × Nat) :=
  [("+=", Level.assign), ("-=", Level.assign), ("*=", Level.assign), ("/=", Level.assign),
    ("%=", Level.assign), ("^=", Level.assign), ("&=", Level.assign), ("|=", Level.assign),
    ("<<=", Level.assign), (">>=", Level.assign), ("&&", Level.and), ("||", Level.or),
    ("<<", Level.shift), (">>", Level.shift), ("==", Level.compare), ("<=", Level.compare),
    ("!=", Level.compare), (">=", Level.compare), ("+", Level.sum), ("-", Level.sum),
    ("*", Level.product), ("/", Level.product), ("%", Level.product), ("^", Level.bitXor),
    ("&", Level.bitAnd), ("|", Level.bitOr), ("<", Level.compare), (">", Level.compare)]

def operatorAhead? (ts : List Token) : Option (String × Nat) :=
  operators.find? fun o => atMark o.1 ts

def levelAhead (ts : List Token) : Nat :=
  match operatorAhead? ts with
  | some (_, level) => level
  | none =>
    if atMark "=" ts && !atMark "=>" ts then Level.assign
    else if atMark ".." ts then Level.range
    else if atWord "as" ts then Level.cast
    else Level.lowest

def endsCast (ts : List Token) : Bool :=
  -- A cast takes no call, index, field or `?` without parentheses.
  !((atMark "." ts && !atMark ".." ts) || atMark "?" ts || atGroup .bracket ts ||
    atGroup .parenthesis ts)

def endsRange (braces : Bool) (ts : List Token) : Bool :=
  -- None of these begins the end of a half-open range.
  ts.isEmpty || atMarks [",", ";", "?", "=>"] ts || (atMark "." ts && !atMark ".." ts) ||
    (!braces && atGroup .brace ts) ||
    atMarks ["=", "+", "/", "%", "^", ">", "<=", "!=", "-=", "*=", "&=", "|=", "<<="] ts ||
    atWord "as" ts

def rangeRest (g : Rules) (braces : Bool) : Reader (List Token) := do
  let ts ← get
  if atMark "..=" ts then
    return (← mark "..=") ++ (← g.operand braces Level.range).tokens
  else if atMark "..." ts then failure
  else
    let marks ← mark ".."
    if endsRange braces (← get) then return marks
    else return marks ++ (← g.operand braces Level.range).tokens

/-- Takes up the operators after an operand, as long as they bind at least as tightly as `base`. -/
def climb (g : Rules) (braces : Bool) (base : Nat) : Nat → Expr → Reader Expr
  | 0, _ => failure
  | n + 1, left => do
    let ts ← get
    if left.form.isRange then return left
    match operatorAhead? ts with
    | some (o, level) =>
      if level < base then return left
      -- Comparisons make no chain.
      if level == Level.compare && left.form.isComparison then failure
      let sign ← mark o
      let right ← g.operand braces level
      let form := if level == Level.compare then .comparison else .other
      climb g braces base n ⟨form, left.tokens ++ sign ++ right.tokens⟩
    | none =>
      if base ≤ Level.assign && atMark "=" ts && !atMark "=>" ts then
        let sign ← mark "="
        let right ← g.operand braces Level.assign
        climb g braces base n ⟨.other, left.tokens ++ sign ++ right.tokens⟩
      else if base ≤ Level.range && atMark ".." ts then
        climb g braces base n ⟨.range, left.tokens ++ (← rangeRest g braces)⟩
      else if base ≤ Level.cast && atWord "as" ts then
        let sign ← word "as"
        let t ← g.type false false
        if !endsCast (← get) then failure
        climb g braces base n ⟨.other, left.tokens ++ sign ++ t.tokens⟩
      else return left

def tighter (g : Rules) (braces : Bool) (level : Nat) : Nat → Expr → Reader Expr
  | 0, _ => failure
  | n + 1, right => do
    let before ← get
    let next := levelAhead before
    if level < next || (next == level && level == Level.assign) then
      let right' ← climb g braces next n right
      if totalWeight (← get) == totalWeight before then return right'
      else tighter g braces level n right'
    else return right

/-! ## Blocks -/

def ifChain (g : Rules) : Nat → Reader (List Token)
  | 0 => failure
  | n + 1 => do
    let lead ← word "if"
    let test ← g.expr false
    let body ← block g
    let otherwise ← whenAt (atWord "else") do
      let sign ← word "else"
      if atWord "if" (← get) then return sign ++ (← ifChain g n) else return sign ++ (← block g)
    return lead ++ test.tokens ++ body ++ otherwise

def matchArm (g : Rules) (n : Nat) : Reader (List Token) := do
  let attributes ← outerAttributes g n
  let p ← alternatives g n
  let test ← whenAt (atWord "if") do return (← word "if") ++ (← g.expr true).tokens
  let arrow ← mark "=>"
  let body ← g.early
  let comma ←
    if !body.form.isBlock && !(← get).isEmpty then mark "," else maybeMark ","
  return attributes ++ p.tokens ++ test ++ arrow ++ body.tokens ++ comma

def label : Reader (List Token) :=
  whenAt atLifetime (inOrder [lifetime, mark ":"])

def atQuantifiedClosure (ts : List Token) : Bool :=
  atWord "for" ts && second atParameters ts

def atTryBlock (ts : List Token) : Bool :=
  atWord "try" ts && second (atGroup .brace) ts

def atConstBlock (ts : List Token) : Bool :=
  atWord "const" ts && second (atGroup .brace) ts

def labelled (g : Rules) (n : Nat) : Reader (List Token) := do
  let name ← label
  let ts ← get
  if atWord "while" ts then
    return name ++ (← word "while") ++ (← g.expr false).tokens ++ (← attributedBlock g n)
  else if atWord "for" ts then
    let lead ← word "for"
    let p ← alternatives g n
    let source ← word "in"
    return name ++ lead ++ p.tokens ++ source ++ (← g.expr false).tokens ++
      (← attributedBlock g n)
  else if atWord "loop" ts then return name ++ (← word "loop") ++ (← attributedBlock g n)
  else return name ++ (← attributedBlock g n)

def matchBlock (g : Rules) (n : Nat) : Reader (List Token) := do
  let lead ← word "match"
  let subject ← g.expr false
  let arms ← grouped .brace do
    return (← innerAttributes g n) ++ (← until? List.isEmpty (matchArm g n) n)
  return lead ++ subject.tokens ++ arms

/-! ## Parts of expressions -/

def exprList (g : Rules) (n : Nat) : Reader (List Token) :=
  commaList n do return (← g.expr true).tokens

def fieldValue (g : Rules) (n : Nat) : Reader (List Token) := do
  let attributes ← outerAttributes g n
  let (isNamed, name) ← member
  if atMark ":" (← get) || !isNamed then
    let colon ← mark ":"
    return attributes ++ name ++ colon ++ (← g.expr true).tokens
  else return attributes ++ name

def fieldValues (g : Rules) : Nat → Reader (List Token)
  | 0 => failure
  | n + 1 => do
    let ts ← get
    if ts.isEmpty then return []
    if atMark ".." ts then
      let marks ← mark ".."
      if (← get).isEmpty then return marks else return marks ++ (← g.expr true).tokens
    let f ← fieldValue g n
    if (← get).isEmpty then return f
    let comma ← mark ","
    return f ++ comma ++ (← fieldValues g n)

def afterPath (g : Rules) (braces : Bool) (p : Path) (n : Nat) : Reader Expr := do
  let ts ← get
  if !p.isQualified && atMark "!" ts && !atMark "!=" ts && p.isModule then
    let call ← inOrder [mark "!", macroInput]
    return ⟨if endsInBrace call then .braced else .other, p.tokens ++ call⟩
  else if braces && atGroup .brace ts then
    return ⟨.other, p.tokens ++ (← grouped .brace (fieldValues g n))⟩
  else return ⟨.path p, p.tokens⟩

def groupExpr (g : Rules) (braces : Bool) (n : Nat) : Reader Expr := do
  let content ← invisibleContent
  let inner ← within content (g.expr true)
  let kept (e : Expr) : Expr := ⟨.group e.form, [.group .invisible e.tokens]⟩
  match inner.form with
  | .path p =>
    let q ← Path.extend g true n p
    let e ← afterPath g braces q n
    match e.form with
    -- The group is left only where the path goes on behind it.
    | .path q => if q.segments.length == p.segments.length then return kept e else return e
    | _ => return e
  | _ => return kept inner

/-- Numbers of fields that a float literal runs together, as in `x.0.1`; whether a dot is left. -/
def fieldIndices? (text : String) : Option (List String × Bool) :=
  let parts := text.splitOn "."
  if parts.getLast? = some "" then (parts.dropLast.mapM fieldIndex?).map (·, true)
  else (parts.mapM fieldIndex?).map (·, false)

def floatAt? (ts : List Token) : Option (String × List Token) :=
  (literalAt? ts).filter fun r => Literal.isFloat r.1.toList

def joinIndices : List String → List Token
  | [] => []
  | [i] => [.literal i]
  | i :: is => .literal i :: operator "." ++ joinIndices is

def memberAfterDot (g : Rules) (n : Nat) : Reader (List Token) := do
  if atWord "await" (← get) then word "await"
  else
    let (isNamed, name) ← member
    let turbofish ←
      if isNamed && atMark "::" (← get) then do
        if !atTurbofish (← get) then failure
        pure (← angleArguments g n).tokens
      else pure []
    if !turbofish.isEmpty then
      return name ++ turbofish ++ (← grouped .parenthesis (exprList g n))
    else return name

def afterDot (g : Rules) (n : Nat) : Reader (List Token) := do
  match floatAt? (← get) with
  | some (text, rest) =>
    set rest
    match fieldIndices? text with
    | some (is, false) => return joinIndices is
    | some (is, true) => return joinIndices is ++ operator "." ++ (← memberAfterDot g n)
    | none => failure
  | none => memberAfterDot g n

def trail (g : Rules) : Nat → Expr → Reader Expr
  | 0, _ => failure
  | n + 1, e => do
    let ts ← get
    if atGroup .parenthesis ts then
      trail g n ⟨.other, e.tokens ++ (← grouped .parenthesis (exprList g n))⟩
    else if atMark "." ts && !atMark ".." ts && !e.form.isRange then
      let dot ← mark "."
      trail g n ⟨.other, e.tokens ++ dot ++ (← afterDot g n)⟩
    else if atGroup .bracket ts then
      trail g n ⟨.other, e.tokens ++ (← grouped .bracket do return (← g.expr true).tokens)⟩
    else if atMark "?" ts && !e.form.isRange then
      trail g n ⟨.other, e.tokens ++ (← mark "?")⟩
    else return e

def atExpr (ts : List Token) : Bool :=
  (atIdent ts && !atWord "as" ts) || atGroup .parenthesis ts || atGroup .bracket ts ||
    atGroup .brace ts || atValue ts || (atMark "!" ts && !atMark "!=" ts) ||
    (atMark "-" ts && !atMarks ["-=", "->"] ts) || (atMark "*" ts && !atMark "*=" ts) ||
    (atMark "|" ts && !atMark "|=" ts) || (atMark "&" ts && !atMark "&=" ts) ||
    atMark ".." ts || (atMark "<" ts && !atMarks ["<=", "<<="] ts) || atMark "::" ts ||
    atLifetime ts || atMark "#" ts

def maybeExpr (g : Rules) : Reader (List Token) :=
  whenAt atExpr do return (← g.expr true).tokens

/-! ## Closures -/

def closureParameter (g : Rules) (n : Nat) : Reader (List Token) := do
  let attributes ← outerAttributes g n
  let p ← g.pattern
  if atMark ":" (← get) then
    let colon ← mark ":"
    return attributes ++ p.tokens ++ colon ++ (← g.type true true).tokens
  else
    -- Without a type the attributes belong to the pattern. They replace those in a constant block,
    -- and vanish before a pattern that is kept as it stands.
    match p.form with
    | .verbatim => return p.tokens
    | .block bare => return attributes ++ bare
    | .range _ =>
      if attributes.isEmpty then return p.tokens
      else return attributes ++ [.group .parenthesis p.tokens]
    | .other => return attributes ++ p.tokens

def closure (g : Rules) (braces : Bool) (n : Nat) : Reader (List Token) := do
  let lead ← inOrder
    [maybeBinder g n, maybeWord "const", maybeWord "static", maybeWord "async", maybeWord "move",
      mark "|"]
  let inputs ← listUntil (atMark "|") (closureParameter g n) (mark ",") n
  let bar ← mark "|"
  if atMark "->" (← get) then
    let arrow ← mark "->"
    let t ← g.type true true
    return lead ++ writeList inputs ++ bar ++ arrow ++ t.tokens ++ (← block g)
  else return lead ++ writeList inputs ++ bar ++ (← g.expr braces).tokens

def atClosure (ts : List Token) : Bool :=
  atMark "|" ts || atWords ["move", "static"] ts || atQuantifiedClosure ts ||
    (atWord "const" ts && !atConstBlock ts) ||
    (atWord "async" ts && (second (atMark "|") ts || second (atWord "move") ts))

/-! ## Operands -/

def tupleExpr (g : Rules) (n : Nat) : Reader (List Token) :=
  grouped .parenthesis (exprList g n)

def arrayExpr (g : Rules) (n : Nat) : Reader (List Token) :=
  grouped .bracket do
    if (← get).isEmpty then return []
    let first := (← g.expr true).tokens
    let ts ← get
    if ts.isEmpty then return first
    else if atMark "," ts then return first ++ (← mark ",") ++ (← exprList g n)
    else return first ++ (← mark ";") ++ (← g.expr true).tokens

def letExpr (g : Rules) (braces : Bool) (n : Nat) : Reader (List Token) := do
  let lead ← word "let"
  let p ← alternatives g n
  let sign ← mark "="
  let left ← g.unary braces
  return lead ++ p.tokens ++ sign ++ (← climb g braces Level.compare n left).tokens

def beginsWithLabel : List Token → Bool
  | .punct '#' _ :: .group .bracket _ :: ts => beginsWithLabel ts
  | .punct '\'' _ :: _ => true
  | _ => false

def breakExpr (g : Rules) (braces : Bool) : Reader (List Token) := do
  let lead ← word "break"
  let name ← maybeLifetime
  if !name.isEmpty && atMark ":" (← get) then failure
  let ts ← get
  if atExpr ts && (braces || !atGroup .brace ts) then
    -- In the value a brace is no block, even where one must follow.
    let e ← g.expr true
    -- A label at its front would be taken for the name of the loop.
    if name.isEmpty && beginsWithLabel e.tokens then
      return lead ++ [.group .parenthesis e.tokens]
    else return lead ++ name ++ e.tokens
  else return lead ++ name

def atPathExpr (ts : List Token) : Bool :=
  atPath ts || (atWord "try" ts && (second (atMark "!") ts || second (atMark "::") ts))

def atAsyncBlock (ts : List Token) : Bool :=
  atWord "async" ts &&
    (second (atGroup .brace) ts || (second (atWord "move") ts && third (atGroup .brace) ts))

def atom (g : Rules) (braces : Bool) (n : Nat) : Reader Expr := do
  let ts ← get
  let other (r : Reader (List Token)) : Reader Expr := do return ⟨.other, ← r⟩
  let blocklike (r : Reader (List Token)) : Reader Expr := do return ⟨.block, ← r⟩
  if atInvisible ts then groupExpr g braces n
  else if atValue ts then
    let v ← value
    match v with
    | [.literal text] => return ⟨.literal text, v⟩
    | _ => return ⟨.other, v⟩
  else if atAsyncBlock ts then other (inOrder [word "async", maybeWord "move", block g])
  else if atTryBlock ts then blocklike (inOrder [word "try", block g])
  else if atClosure ts then other (closure g braces n)
  else if atBuiltin ts then return ⟨.verbatim, ← builtin⟩
  else if atPathExpr ts then afterPath g braces (← qualifiablePath g true n) n
  else if atGroup .parenthesis ts then other (tupleExpr g n)
  else if atWord "break" ts then other (breakExpr g braces)
  else if atWord "continue" ts then other (inOrder [word "continue", maybeLifetime])
  else if atWord "return" ts then other (inOrder [word "return", maybeExpr g])
  else if atWord "become" ts then
    return ⟨.verbatim, ← verbatim do
      let _ ← word "become"
      let _ ← g.expr true⟩
  else if atGroup .bracket ts then other (arrayExpr g n)
  else if atWord "let" ts then other (letExpr g braces n)
  else if atWord "if" ts then blocklike (ifChain g n)
  else if atWords ["while", "for", "loop"] ts then blocklike (labelled g n)
  else if atWord "match" ts then blocklike (matchBlock g n)
  else if atWord "yield" ts then other (inOrder [word "yield", maybeExpr g])
  else if atWord "unsafe" ts then blocklike (inOrder [word "unsafe", attributedBlock g n])
  else if atWord "const" ts then blocklike (inOrder [word "const", attributedBlock g n])
  else if atGroup .brace ts then blocklike (attributedBlock g n)
  else if atMark ".." ts then return ⟨.range, ← rangeRest g braces⟩
  else if atWord "_" ts then other (word "_")
  else if atLifetime ts then blocklike (labelled g n)
  else failure

def exprAttributes (g : Rules) (n : Nat) : Reader (List Token) :=
  until? (fun ts => atInvisible ts || !atMark "#" ts) (oneAttribute g false n) n

def borrow (g : Rules) (braces : Bool) : Reader (List Token) := do
  let sign ← mark "&"
  let ts ← get
  let isRaw := atWord "raw" ts && (second (atWord "mut") ts || second (atWord "const") ts)
  let access ←
    if isRaw then inOrder [word "raw", whenAt (fun ts => !atWord "mut" ts) (word "const")]
    else pure []
  return sign ++ access ++ (← maybeWord "mut") ++ (← g.unary braces).tokens

def unaryRule (g : Rules) (braces : Bool) (n : Nat) : Reader Expr := do
  let start ← get
  let attributes ← exprAttributes g n
  let ts ← get
  if !atInvisible ts && atMark "&" ts then return ⟨.other, attributes ++ (← borrow g braces)⟩
  else if !atInvisible ts && atMarks ["*", "!", "-"] ts then
    let sign ← if atMark "*" ts then mark "*" else if atMark "!" ts then mark "!" else mark "-"
    return ⟨.other, attributes ++ sign ++ (← g.unary braces).tokens⟩
  else
    let e ← trail g n (← atom g braces n)
    if attributes.isEmpty then return e
    else
      match e.form with
      | .verbatim => return { e with tokens := between start (totalWeight (← get)) }
      | .range => failure
      | .path _ => return ⟨.other, attributes ++ e.tokens⟩
      | f => return ⟨f, attributes ++ e.tokens⟩

/-! ## Rules -/

/-- Attributes and what they precede, as it stands since `start` if the expression is kept so. -/
def afterAttributes (start attributes : List Token) (e : Expr) : Reader Expr := do
  if e.form.isVerbatim then return { e with tokens := between start (totalWeight (← get)) }
  else return e.withAttributes attributes

def earlyRule (g : Rules) (n : Nat) : Reader Expr := do
  let start ← get
  let attributes ← exprAttributes g n
  let ts ← get
  let blocklike (r : Reader (List Token)) : Reader Expr := do return ⟨.block, ← r⟩
  let e ←
    if atInvisible ts then do
      let e ← groupExpr g true n
      if e.form.ungrouped.isBlock then pure e else trail g n e
    else if atWord "if" ts then blocklike (ifChain g n)
    else if atWords ["while", "loop"] ts || atLifetime ts ||
        (atWord "for" ts && !atQuantifiedClosure ts) then blocklike (labelled g n)
    else if atWord "match" ts then blocklike (matchBlock g n)
    else if atTryBlock ts then blocklike (inOrder [word "try", block g])
    else if atWord "unsafe" ts then blocklike (inOrder [word "unsafe", attributedBlock g n])
    else if atConstBlock ts then blocklike (inOrder [word "const", attributedBlock g n])
    else if atGroup .brace ts then blocklike (attributedBlock g n)
    else unaryRule g true n
  let ts ← get
  let e ← afterAttributes start attributes e
  if !e.form.ungrouped.isBlock then climb g true Level.lowest n e
  else if (atMark "." ts && !atMark ".." ts) || atMark "?" ts then
    climb g true Level.lowest n (← trail g n e)
  else return e

def exprRule (g : Rules) (braces : Bool) (n : Nat) : Reader Expr := do
  climb g braces Level.lowest n (← unaryRule g braces n)

def operandRule (g : Rules) (braces : Bool) (level n : Nat) : Reader Expr := do
  tighter g braces level n (← unaryRule g braces n)

end FontAccessors.Grammar
