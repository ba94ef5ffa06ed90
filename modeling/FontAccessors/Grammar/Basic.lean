import FontAccessors.Grammar.Reader

/-!
What the rules of the grammar read: paths, types, expressions, parameters and items, each with the
tokens that write it again. An enumeration keeps its parts; of other items only the tokens count.
-/

namespace FontAccessors.Grammar
open Token

def ident (w : String) : List Token :=
  [.ident (.plain w)]

def operator (m : String) : List Token :=
  operatorTokens m.toList

structure Entry where
  isLifetime : Bool
  tokens : List Token
  separator : List Token

def Entry.written (e : Entry) : List Token :=
  e.tokens ++ e.separator

def lifetimesFirst (entries : List Entry) : List Token :=
  -- Lifetimes are written before all else.
  let lifetimes := entries.filter (·.isLifetime)
  let others := entries.filter (!·.isLifetime)
  let gap := lifetimes.getLast?.any (·.separator.isEmpty) && !others.isEmpty
  lifetimes.flatMap Entry.written ++ (if gap then operator "," else []) ++
    others.flatMap Entry.written

def angled (entries : List Entry) : List Token :=
  operator "<" ++ lifetimesFirst entries ++ operator ">"

inductive Arguments where
  | none
  | angle (turbofish : Bool) (entries : List Entry)
  | parenthesis (tokens : List Token)

namespace Arguments

def tokens : Arguments → List Token
  | none => []
  | angle turbofish entries => (if turbofish then operator "::" else []) ++ angled entries
  | parenthesis ts => ts

def isNone : Arguments → Bool
  | none => true
  | _ => false

def isEmpty : Arguments → Bool
  -- Empty angle brackets hold no arguments either.
  | none => true
  | angle _ entries => entries.isEmpty
  | parenthesis _ => false

end Arguments

structure Segment where
  name : Ident
  arguments : Arguments

def Segment.tokens (s : Segment) : List Token :=
  .ident s.name :: s.arguments.tokens

structure Path where
  qualifier : List Token
  isRooted : Bool
  segments : List Segment

namespace Path

def segmentTokens : List Segment → List Token
  | [] => []
  | [s] => s.tokens
  | s :: ss => s.tokens ++ operator "::" ++ segmentTokens ss

def tokens (p : Path) : List Token :=
  p.qualifier ++ (if p.isRooted then operator "::" else []) ++ segmentTokens p.segments

def isQualified (p : Path) : Bool :=
  !p.qualifier.isEmpty

def isModule (p : Path) : Bool :=
  p.segments.all (·.arguments.isNone)

def isName (p : Path) (name : Ident) : Bool :=
  -- An attribute argument is known by a single name.
  !p.isRooted && p.segments.all (fun s => s.name = name && s.arguments.isNone) &&
    p.segments.length == 1

def lastArguments (p : Path) : Arguments :=
  (p.segments.getLast?.map (·.arguments)).getD .none

def withArguments (p : Path) (a : Arguments) : Path :=
  match p.segments.getLast? with
  | none => p
  | some s => { p with segments := p.segments.dropLast ++ [{ s with arguments := a }] }

end Path

inductive TypeForm where
  | path (p : Path)
  | bounds (isOne : Bool)
  | group (form : TypeForm)
  | other

def TypeForm.ungrouped : TypeForm → TypeForm
  | .group f => f.ungrouped
  | f => f

structure TypeExpr where
  form : TypeForm
  tokens : List Token

inductive ExprForm where
  | literal (text : String)
  | path (p : Path)
  | block
  | braced
  | range
  | comparison
  /-- An expression known only by its extent, kept as it stands in the input. -/
  | verbatim
  | group (form : ExprForm)
  | other

def ExprForm.ungrouped : ExprForm → ExprForm
  | .group f => f.ungrouped
  | f => f

def ExprForm.isBlock : ExprForm → Bool
  | .block => true
  | _ => false

def ExprForm.isBraced : ExprForm → Bool
  | .braced => true
  | _ => false

def ExprForm.isRange : ExprForm → Bool
  | .range => true
  | _ => false

def ExprForm.isComparison : ExprForm → Bool
  | .comparison => true
  | _ => false

def ExprForm.isVerbatim : ExprForm → Bool
  | .verbatim => true
  | _ => false

structure Expr where
  form : ExprForm
  tokens : List Token

/-- Attributes in front of a whole expression; a range then needs parentheses. -/
def Expr.withAttributes (attributes : List Token) (e : Expr) : Expr :=
  if !attributes.isEmpty && e.form.isRange then
    { e with tokens := attributes ++ [.group .parenthesis e.tokens] }
  else { e with tokens := attributes ++ e.tokens }

def ExprForm.string? : ExprForm → Option String
  | .literal text => (Text.Quoted.value? text.toList).map String.ofList
  | .group f => f.string?
  | _ => none

def Expr.string? (e : Expr) : Option String :=
  e.form.string?

inductive PatternForm where
  | range (isOpen : Bool)
  | block (bare : List Token)
  | verbatim
  | other

def PatternForm.isOpenRange : PatternForm → Bool
  | .range isOpen => isOpen
  | _ => false

structure Pattern where
  form : PatternForm
  tokens : List Token

inductive Parameter where
  | lifetime (attributes : List Token) (name : Ident) (bounds : List Token)
  | type (attributes : List Token) (name : Ident) (bounds default : List Token)
  | const (attributes : List Token) (name : Ident) (type default : List Token)

namespace Parameter

def isLifetime : Parameter → Bool
  | lifetime .. => true
  | _ => false

def argument : Parameter → List Token
  | lifetime _ name _ => [.punct '\'' .joint, .ident name]
  | type _ name _ _ | const _ name _ _ => [.ident name]

def bounded : Parameter → List Token
  | lifetime attributes name bounds =>
    attributes ++ [.punct '\'' .joint, .ident name] ++ bounds
  | type attributes name bounds _ => attributes ++ [.ident name] ++ bounds
  | const attributes name ty _ => attributes ++ ident "const" ++ [.ident name] ++ ty

def default : Parameter → List Token
  | lifetime .. => []
  | type _ _ _ default | const _ _ _ default => default

def declared (p : Parameter) : List Token :=
  p.bounded ++ p.default

end Parameter

abbrev Generics := List (Parameter × List Token)

def Generics.write (part : Parameter → List Token) (g : Generics) : List Token :=
  -- No parameters, no brackets.
  if g.isEmpty then []
  else angled (g.map fun p => ⟨p.1.isLifetime, part p.1, p.2⟩)

structure Enumeration where
  attributes : List Token
  visibility : List Token
  name : Ident
  generics : Generics
  conditions : List Token
  variants : List Token

def Enumeration.tokens (e : Enumeration) : List Token :=
  e.attributes ++ e.visibility ++ ident "enum" ++ [.ident e.name] ++
    e.generics.write Parameter.declared ++ e.conditions ++ [.group .brace e.variants]

inductive Item where
  | enumeration (e : Enumeration)
  | other (tokens : List Token)

def Item.tokens : Item → List Token
  | enumeration e => e.tokens
  | other ts => ts

/-- The rules that may occur inside each other without end. -/
structure Rules where
  /-- Bounds joined by `+` are read if `plus`; an invisible group takes arguments if `arguments`. -/
  type : (plus arguments : Bool) → Reader TypeExpr
  /-- A lifetime or trait that bounds a type; a list of captured names if `captures`, and a trait
  that holds in constants if `consts`. -/
  bound : (captures consts : Bool) → Reader (List Token)
  /-- Without `braces`, a brace ends the expression: the block of a condition begins there. -/
  expr : (braces : Bool) → Reader Expr
  /-- The operand after an operator that binds as tightly as `level`. -/
  operand : (braces : Bool) → (level : Nat) → Reader Expr
  unary : (braces : Bool) → Reader Expr
  early : Reader Expr
  pattern : Reader Pattern
  statements : Reader (List Token)
  item : Reader Item
  /-- Whether some path in a brace list begins at the root, and the tokens. -/
  useTree : (roots : Bool) → Reader (Bool × List Token)

def Rules.none : Rules where
  type _ _ := failure
  bound _ _ := failure
  expr _ := failure
  operand _ _ := failure
  unary _ := failure
  early := failure
  pattern := failure
  statements := failure
  item := failure
  useTree _ := failure

end FontAccessors.Grammar
