import FontAccessors.Token.Basic

namespace FontAccessors.Token

def Delimiter.opening : Delimiter → List Char
  | .parenthesis => ['(']
  | .bracket => ['[']
  | .brace => ['{', ' ']
  | .invisible => []

def Delimiter.closing : Delimiter → List Char
  | .parenthesis => [')']
  | .bracket => [']']
  | .brace => ['}']
  | .invisible => []

def isJoint : Token → Bool
  | .punct _ .joint => true
  | _ => false

mutual
def chars : Token → List Char
  | .ident i => i.chars
  | .punct c _ => [c]
  | .literal text => text.toList
  | .group d content =>
    Delimiter.opening d ++ charsFrom false content ++
      (if d = .brace && !content.isEmpty then [' '] else []) ++ Delimiter.closing d

/-- With `spaced` the first token too is kept apart from what stands before. -/
def charsFrom (spaced : Bool) : List Token → List Char
  | [] => []
  | t :: ts => (if spaced then [' '] else []) ++ chars t ++ charsFrom (!t.isJoint) ts
end

def render (ts : List Token) : String :=
  String.ofList (charsFrom false ts)

end FontAccessors.Token
