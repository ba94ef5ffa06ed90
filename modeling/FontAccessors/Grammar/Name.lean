import FontAccessors.Grammar.Basic

namespace FontAccessors.Grammar
open Token

def pathWords : List String :=
  ["super", "self", "Self", "crate"]

def atPathName (ts : List Token) : Bool :=
  atName ts || atWords pathWords ts

def moduleSegments : Nat → Reader (List Segment)
  | 0 => failure
  | n + 1 => do
    if !atPathName (← get) then failure
    let name ← anyIdent
    if atMark "::" (← get) then
      let _ ← mark "::"
      return ⟨name, .none⟩ :: (← moduleSegments n)
    else return [⟨name, .none⟩]

def root : Reader Bool := do
  return !(← maybeMark "::").isEmpty

def modulePath (n : Nat) : Reader Path := do
  let isRooted ← root
  return ⟨[], isRooted, ← moduleSegments n⟩

def macroInput : Reader (List Token) := do
  let g ← rawGroup
  return [.group g.1 g.2]

def endsInBrace (ts : List Token) : Bool :=
  match ts.getLast? with
  | some (.group .brace _) => true
  | _ => false

def atBuiltin (ts : List Token) : Bool :=
  atWord "builtin" ts && second (atMark "#") ts

def builtin : Reader (List Token) :=
  verbatim do
    let _ ← inOrder [word "builtin", mark "#", nameToken]
    let _ ← groupContent .parenthesis

end FontAccessors.Grammar
