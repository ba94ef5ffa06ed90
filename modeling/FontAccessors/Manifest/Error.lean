import FontAccessors.Yaml.Value

namespace FontAccessors.Manifest
open Yaml

inductive Step where
  | item (index : Nat)
  | value (key : String)
  | referringKey
  deriving DecidableEq, Repr

/-- The steps from the root of a document, the last one first. -/
abbrev Place := List Step

namespace Place

def dotted (s : String) : String :=
  if s.isEmpty then "" else s ++ "."

def text : Place → String
  | [] => ""
  | .item i :: p => text p ++ "[" ++ toString i ++ "]"
  | .value key :: p => dotted (text p) ++ key
  | .referringKey :: p => dotted (text p) ++ "?"

end Place

inductive Cause where
  | invalidType (found expected : String)
  | missingField (name : String)
  | duplicateField (name : String)
  deriving DecidableEq, Repr

inductive Error where
  | malformed
  | misfit (place : Place) (mark : Mark) (cause : Cause)
  deriving DecidableEq, Repr

def Cause.message : Cause → String
  | invalidType found expected => "invalid type: " ++ found ++ ", expected " ++ expected
  | missingField name => "missing field `" ++ name ++ "`"
  | duplicateField name => "duplicate field `" ++ name ++ "`"

def position (m : Mark) : String :=
  -- Lines and columns count from one. The start of the text goes without saying.
  if m.line = 0 && m.column = 0 then ""
  else " at line " ++ toString (m.line + 1) ++ " column " ++ toString (m.column + 1)

def Error.message : Error → String
  | malformed => "<yaml>"
  | misfit place mark cause =>
    let lead := if place.text.isEmpty then "" else place.text ++ ": "
    lead ++ cause.message ++ position mark

end FontAccessors.Manifest
