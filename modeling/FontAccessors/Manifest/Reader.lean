import FontAccessors.Manifest.Basic
import FontAccessors.Manifest.Error

namespace FontAccessors.Manifest
open Yaml

/-- Reading; the state is the number of references that may still be followed. -/
abbrev Read (α : Type) := StateT Nat (Except Error) α

def follow (d : Document) : Node → Read Node
  | .reference number => do
    match ← get with
    | 0 => throw .malformed
    | left + 1 => set left; return d.resolve (.reference number)
  | n => return n

def unexpected {α : Type} (place : Place) (n : Node) (expected : String) : Read α :=
  match n.describe? with
  | some found => throw (.misfit place n.mark (.invalidType found expected))
  | none => throw .malformed

def items? : Node → Option (List Node)
  -- The items of a sequence; nothing reads as an empty one.
  | .sequence _ items => some items
  | .scalar _ _ true "" => some []
  | _ => none

def entries? : Node → Option (List (Node × Node))
  | .mapping _ entries => some entries
  | .scalar _ _ true "" => some []
  | _ => none

def text (d : Document) (place : Place) (n : Node) : Read String := do
  match ← follow d n with
  | .scalar _ _ _ s => return s
  | n => unexpected place n "a string"

def optionalText (d : Document) (place : Place) (n : Node) : Read (Option String) := do
  -- A plain scalar without a tag may stand for no text.
  match ← follow d n with
  | .scalar _ none true s => return if s.isEmpty || isNullWord s then none else some s
  | .scalar _ (some t) true s =>
    if t = Value.nullTag then if isNullWord s then return none else throw .malformed
    else return some s
  | n => return some (← text d place n)

def keyText (d : Document) (place : Place) (n : Node) : Read String := do
  match ← follow d n with
  | .scalar _ _ _ s => return s
  | n => unexpected place n "field identifier"

def stepOf (key : Node) (s : String) : Step :=
  match key with
  | .scalar .. => .value s
  | _ => .referringKey

/-- Reads the entries of a mapping at `place`. `field` takes up a known key with its value, `seen`
are the known keys before. -/
def fields {σ : Type} (d : Document) (place : Place) (mark : Mark) (known : List String)
    (field : σ → String → Place → Node → Read σ) (seen : List String) (s : σ) :
    List (Node × Node) → Read σ
  | [] => return s
  | (key, value) :: es => do
    let k ← keyText d place key
    if known.contains k then
      if seen.contains k then throw (.misfit place mark (.duplicateField k))
      else
        let s ← field s k (stepOf key k :: place) value
        fields d place mark known field (k :: seen) s es
    else if value.isWhole then fields d place mark known field seen s es
    else throw .malformed

def typeNameKey : String := "type_name"
def fontNameKey : String := "font_name"
def cratePathKey : String := "crate_path"
def familiesKey : String := "families"

structure Draft where
  typeName : Option String
  fontName : Option String

def familyField (d : Document) (f : Draft) (key : String) (place : Place) (value : Node) :
    Read Draft := do
  if key = typeNameKey then return { f with typeName := some (← text d place value) }
  else return { f with fontName := ← optionalText d place value }

def family (d : Document) (place : Place) (n : Node) : Read Family := do
  let n ← follow d n
  match entries? n with
  | none => unexpected place n "struct FamilyEntry"
  | some es =>
    let f ←
      fields d place n.mark [typeNameKey, fontNameKey] (familyField d) [] ⟨none, none⟩ es
    match f.typeName with
    | some name => return ⟨name, f.fontName⟩
    | none => throw (.misfit place n.mark (.missingField typeNameKey))

def familyList (d : Document) (place : Place) (i : Nat) : List Node → Read (List Family)
  | [] => return []
  | n :: ns => do
    let f ← family d (.item i :: place) n
    return f :: (← familyList d place (i + 1) ns)

def empty : Manifest :=
  ⟨none, []⟩

def manifestField (d : Document) (m : Manifest) (key : String) (place : Place) (value : Node) :
    Read Manifest := do
  if key = cratePathKey then return { m with cratePath := ← optionalText d place value }
  else
    let n ← follow d value
    match items? n with
    | none => unexpected place n "a sequence"
    | some ns => return { m with families := ← familyList d place 0 ns }

def ofNode (d : Document) (n : Node) : Read Manifest :=
  match entries? n with
  | none => unexpected [] n "struct Manifest"
  | some es => fields d [] n.mark [cratePathKey, familiesKey] (manifestField d) [] empty es

def referencesPerEvent : Nat := 100

/-- A text without a document is an empty manifest; what follows the document is checked last. -/
def ofDocument (d : Document) : Except Error Manifest := do
  let m ←
    match d.root with
    | some n => (ofNode d n).run' (referencesPerEvent * n.eventCount)
    | none => pure empty
  if d.isComplete then return m else throw .malformed

def ofText (s : String) : Except Error Manifest :=
  ofDocument (.ofText s)

end FontAccessors.Manifest
