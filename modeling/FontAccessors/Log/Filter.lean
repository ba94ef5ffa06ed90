import FontAccessors.Log.Basic
import FontAccessors.Regex.Meaning
import FontAccessors.Text.Blank

/-!
Which log records are shown. A filter is written as a list of directives, each a level for the
origins whose names begin in some way, and a regular expression that must fit in messages.
-/

namespace FontAccessors.Log
open Text

structure Directive where
  lead : Option String
  level : Option Level
  deriving DecidableEq, Repr

structure Filter where
  directives : List Directive
  part : Option Regex
  deriving DecidableEq, Repr

/-- A level by its name in any case; the outer option tells whether there is one. -/
def level? (s : List Char) : Option (Option Level) :=
  let name := String.ofList (s.map Char.toUpper)
  if name = "OFF" then some none else (Level.all.find? (·.name == name)).map some

def warning (s : List Char) : String :=
  "warning: invalid logging spec '" ++ String.ofList s ++ "', ignoring it"

def Directive.ofChars (s : List Char) : Except String Directive :=
  let everything := some Level.trace
  match split '=' s with
  | [name] =>
    match level? name with
    | some level => .ok ⟨none, level⟩
    | none => .ok ⟨some (String.ofList name), everything⟩
  | [name, level] =>
    let level := trim level
    if level.isEmpty then .ok ⟨some (String.ofList name), everything⟩
    else
      match level? level with
      | some level => .ok ⟨some (String.ofList name), level⟩
      | none => .error (warning level)
  | _ => .error (warning s)

namespace Filter

def directivesOf (s : List Char) : List (Except String Directive) :=
  (((split ',' s).map trim).filter (!·.isEmpty)).map Directive.ofChars

def insert (d : Directive) : List Directive → List Directive
  | [] => [d]
  | e :: es => if e.lead = d.lead then d :: es else e :: insert d es

def partOf (s : List Char) : Except String Regex :=
  (Regex.ofText (String.ofList s)).mapError fun e =>
    "warning: invalid regex filter - " ++ e.message s

def warningOf? {α : Type} : Except String α → Option String
  | .ok _ => none
  | .error w => some w

def ofText (s : String) : Filter × List String :=
  match split '/' s.toList with
  | directives :: parts =>
    if 1 < parts.length then (⟨[], none⟩, [warning s.toList ++ " (too many '/'s)"])
    else
      let ds := directivesOf directives
      let part := parts.head?.map partOf
      (⟨(ds.filterMap Except.toOption).foldl (fun ds d => insert d ds) [],
          part.bind Except.toOption⟩,
        ds.filterMap warningOf? ++ (part.bind warningOf?).toList)
  | [] => (⟨[], none⟩, [])

/-- The directive with the longest lead that fits; of several as long, the one behind the others. -/
def directiveFor (f : Filter) (o : Origin) : Option Directive :=
  let leadLength (d : Directive) : Nat := (d.lead.map String.length).getD 0
  (f.directives.filter fun d => d.lead.all fun lead => lead.toList.isPrefixOf o.name.toList).foldl
    (fun best d => if best.all fun b => leadLength b ≤ leadLength d then some d else best) none

def levelFor (f : Filter) (o : Origin) : Option Level :=
  -- Without any directive errors are shown.
  if f.directives.isEmpty then some .error else (f.directiveFor o).bind (·.level)

def shows (f : Filter) (r : Record) : Bool :=
  (f.levelFor r.origin).any (r.level.rank ≤ ·.rank) && f.part.all (·.isIn r.message)

def lines (f : Filter) (rs : List Record) : String :=
  String.join ((rs.filter f.shows).map Record.line)

end Filter
end FontAccessors.Log
