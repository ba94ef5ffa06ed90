import FontAccessors.Yaml.Lexer

/-!
Documents: trees of scalars, sequences and mappings. Where the text breaks the rules, a broken node
stands in for the rest; what comes before it is there.
-/

namespace FontAccessors.Yaml

inductive Node where
  | scalar (mark : Mark) (tag : Option String) (isPlain : Bool) (text : String)
  | sequence (mark : Mark) (items : List Node)
  | mapping (mark : Mark) (entries : List (Node × Node))
  | reference (anchor : Nat)
  | broken
  deriving Repr

def Node.mark : Node → Mark
  | scalar m .. | sequence m _ | mapping m _ => m
  | reference _ | broken => .start

namespace Node

mutual

def isWhole : Node → Bool
  | scalar .. | reference _ => true
  | sequence _ items => areWhole items
  | mapping _ entries => haveWholeParts entries
  | broken => false

def areWhole : List Node → Bool
  | [] => true
  | n :: ns => isWhole n && areWhole ns

def haveWholeParts : List (Node × Node) → Bool
  | [] => true
  | (k, v) :: es => isWhole k && isWhole v && haveWholeParts es

end

mutual

/-- Events that a node is told in: one for a scalar or a reference, one for each end of anything
else. What is broken has no end. -/
def eventCount : Node → Nat
  | scalar .. | reference _ => 1
  | sequence _ items => itemEvents items + if areWhole items then 2 else 1
  | mapping _ entries => entryEvents entries + if haveWholeParts entries then 2 else 1
  | broken => 0

def itemEvents : List Node → Nat
  | [] => 0
  | n :: ns => eventCount n + itemEvents ns

def entryEvents : List (Node × Node) → Nat
  | [] => 0
  | (k, v) :: es => eventCount k + eventCount v + entryEvents es

end

end Node

/-- A node with an anchor. Of several with one number the latest, by `order`, is meant. -/
structure Anchored where
  number : Nat
  order : Nat
  node : Node
  deriving Repr

structure Builder where
  tokens : List Token
  names : List (String × Nat)
  count : Nat
  anchored : List Anchored
  handles : List (String × String)

abbrev Build (α : Type) := StateM Builder α

namespace Build

def peek : Build (Option Token) := do
  return (← get).tokens.head?

def peekKind : Build (Option TokenKind) := do
  return (← peek).map (·.kind)

def skip : Build Unit :=
  modify fun b => { b with tokens := b.tokens.tail }

def giveUp : Build Node := do
  modify fun b => { b with tokens := [] }
  return .broken

def empty (m : Mark) : Node :=
  .scalar m none true ""

def openAnchor (name : String) : Build (Nat × Nat) := do
  let b ← get
  let number := b.names.length
  let names :=
    if b.names.any (·.1 == name) then
      b.names.map fun p => if p.1 == name then (name, number) else p
    else b.names ++ [(name, number)]
  set { b with names := names, count := b.count + 1 }
  return (number, b.count)

def closeAnchor (a : Nat × Nat) (n : Node) : Build Unit :=
  modify fun b => { b with anchored := ⟨a.1, a.2, n⟩ :: b.anchored }

def referenceNode (name : String) : Build Node := do
  match (← get).names.find? (·.1 == name) with
  | some (_, number) => return .reference number
  | none => giveUp

structure Properties where
  anchor : Option String
  tag : Option (String × String)
  start : Mark

def properties (m : Mark) : Build Properties := do
  match ← peek with
  | some ⟨.anchor a, start, _⟩ =>
    skip
    match ← peekKind with
    | some (.tag h s) => skip; return ⟨some a, some (h, s), start⟩
    | _ => return ⟨some a, none, start⟩
  | some ⟨.tag h s, start, _⟩ =>
    skip
    match ← peekKind with
    | some (.anchor a) => skip; return ⟨some a, some (h, s), start⟩
    | _ => return ⟨none, some (h, s), start⟩
  | _ => return ⟨none, none, m⟩

def fullTag? (handles : List (String × String)) (tag : String × String) : Option String :=
  if tag.1.isEmpty then some tag.2
  else (handles.find? (·.1 == tag.1)).map fun h => h.2 ++ tag.2

def endsBlockItem (indentless : Bool) : TokenKind → Bool
  | .blockEntry | .blockEnd => true
  | .key | .value => indentless
  | _ => false

def endsBlockPart : TokenKind → Bool
  | .key | .value | .blockEnd => true
  | _ => false

def endsFlowValue (close : TokenKind) (k : TokenKind) : Bool :=
  k = .flowEntry || k = close

def endsFlowKey (close : TokenKind) (k : TokenKind) : Bool :=
  k = .value || endsFlowValue close k

def nodeUnless (stop : TokenKind → Bool) (m : Mark) (node : Build Node) : Build Node := do
  match ← peekKind with
  | none => giveUp
  | some k => if stop k then return empty m else node

def valueAfter (stop : TokenKind → Bool) (inBlock : Bool) (node : Build Node) : Build Node := do
  match ← peek with
  | none => giveUp
  | some t =>
    if t.kind = .value then
      skip
      let next := ((← peek).map (·.start)).getD t.stop
      nodeUnless stop (if inBlock then t.stop else next) node
    else return empty t.start

mutual

def node : Nat → (block indentless : Bool) → Build Node
  | 0, _, _ => giveUp
  | n + 1, block, indentless => do
    match ← peek with
    | none => giveUp
    | some ⟨.reference name, _, _⟩ => skip; referenceNode name
    | some t =>
      let p ← properties t.start
      let handles := (← get).handles
      match p.tag.map (fullTag? handles), ← peekKind with
      | some none, _ | _, none => giveUp
      | tag, some k =>
        let tag := tag.join
        let anchor ← p.anchor.mapM openAnchor
        let content ← nodeContent n block indentless p tag k
        anchor.forM (closeAnchor · content)
        return content

def nodeContent : Nat → (block indentless : Bool) → Properties → Option String → TokenKind →
    Build Node
  | 0, _, _, _, _, _ => giveUp
  | n + 1, block, indentless, p, tag, k => do
    match k, block, indentless with
    | .blockEntry, _, true => return .sequence p.start (← blockItems n true)
    | .scalar isPlain text, _, _ => do
      skip
      return .scalar p.start tag isPlain text
    | .flowSequenceStart, _, _ => do skip; return .sequence p.start (← flowItems n true)
    | .flowMappingStart, _, _ => do skip; return .mapping p.start (← flowEntries n true)
    | .blockSequenceStart, true, _ => do skip; return .sequence p.start (← blockItems n false)
    | .blockMappingStart, true, _ => do skip; return .mapping p.start (← blockEntries n)
    | _, _, _ =>
      -- Behind an anchor or a tag there may be nothing, which is an empty scalar.
      if p.anchor.isSome || p.tag.isSome then return .scalar p.start tag true ""
      else giveUp

/-- The items of a block sequence; one without indentation ends without a token of its own. -/
def blockItems : Nat → (indentless : Bool) → Build (List Node)
  | 0, _ => return [.broken]
  | n + 1, indentless => do
    match ← peek with
    | some ⟨.blockEntry, _, stop⟩ =>
      skip
      let item ← nodeUnless (endsBlockItem indentless) stop (node n true false)
      return item :: (← blockItems n indentless)
    | none => return [← giveUp]
    | some t =>
      if indentless then return []
      else if t.kind = .blockEnd then do skip; return []
      else return [← giveUp]

def blockEntries : Nat → Build (List (Node × Node))
  | 0 => return [(.broken, .broken)]
  | n + 1 => do
    match ← peek with
    | some ⟨.key, _, stop⟩ =>
      skip
      let key ← nodeUnless endsBlockPart stop (node n true true)
      let value ← valueAfter endsBlockPart true (node n true true)
      return (key, value) :: (← blockEntries n)
    | some ⟨.blockEnd, _, _⟩ => skip; return []
    | _ => return [(← giveUp, .broken)]

def flowItems : Nat → (isFirst : Bool) → Build (List Node)
  | 0, _ => return [.broken]
  | n + 1, isFirst => do
    let k ← peekKind
    if k = some .flowSequenceEnd then do skip; return []
    else if !isFirst && k != some .flowEntry then return [← giveUp]
    else
      if !isFirst then skip
      match ← peek with
      | none => return [← giveUp]
      | some ⟨.flowSequenceEnd, _, _⟩ => skip; return []
      | some ⟨.key, start, _⟩ =>
        skip
        let stop := endsFlowKey .flowSequenceEnd
        let bare := (← peek).filter fun t => stop t.kind
        let key ←
          match bare with
          | some t => do skip; pure (empty t.stop)
          | none => node n false false
        let value ← valueAfter (endsFlowValue .flowSequenceEnd) false (node n false false)
        let rest := if (← peek).isNone then [(.broken, .broken)] else []
        return .mapping start ((key, value) :: rest) :: (← flowItems n false)
      | some _ =>
        let item ← node n false false
        return item :: (← flowItems n false)

def flowEntries : Nat → (isFirst : Bool) → Build (List (Node × Node))
  | 0, _ => return [(.broken, .broken)]
  | n + 1, isFirst => do
    let k ← peekKind
    if k = some .flowMappingEnd then do skip; return []
    else if !isFirst && k != some .flowEntry then return [(← giveUp, .broken)]
    else
      if !isFirst then skip
      match ← peek with
      | none => return [(← giveUp, .broken)]
      | some ⟨.flowMappingEnd, _, _⟩ => skip; return []
      | some ⟨.key, _, _⟩ =>
        skip
        let m := ((← peek).map (·.start)).getD .start
        let key ← nodeUnless (endsFlowKey .flowMappingEnd) m (node n false false)
        let value ← valueAfter (endsFlowValue .flowMappingEnd) false (node n false false)
        return (key, value) :: (← flowEntries n false)
      | some _ =>
        let key ← node n false false
        let value ←
          match ← peek with
          | none => giveUp
          | some t => pure (empty t.start)
        return (key, value) :: (← flowEntries n false)

end

def coreHandles : List (String × String) :=
  [("!", "!"), ("!!", "tag:yaml.org,2002:")]

/-- Directives before a document: at most one version, and what handles stand for, each once. The
bound is their number. -/
def directives : Nat → (hasVersion : Bool) → (handles : List (String × String)) →
    Build (Option (List (String × String)))
  | 0, _, _ => return none
  | n + 1, hasVersion, handles => do
    match ← peekKind with
    | some (.version major minor) =>
      if hasVersion || major != 1 || (minor != 1 && minor != 2) then return none
      else do skip; directives n true handles
    | some (.tagShorthand h s) =>
      if handles.any (·.1 == h) then return none
      else do skip; directives n hasVersion (handles ++ [(h, s)])
    | _ => return some handles

def isDocumentMark : TokenKind → Bool
  | .version .. | .tagShorthand .. | .documentStart | .documentEnd | .streamEnd => true
  | _ => false

def root (n : Nat) : Build (Option Node) := do
  match ← peekKind with
  | some .streamEnd => return none
  | some .documentStart | some (.version ..) | some (.tagShorthand ..) =>
    match ← directives n false [] with
    | none => return some (← giveUp)
    | some handles =>
      if (← peekKind) = some .documentStart then
        skip
        modify fun b => { b with handles := handles ++ coreHandles }
        let m := ((← peek).map (·.start)).getD .start
        return some (← nodeUnless isDocumentMark m (node n true false))
      else return some (← giveUp)
  | _ => return some (← node n true false)

end Build

structure Document where
  root : Option Node
  anchored : List Anchored
  isComplete : Bool

namespace Document

def ofTokens (ts : List Token) : Document :=
  let (root, b) := (Build.root (4 * ts.length + 8)).run ⟨ts, [], 0, [], Build.coreHandles⟩
  ⟨root, b.anchored,
    (b.tokens.dropWhile (·.kind = .documentEnd)).head?.any (·.kind = .streamEnd)⟩

def ofText (s : String) : Document :=
  ofTokens (tokensOf s)

def latest (number : Nat) (as : List Anchored) : Option Anchored :=
  as.foldl (fun best a =>
    if a.number = number && best.all (fun b => b.order ≤ a.order) then some a else best) none

def resolve (d : Document) : Node → Node
  | .reference number => ((latest number d.anchored).map (·.node)).getD .broken
  | n => n

end Document
end FontAccessors.Yaml
