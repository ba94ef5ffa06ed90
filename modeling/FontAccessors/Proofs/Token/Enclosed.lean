import FontAccessors.Grammar.Reader

/-!
# Tokens between angle brackets

Angle brackets are marks and no delimiters of groups, so which of them belong together is counted
(`Nesting`). That is enough to tell the elements of a list apart (`elements?`), without the grammar
of what stands in them.

`Enclosed` tokens may stand inside an element: they close what they open, and no mark of the list
itself is among them.
-/

namespace FontAccessors.Token

mutual
def expose : Token → List Token
  | .group d content => if d = .invisible then exposed content else [.group d content]
  | t => [t]
def exposed : List Token → List Token
  | [] => []
  | t :: ts => expose t ++ exposed ts
end

@[simp] theorem exposed_nil : exposed [] = [] := rfl

@[simp] theorem exposed_cons (t : Token) (ts : List Token) :
    exposed (t :: ts) = expose t ++ exposed ts := rfl

@[simp] theorem exposed_append (ss ts : List Token) :
    exposed (ss ++ ts) = exposed ss ++ exposed ts := by
  induction ss with
  | nil => rfl
  | cons t ss ih => simp [ih]

@[simp] theorem expose_invisible (content : List Token) :
    expose (.group .invisible content) = exposed content := by
  simp [expose]

theorem expose_visible {t : Token} (visible : ∀ content, t ≠ .group .invisible content) :
    expose t = [t] := by
  cases t with
  | group d content =>
    rw [expose, if_neg]
    rintro rfl
    exact visible content rfl
  | _ => rfl

/-- How many angle brackets are open at a position, and whether a minus sign is joint to what
follows. A bracket after one ends an arrow and closes nothing. -/
structure Nesting where
  depth : Nat
  afterMinus : Bool
  deriving DecidableEq

namespace Nesting

def outermost : Nesting :=
  ⟨0, false⟩

def step (n : Nesting) : Token → Nesting
  | .punct c s =>
    ⟨if c = '<' then n.depth + 1 else if c = '>' && !n.afterMinus then n.depth - 1 else n.depth,
      c = '-' && s = .joint⟩
  | _ => ⟨n.depth, false⟩

def isOuter (n : Nesting) (c : Char) : Token → Bool
  | .punct c' _ => c' = c && n = outermost
  | _ => false

end Nesting

/-- The elements up to the bracket that closes the list, which has to be the last token. The tokens
of the first one are those of `element` and more. A comma may follow the last element. -/
def elementsFrom (n : Nesting) (element : List Token) : List Token → Option (List (List Token))
  | [] => none
  | t :: ts =>
    if n.isOuter '>' t then
      if !ts.isEmpty then none else if element.isEmpty then some [] else some [element]
    else if n.isOuter ',' t then (elementsFrom .outermost [] ts).map (element :: ·)
    else elementsFrom (n.step t) (element ++ [t]) ts

def elements? : List Token → Option (List (List Token))
  | [] => some []
  | .punct '<' _ :: ts => elementsFrom .outermost [] ts
  | _ => none

def withoutDefaultFrom (n : Nesting) : List Token → List Token
  | [] => []
  | t :: ts => if n.isOuter '=' t then [] else t :: withoutDefaultFrom (n.step t) ts

/-- A parameter up to the sign that begins its default. -/
def withoutDefault (parameter : List Token) : List Token :=
  withoutDefaultFrom .outermost parameter

def parameterName : List Token → List Token
  | .punct '#' _ :: .group .bracket _ :: ts => parameterName ts
  | .punct '\'' s :: .ident i :: _ => [.punct '\'' s, .ident i]
  | .ident i :: ts => if i = .plain "const" then ts.take 1 else [.ident i]
  | _ => []

namespace Nesting

def run (n : Nesting) (ts : List Token) : Nesting :=
  ts.foldl step n

def IsClear (n : Nesting) : List Token → Prop
  | [] => True
  | t :: ts => (∀ c ∈ [',', '=', '>'], n.isOuter c t = false) ∧ (n.step t).IsClear ts

variable {n : Nesting} {ss ts : List Token}

@[simp] theorem run_nil : n.run [] = n := rfl

@[simp] theorem run_cons (t : Token) : n.run (t :: ts) = (n.step t).run ts := rfl

@[simp] theorem run_append : n.run (ss ++ ts) = (n.run ss).run ts :=
  List.foldl_append

theorem isClear_append : n.IsClear (ss ++ ts) ↔ n.IsClear ss ∧ (n.run ss).IsClear ts := by
  induction ss generalizing n with
  | nil => simp [IsClear]
  | cons t ss ih => simp [IsClear, ih, and_assoc]

theorem elementsFrom_append (clear : n.IsClear ss) (element ts : List Token) :
    elementsFrom n element (ss ++ ts) = elementsFrom (n.run ss) (element ++ ss) ts := by
  induction ss generalizing n element with
  | nil => simp
  | cons t ss ih =>
    obtain ⟨marks, clear⟩ := clear
    rw [List.cons_append, elementsFrom, if_neg (by simp [marks]), if_neg (by simp [marks]),
      ih clear, List.append_assoc, List.singleton_append, run_cons]

theorem withoutDefaultFrom_append (clear : n.IsClear ss) (ts : List Token) :
    withoutDefaultFrom n (ss ++ ts) = ss ++ withoutDefaultFrom (n.run ss) ts := by
  induction ss generalizing n with
  | nil => rfl
  | cons t ss ih =>
    obtain ⟨marks, clear⟩ := clear
    rw [List.cons_append, withoutDefaultFrom, if_neg (by simp [marks]), ih clear, run_cons,
      List.cons_append]

end Nesting

/-- The tokens leave the brackets around them as they are. Tokens `inside` of some may have commas
and equals signs among them. -/
def Enclosed (inside : Bool) (ts : List Token) : Prop :=
  ∀ depth, (inside = true → 0 < depth) →
    Nesting.IsClear ⟨depth, false⟩ ts ∧ Nesting.run ⟨depth, false⟩ ts = ⟨depth, false⟩

def isPlainMark (inside : Bool) (c : Char) : Bool :=
  !(['<', '>', '-'].contains c) && (!([',', '='].contains c) || inside)

def isPlain (inside : Bool) : Token → Bool
  | .punct c _ => isPlainMark inside c
  | _ => true

namespace Enclosed

variable {inside : Bool} {t : Token} {ss ts : List Token}

theorem nil : Enclosed inside [] :=
  fun _ _ => ⟨trivial, rfl⟩

theorem append (hs : Enclosed inside ss) (ht : Enclosed inside ts) :
    Enclosed inside (ss ++ ts) := by
  intro depth deep
  obtain ⟨clear, run⟩ := hs depth deep
  obtain ⟨clear', run'⟩ := ht depth deep
  exact ⟨Nesting.isClear_append.2 ⟨clear, run.symm ▸ clear'⟩, by rw [Nesting.run_append, run, run']⟩

theorem inner (h : Enclosed false ts) (inside : Bool) : Enclosed inside ts :=
  fun depth _ => h depth nofun

theorem singleton (plain : isPlain inside t = true) : Enclosed inside [t] := by
  intro depth deep
  cases t with
  | punct c s =>
    simp only [isPlain, isPlainMark, List.contains_cons, List.contains_nil, Bool.and_eq_true,
      Bool.not_eq_true', Bool.or_eq_true, Bool.or_eq_false_iff, beq_eq_false_iff_ne] at plain
    obtain ⟨⟨notOpen, notClose, notMinus, -⟩, unlisted⟩ := plain
    have outer : ∀ d ∈ [',', '=', '>'], Nesting.isOuter ⟨depth, false⟩ d (.punct c s) = false := by
      intro d mem
      rw [Nesting.isOuter, Bool.and_eq_false_iff, decide_eq_false_iff_not, decide_eq_false_iff_not]
      rcases unlisted with ⟨notComma, notEquals, -⟩ | rfl
      · refine .inl ?_
        rintro rfl
        simp_all
      · -- Inside of brackets the list around them sees no mark.
        exact .inr fun eq => Nat.ne_of_gt (deep rfl) (congrArg Nesting.depth eq)
    exact ⟨⟨outer, trivial⟩, by simp [Nesting.step, notOpen, notClose, notMinus]⟩
  | _ => exact ⟨⟨fun _ _ => rfl, trivial⟩, rfl⟩

theorem arrow (s : Spacing) : Enclosed inside [.punct '-' .joint, .punct '>' s] :=
  fun _ _ => ⟨by simp [Nesting.IsClear, Nesting.step, Nesting.isOuter, Nesting.outermost],
    by simp [Nesting.step]⟩

theorem negated (s : Spacing) (text : String) :
    Enclosed inside [.punct '-' s, .literal text] :=
  fun _ _ => ⟨by simp [Nesting.IsClear, Nesting.isOuter], rfl⟩

theorem angled (h : Enclosed true ts) (s s' : Spacing) :
    Enclosed inside ([.punct '<' s] ++ ts ++ [.punct '>' s']) := by
  intro depth _
  have opened : Nesting.step ⟨depth, false⟩ (.punct '<' s) = ⟨depth + 1, false⟩ := rfl
  obtain ⟨clear, run⟩ := h (depth + 1) fun _ => Nat.succ_pos depth
  refine ⟨?_, ?_⟩
  · rw [List.append_assoc, List.singleton_append]
    refine ⟨by simp [Nesting.isOuter], ?_⟩
    rw [opened, Nesting.isClear_append, run]
    exact ⟨clear, by simp [Nesting.isOuter, Nesting.outermost], trivial⟩
  · rw [List.append_assoc, List.singleton_append, Nesting.run_cons, opened, Nesting.run_append, run]
    rfl

end Enclosed

def IsElement (ts : List Token) : Prop :=
  ∀ element more, elementsFrom .outermost element (ts ++ more) =
    elementsFrom .outermost (element ++ ts) more

variable {ss ts : List Token}

theorem Enclosed.isElement (h : Enclosed false ts) : IsElement ts := by
  intro element more
  obtain ⟨clear, run⟩ := h 0 nofun
  exact (Nesting.elementsFrom_append clear element more).trans (by rw [run]; rfl)

theorem isElement_equals (s : Spacing) : IsElement [.punct '=' s] :=
  fun _ _ => rfl

theorem IsElement.append (hs : IsElement ss) (ht : IsElement ts) : IsElement (ss ++ ts) := by
  intro element more
  rw [List.append_assoc, hs, ht, List.append_assoc]

theorem withoutDefault_enclosed (h : Enclosed false ss) (ts : List Token) :
    withoutDefault (ss ++ ts) = ss ++ withoutDefault ts := by
  obtain ⟨clear, run⟩ := h 0 nofun
  exact (Nesting.withoutDefaultFrom_append clear ts).trans (by rw [run]; rfl)

end FontAccessors.Token
