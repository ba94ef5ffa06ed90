import FontAccessors.Yaml.Document

namespace FontAccessors.Yaml

theorem exists_marks (ts : List Token) : ∃ mark stop : Nat → Mark,
    ts = (ts.map Token.kind).mapIdx fun i k => ⟨k, mark i, stop i⟩ := by
  refine ⟨fun i => (ts[i]?.map Token.start).getD .start,
    fun i => (ts[i]?.map Token.stop).getD .start, ?_⟩
  refine List.ext_getElem (by simp) fun i h h' => ?_
  simp [h]

mutual

inductive Spells : Node → List Token → Prop
  | scalar (m m' : Mark) (isPlain : Bool) (text : String) :
    Spells (.scalar m none isPlain text) [⟨.scalar isPlain text, m, m'⟩]
  | sequence {items : List Node} {ts : List Token} (m m' e e' : Mark) (h : SpellsItems items ts) :
    Spells (.sequence m items) (⟨.blockSequenceStart, m, m'⟩ :: (ts ++ [⟨.blockEnd, e, e'⟩]))
  | mapping {entries : List (Node × Node)} {ts : List Token} (m m' e e' : Mark)
    (h : SpellsEntries entries ts) :
    Spells (.mapping m entries) (⟨.blockMappingStart, m, m'⟩ :: (ts ++ [⟨.blockEnd, e, e'⟩]))

inductive SpellsItems : List Node → List Token → Prop
  | nil : SpellsItems [] []
  | cons {n : Node} {ns : List Node} {ts us : List Token} (m m' : Mark) (first : Spells n ts)
    (rest : SpellsItems ns us) : SpellsItems (n :: ns) (⟨.blockEntry, m, m'⟩ :: (ts ++ us))

inductive SpellsEntries : List (Node × Node) → List Token → Prop
  | nil : SpellsEntries [] []
  | cons {k v : Node} {es : List (Node × Node)} {ts us ws : List Token} (m m' e e' : Mark)
    (key : Spells k ts) (value : Spells v us) (rest : SpellsEntries es ws) :
    SpellsEntries ((k, v) :: es)
      (⟨.key, m, m'⟩ :: (ts ++ ⟨.value, e, e'⟩ :: (us ++ ws)))

end

namespace Build

variable {α β : Type} {x : Build α} {ts us : List Token} {a : α} {f : Nat}

/-- Reads a value from tokens, and changes nothing else. -/
def Builds (x : Build α) (ts : List Token) (a : α) : Prop :=
  ∀ (b : Builder) (rest : List Token),
    x { b with tokens := ts ++ rest } = (a, { b with tokens := rest })

theorem Builds.bind {c : β} (h : Builds x ts a) (g : α → Build β) (h' : Builds (g a) us c) :
    Builds (x >>= g) (ts ++ us) c := by
  intro b rest
  have first := h b (us ++ rest)
  rw [List.append_assoc]
  exact (congrArg (fun r => g r.1 r.2) first).trans (h' b rest)

theorem Builds.then_pure (h : Builds x ts a) (g : α → β) :
    Builds (x >>= fun a => pure (g a)) ts (g a) := by
  intro b rest
  exact congrArg (fun r => (g r.1, r.2)) (h b rest)

theorem builds_scalar (m m' : Mark) (isPlain : Bool) (text : String) (f : Nat)
    (indentless : Bool) : Builds (node (f + 2) true indentless)
      [⟨.scalar isPlain text, m, m'⟩] (.scalar m none isPlain text) :=
  fun _ _ => rfl

theorem builds_sequence {items : List Node} (h : Builds (blockItems f false) ts items)
    (m m' : Mark) (indentless : Bool) : Builds (node (f + 2) true indentless)
      (⟨.blockSequenceStart, m, m'⟩ :: ts) (.sequence m items) := by
  intro b rest
  have opened : node (f + 2) true indentless
      { b with tokens := ⟨.blockSequenceStart, m, m'⟩ :: (ts ++ rest) } =
    (blockItems f false { b with tokens := ts ++ rest }).map (Node.sequence m) id := rfl
  rw [List.cons_append, opened, h b rest]
  rfl

theorem builds_mapping {entries : List (Node × Node)} (h : Builds (blockEntries f) ts entries)
    (m m' : Mark) (indentless : Bool) : Builds (node (f + 2) true indentless)
      (⟨.blockMappingStart, m, m'⟩ :: ts) (.mapping m entries) := by
  intro b rest
  have opened : node (f + 2) true indentless
      { b with tokens := ⟨.blockMappingStart, m, m'⟩ :: (ts ++ rest) } =
    (blockEntries f { b with tokens := ts ++ rest }).map (Node.mapping m) id := rfl
  rw [List.cons_append, opened, h b rest]
  rfl

def Begins (stop : TokenKind → Bool) (ts : List Token) : Prop :=
  ∃ t us, ts = t :: us ∧ stop t.kind = false

theorem builds_nodeUnless {x : Build Node} {n : Node} {stop : TokenKind → Bool}
    (h : Builds x ts n) (begins : Begins stop ts) (m : Mark) :
    Builds (nodeUnless stop m x) ts n := by
  obtain ⟨t, us, rfl, go⟩ := begins
  intro b rest
  have opened : nodeUnless stop m x { b with tokens := t :: (us ++ rest) } =
    (if stop t.kind then pure (empty m) else x : Build Node)
      { b with tokens := t :: (us ++ rest) } := rfl
  rw [List.cons_append, opened, go]
  exact h b rest

theorem builds_valueAfter {x : Build Node} {n : Node} {stop : TokenKind → Bool}
    (h : Builds x ts n) (begins : Begins stop ts) (m m' : Mark) :
    Builds (valueAfter stop true x) (⟨.value, m, m'⟩ :: ts) n :=
  fun b rest => builds_nodeUnless h begins m' b rest

theorem builds_item {n : Node} {ns : List Node} (first : Builds (node f true false) ts n)
    (begins : Begins (endsBlockItem false) ts) (rest : Builds (blockItems f false) us ns)
    (m m' : Mark) :
    Builds (blockItems (f + 1) false) (⟨.blockEntry, m, m'⟩ :: (ts ++ us)) (n :: ns) := by
  have parts := (builds_nodeUnless first begins m').bind
    (fun n => do return n :: (← blockItems f false)) (rest.then_pure (n :: ·))
  exact fun b tokens => parts b tokens

theorem builds_lastItem (f : Nat) (m m' : Mark) :
    Builds (blockItems (f + 1) false) [⟨.blockEnd, m, m'⟩] [] :=
  fun _ _ => rfl

theorem builds_entry {k v : Node} {es : List (Node × Node)} {ws : List Token}
    (key : Builds (node f true true) ts k) (begins : Begins endsBlockPart ts)
    (value : Builds (node f true true) us v) (begins' : Begins endsBlockPart us)
    (rest : Builds (blockEntries f) ws es) (m m' e e' : Mark) :
    Builds (blockEntries (f + 1)) (⟨.key, m, m'⟩ :: (ts ++ ⟨.value, e, e'⟩ :: (us ++ ws)))
      ((k, v) :: es) := by
  have parts := (builds_valueAfter value begins' e e').bind
    (fun v => do return (k, v) :: (← blockEntries f)) (rest.then_pure ((k, v) :: ·))
  have whole := (builds_nodeUnless key begins m').bind (fun k => do
    let v ← valueAfter endsBlockPart true (node f true true)
    return (k, v) :: (← blockEntries f)) parts
  exact fun b tokens => whole b tokens

theorem builds_lastEntry (f : Nat) (m m' : Mark) :
    Builds (blockEntries (f + 1)) [⟨.blockEnd, m, m'⟩] [] :=
  fun _ _ => rfl

theorem Begins.of_spells {n : Node} {stop : TokenKind → Bool} (h : Spells n ts)
    (scalar : ∀ isPlain text, stop (.scalar isPlain text) = false)
    (sequence : stop .blockSequenceStart = false) (mapping : stop .blockMappingStart = false) :
    Begins stop ts := by
  cases h with
  | scalar m m' isPlain text => exact ⟨_, _, rfl, scalar isPlain text⟩
  | sequence => exact ⟨_, _, rfl, sequence⟩
  | mapping => exact ⟨_, _, rfl, mapping⟩

mutual

/-- Two steps for each token are enough to read a node. -/
theorem node_spelled {n : Node} {ts : List Token} (h : Spells n ts) (indentless : Bool) {f : Nat}
    (enough : 2 * ts.length ≤ f) : Builds (node f true indentless) ts n := by
  obtain ⟨g, rfl⟩ : ∃ g, f = g + 2 := by
    have some : 0 < ts.length := by cases h <;> exact Nat.succ_pos _
    exact ⟨f - 2, by omega⟩
  cases h with
  | scalar m m' isPlain text => exact builds_scalar m m' isPlain text g indentless
  | sequence m m' e e' h =>
    refine builds_sequence (items_spelled h e e' ?_) m m' indentless
    simp only [List.length_cons, List.length_append, List.length_nil] at enough
    omega
  | mapping m m' e e' h =>
    refine builds_mapping (entries_spelled h e e' ?_) m m' indentless
    simp only [List.length_cons, List.length_append, List.length_nil] at enough
    omega

theorem items_spelled {ns : List Node} {ts : List Token} (h : SpellsItems ns ts) (e e' : Mark)
    {f : Nat} (enough : 2 * ts.length + 1 ≤ f) :
    Builds (blockItems f false) (ts ++ [⟨.blockEnd, e, e'⟩]) ns := by
  obtain ⟨g, rfl⟩ : ∃ g, f = g + 1 := ⟨f - 1, by omega⟩
  cases h with
  | nil => exact builds_lastItem g e e'
  | cons m m' first rest =>
    simp only [List.length_cons, List.length_append] at enough
    have begins : Begins (endsBlockItem false) _ := .of_spells first (fun _ _ => rfl) rfl rfl
    rw [List.cons_append, List.append_assoc]
    exact builds_item (node_spelled first false (by omega)) begins
      (items_spelled rest e e' (by omega)) m m'

theorem entries_spelled {es : List (Node × Node)} {ts : List Token} (h : SpellsEntries es ts)
    (e e' : Mark) {f : Nat} (enough : 2 * ts.length + 1 ≤ f) :
    Builds (blockEntries f) (ts ++ [⟨.blockEnd, e, e'⟩]) es := by
  obtain ⟨g, rfl⟩ : ∃ g, f = g + 1 := ⟨f - 1, by omega⟩
  cases h with
  | nil => exact builds_lastEntry g e e'
  | cons m m' i i' key value rest =>
    simp only [List.length_cons, List.length_append] at enough
    have begins : Begins endsBlockPart _ := .of_spells key (fun _ _ => rfl) rfl rfl
    have begins' : Begins endsBlockPart _ := .of_spells value (fun _ _ => rfl) rfl rfl
    simp only [List.cons_append, List.append_assoc]
    exact builds_entry (node_spelled key true (by omega)) begins
      (node_spelled value true (by omega)) begins' (entries_spelled rest e e' (by omega)) m m' i i'

end

end Build

theorem root_of_begins {ts : List Token} (h : Build.Begins Build.isDocumentMark ts) (b : Builder)
    (f : Nat) : Build.root f { b with tokens := ts } =
      (Build.node f true false { b with tokens := ts }).map some id := by
  obtain ⟨⟨kind, m, m'⟩, us, rfl, go⟩ := h
  cases kind <;> first | rfl | cases go

theorem ofTokens_spelled {n : Node} {ts : List Token} (h : Spells n ts) {stop : Token}
    (last : stop.kind = .streamEnd) : (Document.ofTokens (ts ++ [stop])).root = some n ∧
      (Document.ofTokens (ts ++ [stop])).isComplete = true := by
  have begins : Build.Begins Build.isDocumentMark (ts ++ [stop]) := by
    obtain ⟨t, us, rfl, go⟩ : Build.Begins Build.isDocumentMark ts :=
      .of_spells h (fun _ _ => rfl) rfl rfl
    exact ⟨t, _, rfl, go⟩
  have enough : 2 * ts.length ≤ 4 * (ts ++ [stop]).length + 8 := by
    rw [List.length_append]
    omega
  have read : (Build.root (4 * (ts ++ [stop]).length + 8)).run
      ⟨ts ++ [stop], [], 0, [], Build.coreHandles⟩ =
        (some n, ⟨[stop], [], 0, [], Build.coreHandles⟩) := by
    have built := Build.node_spelled h false enough ⟨[], [], 0, [], Build.coreHandles⟩ [stop]
    have root := root_of_begins begins ⟨[], [], 0, [], Build.coreHandles⟩
      (4 * (ts ++ [stop]).length + 8)
    rw [built] at root
    exact root
  rw [Document.ofTokens, read]
  simp [last]

end FontAccessors.Yaml
