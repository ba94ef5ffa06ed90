import FontAccessors.Proofs.Generator.Render
import FontAccessors.Proofs.Manifest.Alike

/-!
# Edits of manifests

* `withoutKey`, `inFamily`: a node without the entries of a key, and a change of one family.
* `holdsFamily_withoutFont`, `holdsManifest_withoutPath`: what is held without an entry that may
  be missing.
* `Repeats`, `LacksTypeName`: documents that hold no manifest.
* `ofText_edited`: how edits of a text show in its manifest.
-/

namespace FontAccessors

namespace Yaml.Node

variable {n : Node} {es : List (Node × Node)} {g : List (Node × Node) → List (Node × Node)}

def withEntries (g : List (Node × Node) → List (Node × Node)) : Node → Node
  | mapping mark es => mapping mark (g es)
  | n => n

def withItem (i : Nat) (g : Node → Node) : Node → Node
  | sequence mark ns => sequence mark (ns.modify i g)
  | n => n

end Yaml.Node

namespace Manifest
open Yaml

variable {k k' : String} {n n' : Node} {ns : List Node} {m : Manifest} {f : Family}
  {known : List String} {es : List (Node × Node)} {i : Nat}
  {g : List (Node × Node) → List (Node × Node)}

def dropKey (k : String) (es : List (Node × Node)) : List (Node × Node) :=
  es.filter fun e => text? e.1 ≠ some k

def withoutKey (k : String) (n : Node) : Node :=
  n.withEntries (dropKey k)

def inFamilyEntry (i : Nat) (change : Node → Node) (e : Node × Node) : Node × Node :=
  if text? e.1 = some familiesKey then (e.1, e.2.withItem i change) else e

def inFamily (i : Nat) (change : Node → Node) (n : Node) : Node :=
  n.withEntries (List.map (inFamilyEntry i change))

theorem entries_withEntries (h : entries? n = some es) (empty : g [] = []) :
    entries? (n.withEntries g) = some (g es) := by
  unfold entries? at h
  split at h
  · cases h
    rfl
  · cases h
    rw [empty]
    rfl
  · cases h

theorem items_withItem (h : items? n = some ns) (change : Node → Node) :
    items? (n.withItem i change) = some (ns.modify i change) := by
  unfold items? at h
  split at h
  · cases h
    rfl
  · cases h
    rw [List.modify_nil]
    rfl
  · cases h

theorem valuesOf_dropKey : valuesOf k (dropKey k es) = [] := by
  simp [valuesOf, dropKey]

theorem valuesOf_dropKey_other (other : k' ≠ k) : valuesOf k' (dropKey k es) = valuesOf k' es := by
  rw [valuesOf, valuesOf, dropKey, List.filter_filter]
  congr 1
  refine List.filter_congr fun e _ => ?_
  by_cases here : text? e.1 = some k' <;> simp [here, other]

theorem sound_dropKey (h : Sound known es) : Sound known (dropKey k es) :=
  fun e mem => h e (List.mem_of_mem_filter mem)

theorem holdsFamily_withoutFont (h : HoldsFamily n f) :
    HoldsFamily (withoutKey fontNameKey n) { f with fontName := none } := by
  obtain ⟨es, entries, sound, ⟨v, named, text⟩, -⟩ := h
  refine ⟨_, entries_withEntries entries rfl, sound_dropKey sound, ⟨v, ?_, text⟩, ?_⟩
  · rw [valuesOf_dropKey_other (by decide), named]
  · rw [valuesOf_dropKey]
    rfl

theorem holdsManifest_withoutPath (h : HoldsManifest n m) :
    HoldsManifest (withoutKey cratePathKey n) { m with cratePath := none } := by
  obtain ⟨es, entries, sound, -, families⟩ := h
  refine ⟨_, entries_withEntries entries rfl, sound_dropKey sound, ?_, ?_⟩
  · rw [valuesOf_dropKey]
    rfl
  · rw [valuesOf_dropKey_other (by decide)]
    exact families

theorem forall₂_modify {α β : Type} {r : α → β → Prop} {xs : List α} {ys : List β} {p : α → α}
    {q : β → β} (h : List.Forall₂ r xs ys) (keeps : ∀ x y, r x y → r (p x) (q y)) (i : Nat) :
    List.Forall₂ r (xs.modify i p) (ys.modify i q) := by
  induction h generalizing i with
  | nil => simp
  | cons first rest ih =>
    cases i with
    | zero => exact .cons (keeps _ _ first) rest
    | succ i => exact .cons first (ih i)

theorem valuesOf_inFamilyEntry (i : Nat) (change : Node → Node) :
    valuesOf familiesKey (es.map (inFamilyEntry i change)) =
      (valuesOf familiesKey es).map (·.withItem i change) := by
  induction es with
  | nil => rfl
  | cons e es ih =>
    by_cases here : text? e.1 = some familiesKey
    · simpa [valuesOf, inFamilyEntry, here] using ih
    · simpa [valuesOf, inFamilyEntry, here] using ih

theorem valuesOf_inFamilyEntry_other (other : k ≠ familiesKey) (i : Nat) (change : Node → Node) :
    valuesOf k (es.map (inFamilyEntry i change)) = valuesOf k es := by
  induction es with
  | nil => rfl
  | cons e es ih =>
    by_cases here : text? e.1 = some familiesKey
    · simpa [valuesOf, inFamilyEntry, here, other.symm] using ih
    · by_cases there : text? e.1 = some k
      · simpa [valuesOf, inFamilyEntry, there, other] using ih
      · simpa [valuesOf, inFamilyEntry, here, there] using ih

theorem sound_inFamilyEntry (h : Sound manifestKeys es) (i : Nat) (change : Node → Node) :
    Sound manifestKeys (es.map (inFamilyEntry i change)) := by
  refine List.forall_mem_map.2 fun e mem => ?_
  obtain ⟨k, text, whole⟩ := h e mem
  by_cases here : text? e.1 = some familiesKey
  · refine ⟨familiesKey, by simp [inFamilyEntry, here], fun unknown => ?_⟩
    exact absurd (by decide) unknown
  · rw [inFamilyEntry, if_neg here]
    exact ⟨k, text, whole⟩

theorem holdsManifest_inFamily (h : HoldsManifest n m) {change : Node → Node}
    {changed : Family → Family}
    (keeps : ∀ n f, HoldsFamily n f → HoldsFamily (change n) (changed f)) (i : Nat) :
    HoldsManifest (inFamily i change n)
      { m with families := m.families.modify i changed } := by
  obtain ⟨es, entries, sound, path, families⟩ := h
  refine ⟨_, entries_withEntries entries rfl, sound_inFamilyEntry sound i change, ?_, ?_⟩
  · rw [valuesOf_inFamilyEntry_other (by decide)]
    exact path
  · rw [valuesOf_inFamilyEntry]
    cases values : valuesOf familiesKey es with
    | nil =>
      rw [values] at families
      simp [Takes, show m.families = [] from families]
    | cons v vs =>
      rw [values] at families
      cases vs with
      | nil =>
        obtain ⟨ns, items, each⟩ := families
        exact ⟨_, items_withItem items change, forall₂_modify each keeps i⟩
      | cons v' vs => exact families.elim

def Repeated (known : List String) (n : Node) : Prop :=
  ∃ es, entries? n = some es ∧ ∃ k ∈ known, 2 ≤ (valuesOf k es).length

def IsListed (n family : Node) : Prop :=
  ∃ es, entries? n = some es ∧ ∃ v ∈ valuesOf familiesKey es, ∃ ns, items? v = some ns ∧ family ∈ ns

def Repeats (n : Node) : Prop :=
  Repeated manifestKeys n ∨ ∃ family, IsListed n family ∧ Repeated familyKeys family

def LacksTypeName (n : Node) : Prop :=
  ∃ family, IsListed n family ∧ ∃ es, entries? family = some es ∧ valuesOf typeNameKey es = []

theorem takes_length {α : Type} {r : Node → α → Prop} {missing a : α} {vs : List Node}
    (h : Takes r missing vs a) : vs.length ≤ 1 := by
  rcases vs with _ | ⟨v, _ | ⟨v', vs⟩⟩
  · exact Nat.zero_le 1
  · exact Nat.le_refl 1
  · exact h.elim

theorem HoldsManifest.listed (h : HoldsManifest n m) {family : Node} (listed : IsListed n family) :
    ∃ f, HoldsFamily family f := by
  obtain ⟨es, entries, -, -, families⟩ := h
  obtain ⟨es', entries', v, mem, ns, items, item⟩ := listed
  cases entries.symm.trans entries'
  obtain ⟨v', single⟩ : ∃ v', valuesOf familiesKey es = [v'] :=
    List.length_eq_one_iff.1
      (Nat.le_antisymm (takes_length families) (List.length_pos_of_mem mem))
  rw [single] at families mem
  cases List.mem_singleton.1 mem
  obtain ⟨ns', items', each⟩ := families
  cases items.symm.trans items'
  obtain ⟨i, hi, rfl⟩ := List.getElem_of_mem item
  exact ⟨_, each.get hi (each.length_eq ▸ hi)⟩

theorem HoldsFamily.not_repeated (h : HoldsFamily n f) : ¬Repeated familyKeys n := by
  rintro ⟨es', entries', k, known, twice⟩
  obtain ⟨es, entries, -, ⟨v, named, -⟩, font⟩ := h
  cases entries.symm.trans entries'
  have fonts := takes_length font
  rcases show k = typeNameKey ∨ k = fontNameKey by simpa [familyKeys] using known with rfl | rfl
  · simp [named] at twice
  · omega

theorem HoldsManifest.not_repeats (h : HoldsManifest n m) : ¬Repeats n := by
  rintro (⟨es', entries', k, known, twice⟩ | ⟨family, listed, repeated⟩)
  · obtain ⟨es, entries, -, path, families⟩ := h
    cases entries.symm.trans entries'
    have paths := takes_length path
    have lists := takes_length families
    rcases show k = cratePathKey ∨ k = familiesKey by simpa [manifestKeys] using known
      with rfl | rfl
    · omega
    · omega
  · obtain ⟨f, holds⟩ := h.listed listed
    exact holds.not_repeated repeated

theorem HoldsManifest.not_lacksTypeName (h : HoldsManifest n m) : ¬LacksTypeName n := by
  rintro ⟨family, listed, es', entries', missing⟩
  obtain ⟨f, es, entries, -, ⟨v, named, -⟩, -⟩ := h.listed listed
  cases entries.symm.trans entries'
  rw [missing] at named
  cases named

section

variable {s s' : String}

theorem error_of_not_holds (root : (Document.ofText s).root = some n) (direct : n.isDirect = true)
    (h : ∀ m, ¬HoldsManifest n m) : ∃ e, ofText s = .error e := by
  cases read : ofText s with
  | error e => exact ⟨e, rfl⟩
  | ok m => exact absurd ((ofDocument_ok_iff root direct).1 read).1 (h m)

/-- From a text with a manifest, every text that lists the same fields has the same one, in any
order and among whatever else; one that lists them without a crate path or a font name lacks just
these. A text that repeats a field has no manifest, and neither has one with a family without a type
name. -/
theorem ofText_edited (root : (Document.ofText s).root = some n) (direct : n.isDirect = true)
    (accepted : ofText s = .ok m) (root' : (Document.ofText s').root = some n')
    (direct' : n'.isDirect = true) :
    ((Document.ofText s').isComplete = true →
        (Alike n n' → ofText s' = .ok m ∧
          ∀ path requested tree tree', tree.read path = .ok s.toUTF8 →
            tree'.read path = .ok s'.toUTF8 →
            Generator.outcome (.manifest path) requested tree' =
              Generator.outcome (.manifest path) requested tree) ∧
        (Alike (withoutKey cratePathKey n) n' → ofText s' = .ok { m with cratePath := none }) ∧
        ∀ i, Alike (inFamily i (withoutKey fontNameKey) n) n' → ofText s' = .ok { m with
          families := m.families.modify i fun f => { f with fontName := none } }) ∧
      (Repeats n' → ∃ e, ofText s' = .error e) ∧
      (LacksTypeName n' → ∃ e, ofText s' = .error e) := by
  have holds := ((ofDocument_ok_iff root direct).1 accepted).1
  refine ⟨fun complete => ?_, fun repeats => ?_, fun lacks => ?_⟩
  · have reads : ∀ n₀ m₀, HoldsManifest n₀ m₀ → Alike n₀ n' → ofText s' = .ok m₀ :=
      fun n₀ m₀ holds alike =>
        (ofDocument_ok_iff root' direct').2 ⟨(holdsManifest_alike alike).1 holds, complete⟩
    refine ⟨fun alike => ?_, reads _ _ (holdsManifest_withoutPath holds), fun i =>
      reads _ _ (holdsManifest_inFamily holds (fun _ _ => holdsFamily_withoutFont) i)⟩
    have same := reads n m holds alike
    refine ⟨same, fun path requested tree tree' read read' => ?_⟩
    rw [Generator.outcome_manifest (.of_read read accepted) rfl,
      Generator.outcome_manifest (.of_read read' same) rfl]
  · exact error_of_not_holds root' direct' fun m holds => holds.not_repeats repeats
  · exact error_of_not_holds root' direct' fun m holds => holds.not_lacksTypeName lacks

end

def exampleText : String :=
  "crate_path: c\nfamilies:\n- \x7btype_name: A, font_name: B\x7d\n"

def exampleEdited : String :=
  "families:\n- \x7bfont_name: B, note: [1], type_name: A\x7d\nnote: x\ncrate_path: c\n"

def word (mark : Mark) (s : String) : Node :=
  .scalar mark none true s

def exampleFamily : Node :=
  .mapping ⟨26, 2, 2⟩ [(word ⟨27, 2, 3⟩ "type_name", word ⟨38, 2, 14⟩ "A"),
    (word ⟨41, 2, 17⟩ "font_name", word ⟨52, 2, 28⟩ "B")]

def exampleRoot : Node :=
  .mapping .start [(word .start "crate_path", word ⟨12, 0, 12⟩ "c"),
    (word ⟨14, 1, 0⟩ "families", .sequence ⟨24, 2, 0⟩ [exampleFamily])]

def editedFamily : Node :=
  .mapping ⟨12, 1, 2⟩ [(word ⟨13, 1, 3⟩ "font_name", word ⟨24, 1, 14⟩ "B"),
    (word ⟨27, 1, 17⟩ "note", .sequence ⟨33, 1, 23⟩ [word ⟨34, 1, 24⟩ "1"]),
    (word ⟨38, 1, 28⟩ "type_name", word ⟨49, 1, 39⟩ "A")]

def editedRoot : Node :=
  .mapping .start [(word .start "families", .sequence ⟨10, 1, 0⟩ [editedFamily]),
    (word ⟨52, 2, 0⟩ "note", word ⟨58, 2, 6⟩ "x"),
    (word ⟨60, 3, 0⟩ "crate_path", word ⟨72, 3, 12⟩ "c")]

theorem editedFamily_alike : FamilyAlike exampleFamily editedFamily := by
  refine ⟨_, _, rfl, rfl, [(word ⟨38, 1, 28⟩ "type_name", word ⟨49, 1, 39⟩ "A"),
    (word ⟨13, 1, 3⟩ "font_name", word ⟨24, 1, 14⟩ "B")],
    [(word ⟨27, 1, 17⟩ "note", .sequence ⟨33, 1, 23⟩ [word ⟨34, 1, 24⟩ "1"])],
    .cons ⟨_, rfl, rfl, rfl⟩ (.cons ⟨_, rfl, rfl, rfl⟩ .nil), by decide +kernel, ?_⟩
  simp only [List.forall_mem_singleton]
  exact ⟨_, rfl, by decide, rfl⟩

theorem editedRoot_alike : Alike exampleRoot editedRoot := by
  refine ⟨_, _, rfl, rfl, [(word ⟨60, 3, 0⟩ "crate_path", word ⟨72, 3, 12⟩ "c"),
    (word .start "families", .sequence ⟨10, 1, 0⟩ [editedFamily])],
    [(word ⟨52, 2, 0⟩ "note", word ⟨58, 2, 6⟩ "x")],
    .cons ⟨_, rfl, rfl, ?_⟩ (.cons ⟨_, rfl, rfl, ?_⟩ .nil), by decide +kernel, ?_⟩
  · exact (if_neg (by decide)).mpr rfl
  · exact (if_pos rfl).mpr ⟨_, _, rfl, rfl, .cons editedFamily_alike .nil⟩
  · simp only [List.forall_mem_singleton]
    exact ⟨_, rfl, by decide, rfl⟩

theorem ofText_edited_notes :
    ofText exampleText = .ok ⟨some "c", [⟨"A", some "B"⟩]⟩ ∧
      (Document.ofText exampleEdited).isComplete = true ∧ Alike exampleRoot editedRoot ∧
      ofText exampleEdited = .ok ⟨some "c", [⟨"A", some "B"⟩]⟩ := by
  have accepted : ofText exampleText = .ok ⟨some "c", [⟨"A", some "B"⟩]⟩ := by decide +kernel
  have root : (Document.ofText exampleText).root = some exampleRoot := by decide +kernel
  obtain ⟨root', complete⟩ : (Document.ofText exampleEdited).root = some editedRoot ∧
    (Document.ofText exampleEdited).isComplete = true := by decide +kernel
  exact ⟨accepted, complete, editedRoot_alike,
    ((ofText_edited root rfl accepted root' rfl).1 complete).1 editedRoot_alike |>.1⟩

end Manifest
end FontAccessors
