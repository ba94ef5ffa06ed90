import FontAccessors.Proofs.Manifest.Reader

namespace FontAccessors.Manifest
open Yaml

variable {α : Type} {k : String} {n n' : Node} {m : Manifest} {f : Family} {known : List String}
  {alike : String → Node → Node → Prop} {es es' : List (Node × Node)} {a missing : α}

/-- An entry with an unknown key, the value of which breaks no rule. -/
def IsForeign (known : List String) (e : Node × Node) : Prop :=
  ∃ k, text? e.1 = some k ∧ k ∉ known ∧ e.2.isWhole = true

def EntryAlike (alike : String → Node → Node → Prop) (e e' : Node × Node) : Prop :=
  ∃ k, text? e.1 = some k ∧ text? e'.1 = some k ∧ alike k e.2 e'.2

/-- The same entries in any order, and any entries with unknown keys among them. -/
def Rearranged (known : List String) (alike : String → Node → Node → Prop)
    (es es' : List (Node × Node)) : Prop :=
  ∃ kept more, List.Forall₂ (EntryAlike alike) es kept ∧ es'.Perm (kept ++ more) ∧
    ∀ e ∈ more, IsForeign known e

def Same (_ : String) (v v' : Node) : Prop :=
  v.unmarked = v'.unmarked

def FamilyAlike (n n' : Node) : Prop :=
  ∃ es es', entries? n = some es ∧ entries? n' = some es' ∧ Rearranged familyKeys Same es es'

def FamiliesAlike (n n' : Node) : Prop :=
  ∃ ns ns', items? n = some ns ∧ items? n' = some ns' ∧ List.Forall₂ FamilyAlike ns ns'

def ValueAlike (k : String) (v v' : Node) : Prop :=
  if k = familiesKey then FamiliesAlike v v' else Same k v v'

def Alike (n n' : Node) : Prop :=
  ∃ es es', entries? n = some es ∧ entries? n' = some es' ∧
    Rearranged manifestKeys ValueAlike es es'

theorem text_unmarked (n : Node) : text? n.unmarked = text? n := by
  cases n <;> rfl

theorem optional_unmarked (n : Node) : optional? n.unmarked = optional? n := by
  cases n with
  | scalar mark tag isPlain text => cases isPlain <;> cases tag <;> rfl
  | _ => rfl

theorem valuesOf_append : valuesOf k (es ++ es') = valuesOf k es ++ valuesOf k es' := by
  simp [valuesOf]

theorem valuesOf_perm (h : es.Perm es') : (valuesOf k es).Perm (valuesOf k es') :=
  (h.filter _).map _

theorem valuesOf_foreign (isKnown : k ∈ known) (h : ∀ e ∈ es, IsForeign known e) :
    valuesOf k es = [] := by
  rw [valuesOf, List.map_eq_nil_iff, List.filter_eq_nil_iff]
  intro e mem same
  obtain ⟨k', text, unknown, -⟩ := h e mem
  rw [text] at same
  simp only [Option.some.injEq, decide_eq_true_eq] at same
  exact unknown (same ▸ isKnown)

theorem valuesOf_alike (h : List.Forall₂ (EntryAlike alike) es es') (k : String) :
    List.Forall₂ (alike k) (valuesOf k es) (valuesOf k es') := by
  induction h with
  | nil => exact .nil
  | @cons e e' es es' same _ ih =>
    obtain ⟨k', text, text', values⟩ := same
    obtain ⟨key, value⟩ := e
    obtain ⟨key', value'⟩ := e'
    by_cases here : k' = k
    · subst here
      rw [valuesOf_cons_same text, valuesOf_cons_same text']
      exact .cons values ih
    · rw [valuesOf_cons_other text here, valuesOf_cons_other text' here]
      exact ih

theorem takes_perm {r : Node → α → Prop} {vs vs' : List Node} (h : vs.Perm vs') :
    Takes r missing vs a ↔ Takes r missing vs' a := by
  rcases vs with _ | ⟨v, _ | ⟨w, vs⟩⟩
  · rw [h.nil_eq]
  · rw [List.singleton_perm.1 h]
  · have long := h.length_eq
    rcases vs' with _ | ⟨v', _ | ⟨w', vs'⟩⟩
    · simp at long
    · simp at long
    · rfl

theorem takes_alike {r : Node → α → Prop} {vs vs' : List Node}
    (h : List.Forall₂ (alike k) vs vs') (agree : ∀ v v', alike k v v' → ∀ a, r v a ↔ r v' a) :
    Takes r missing vs a ↔ Takes r missing vs' a := by
  cases h with
  | nil => rfl
  | cons first rest =>
    cases rest with
    | nil => exact agree _ _ first a
    | cons => rfl

theorem takes_rearranged {r : Node → α → Prop} (h : Rearranged known alike es es')
    (isKnown : k ∈ known) (agree : ∀ v v', alike k v v' → ∀ a, r v a ↔ r v' a) :
    Takes r missing (valuesOf k es) a ↔ Takes r missing (valuesOf k es') a := by
  obtain ⟨kept, more, same, order, foreign⟩ := h
  have values : (valuesOf k es').Perm (valuesOf k kept) := by
    have all := valuesOf_perm (k := k) order
    rwa [valuesOf_append, valuesOf_foreign isKnown foreign, List.append_nil] at all
  rw [takes_alike (valuesOf_alike same k) agree, takes_perm values]

theorem sound_rearranged (h : Rearranged known alike es es')
    (agree : ∀ k ∉ known, ∀ v v', alike k v v' → v.isWhole = v'.isWhole) :
    Sound known es ↔ Sound known es' := by
  obtain ⟨kept, more, same, order, foreign⟩ := h
  have rest : Sound known es' ↔ Sound known kept := by
    simp only [Sound, order.mem_iff, List.forall_mem_append]
    refine and_iff_left fun e mem => ?_
    obtain ⟨k, text, -, whole⟩ := foreign e mem
    exact ⟨k, text, fun _ => whole⟩
  rw [rest]
  clear rest order
  induction same with
  | nil => rfl
  | @cons e e' es es' same _ ih =>
    obtain ⟨k, text, text', values⟩ := same
    obtain ⟨key, value⟩ := e
    obtain ⟨key', value'⟩ := e'
    rw [sound_cons text, sound_cons text']
    refine and_congr (forall_congr' fun unknown => ?_) ih
    rw [agree k unknown value value' values]

theorem same_text (v v' : Node) (h : Same k v v') (s : Option String) :
    SaysText v s ↔ SaysText v' s := by
  rw [SaysText, SaysText, ← text_unmarked v, h, text_unmarked]

theorem same_optional (v v' : Node) (h : Same k v v') (o : Option String) :
    SaysOptional v o ↔ SaysOptional v' o := by
  rw [SaysOptional, SaysOptional, ← optional_unmarked v, h, optional_unmarked]

theorem same_isWhole (v v' : Node) (h : Same k v v') : v.isWhole = v'.isWhole := by
  rw [← Node.isWhole_unmarked v, h, Node.isWhole_unmarked]

theorem saysFamily_iff : SaysFamily es f ↔ Sound familyKeys es ∧
    Takes SaysText none (valuesOf typeNameKey es) (some f.typeName) ∧
    Takes SaysOptional none (valuesOf fontNameKey es) f.fontName := by
  rw [takes_text_iff]
  exact ⟨fun ⟨sound, named, font⟩ => ⟨sound, named, font⟩,
    fun ⟨sound, named, font⟩ => ⟨sound, named, font⟩⟩

theorem saysManifest_iff : SaysManifest es m ↔ Sound manifestKeys es ∧
    Takes SaysOptional none (valuesOf cratePathKey es) m.cratePath ∧
    Takes HoldsFamilies [] (valuesOf familiesKey es) m.families :=
  ⟨fun ⟨sound, path, families⟩ => ⟨sound, path, families⟩,
    fun ⟨sound, path, families⟩ => ⟨sound, path, families⟩⟩

theorem holdsFamily_alike (h : FamilyAlike n n') : HoldsFamily n f ↔ HoldsFamily n' f := by
  obtain ⟨es, es', entries, entries', rearranged⟩ := h
  simp only [HoldsFamily, entries, entries', Option.some.injEq, exists_eq_left', saysFamily_iff,
    sound_rearranged rearranged fun _ _ => same_isWhole,
    takes_rearranged rearranged (k := typeNameKey) (by decide) same_text,
    takes_rearranged rearranged (k := fontNameKey) (by decide) same_optional]

theorem holdsFamilies_alike (h : FamiliesAlike n n') (fs : List Family) :
    HoldsFamilies n fs ↔ HoldsFamilies n' fs := by
  obtain ⟨ns, ns', items, items', each⟩ := h
  simp only [HoldsFamilies, items, items', Option.some.injEq, exists_eq_left']
  clear items items'
  induction each generalizing fs with
  | nil => rfl
  | cons same _ ih =>
    cases fs with
    | nil => simp
    | cons f fs => rw [List.forall₂_cons, List.forall₂_cons, holdsFamily_alike same, ih]

theorem holdsManifest_alike (h : Alike n n') : HoldsManifest n m ↔ HoldsManifest n' m := by
  obtain ⟨es, es', entries, entries', rearranged⟩ := h
  have unknown : ∀ k ∉ manifestKeys, ∀ v v', ValueAlike k v v' → v.isWhole = v'.isWhole := by
    intro k unknown v v' same
    rw [ValueAlike, if_neg (by rintro rfl; exact unknown (by decide))] at same
    exact same_isWhole v v' same
  have path : ∀ v v', ValueAlike cratePathKey v v' → ∀ o, SaysOptional v o ↔ SaysOptional v' o := by
    intro v v' same
    rw [ValueAlike, if_neg (by decide)] at same
    exact same_optional v v' same
  have families : ∀ v v', ValueAlike familiesKey v v' →
      ∀ fs, HoldsFamilies v fs ↔ HoldsFamilies v' fs := by
    intro v v' same
    rw [ValueAlike, if_pos rfl] at same
    exact holdsFamilies_alike same
  simp only [HoldsManifest, entries, entries', Option.some.injEq, exists_eq_left',
    saysManifest_iff, sound_rearranged rearranged unknown,
    takes_rearranged rearranged (k := cratePathKey) (by decide) path,
    takes_rearranged rearranged (k := familiesKey) (by decide) families]

end FontAccessors.Manifest
