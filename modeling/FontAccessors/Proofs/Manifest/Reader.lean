import FontAccessors.Manifest.Reader
import FontAccessors.Proofs.Yaml.Node
import Mathlib.Data.List.Forall2

namespace FontAccessors

namespace Manifest
open Yaml

variable {α β σ : Type} {d : Document} {n : Node} {place : Place} {mark : Mark}

/-! ## Readings -/

/-- A reader gives what `R` holds of, follows no references, and fails if there is no such thing. -/
def Gives (x : Read α) (R : α → Prop) : Prop :=
  ∀ budget a left, x budget = .ok (a, left) ↔ left = budget ∧ R a

theorem bind_apply (x : Read α) (f : α → Read β) (budget : Nat) :
    (x >>= f) budget = (x budget).bind fun r => f r.1 r.2 := rfl

theorem gives_pure (a : α) : Gives (pure a) fun b => some a = some b := by
  intro budget b left
  have run : (pure a : Read α) budget = .ok (a, budget) := rfl
  simp only [run, Except.ok.injEq, Prod.mk.injEq, Option.some.injEq]
  rw [and_comm, eq_comm (a := budget)]

theorem gives_throw (e : Error) : Gives (throw e : Read α) fun b => none = some b := by
  intro budget a left
  simp [throw, throwThe, MonadExceptOf.throw, StateT.lift, bind, Except.bind]

theorem gives_bind {x : Read α} {f : α → Read β} {R : α → Prop} {S : α → β → Prop}
    (hx : Gives x R) (hf : ∀ a, R a → Gives (f a) (S a)) :
    Gives (x >>= f) fun b => ∃ a, R a ∧ S a b := by
  intro budget b left
  rw [bind_apply]
  cases read : x budget with
  | error e =>
    refine ⟨nofun, ?_⟩
    rintro ⟨-, a, given, -⟩
    have ok := (hx budget a budget).2 ⟨rfl, given⟩
    rw [read] at ok
    cases ok
  | ok r =>
    obtain ⟨rest, given⟩ := (hx budget r.1 r.2).1 read
    rw [Except.bind, hf r.1 given, rest]
    refine and_congr_right fun _ => ⟨fun h => ⟨r.1, given, h⟩, ?_⟩
    rintro ⟨a, given', h⟩
    have same := (hx budget a budget).2 ⟨rfl, given'⟩
    rw [read] at same
    cases same
    exact h

theorem Gives.congr {x : Read α} {R S : α → Prop} (h : Gives x R) (same : ∀ a, R a ↔ S a) :
    Gives x S :=
  fun budget a left => (h budget a left).trans (and_congr_right fun _ => same a)

theorem follow_direct (direct : n.isDirect = true) : follow d n = pure n := by
  cases n with
  | reference number => cases direct
  | _ => rfl

theorem gives_unexpected (expected : String) :
    Gives (unexpected place n expected : Read α) fun b => none = some b := by
  rw [unexpected]
  split <;> exact gives_throw _

/-! ## Texts -/

def text? : Node → Option String
  | .scalar _ _ _ s => some s
  | _ => none

def optional? : Node → Option (Option String)
  | .scalar _ none true s => some (if s.isEmpty || isNullWord s then none else some s)
  | .scalar _ (some t) true s =>
    if t = Value.nullTag then if isNullWord s then some none else none else some (some s)
  | .scalar _ _ false s => some (some s)
  | _ => none

theorem gives_text (direct : n.isDirect = true) :
    Gives (text d place n) fun s => text? n = some s := by
  rw [text, follow_direct direct, pure_bind]
  cases n with
  | scalar mark tag plain s => exact gives_pure s
  | _ => exact gives_unexpected "a string"

theorem gives_keyText (direct : n.isDirect = true) :
    Gives (keyText d place n) fun s => text? n = some s := by
  rw [keyText, follow_direct direct, pure_bind]
  cases n with
  | scalar mark tag plain s => exact gives_pure s
  | _ => exact gives_unexpected "field identifier"

theorem gives_optional (direct : n.isDirect = true) :
    Gives (optionalText d place n) fun o => optional? n = some o := by
  rw [optionalText, follow_direct direct, pure_bind]
  cases n with
  | scalar mark tag plain s =>
    cases plain with
    | false => cases tag <;> exact gives_pure (some s)
    | true =>
      cases tag with
      | none => exact gives_pure _
      | some t =>
        simp only [optional?]
        split
        · split
          · exact gives_pure none
          · exact gives_throw .malformed
        · exact gives_pure (some s)
  | reference number => cases direct
  | _ =>
    refine (gives_bind (gives_text direct) fun s _ => gives_pure (some s)).congr ?_
    simp [text?, optional?]

/-! ## Mappings -/

def valuesOf (k : String) (es : List (Node × Node)) : List Node :=
  (es.filter fun e => text? e.1 = some k).map Prod.snd

def Sound (known : List String) (es : List (Node × Node)) : Prop :=
  ∀ e ∈ es, ∃ k, text? e.1 = some k ∧ (k ∉ known → e.2.isWhole = true)

/-- The value of a key that may be missing and may not be repeated. -/
def Takes (r : Node → α → Prop) (missing : α) : List Node → α → Prop
  | [], a => a = missing
  | [v], a => r v a
  | _ :: _ :: _, _ => False

def TakesUnseen (k : String) (r : Node → α → Prop) (seen : List String) (before : α)
    (es : List (Node × Node)) (a : α) : Prop :=
  (k ∈ seen → valuesOf k es = []) ∧ Takes r before (valuesOf k es) a

section

variable {k k' : String} {key value : Node} {es : List (Node × Node)} {known seen : List String}
  {r : Node → α → Prop} {a a' : α}

theorem valuesOf_cons_same (h : text? key = some k) :
    valuesOf k ((key, value) :: es) = value :: valuesOf k es := by
  simp [valuesOf, h]

theorem valuesOf_cons_other (h : text? key = some k') (other : k' ≠ k) :
    valuesOf k ((key, value) :: es) = valuesOf k es := by
  simp [valuesOf, h, other]

theorem sound_cons (h : text? key = some k) : Sound known ((key, value) :: es) ↔
    (k ∉ known → value.isWhole = true) ∧ Sound known es := by
  rw [Sound, List.forall_mem_cons]
  refine and_congr_left fun _ => ⟨?_, fun whole => ⟨k, h, whole⟩⟩
  rintro ⟨k', h', whole⟩
  cases h.symm.trans h'
  exact whole

theorem not_takesUnseen_repeated (h : text? key = some k) (repeated : k ∈ seen) :
    ¬TakesUnseen k r seen a ((key, value) :: es) a' := by
  rintro ⟨free, -⟩
  have none := free repeated
  rw [valuesOf_cons_same h] at none
  cases none

theorem takesUnseen_cons_other (h : text? key = some k') (other : k' ≠ k) :
    TakesUnseen k r seen a ((key, value) :: es) a' ↔ TakesUnseen k r (k' :: seen) a es a' := by
  rw [TakesUnseen, TakesUnseen, valuesOf_cons_other h other, List.mem_cons]
  simp [other.symm]

theorem takesUnseen_cons_same (h : text? key = some k) (unseen : k ∉ seen) :
    TakesUnseen k r seen a ((key, value) :: es) a' ↔
      ∃ b, r value b ∧ TakesUnseen k r (k :: seen) b es a' := by
  rw [TakesUnseen, valuesOf_cons_same h]
  simp only [TakesUnseen, List.mem_cons, true_or, forall_const]
  cases valuesOf k es with
  | nil => simp [Takes, unseen]
  | cons v vs => simp [Takes]

end

section

variable {k₁ k₂ : String} {r₁ : Node → α → Prop} {r₂ : Node → β → Prop} {mk : α → β → σ}
  {seen : List String} {a : α} {b : β} {k : String} {key value : Node}
  {es : List (Node × Node)} {s : σ}

/-- What the entries of a mapping make of a state, if two known keys set a part of it each. -/
def Makes (mk : α → β → σ) (k₁ k₂ : String) (r₁ : Node → α → Prop) (r₂ : Node → β → Prop)
    (seen : List String) (a : α) (b : β) (es : List (Node × Node)) (s : σ) : Prop :=
  Sound [k₁, k₂] es ∧ ∃ a' b', s = mk a' b' ∧ TakesUnseen k₁ r₁ seen a es a' ∧
    TakesUnseen k₂ r₂ seen b es b'

theorem makes_nil : Makes mk k₁ k₂ r₁ r₂ seen a b [] s ↔ s = mk a b := by
  constructor
  · rintro ⟨-, a', b', rfl, ⟨-, rfl⟩, -, rfl⟩
    rfl
  · rintro rfl
    exact ⟨nofun, a, b, rfl, ⟨fun _ => rfl, rfl⟩, fun _ => rfl, rfl⟩

theorem makes_first (text : text? key = some k₁) (apart : k₁ ≠ k₂) (unseen : k₁ ∉ seen) :
    Makes mk k₁ k₂ r₁ r₂ seen a b ((key, value) :: es) s ↔
      ∃ a₁, r₁ value a₁ ∧ Makes mk k₁ k₂ r₁ r₂ (k₁ :: seen) a₁ b es s := by
  simp only [Makes, sound_cons text, takesUnseen_cons_same text unseen,
    takesUnseen_cons_other text apart]
  constructor
  · rintro ⟨⟨-, sound⟩, a', b', rfl, ⟨a₁, read, takes⟩, rest⟩
    exact ⟨a₁, read, sound, a', b', rfl, takes, rest⟩
  · rintro ⟨a₁, read, sound, a', b', rfl, takes, rest⟩
    exact ⟨⟨absurd List.mem_cons_self, sound⟩, a', b', rfl, ⟨a₁, read, takes⟩, rest⟩

theorem makes_second (text : text? key = some k₂) (apart : k₁ ≠ k₂) (unseen : k₂ ∉ seen) :
    Makes mk k₁ k₂ r₁ r₂ seen a b ((key, value) :: es) s ↔
      ∃ b₁, r₂ value b₁ ∧ Makes mk k₁ k₂ r₁ r₂ (k₂ :: seen) a b₁ es s := by
  simp only [Makes, sound_cons text, takesUnseen_cons_same text unseen,
    takesUnseen_cons_other text apart.symm]
  constructor
  · rintro ⟨⟨-, sound⟩, a', b', rfl, rest, b₁, read, takes⟩
    exact ⟨b₁, read, sound, a', b', rfl, rest, takes⟩
  · rintro ⟨b₁, read, sound, a', b', rfl, rest, takes⟩
    exact ⟨⟨absurd (by simp), sound⟩, a', b', rfl, rest, b₁, read, takes⟩

theorem not_makes_repeated (text : text? key = some k) (known : k ∈ [k₁, k₂])
    (repeated : k ∈ seen) : ¬Makes mk k₁ k₂ r₁ r₂ seen a b ((key, value) :: es) s := by
  rintro ⟨-, a', b', -, takes₁, takes₂⟩
  rcases show k = k₁ ∨ k = k₂ by simpa using known with rfl | rfl
  · exact not_takesUnseen_repeated text repeated takes₁
  · exact not_takesUnseen_repeated text repeated takes₂

theorem makes_unknown (text : text? key = some k) (unknown : k ∉ [k₁, k₂]) :
    Makes mk k₁ k₂ r₁ r₂ seen a b ((key, value) :: es) s ↔
      value.isWhole = true ∧ Makes mk k₁ k₂ r₁ r₂ seen a b es s := by
  obtain ⟨other₁, other₂⟩ : k ≠ k₁ ∧ k ≠ k₂ := by simpa using unknown
  simp only [Makes, sound_cons text, TakesUnseen, valuesOf_cons_other text other₁,
    valuesOf_cons_other text other₂, unknown, not_false_eq_true, forall_const, and_assoc]

theorem gives_fields {d : Document} {mark : Mark} {field : σ → String → Place → Node → Read σ}
    (mk : α → β → σ) (x₁ : Place → Node → Read α) (x₂ : Place → Node → Read β)
    (r₁ : Node → α → Prop) (r₂ : Node → β → Prop) (apart : k₁ ≠ k₂)
    (sets₁ : ∀ a b place v, v.isDirect = true →
      field (mk a b) k₁ place v = (mk · b) <$> x₁ place v)
    (sets₂ : ∀ a b place v, v.isDirect = true → field (mk a b) k₂ place v = mk a <$> x₂ place v)
    (gives₁ : ∀ place v, v.isDirect = true → Gives (x₁ place v) (r₁ v))
    (gives₂ : ∀ place v, v.isDirect = true → Gives (x₂ place v) (r₂ v))
    (direct : Node.haveDirectParts es = true) (seen : List String) (a : α) (b : β) :
    Gives (fields d place mark [k₁, k₂] field seen (mk a b) es)
      (Makes mk k₁ k₂ r₁ r₂ seen a b es) := by
  induction es generalizing seen a b with
  | nil =>
    refine (gives_pure (mk a b)).congr fun s => ?_
    rw [makes_nil, Option.some.injEq, eq_comm]
  | cons e es ih =>
    obtain ⟨key, value⟩ := e
    simp only [Node.haveDirectParts, Bool.and_eq_true] at direct
    obtain ⟨⟨directKey, directValue⟩, direct⟩ := direct
    rw [fields]
    refine (gives_bind (gives_keyText directKey)
      (S := fun _ => Makes mk k₁ k₂ r₁ r₂ seen a b ((key, value) :: es))
      fun k text => ?_).congr fun s => ⟨fun ⟨_, _, makes⟩ => makes, fun makes => ?_⟩
    · by_cases known : k ∈ [k₁, k₂]
      · rw [if_pos (List.contains_iff_mem.2 known)]
        by_cases repeated : k ∈ seen
        · rw [if_pos (List.contains_iff_mem.2 repeated)]
          exact (gives_throw _).congr fun s =>
            ⟨nofun, fun makes => (not_makes_repeated text known repeated makes).elim⟩
        · rw [if_neg (mt List.contains_iff_mem.1 repeated)]
          -- Each key sets one part of the state, and from then on counts as seen.
          rcases show k = k₁ ∨ k = k₂ by simpa using known with rfl | rfl
          · rw [sets₁ a b _ value directValue, bind_map_left]
            exact (gives_bind (gives₁ _ value directValue) fun a₁ _ =>
              ih direct (k :: seen) a₁ b).congr fun s => (makes_first text apart repeated).symm
          · rw [sets₂ a b _ value directValue, bind_map_left]
            exact (gives_bind (gives₂ _ value directValue) fun b₁ _ =>
              ih direct (k :: seen) a b₁).congr fun s => (makes_second text apart repeated).symm
      · rw [if_neg (mt List.contains_iff_mem.1 known)]
        cases whole : value.isWhole with
        | false =>
          refine (gives_throw .malformed).congr fun s => ⟨nofun, fun makes => ?_⟩
          rw [makes_unknown text known, whole] at makes
          cases makes.1
        | true =>
          refine (ih direct seen a b).congr fun s => ?_
          rw [makes_unknown text known, whole]
          simp
    · obtain ⟨k, text, -⟩ := makes.1 (key, value) List.mem_cons_self
      exact ⟨k, text, makes⟩

end

/-! ## Families -/

def familyKeys : List String := [typeNameKey, fontNameKey]
def manifestKeys : List String := [cratePathKey, familiesKey]

def SaysText (v : Node) (s : Option String) : Prop :=
  ∃ x, text? v = some x ∧ some x = s

def SaysOptional (v : Node) (o : Option String) : Prop :=
  optional? v = some o

structure SaysFamily (es : List (Node × Node)) (f : Family) : Prop where
  sound : Sound familyKeys es
  named : ∃ v, valuesOf typeNameKey es = [v] ∧ text? v = some f.typeName
  font : Takes SaysOptional none (valuesOf fontNameKey es) f.fontName

def HoldsFamily (n : Node) (f : Family) : Prop :=
  ∃ es, entries? n = some es ∧ SaysFamily es f

def HoldsFamilies (n : Node) (fs : List Family) : Prop :=
  ∃ ns, items? n = some ns ∧ List.Forall₂ HoldsFamily ns fs

structure SaysManifest (es : List (Node × Node)) (m : Manifest) : Prop where
  sound : Sound manifestKeys es
  cratePath : Takes SaysOptional none (valuesOf cratePathKey es) m.cratePath
  families : Takes HoldsFamilies [] (valuesOf familiesKey es) m.families

def HoldsManifest (n : Node) (m : Manifest) : Prop :=
  ∃ es, entries? n = some es ∧ SaysManifest es m

theorem takes_text_iff {vs : List Node} {s : String} :
    Takes SaysText none vs (some s) ↔ ∃ v, vs = [v] ∧ text? v = some s := by
  rcases vs with _ | ⟨v, _ | ⟨v', vs⟩⟩
  · simp [Takes]
  · simp [Takes, SaysText]
  · simp [Takes]

theorem haveDirectParts_of_entries (direct : n.isDirect = true) {es : List (Node × Node)}
    (h : entries? n = some es) : Node.haveDirectParts es = true := by
  unfold entries? at h
  split at h
  · cases h
    exact direct
  · cases h
    rfl
  · cases h

theorem areDirect_of_items (direct : n.isDirect = true) {ns : List Node}
    (h : items? n = some ns) : Node.areDirect ns = true := by
  unfold items? at h
  split at h
  · cases h
    exact direct
  · cases h
    rfl
  · cases h

theorem gives_draft {es : List (Node × Node)} (direct : Node.haveDirectParts es = true) :
    Gives (fields d place mark [typeNameKey, fontNameKey] (familyField d) [] ⟨none, none⟩ es)
      fun f => Sound familyKeys es ∧
        Takes SaysText none (valuesOf typeNameKey es) f.typeName ∧
        Takes SaysOptional none (valuesOf fontNameKey es) f.fontName := by
  refine (gives_fields Draft.mk (fun place v => some <$> text d place v) (optionalText d) SaysText
    SaysOptional (by decide) ?_ ?_ ?_ ?_ direct [] none none).congr fun f => ?_
  · intro a b place v _
    simp [familyField]
  · intro a b place v _
    simp [familyField, typeNameKey, fontNameKey]
  · intro place v direct
    rw [map_eq_pure_bind]
    refine (gives_bind (gives_text direct) fun s _ => gives_pure (some s)).congr fun s => ?_
    simp [SaysText]
  · intro place v direct
    exact gives_optional direct
  · obtain ⟨typeName, fontName⟩ := f
    simp only [Makes, TakesUnseen, List.not_mem_nil, false_implies, true_and, Draft.mk.injEq]
    constructor
    · rintro ⟨sound, a, b, ⟨rfl, rfl⟩, named, font⟩
      exact ⟨sound, named, font⟩
    · rintro ⟨sound, named, font⟩
      exact ⟨sound, _, _, ⟨rfl, rfl⟩, named, font⟩

theorem gives_family (direct : n.isDirect = true) : Gives (family d place n) (HoldsFamily n) := by
  rw [family, follow_direct direct, pure_bind]
  cases entries : entries? n with
  | none => exact (gives_unexpected _).congr (by simp [HoldsFamily, entries])
  | some es =>
    refine (gives_bind (gives_draft (haveDirectParts_of_entries direct entries))
      (S := fun f x => f.typeName = some x.typeName ∧ f.fontName = x.fontName) ?_).congr ?_
    · rintro ⟨typeName, fontName⟩ -
      cases typeName with
      | none => exact (gives_throw _).congr (by simp)
      | some name => exact (gives_pure _).congr fun f => by cases f; simp
    · intro f
      simp only [HoldsFamily, entries, Option.some.injEq, exists_eq_left']
      constructor
      · rintro ⟨⟨typeName, fontName⟩, ⟨sound, named, font⟩, rfl, rfl⟩
        exact ⟨sound, takes_text_iff.1 named, font⟩
      · rintro ⟨sound, named, font⟩
        exact ⟨⟨some f.typeName, f.fontName⟩, ⟨sound, takes_text_iff.2 named, font⟩, rfl, rfl⟩

theorem gives_familyList {ns : List Node} (direct : Node.areDirect ns = true) (i : Nat) :
    Gives (familyList d place i ns) (List.Forall₂ HoldsFamily ns) := by
  induction ns generalizing i with
  | nil => exact (gives_pure []).congr (by simp [eq_comm])
  | cons n ns ih =>
    rw [Node.areDirect, Bool.and_eq_true] at direct
    refine (gives_bind (gives_family direct.1) fun f _ =>
      gives_bind (ih direct.2 (i + 1)) fun fs _ => gives_pure (f :: fs)).congr fun fs => ?_
    simp [List.forall₂_cons_left_iff, eq_comm]

/-! ## Manifests -/

theorem map_unexpected (f : α → β) (expected : String) :
    f <$> (unexpected place n expected : Read α) = unexpected place n expected := by
  rw [unexpected, unexpected]
  split <;> rfl

def familiesValue (d : Document) (place : Place) (v : Node) : Read (List Family) :=
  match items? v with
  | none => unexpected place v "a sequence"
  | some ns => familyList d place 0 ns

theorem gives_familiesValue (direct : n.isDirect = true) :
    Gives (familiesValue d place n) (HoldsFamilies n) := by
  rw [familiesValue]
  cases items : items? n with
  | none => exact (gives_unexpected _).congr (by simp [HoldsFamilies, items])
  | some ns =>
    exact (gives_familyList (areDirect_of_items direct items) 0).congr
      (by simp [HoldsFamilies, items])

theorem gives_manifest (direct : n.isDirect = true) : Gives (ofNode d n) (HoldsManifest n) := by
  rw [ofNode]
  cases entries : entries? n with
  | none => exact (gives_unexpected _).congr (by simp [HoldsManifest, entries])
  | some es =>
    refine (gives_fields Manifest.mk (optionalText d) (familiesValue d) SaysOptional HoldsFamilies
      (by decide) ?_ ?_ ?_ ?_ (haveDirectParts_of_entries direct entries) [] none []).congr ?_
    · intro a b place v _
      simp [manifestField]
    · intro a b place v direct
      simp only [manifestField, familiesKey, cratePathKey, familiesValue, follow_direct direct,
        pure_bind]
      cases items? v <;> simp [map_unexpected]
    · intro place v direct
      exact gives_optional direct
    · intro place v direct
      exact gives_familiesValue direct
    · rintro ⟨cratePath, families⟩
      simp only [HoldsManifest, entries, Option.some.injEq, exists_eq_left', Makes, TakesUnseen,
        List.not_mem_nil, false_implies, true_and, Manifest.mk.injEq]
      constructor
      · rintro ⟨sound, a, b, ⟨rfl, rfl⟩, path, families⟩
        exact ⟨sound, path, families⟩
      · rintro ⟨sound, path, families⟩
        exact ⟨sound, _, _, ⟨rfl, rfl⟩, path, families⟩

theorem run_ok_iff {x : Read α} {R : α → Prop} (h : Gives x R) (budget : Nat) (a : α) :
    x.run' budget = .ok a ↔ R a := by
  have run : x.run' budget = (x budget).map Prod.fst := rfl
  rw [run]
  cases read : x budget with
  | error e =>
    refine ⟨nofun, fun given => ?_⟩
    have ok := (h budget a budget).2 ⟨rfl, given⟩
    rw [read] at ok
    cases ok
  | ok r =>
    obtain ⟨rest, given⟩ := (h budget r.1 r.2).1 read
    constructor
    · rintro same
      cases same
      exact given
    · intro given'
      have same := (h budget a budget).2 ⟨rfl, given'⟩
      rw [read] at same
      cases same
      rfl

theorem ofDocument_root (root : d.root = some n) :
    ofDocument d = ((ofNode d n).run' (referencesPerEvent * n.eventCount)).bind fun m =>
      if d.isComplete then .ok m else .error .malformed := by
  rw [ofDocument, root]
  rfl

theorem ofDocument_ok_iff {m : Manifest} (root : d.root = some n) (direct : n.isDirect = true) :
    ofDocument d = .ok m ↔ HoldsManifest n m ∧ d.isComplete = true := by
  rw [← run_ok_iff (gives_manifest direct) (referencesPerEvent * n.eventCount) m,
    ofDocument_root root]
  generalize (ofNode d n).run' (referencesPerEvent * n.eventCount) = read
  cases read with
  | error e => simp [Except.bind]
  | ok m' => cases d.isComplete <;> simp [Except.bind]

end Manifest
end FontAccessors
