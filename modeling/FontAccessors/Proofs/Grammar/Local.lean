import FontAccessors.Grammar.Source
import FontAccessors.Proofs.Grammar.Reader

/-!
# What readers do not look at

A reader between angle brackets looks no further than the bracket that closes them: what it reads
stays the same if more tokens follow (`Local`). Tests on the tokens ahead (`Stable`) and partial
functions on them (`Peeks`) come first, then the steps that readers are made of.

Tokens inside an invisible group may run into the tokens after it, so all of this is about tokens
among which no such group stands (`Visible`), as in a text.
-/

namespace FontAccessors.Grammar
open Token

/-! ## Tokens ahead -/

def Visible (ts : List Token) : Prop :=
  ∀ content, .group .invisible content ∉ ts

def Closes (ts : List Token) : Prop :=
  ∃ s, .punct '>' s ∈ ts

section

variable {t : Token} {ss ts us rest : List Token}

theorem Visible.suffix (h : Visible ts) (suffix : rest <:+ ts) : Visible rest :=
  fun content mem => h content (suffix.mem mem)

theorem Visible.tail (h : Visible (t :: ts)) : Visible ts :=
  h.suffix (List.suffix_cons t ts)

theorem Closes.of_suffix (h : Closes rest) (suffix : rest <:+ ts) : Closes ts :=
  h.imp fun _ mem => suffix.mem mem

theorem Closes.tail (h : Closes (t :: ts)) (other : ∀ s, t ≠ .punct '>' s) : Closes ts := by
  obtain ⟨s, mem⟩ := h
  exact ⟨s, (List.mem_cons.1 mem).resolve_left fun eq => other s eq.symm⟩

theorem Closes.exists_cons (h : Closes ts) : ∃ t rest, ts = t :: rest := by
  obtain ⟨s, mem⟩ := h
  exact List.exists_cons_of_ne_nil (List.ne_nil_of_mem mem)

theorem enter_visible (h : Visible (t :: ts)) (us : List Token) :
    enter (t :: us) = t :: us := by
  cases t with
  | ident i => exact enter_ident i us
  | punct c s => exact enter_punct c s us
  | literal text => exact enter_literal text us
  | group d content =>
    refine enter_group ?_ content us
    rintro rfl
    exact h content List.mem_cons_self

end

/-! ## Tests and partial functions -/

variable {α β : Type}

def Stable (p : List Token → Bool) : Prop :=
  ∀ us ts, Visible ts → Closes ts → p (ts ++ us) = p ts

def Peeks (f : List Token → Option (α × List Token)) : Prop :=
  ∀ us ts, Visible ts → (∀ a rest, f ts = some (a, rest) → rest <:+ ts) ∧
    (Closes ts → f (ts ++ us) = (f ts).map fun r => (r.1, r.2 ++ us))

namespace Stable

variable {p q : List Token → Bool}

theorem const (b : Bool) : Stable fun _ => b :=
  fun _ _ _ _ => rfl

theorem not (hp : Stable p) : Stable fun ts => !p ts := by
  intro us ts visible closes
  simp only [hp us ts visible closes]

theorem or (hp : Stable p) (hq : Stable q) : Stable fun ts => p ts || q ts := by
  intro us ts visible closes
  simp only [hp us ts visible closes, hq us ts visible closes]

theorem guarded (hp : Stable p)
    (hq : ∀ us ts, Visible ts → Closes ts → p ts = true → q (ts ++ us) = q ts) :
    Stable fun ts => p ts && q ts := by
  intro us ts visible closes
  simp only [hp us ts visible closes]
  cases holds : p ts with
  | false => rfl
  | true => rw [hq us ts visible closes holds]

theorem and (hp : Stable p) (hq : Stable q) : Stable fun ts => p ts && q ts :=
  hp.guarded fun us ts visible closes _ => hq us ts visible closes

end Stable

namespace Peeks

variable {f : List Token → Option (α × List Token)}

theorem any (hf : Peeks f) (p : α → Bool) : Stable fun ts => (f ts).any fun r => p r.1 := by
  intro us ts visible closes
  simp only [(hf us ts visible).2 closes]
  cases f ts <;> rfl

theorem isSome (hf : Peeks f) : Stable fun ts => (f ts).isSome := by
  intro us ts visible closes
  simp only [(hf us ts visible).2 closes, Option.isSome_map]

theorem filter (hf : Peeks f) (p : α → Bool) : Peeks fun ts => (f ts).filter fun r => p r.1 := by
  intro us ts visible
  refine ⟨fun a rest h => ?_, fun closes => ?_⟩
  · exact (hf us ts visible).1 a rest (Option.filter_eq_some_iff.1 h).1
  · simp only [(hf us ts visible).2 closes]
    cases f ts with
    | none => rfl
    | some r => cases holds : p r.1 <;> simp [Option.filter, holds]

theorem map (hf : Peeks f) (g : α → β) : Peeks fun ts => (f ts).map fun r => (g r.1, r.2) := by
  intro us ts visible
  refine ⟨fun b rest h => ?_, fun closes => ?_⟩
  · obtain ⟨⟨a, rest'⟩, found, eq⟩ := Option.map_eq_some_iff.1 h
    cases eq
    exact (hf us ts visible).1 a rest' found
  · simp only [(hf us ts visible).2 closes, Option.map_map]
    rfl

end Peeks

/-! ## Single tokens -/

/-- What a function makes of the token at the front. Behind a closing angle bracket it looks at
nothing. -/
inductive Front (f : List Token → Option (α × List Token)) (t : Token) : Prop where
  | refuses (h : ∀ ts, f (t :: ts) = none)
  | takes (a : α) (h : ∀ ts, f (t :: ts) = some (a, ts))
  | passes (k : List Token → Option (α × List Token)) (next : Peeks k)
      (other : ∀ s, t ≠ .punct '>' s) (h : ∀ ts, f (t :: ts) = k ts)

section

variable {f : List Token → Option (α × List Token)}

theorem peeks_of_front (nothing : f [] = none)
    (front : ∀ t, (∀ ts, enter (t :: ts) = t :: ts) → Front f t) : Peeks f := by
  intro us ts visible
  cases ts with
  | nil =>
    refine ⟨fun a rest found => ?_, fun ⟨s, mem⟩ => nomatch mem⟩
    rw [nothing] at found
    cases found
  | cons t ts =>
    cases front t (enter_visible visible) with
    | refuses h => exact ⟨by simp [h], by simp [h]⟩
    | takes b h => exact ⟨by simp [h], by simp [h]⟩
    | passes k next other h =>
      obtain ⟨suffix, same⟩ := next us ts visible.tail
      refine ⟨fun a rest found => ?_, fun closes => ?_⟩
      · exact (suffix a rest ((h ts).symm.trans found)).trans (List.suffix_cons t ts)
      · rw [List.cons_append, h, h, same (closes.tail other)]

end

theorem peeks_identAt : Peeks identAt? := by
  refine peeks_of_front (by simp [identAt?]) fun t same => ?_
  cases t with
  | ident i => exact .takes i (by simp [identAt?])
  | _ => exact .refuses (by simp [identAt?, same])

theorem peeks_literalAt : Peeks literalAt? := by
  refine peeks_of_front (by simp [literalAt?]) fun t same => ?_
  cases t with
  | literal text => exact .takes text (by simp [literalAt?])
  | _ => exact .refuses (by simp [literalAt?, same])

theorem peeks_groupAt (d : Delimiter) : Peeks (groupAt? d) := by
  refine peeks_of_front (by simp [groupAt?]) fun t same => ?_
  cases t with
  | group d' content =>
    by_cases eq : d = d'
    · exact .takes content (by simp [groupAt?, same, eq])
    · exact .refuses (by simp [groupAt?, same, eq])
  | _ => exact .refuses (by simp [groupAt?, same])

theorem peeks_rawGroup : Peeks rawGroup := by
  refine peeks_of_front rfl fun t same => ?_
  cases t with
  | group d content =>
    by_cases eq : d = .invisible
    · exact .refuses (by simp [rawGroup, reading, eq])
    · exact .takes (d, content) (by simp [rawGroup, reading, eq])
  | _ => exact .refuses fun ts => rfl

theorem peeks_invisibleAt : Peeks invisibleAt? := by
  refine peeks_of_front rfl fun t same => ?_
  cases t with
  | group d content =>
    cases d with
    | invisible => exact .takes content fun ts => rfl
    | _ => exact .refuses fun ts => rfl
  | _ => exact .refuses fun ts => rfl

/-! ## Marks, lifetimes and values -/

def extendsAngle (m : String) : Bool :=
  m.toList.dropLast.contains '>'

theorem peeks_operatorAt {cs : List Char} (plain : '>' ∉ cs.dropLast) :
    Peeks fun ts => (operatorAt? cs ts).map fun rest => ((), rest) := by
  induction cs with
  | nil => exact fun us ts _ => ⟨nofun, fun _ => rfl⟩
  | cons c cs ih =>
    have nothing : ((operatorAt? (c :: cs) []).map fun rest => ((), rest)) = none := by
      cases cs <;> simp [operatorAt?]
    refine peeks_of_front nothing fun t same => ?_
    cases t with
    | punct c' s =>
      by_cases mark : c' ≠ '\'' ∧ c' = c
      · obtain ⟨tick, rfl⟩ := mark
        cases cs with
        | nil => exact .takes () (by simp [operatorAt?, markAt?, tick])
        | cons d cs =>
          by_cases joint : s = .joint
          · refine .passes _ (ih fun mem => plain (List.mem_cons_of_mem _ mem)) ?_
              (by simp [operatorAt?, markAt?, tick, joint])
            rintro s' eq
            cases eq
            exact plain List.mem_cons_self
          · exact .refuses (by simp [operatorAt?, markAt?, tick, joint])
      · refine .refuses fun ts => ?_
        by_cases tick : c' = '\''
        · cases cs <;> simp [operatorAt?, markAt?, tick]
        · have other : c' ≠ c := fun eq => mark ⟨tick, eq⟩
          cases cs <;> simp [operatorAt?, markAt?, tick, other]
    | _ => exact .refuses fun ts => by cases cs <;> simp [operatorAt?, markAt?, same]

theorem peeks_mark {m : String} (plain : extendsAngle m = false) :
    Peeks fun ts => (operatorAt? m.toList ts).map fun rest => ((), rest) :=
  peeks_operatorAt (by simpa [extendsAngle] using plain)

theorem peeks_lifetimeAt : Peeks lifetimeAt? := by
  refine peeks_of_front (by simp [lifetimeAt?]) fun t same => ?_
  cases t with
  | punct c s =>
    by_cases tick : c = '\'' ∧ s = .joint
    · obtain ⟨rfl, rfl⟩ := tick
      exact .passes _ peeks_identAt nofun (by simp [lifetimeAt?])
    · refine .refuses fun ts => ?_
      rw [lifetimeAt?, same]
      split
      · rename_i eq
        cases eq
        exact absurd ⟨rfl, rfl⟩ tick
      · rfl
  | _ => exact .refuses (by simp [lifetimeAt?, same])

theorem peeks_valueAt : Peeks valueAt? := by
  have negated : Peeks fun ts => (literalAt? ts).bind fun r =>
      if Literal.isNumber r.1.toList then
        some ([Token.punct '-' .alone, Token.literal r.1], r.2) else none := by
    refine cast (congrArg Peeks (funext fun ts => ?_))
      ((peeks_literalAt.filter fun text => Literal.isNumber text.toList).map fun text =>
        [Token.punct '-' .alone, Token.literal text])
    cases literalAt? ts with
    | none => rfl
    | some r => cases number : Literal.isNumber r.1.toList <;> simp [Option.filter, number]
  refine peeks_of_front (by simp [valueAt?]) fun t same => ?_
  cases t with
  | ident i =>
    by_cases truth : i = .plain "true" ∨ i = .plain "false"
    · exact .takes [.ident i] (by simp [valueAt?, truth])
    · exact .refuses (by simp [valueAt?, truth])
  | literal text => exact .takes [.literal text] (by simp [valueAt?])
  | punct c s =>
    by_cases minus : c = '-'
    · subst minus
      exact .passes _ negated nofun (by simp [valueAt?])
    · refine .refuses fun ts => ?_
      rw [valueAt?, same]
      split
      · rename_i eq
        cases eq
      · rename_i eq
        cases eq
      · rename_i eq
        cases eq
        exact absurd rfl minus
      · rfl
  | group d content => exact .refuses (by simp [valueAt?, same])

/-! ## Tests -/

theorem stable_atWord (w : String) : Stable (atWord w) :=
  peeks_identAt.any fun i => i = .plain w

theorem stable_atWords (ws : List String) : Stable (atWords ws) :=
  peeks_identAt.any fun i => !i.isRaw && ws.contains i.name

theorem stable_atName : Stable atName :=
  peeks_identAt.any isName

theorem stable_atIdent : Stable atIdent :=
  peeks_identAt.isSome

theorem stable_atGroup (d : Delimiter) : Stable (atGroup d) :=
  (peeks_groupAt d).isSome

theorem stable_atInvisible : Stable atInvisible :=
  peeks_invisibleAt.isSome

theorem atInvisible_visible {ts : List Token} (visible : Visible ts) : atInvisible ts = false := by
  rcases ts with _ | ⟨t, ts⟩
  · rfl
  · cases t with
    | group d content =>
      cases d with
      | invisible => exact absurd List.mem_cons_self (visible content)
      | _ => rfl
    | _ => rfl

theorem stable_atLifetime : Stable atLifetime :=
  peeks_lifetimeAt.isSome

theorem stable_atValue : Stable atValue :=
  peeks_valueAt.isSome

theorem stable_atPathName : Stable atPathName :=
  stable_atName.or (stable_atWords pathWords)

theorem stable_atString : Stable fun ts => (stringAt? ts).isSome :=
  (peeks_literalAt.filter fun text => (Text.Quoted.value? text.toList).isSome).isSome

theorem stable_atMark (m : String) (plain : extendsAngle m = false) : Stable (atMark m) := by
  intro us ts visible closes
  have := (peeks_mark plain).isSome us ts visible closes
  simpa [atMark] using this

theorem stable_atMarks (ms : List String) (plain : ms.any extendsAngle = false) :
    Stable (atMarks ms) := by
  intro us ts visible closes
  induction ms with
  | nil => rfl
  | cons m ms ih =>
    obtain ⟨plain, plain'⟩ := Bool.or_eq_false_iff.1 plain
    have first := stable_atMark m plain us ts visible closes
    have others := ih plain'
    simp only [atMarks, List.any_cons] at others ⊢
    rw [first, others]

theorem stable_atPath : Stable atPath :=
  stable_atPathName.or (stable_atMarks _ rfl)

/-! ## Tests behind the first token -/

section

variable {p : List Token → Bool} {us ts : List Token}

theorem skip_append (visible : Visible ts) (closes : Closes ts)
    (other : ∀ s rest, ts ≠ .punct '>' s :: rest) :
    ∃ rest, Visible rest ∧ Closes rest ∧ ∀ us, skip (ts ++ us) = some (rest ++ us) := by
  obtain ⟨t, ts, rfl⟩ := closes.exists_cons
  have closes' : Closes ts := closes.tail fun s eq => other s ts (by rw [eq])
  by_cases lifetime : t = .punct '\'' .joint ∧ ∃ i rest, ts = .ident i :: rest
  · obtain ⟨rfl, i, rest, rfl⟩ := lifetime
    exact ⟨rest, visible.tail.tail, closes'.tail nofun, fun us => by simp [skip]⟩
  · refine ⟨ts, visible.tail, closes', fun us => ?_⟩
    obtain ⟨t', ts', rfl⟩ := closes'.exists_cons
    rw [skip, List.cons_append, enter_visible visible]
    split
    · rename_i eq
      cases eq
    · rename_i eq
      cases eq
      exact absurd ⟨rfl, _, _, rfl⟩ lifetime
    · rename_i eq
      cases eq
      rfl

theorem second_append (hp : Stable p) (visible : Visible ts) (closes : Closes ts)
    (other : ∀ s rest, ts ≠ .punct '>' s :: rest) : second p (ts ++ us) = second p ts := by
  obtain ⟨rest, visible', closes', skipped⟩ := skip_append visible closes other
  have here := skipped []
  rw [List.append_nil, List.append_nil] at here
  rw [second, second, skipped, here]
  exact hp us rest visible' closes'

theorem identAt_some {i : Ident} {rest : List Token} (visible : Visible ts)
    (h : identAt? ts = some (i, rest)) : ts = .ident i :: rest := by
  cases ts with
  | nil => simp [identAt?] at h
  | cons t ts =>
    rw [identAt?, enter_visible visible] at h
    cases t <;> simp at h
    obtain ⟨rfl, rfl⟩ := h
    rfl

theorem markAt_some {c : Char} {s : Spacing} {rest : List Token} (visible : Visible ts)
    (h : markAt? ts = some (c, s, rest)) : ts = .punct c s :: rest := by
  cases ts with
  | nil => simp at h
  | cons t ts =>
    rw [markAt?, enter_visible visible] at h
    cases t with
    | punct c' s' =>
      by_cases tick : c' = '\'' <;> simp [tick] at h
      obtain ⟨rfl, rfl, rfl⟩ := h
      rfl
    | _ => simp at h

theorem colonsAt_some {rest : List Token} (visible : Visible ts)
    (h : operatorAt? [':', ':'] ts = some rest) :
    ∃ s, ts = .punct ':' .joint :: .punct ':' s :: rest := by
  obtain ⟨⟨c, s, ts'⟩, first, more⟩ := Option.bind_eq_some_iff.1 h
  obtain rfl := markAt_some visible first
  split at more
  · rename_i joint
    simp only [Bool.and_eq_true, decide_eq_true_eq] at joint
    obtain ⟨rfl, rfl⟩ := joint
    obtain ⟨⟨c', s', ts''⟩, last, same⟩ := Option.bind_eq_some_iff.1 more
    obtain rfl := markAt_some visible.tail last
    split at same
    · rename_i eq
      cases same
      exact ⟨s', by rw [← eq]⟩
    · cases same
  · cases more

theorem third_append (hp : Stable p) (visible : Visible ts) (closes : Closes ts)
    (colons : atMark "::" ts = true) : third p (ts ++ us) = third p ts := by
  obtain ⟨rest, read⟩ := Option.isSome_iff_exists.1 colons
  obtain ⟨s, rfl⟩ := colonsAt_some visible read
  have closes' : Closes rest := (closes.tail nofun).tail nofun
  simpa [third, skip] using hp us rest visible.tail.tail closes'

theorem stable_atTurbofish : Stable atTurbofish :=
  (stable_atMark "::" rfl).guarded fun _ _ visible closes colons =>
    third_append (stable_atMark "<" rfl) visible closes colons

theorem stable_atParenthesis : Stable atParenthesis :=
  (stable_atGroup .parenthesis).or <|
    (stable_atMark "::" rfl).guarded fun _ _ visible closes colons =>
      third_append (stable_atGroup .parenthesis) visible closes colons

theorem stable_atFurther :
    Stable fun ts => atMark "::" ts && !third (atGroup .parenthesis) ts :=
  (stable_atMark "::" rfl).guarded fun us ts visible closes colons => by
    rw [third_append (stable_atGroup .parenthesis) visible closes colons]

theorem stable_atBuiltin : Stable atBuiltin :=
  (stable_atWord "builtin").guarded fun us ts visible closes here =>
    second_append (stable_atMark "#" rfl) visible closes (by
      rintro s rest rfl
      simp [atWord] at here)

theorem stable_atLoneLifetime : Stable fun ts => atLifetime ts && !second (atMark "+") ts :=
  stable_atLifetime.guarded fun us ts visible closes here => by
    rw [second_append (stable_atMark "+" rfl) visible closes]
    rintro s rest rfl
    simp [atLifetime, lifetimeAt?] at here

end

/-! ## Readers -/

/-- A reader of the tokens `ts` that has seen more of them before, from `ss` on. As long as an angle
bracket is left to close, it answers the same if more tokens follow. -/
def Follows (r : List Token → Reader α) : Prop :=
  ∀ us ss ts, Visible ss → ts <:+ ss → ∀ a rest, r ss ts = some (a, rest) →
    rest <:+ ts ∧ (Closes rest → r (ss ++ us) (ts ++ us) = some (a, rest ++ us))

def Local (r : Reader α) : Prop :=
  Follows fun _ => r

namespace Follows

variable {x y : List Token → Reader α}

theorem ite {p : List Token → Bool} (hp : Stable p) (hx : Follows x) (hy : Follows y) :
    Follows fun ts => if p ts then x ts else y ts := by
  intro us ss ts visible suffix a rest h
  simp only [run_ite] at h ⊢
  split at h
  · rename_i holds
    obtain ⟨suffix', same⟩ := hx us ss ts visible suffix a rest h
    refine ⟨suffix', fun closes => ?_⟩
    rw [hp us ss visible (closes.of_suffix (suffix'.trans suffix)), if_pos holds, same closes]
  · rename_i fails
    obtain ⟨suffix', same⟩ := hy us ss ts visible suffix a rest h
    refine ⟨suffix', fun closes => ?_⟩
    rw [hp us ss visible (closes.of_suffix (suffix'.trans suffix)), if_neg fails, same closes]

theorem ite_never {p : List Token → Bool} (hp : Stable p) (never : ∀ ts, Visible ts → p ts = false)
    (hy : Follows y) : Follows fun ts => if p ts then x ts else y ts := by
  intro us ss ts visible suffix a rest h
  have fails : ¬p ss = true := by simp [never ss visible]
  simp only [if_neg fails] at h ⊢
  obtain ⟨suffix', same⟩ := hy us ss ts visible suffix a rest h
  refine ⟨suffix', fun closes => ?_⟩
  rw [hp us ss visible (closes.of_suffix (suffix'.trans suffix)), if_neg fails, same closes]

theorem of_seen (hx : ∀ ts, Local (x ts))
    (stable : ∀ us ts, Visible ts → Closes ts → x (ts ++ us) = x ts) : Follows x := by
  intro us ss ts visible suffix a rest h
  obtain ⟨suffix', same⟩ := hx ss us ss ts visible suffix a rest h
  refine ⟨suffix', fun closes => ?_⟩
  rw [stable us ss visible (closes.of_suffix (suffix'.trans suffix))]
  exact same closes

theorem get (h : Follows x) : Local (get >>= x) :=
  fun us _ ts visible suffix => h us ts ts (visible.suffix suffix) List.suffix_rfl

theorem pure (a : α) : Local (pure a) := by
  intro us ss ts _ _ b rest h
  cases h
  exact ⟨List.suffix_rfl, fun _ => rfl⟩

theorem failure : Local (failure : Reader α) :=
  fun _ _ _ _ _ _ _ h => nomatch h

theorem failure_bind {f : α → Reader β} : Local (Alternative.failure >>= f) :=
  fun _ _ _ _ _ _ _ h => nomatch h

theorem bind {f : List Token → α → Reader β} (hx : Follows x)
    (hf : ∀ a, Follows fun ts => f ts a) : Follows fun ts => x ts >>= f ts := by
  intro us ss ts visible suffix b rest h
  simp only [run_bind, Option.bind_eq_some_iff] at h
  obtain ⟨⟨a, middle⟩, first, last⟩ := h
  obtain ⟨suffix', same⟩ := hx us ss ts visible suffix a middle first
  obtain ⟨suffix'', same'⟩ := hf a us ss middle visible (suffix'.trans suffix) b rest last
  refine ⟨suffix''.trans suffix', fun closes => ?_⟩
  simp only [run_bind, same (closes.of_suffix suffix''), Option.bind_some, same' closes]

theorem get_ite {p : List Token → Bool} (hp : Stable p) (hx : Follows x) (hy : Follows y) :
    Follows fun ss => MonadState.get >>= fun ts => if p ts then x ss else y ss := by
  intro us ss ts visible suffix a rest h
  simp only [run_bind, run_get, Option.bind_some, run_ite] at h ⊢
  split at h
  · rename_i holds
    obtain ⟨suffix', same⟩ := hx us ss ts visible suffix a rest h
    refine ⟨suffix', fun closes => ?_⟩
    rw [hp us ts (visible.suffix suffix) (closes.of_suffix suffix'), if_pos holds, same closes]
  · rename_i fails
    obtain ⟨suffix', same⟩ := hy us ss ts visible suffix a rest h
    refine ⟨suffix', fun closes => ?_⟩
    rw [hp us ts (visible.suffix suffix) (closes.of_suffix suffix'), if_neg fails, same closes]

end Follows

theorem Peeks.local {f : List Token → Option (α × List Token)} (hf : Peeks f) :
    Local (reading f) := by
  intro us ss ts visible suffix a rest (found : f ts = some (a, rest))
  obtain ⟨front, same⟩ := hf us ts (visible.suffix suffix)
  refine ⟨front a rest found, fun closes => ?_⟩
  show f (ts ++ us) = _
  rw [same (closes.of_suffix (front a rest found)), found]
  rfl

theorem Peeks.local_set {f : List Token → Option (α × List Token)} {r y : List Token → Reader β}
    {x : α → Reader β} (hf : Peeks f)
    (taken : ∀ ts a rest, f ts = some (a, rest) → r ts = do
      set rest
      x a)
    (refused : ∀ ts, f ts = none → r ts = y ts) (hx : ∀ a, Local (x a)) (hy : Follows y) :
    Local (get >>= r) := by
  intro us ss ts visible' shorter b rest (h : r ts ts = some (b, rest))
  have visible := visible'.suffix shorter
  obtain ⟨front, more⟩ := hf us ts visible
  cases found : f ts with
  | none =>
    rw [refused ts found] at h
    obtain ⟨suffix, same⟩ := hy us ts ts visible List.suffix_rfl b rest h
    refine ⟨suffix, fun closes => ?_⟩
    show r (ts ++ us) (ts ++ us) = _
    rw [refused _ (by rw [more (closes.of_suffix suffix), found]; rfl)]
    exact same closes
  | some p =>
    rw [taken ts p.1 p.2 found] at h
    have suffix := front p.1 p.2 found
    obtain ⟨suffix', same⟩ := hx p.1 us ts p.2 visible suffix b rest h
    refine ⟨suffix'.trans suffix, fun closes => ?_⟩
    show r (ts ++ us) (ts ++ us) = _
    rw [taken _ p.1 (p.2 ++ us)
      (by rw [more (closes.of_suffix (suffix'.trans suffix)), found]; rfl)]
    exact same closes

theorem local_within (content : List Token) (r : Reader α) : Local (within content r) := by
  intro us ss ts _ _ a rest h
  simp only [within, run_reading, Option.bind_eq_some_iff] at h ⊢
  obtain ⟨s, inside, h⟩ := h
  split at h
  · rename_i spent
    cases h
    exact ⟨List.suffix_rfl, fun _ => ⟨s, inside, if_pos spent⟩⟩
  · cases h

/-! ## Readers of tokens -/

theorem local_mark (m : String) (plain : extendsAngle m = false) : Local (mark m) := by
  have read := (peeks_mark plain).map fun _ => operatorTokens m.toList
  simp only [Option.map_map] at read
  exact read.local

theorem local_word (w : String) : Local (word w) :=
  ((peeks_identAt.filter fun i => i = .plain w).map fun i => [Token.ident i]).local

theorem local_anyIdent : Local anyIdent :=
  peeks_identAt.local

theorem local_name : Local name :=
  (peeks_identAt.filter isName).local

theorem local_nameToken : Local nameToken :=
  local_name.bind fun _ => .pure _

theorem local_identToken : Local identToken :=
  local_anyIdent.bind fun _ => .pure _

theorem local_lifetime : Local lifetime :=
  (peeks_lifetimeAt.map fun i => [Token.punct '\'' .joint, Token.ident i]).local

theorem local_value : Local value :=
  peeks_valueAt.local

theorem local_stringLiteral : Local stringLiteral :=
  ((peeks_literalAt.filter fun text => (Text.Quoted.value? text.toList).isSome).map fun text =>
    [Token.literal text]).local

theorem local_groupContent (d : Delimiter) : Local (groupContent d) :=
  (peeks_groupAt d).local

theorem local_grouped (d : Delimiter) (r : Reader (List Token)) : Local (grouped d r) :=
  (local_groupContent d).bind fun content => (local_within content r).bind fun _ => .pure _

/-! ## Sequences and repetitions -/

section

variable {r : Reader (List Token)} {p : List Token → Bool}

theorem local_whenAt (hp : Stable p) (hr : Local r) : Local (whenAt p r) :=
  .get (.ite hp hr (.pure _))

theorem local_append {r' : Reader (List Token)} (hr : Local r) (hr' : Local r') :
    Local (do return (← r) ++ (← r')) :=
  hr.bind fun _ => hr'.bind fun _ => .pure _

theorem local_inOrder_nil : Local (inOrder []) :=
  .pure _

theorem local_inOrder_cons {rs : List (Reader (List Token))} (hr : Local r)
    (hrs : Local (inOrder rs)) : Local (inOrder (r :: rs)) :=
  local_append hr hrs

theorem local_until {stop : List Token → Bool} (hp : Stable stop) (hr : Local r) (n : Nat) :
    Local (until? stop r n) := by
  induction n with
  | zero => exact .failure
  | succ n ih =>
    exact .get (.ite hp (.pure _) (local_append hr ih))

theorem local_listUntil {stop : List Token → Bool} {element : Reader α}
    {separator : Reader (List Token)} (hp : Stable stop) (he : Local element)
    (hs : Local separator) (n : Nat) : Local (listUntil stop element separator n) := by
  induction n with
  | zero => exact .failure
  | succ n ih =>
    exact .get (.ite hp (.pure _) (he.bind fun _ =>
      .get (.ite hp (.pure _) (hs.bind fun _ => ih.bind fun _ => .pure _))))

theorem local_joined {stop : List Token → Bool} {element : Reader (List Token)} (hp : Stable stop)
    (he : Local element) (separator : String) (plain : extendsAngle separator = false) (n : Nat) :
    Local (joined stop element separator n) := by
  induction n with
  | zero => exact .failure
  | succ n ih =>
    exact .get (.ite hp (.pure _) (he.bind fun _ =>
      .get (.ite (stable_atMark separator plain)
        ((local_mark separator plain).bind fun _ => ih.bind fun _ => .pure _) (.pure _))))

theorem local_maybeMark (m : String) (plain : extendsAngle m = false) : Local (maybeMark m) :=
  local_whenAt (stable_atMark m plain) (local_mark m plain)

theorem local_maybeWord (w : String) : Local (maybeWord w) :=
  local_whenAt (stable_atWord w) (local_word w)

theorem local_maybeLifetime : Local maybeLifetime :=
  local_whenAt stable_atLifetime local_lifetime

end

/-! ## Tokens kept as they stand -/

theorem between_of_le {ts : List Token} {w : Nat} (h : totalWeight ts ≤ w) : between ts w = [] := by
  cases ts with
  | nil => rw [between]
  | cons t ts =>
    rw [between.eq_def]
    simp only [if_pos h]

theorem between_append {front : List Token} (visible : Visible front) (rest : List Token) :
    between (front ++ rest) (totalWeight rest) = front := by
  induction front with
  | nil => exact between_of_le (Nat.le_refl _)
  | cons t front ih =>
    have := t.weight_pos
    rw [List.cons_append, between, if_neg (by simp; omega), if_neg (by simp), ih visible.tail]
    rintro content rfl
    exact visible content List.mem_cons_self

theorem between_suffix {ts rest us : List Token} (visible : Visible ts) (suffix : rest <:+ ts) :
    between (ts ++ us) (totalWeight (rest ++ us)) = between ts (totalWeight rest) := by
  obtain ⟨front, rfl⟩ := suffix
  have visible' : Visible front := fun content mem =>
    visible content (List.mem_append_left _ mem)
  rw [List.append_assoc, between_append visible', between_append visible']

theorem local_verbatim {r : Reader Unit} (h : Local r) : Local (verbatim r) := by
  intro us ss ts visible' shorter a rest read
  have visible := visible'.suffix shorter
  simp only [verbatim, run_bind, run_get, Option.bind_some, run_pure, Option.bind_eq_some_iff]
    at read ⊢
  obtain ⟨⟨u, rest'⟩, inside, eq⟩ := read
  cases eq
  obtain ⟨suffix, same⟩ := h us ss ts visible' shorter u rest' inside
  refine ⟨suffix, fun closes => ⟨(u, rest' ++ us), same closes, ?_⟩⟩
  rw [between_suffix visible suffix]

theorem follows_finish {r : List Token → Reader Reading} (h : Follows r) :
    Follows fun ts => finish ts (r ts) := by
  intro us ss ts visible shorter a rest read
  simp only [finish, run_bind, run_ite, run_get, run_pure, Option.bind_some,
    Option.bind_eq_some_iff] at read ⊢
  obtain ⟨⟨b, rest'⟩, inside, eq⟩ := read
  obtain ⟨suffix, same⟩ := h us ss ts visible shorter b rest' inside
  split at eq
  · rename_i kept
    cases eq
    refine ⟨suffix, fun closes => ⟨(b, rest' ++ us), same closes, ?_⟩⟩
    rw [if_pos kept, between_suffix visible (suffix.trans shorter)]
  · rename_i written
    cases eq
    exact ⟨suffix, fun closes => ⟨(b, rest' ++ us), same closes, if_neg written⟩⟩

end FontAccessors.Grammar
