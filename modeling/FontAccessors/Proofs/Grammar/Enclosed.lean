import FontAccessors.Grammar.Attribute
import FontAccessors.Proofs.Grammar.Passed

namespace FontAccessors.Grammar
open Token

/-! ## Tokens -/

def Balanced (inside : Bool) (ts : List Token) : Prop :=
  Enclosed inside (exposed ts)

namespace Balanced

variable {inside : Bool} {ss ts : List Token}

theorem nil : Balanced inside [] :=
  Enclosed.nil

theorem append (hs : Balanced inside ss) (ht : Balanced inside ts) :
    Balanced inside (ss ++ ts) := by
  rw [Balanced, exposed_append]
  exact Enclosed.append hs ht

theorem inner (h : Balanced false ts) (inside : Bool) : Balanced inside ts :=
  Enclosed.inner h inside

theorem token {t : Token} (visible : ∀ content, t ≠ .group .invisible content)
    (plain : isPlain inside t = true) : Balanced inside [t] := by
  rw [Balanced, exposed_cons, expose_visible visible]
  exact Enclosed.singleton plain

theorem ident (i : Ident) : Balanced inside [.ident i] :=
  token (by simp) rfl

theorem group {d : Delimiter} (visible : d ≠ .invisible) (content : List Token) :
    Balanced inside [.group d content] :=
  token (by rintro _ ⟨⟩; exact visible rfl) rfl

theorem cons {t : Token} (ht : Balanced inside [t]) (hs : Balanced inside ts) :
    Balanced inside (t :: ts) :=
  append ht hs

theorem lifetime (i : Ident) : Balanced inside [.punct '\'' .joint, .ident i] :=
  cons (token (by simp) rfl) (ident i)

theorem flatMap {α : Type} {f : α → List Token} {l : List α}
    (h : ∀ a ∈ l, Balanced inside (f a)) : Balanced inside (l.flatMap f) := by
  induction l with
  | nil => exact nil
  | cons a l ih =>
    exact append (h a List.mem_cons_self) (ih fun b mem => h b (List.mem_cons_of_mem a mem))

theorem angled (h : Balanced true ts) :
    Balanced inside (operator "<" ++ ts ++ operator ">") := by
  rw [Balanced, exposed_append, exposed_append]
  exact Enclosed.angled h .alone .alone

end Balanced

/-! ## Operators -/

def isPlainOperator (inside : Bool) (m : String) : Bool :=
  m.toList.all (isPlainMark inside)

theorem exposed_spaced (s : Spacing) (cs : List Char) : exposed (spaced s cs) = spaced s cs := by
  induction cs with
  | nil => rfl
  | cons c cs ih =>
    cases cs with
    | nil => rfl
    | cons d cs =>
      show exposed (.punct c .joint :: spaced s (d :: cs)) = .punct c .joint :: spaced s (d :: cs)
      rw [exposed_cons, ih]
      rfl

theorem enclosed_spaced {inside : Bool} {m : String} (plain : isPlainOperator inside m = true)
    (s : Spacing) : Enclosed inside (spaced s m.toList) := by
  rw [isPlainOperator] at plain
  generalize m.toList = cs at plain
  induction cs with
  | nil => exact .nil
  | cons c cs ih =>
    rw [List.all_cons, Bool.and_eq_true] at plain
    cases cs with
    | nil => exact .singleton plain.1
    | cons d cs => exact (Enclosed.singleton (t := .punct c .joint) plain.1).append (ih plain.2)

theorem operator_eq (m : String) : operator m = spaced .alone m.toList :=
  operatorTokens_eq m.toList

theorem balanced_operator {inside : Bool} {m : String} (plain : isPlainOperator inside m = true) :
    Balanced inside (operator m) := by
  rw [Balanced, operator_eq, exposed_spaced]
  exact enclosed_spaced plain .alone

theorem mark_passes {m : String} {ts out rest : List Token} (h : mark m ts = some (out, rest)) :
    out = operator m ∧ ∃ s, Passes ts (spaced s m.toList) rest := by
  refine ⟨mark_ok h, ?_⟩
  obtain ⟨after, found, eq⟩ := Option.map_eq_some_iff.1 h
  cases eq
  exact operatorAt_passes found

/-! ## Positions -/

def Spans (inside : Bool) (ts rest : List Token) : Prop :=
  ∃ taken, Passes ts taken rest ∧ Enclosed inside taken

namespace Spans

variable {inside : Bool} {ts middle rest : List Token}

theorem refl (ts : List Token) : Spans inside ts ts :=
  ⟨[], .refl ts, .nil⟩

theorem trans (h : Spans inside ts middle) (h' : Spans inside middle rest) :
    Spans inside ts rest := by
  obtain ⟨taken, passes, enclosed⟩ := h
  obtain ⟨taken', passes', enclosed'⟩ := h'
  exact ⟨taken ++ taken', passes.trans passes', enclosed.append enclosed'⟩

theorem inner (h : Spans false ts rest) (inside : Bool) : Spans inside ts rest :=
  h.imp fun _ span => ⟨span.1, span.2.inner inside⟩

theorem token {t : Token} (passes : Passes ts [t] rest) (plain : isPlain inside t = true) :
    Spans inside ts rest :=
  ⟨[t], passes, .singleton plain⟩

theorem between (h : Spans inside ts rest) : Balanced inside (between ts (totalWeight rest)) := by
  obtain ⟨taken, passes, enclosed⟩ := h
  rw [Balanced, exposed_between passes]
  exact enclosed

theorem angled {opening closing out out' : List Token}
    (opens : mark "<" ts = some (out, opening)) (h : Spans true opening closing)
    (closes : mark ">" closing = some (out', rest)) : Spans inside ts rest := by
  obtain ⟨s, before⟩ := (mark_passes opens).2
  obtain ⟨taken, passes, enclosed⟩ := h
  obtain ⟨s', behind⟩ := (mark_passes closes).2
  exact ⟨_, (before.trans passes).trans behind, enclosed.angled s s'⟩

end Spans

/-! ## Readers -/

variable {α β : Type}

def EnclosesAt (inside : Bool) (P : α → Prop) (r : Reader α) (ts : List Token) : Prop :=
  ∀ a rest, r ts = some (a, rest) → Spans inside ts rest ∧ P a

def Encloses (inside : Bool) (P : α → Prop) (r : Reader α) : Prop :=
  ∀ ts, EnclosesAt inside P r ts

variable {inside : Bool} {P : α → Prop} {Q : β → Prop}

theorem EnclosesAt.ite {x y : Reader α} {ts : List Token} {c : Prop} [Decidable c]
    (hx : EnclosesAt inside P x ts) (hy : EnclosesAt inside P y ts) :
    EnclosesAt inside P (if c then x else y) ts := by
  split
  · exact hx
  · exact hy

namespace Encloses

variable {x y : Reader α}

theorem here (h : Encloses inside P x) {ts : List Token} : EnclosesAt inside P x ts :=
  h ts

theorem pure {a : α} (h : P a) : Encloses inside P (pure a) := by
  intro ts b rest read
  cases read
  exact ⟨.refl ts, h⟩

theorem failure : Encloses inside P (failure : Reader α) :=
  fun _ _ _ read => nomatch read

theorem failure_bind {f : α → Reader β} : Encloses inside Q (Alternative.failure >>= f) :=
  fun _ _ _ read => nomatch read

theorem bind {f : α → Reader β} (hx : Encloses inside P x)
    (hf : ∀ a, P a → Encloses inside Q (f a)) : Encloses inside Q (x >>= f) := by
  intro ts b rest read
  obtain ⟨⟨a, middle⟩, first, last⟩ := Option.bind_eq_some_iff.1 read
  obtain ⟨span, holds⟩ := hx ts a middle first
  obtain ⟨span', holds'⟩ := hf a holds middle b rest last
  exact ⟨span.trans span', holds'⟩

theorem get {f : List Token → Reader α} (h : ∀ ts, Encloses inside P (f ts)) :
    Encloses inside P (get >>= f) :=
  fun ts => h ts ts

theorem get_here {f : List Token → Reader α} (h : ∀ ts, EnclosesAt inside P (f ts) ts) :
    Encloses inside P (MonadState.get >>= f) :=
  h

theorem ite {c : Prop} [Decidable c] (hx : Encloses inside P x) (hy : Encloses inside P y) :
    Encloses inside P (if c then x else y) := by
  split
  · exact hx
  · exact hy

theorem imp {R : α → Prop} (h : Encloses inside P x) (weaker : ∀ a, P a → R a) :
    Encloses inside R x :=
  fun ts a rest read => (h ts a rest read).imp_right (weaker a)

theorem inner (h : Encloses false P x) (inside : Bool) : Encloses inside P x :=
  fun ts a rest read => (h ts a rest read).imp_left (·.inner inside)

theorem map {f : α → β} (hx : Encloses inside P x) (hf : ∀ a, P a → Q (f a)) :
    Encloses inside Q (do return f (← x)) :=
  hx.bind fun a holds => .pure (hf a holds)

theorem angled {f : α → β} (hx : Encloses true P x) (hf : ∀ a, P a → Q (f a)) :
    Encloses inside Q (do
      let _ ← mark "<"
      let a ← x
      let _ ← mark ">"
      return f a) := by
  intro ts b rest read
  simp only [run_bind, run_pure, Option.bind_eq_some_iff] at read
  obtain ⟨⟨_, opening⟩, opens, ⟨a, closing⟩, list, ⟨_, _⟩, closes, eq⟩ := read
  cases eq
  obtain ⟨span, holds⟩ := hx opening a closing list
  exact ⟨.angled opens span closes, hf a holds⟩

end Encloses

/-! ## Single tokens -/

section

theorem encloses_token {f : List Token → Option (α × List Token)} {token : α → Token}
    (passes : ∀ ts a rest, f ts = some (a, rest) → Passes ts [token a] rest)
    (plain : ∀ a, isPlain inside (token a) = true)
    (holds : ∀ ts a rest, f ts = some (a, rest) → P a) :
    Encloses inside P (reading f) :=
  fun ts a rest read => ⟨.token (passes ts a rest read) (plain a), holds ts a rest read⟩

theorem encloses_anyIdent : Encloses inside (fun _ => True) anyIdent :=
  encloses_token (fun _ _ _ => identAt_passes) (fun _ => rfl) fun _ _ _ _ => trivial

theorem encloses_name : Encloses inside (fun i => isName i = true) name := by
  intro ts i rest read
  obtain ⟨found, named⟩ := Option.filter_eq_some_iff.1 read
  exact ⟨.token (identAt_passes found) rfl, named⟩

theorem encloses_nameToken : Encloses inside (Balanced inside) nameToken :=
  encloses_name.map fun i _ => .ident i

theorem encloses_identToken : Encloses inside (Balanced inside) identToken :=
  encloses_anyIdent.map fun i _ => .ident i

theorem encloses_word (w : String) : Encloses inside (Balanced inside) (word w) := by
  intro ts out rest read
  obtain ⟨⟨i, after⟩, found, eq⟩ := Option.map_eq_some_iff.1 read
  cases eq
  exact ⟨.token (identAt_passes (Option.filter_eq_some_iff.1 found).1) rfl, .ident i⟩

theorem encloses_mark {m : String} (plain : isPlainOperator inside m = true) :
    Encloses inside (· = operator m) (mark m) := by
  intro ts out rest read
  obtain ⟨same, s, passes⟩ := mark_passes read
  exact ⟨⟨_, passes, enclosed_spaced plain s⟩, same⟩

theorem encloses_markTokens {m : String} (plain : isPlainOperator inside m = true) :
    Encloses inside (Balanced inside) (mark m) :=
  (encloses_mark plain).imp fun _ same => same ▸ balanced_operator plain

theorem encloses_arrow : Encloses inside (Balanced inside) (mark "->") := by
  intro ts out rest read
  obtain ⟨rfl, s, passes⟩ := mark_passes read
  exact ⟨⟨_, passes, .arrow s⟩, Enclosed.arrow .alone⟩

theorem encloses_lifetime : Encloses inside (Balanced inside) lifetime := by
  intro ts out rest read
  obtain ⟨⟨i, after⟩, found, eq⟩ := Option.map_eq_some_iff.1 read
  cases eq
  exact ⟨⟨_, lifetimeAt_passes found, Balanced.lifetime i⟩, .lifetime i⟩

theorem encloses_stringLiteral : Encloses inside (Balanced inside) stringLiteral := by
  intro ts out rest read
  obtain ⟨⟨text, after⟩, found, eq⟩ := Option.map_eq_some_iff.1 read
  cases eq
  exact ⟨.token (literalAt_passes (Option.filter_eq_some_iff.1 found).1) rfl,
    .token (by simp) rfl⟩

theorem encloses_value : Encloses inside (Balanced inside) value := by
  intro ts out rest read
  change valueAt? ts = some (out, rest) at read
  rw [valueAt?] at read
  split at read
  · rename_i front
    cases read
    exact ⟨.token (.of_front (by simp) front) rfl, .token (by simp) rfl⟩
  · rename_i front
    split at read
    · cases read
      exact ⟨.token (.of_front (by simp) front) rfl, .ident _⟩
    · cases read
  · rename_i front
    obtain ⟨⟨text, after⟩, found, number⟩ := Option.bind_eq_some_iff.1 read
    split at number
    · cases number
      have passes : Passes (enter ts) _ after :=
        front ▸ Passes.token (by simp) (literalAt_passes found)
      exact ⟨⟨_, passes.of_enter, .negated _ text⟩, Enclosed.negated .alone text⟩
    · cases number
  · cases read

end

/-! ## Groups -/

section

variable {d : Delimiter}

theorem encloses_groupContent (visible : d ≠ .invisible) :
    Encloses inside (fun _ => True) (groupContent d) :=
  encloses_token (fun _ _ _ => groupAt_passes visible) (fun _ => rfl) fun _ _ _ _ => trivial

theorem encloses_within (content : List Token) (r : Reader α) :
    Encloses inside (fun _ => True) (within content r) := by
  intro ts a rest read
  obtain ⟨s, -, spent⟩ := Option.bind_eq_some_iff.1 read
  split at spent
  · cases spent
    exact ⟨.refl ts, trivial⟩
  · cases spent

theorem encloses_invisible {r : Reader α} {f : α → Reader β} (hr : Encloses inside P r)
    (hf : ∀ a, P a → Encloses inside Q (f a)) :
    Encloses inside Q (do
      let content ← invisibleContent
      let a ← within content r
      f a) := by
  intro ts b rest read
  obtain ⟨⟨content, after⟩, front, read⟩ := Option.bind_eq_some_iff.1 read
  obtain ⟨⟨a, after'⟩, group, read⟩ := Option.bind_eq_some_iff.1 read
  obtain ⟨⟨a', last⟩, inner, spent⟩ := Option.bind_eq_some_iff.1 group
  split at spent
  · rename_i isSpent
    cases spent
    obtain ⟨⟨taken, passes, enclosed⟩, holds⟩ := hr content _ last inner
    have whole := (passes.trans (.of_isSpent isSpent)).append after
    rw [List.append_nil, List.nil_append] at whole
    have span : Spans inside ts after := ⟨taken, invisibleAt_eq front ▸ .enter whole, enclosed⟩
    exact (hf _ holds after b rest read).imp_left span.trans
  · cases spent

theorem encloses_grouped (visible : d ≠ .invisible) (r : Reader (List Token)) :
    Encloses inside (∃ content, · = [.group d content]) (grouped d r) :=
  (encloses_groupContent visible).bind fun content _ =>
    (encloses_within content r).map fun ts _ => ⟨ts, rfl⟩

theorem encloses_groupedTokens (visible : d ≠ .invisible) (r : Reader (List Token)) :
    Encloses inside (Balanced inside) (grouped d r) :=
  (encloses_grouped visible r).imp fun _ ⟨content, same⟩ => same ▸ .group visible content

theorem encloses_rawGroup : Encloses inside (fun g => g.1 ≠ .invisible) rawGroup := by
  intro ts g rest read
  rw [rawGroup, run_reading] at read
  split at read
  · split at read
    · cases read
    · rename_i visible
      cases read
      exact ⟨.token (.one (by rintro _ ⟨⟩; exact visible rfl) _) rfl, visible⟩
  · cases read

end

/-! ## Sequences and repetitions -/

section

variable {r r' : Reader (List Token)} {p : List Token → Bool}

theorem encloses_whenAt (hr : Encloses inside (Balanced inside) r) :
    Encloses inside (Balanced inside) (whenAt p r) :=
  .get fun _ => .ite hr (.pure .nil)

theorem encloses_append (hr : Encloses inside (Balanced inside) r)
    (hr' : Encloses inside (Balanced inside) r') :
    Encloses inside (Balanced inside) (do return (← r) ++ (← r')) :=
  hr.bind fun _ first => hr'.map fun _ last => first.append last

theorem encloses_inOrder_nil : Encloses inside (Balanced inside) (inOrder []) :=
  .pure .nil

theorem encloses_inOrder_cons {rs : List (Reader (List Token))}
    (hr : Encloses inside (Balanced inside) r)
    (hrs : Encloses inside (Balanced inside) (inOrder rs)) :
    Encloses inside (Balanced inside) (inOrder (r :: rs)) :=
  encloses_append hr hrs

theorem encloses_maybeMark {m : String} (plain : isPlainOperator inside m = true) :
    Encloses inside (Balanced inside) (maybeMark m) :=
  encloses_whenAt (encloses_markTokens plain)

theorem encloses_maybeWord (w : String) : Encloses inside (Balanced inside) (maybeWord w) :=
  encloses_whenAt (encloses_word w)

theorem encloses_maybeLifetime : Encloses inside (Balanced inside) maybeLifetime :=
  encloses_whenAt encloses_lifetime

theorem encloses_until {stop : List Token → Bool} {P : List Token → Prop} (nil : P [])
    (append : ∀ ss ts, P ss → P ts → P (ss ++ ts)) (hr : Encloses inside P r) (n : Nat) :
    Encloses inside P (until? stop r n) := by
  induction n with
  | zero => exact .failure
  | succ n ih =>
    exact .get fun _ => .ite (.pure nil) <| hr.bind fun _ first => ih.map fun _ more =>
      append _ _ first more

theorem encloses_joined {stop : List Token → Bool} {element : Reader (List Token)}
    {separator : String} (plain : isPlainOperator inside separator = true)
    (he : Encloses inside (Balanced inside) element) (n : Nat) :
    Encloses inside (Balanced inside) (joined stop element separator n) := by
  induction n with
  | zero => exact .failure
  | succ n ih =>
    exact .get fun _ => .ite (.pure .nil) <| he.bind fun _ first => .get fun _ =>
      .ite ((encloses_markTokens plain).bind fun _ sign => ih.map fun _ more =>
        (first.append sign).append more) (.pure first)

structure Listed (P : α → Prop) (separator : String) (l : List (α × List Token)) : Prop where
  elements : ∀ p ∈ l, P p.1
  separators : ∀ p ∈ l, p.2 = [] ∨ p.2 = operator separator
  followed : l.Pairwise fun p _ => p.2 = operator separator

namespace Listed

variable {m : String} {a : α} {s : List Token} {l : List (α × List Token)}

theorem nil : Listed P m [] :=
  ⟨nofun, nofun, .nil⟩

theorem singleton (holds : P a) (behind : s = [] ∨ s = operator m) : Listed P m [(a, s)] :=
  ⟨by simpa using holds, by simpa using behind, List.pairwise_singleton _ _⟩

theorem cons (holds : P a) (sign : s = operator m) (listed : Listed P m l) :
    Listed P m ((a, s) :: l) :=
  ⟨List.forall_mem_cons.2 ⟨holds, listed.elements⟩,
    List.forall_mem_cons.2 ⟨.inr sign, listed.separators⟩,
    List.pairwise_cons.2 ⟨fun _ _ => sign, listed.followed⟩⟩

end Listed

theorem encloses_listUntil {stop : List Token → Bool} {element : Reader α} {separator : String}
    (plain : isPlainOperator inside separator = true) (he : Encloses inside P element) (n : Nat) :
    Encloses inside (Listed P separator) (listUntil stop element (mark separator) n) := by
  induction n with
  | zero => exact .failure
  | succ n ih =>
    exact .get fun _ => .ite (.pure .nil) <| he.bind fun a holds => .get fun _ =>
      .ite (.pure (.singleton holds (.inl rfl))) <| (encloses_mark plain).bind fun s sign =>
        ih.map fun l listed => listed.cons holds sign

theorem Listed.separator {l : List (α × List Token)} {m : String} (h : Listed P m l)
    (plain : isPlainOperator inside m = true) {p : α × List Token} (mem : p ∈ l) :
    Balanced inside p.2 := by
  rcases h.separators p mem with none | sign
  · exact none ▸ .nil
  · exact sign ▸ balanced_operator plain

theorem Listed.balanced_writeList {l : List (List Token × List Token)} {m : String}
    (h : Listed (Balanced inside) m l) (plain : isPlainOperator inside m = true) :
    Balanced inside (writeList l) :=
  .flatMap fun p mem => (h.elements p mem).append (h.separator plain mem)

end

/-! ## Tokens kept as they stand -/

theorem encloses_verbatim {r : Reader Unit} (hr : Encloses inside (fun _ => True) r) :
    Encloses inside (Balanced inside) (verbatim r) := by
  intro ts out rest read
  simp only [verbatim, run_bind, run_get, Option.bind_some, run_pure, Option.bind_eq_some_iff]
    at read
  obtain ⟨⟨u, after⟩, first, eq⟩ := read
  cases eq
  have span := (hr ts u after first).1
  exact ⟨span, span.between⟩

theorem finish_spans {start ts out rest : List Token} {r : Reader Reading}
    (hr : Encloses inside (fun a => Balanced inside a.tokens) r) (before : Spans inside start ts)
    (read : finish start r ts = some (out, rest)) :
    Spans inside start rest ∧ Balanced inside out := by
  simp only [finish, run_bind, run_ite, run_get, run_pure, Option.bind_some,
    Option.bind_eq_some_iff] at read
  obtain ⟨⟨a, after⟩, first, eq⟩ := read
  obtain ⟨behind, balanced⟩ := hr ts a after first
  have span := before.trans behind
  split at eq
  · cases eq
    exact ⟨span, span.between⟩
  · cases eq
    exact ⟨span, balanced⟩

theorem encloses_finish {ts : List Token} {r : Reader Reading}
    (hr : Encloses inside (fun a => Balanced inside a.tokens) r) :
    EnclosesAt inside (Balanced inside) (finish ts r) ts :=
  fun _ _ read => finish_spans hr (.refl ts) read

end FontAccessors.Grammar
