import FontAccessors.Proofs.Grammar.EnclosedTypes
import FontAccessors.Proofs.Grammar.Item

namespace FontAccessors.Grammar
open Token

def Entry.IsSeparated (e : Entry) : Prop :=
  e.separator = operator ","

structure Separated (entries : List Entry) : Prop where
  separators : ∀ e ∈ entries, e.separator = [] ∨ e.IsSeparated
  followed : entries.Pairwise fun e _ => e.IsSeparated

namespace Separated

variable {e : Entry} {ls os : List Entry}

theorem filter (h : Separated ls) (p : Entry → Bool) : Separated (ls.filter p) :=
  ⟨fun e mem => h.separators e (List.mem_filter.1 mem).1, h.followed.filter p⟩

theorem append (hl : Separated ls) (ends : ∀ e ∈ ls, e.IsSeparated) (ho : Separated os) :
    Separated (ls ++ os) :=
  ⟨List.forall_mem_append.2 ⟨hl.separators, ho.separators⟩,
    List.pairwise_append.2 ⟨hl.followed, ho.followed, fun e mem _ _ => ends e mem⟩⟩

theorem dropLast (h : Separated (ls ++ [e])) :
    Separated ls ∧ ∀ d ∈ ls, d.IsSeparated := by
  obtain ⟨followed, -, ends⟩ := List.pairwise_append.1 h.followed
  exact ⟨⟨fun d mem => h.separators d (List.mem_append_left _ mem), followed⟩,
    fun d mem => ends d mem e List.mem_cons_self⟩

end Separated

theorem lifetimesFirst_eq {entries : List Entry} (h : Separated entries) :
    ∃ l, Separated l ∧ lifetimesFirst entries = l.flatMap Entry.written ∧
      l.map Entry.tokens =
        (entries.filter (·.isLifetime) ++ entries.filter (!·.isLifetime)).map Entry.tokens := by
  have separated := h.filter (·.isLifetime)
  have separated' := h.filter (!·.isLifetime)
  rw [lifetimesFirst]
  generalize entries.filter (·.isLifetime) = ls at separated
  generalize entries.filter (!·.isLifetime) = os at separated'
  rcases List.eq_nil_or_concat ls with rfl | ⟨ls, e, rfl⟩
  · exact ⟨os, separated', by simp, rfl⟩
  rw [List.concat_eq_append] at separated ⊢
  obtain ⟨before, ends⟩ := separated.dropLast
  have closed {d : Entry} (comma : d.IsSeparated) : ∀ x ∈ ls ++ [d], x.IsSeparated :=
    List.forall_mem_append.2 ⟨ends, by simpa using comma⟩
  rcases separated.separators e (by simp) with none | comma
  · -- Without a comma it was the last element of all, and becomes one in the middle.
    by_cases alone : os = []
    · subst alone
      exact ⟨ls ++ [e], separated, by simp, by simp⟩
    · have comma : Entry.IsSeparated { e with separator := operator "," } := rfl
      have last : Separated [{ e with separator := operator "," }] :=
        ⟨by simpa using .inr comma, List.pairwise_singleton _ _⟩
      refine ⟨_, (before.append ends last).append (closed comma) separated', ?_, by simp⟩
      simp [Entry.written, none, alone]
  · have given : e.separator.isEmpty = false := by rw [comma]; rfl
    exact ⟨_, separated.append (closed comma) separated', by simp [given], by simp⟩

section

variable {l : List Entry}

theorem expose_separator {e : Entry} (h : e.IsSeparated) :
    exposed e.separator = [.punct ',' .alone] := by
  rw [h]
  rfl

theorem elementsFrom_entries (separated : Separated l)
    (elements : ∀ e ∈ l, IsElement (exposed e.tokens) ∧ exposed e.tokens ≠ []) (s : Spacing) :
    elementsFrom .outermost [] (exposed (l.flatMap Entry.written) ++ [.punct '>' s]) =
      some ((l.map Entry.tokens).map exposed) := by
  induction l with
  | nil => rfl
  | cons e l ih =>
    obtain ⟨⟨element, named⟩, others⟩ := List.forall_mem_cons.1 elements
    obtain ⟨separator, separators⟩ := List.forall_mem_cons.1 separated.separators
    obtain ⟨first, followed⟩ := List.pairwise_cons.1 separated.followed
    rw [List.flatMap_cons, Entry.written, exposed_append, exposed_append, List.append_assoc,
      List.append_assoc, element, List.nil_append]
    rcases separator with none | comma
    · -- Only the last element has no comma behind it.
      cases l with
      | nil => simp [none, elementsFrom, Nesting.isOuter, named]
      | cons e' l =>
        have comma := first e' List.mem_cons_self
        rw [Entry.IsSeparated, none] at comma
        cases comma
    · rw [expose_separator comma, List.singleton_append]
      show (elementsFrom _ _ _).map _ = _
      rw [ih ⟨separators, followed⟩ others]
      rfl

theorem elements_angled (separated : Separated l)
    (elements : ∀ e ∈ l, IsElement (exposed e.tokens) ∧ exposed e.tokens ≠ []) :
    elements? (exposed (angled l)) = some
      (((l.filter (·.isLifetime) ++ l.filter (!·.isLifetime)).map Entry.tokens).map exposed) := by
  obtain ⟨ordered, separated', written, same⟩ := lifetimesFirst_eq separated
  have elements' : ∀ e ∈ ordered, IsElement (exposed e.tokens) ∧ exposed e.tokens ≠ [] := by
    intro e mem
    obtain ⟨e', mem', same'⟩ := List.mem_map.1 (same ▸ List.mem_map_of_mem mem)
    rw [← same']
    refine elements e' ?_
    rcases List.mem_append.1 mem' with mem' | mem' <;> exact (List.mem_filter.1 mem').1
  have list := elementsFrom_entries separated' elements' .alone
  rw [same] at list
  rw [angled, written, exposed_append, exposed_append]
  exact list

end

namespace Parameter

def IsName (ts : List Token) : Prop :=
  ∃ i, ts = [.ident i] ∨ ts = [.punct '\'' .joint, .ident i]

theorem isName_argument (p : Parameter) : IsName p.argument := by
  cases p with
  | lifetime _ name => exact ⟨name, .inr rfl⟩
  | type _ name | const _ name => exact ⟨name, .inl rfl⟩

theorem exposed_argument (p : Parameter) : exposed p.argument = p.argument := by
  cases p <;> rfl

theorem argument_ne_nil (p : Parameter) : exposed p.argument ≠ [] := by
  cases p <;> nofun

theorem isElement_argument (p : Parameter) : IsElement (exposed p.argument) := by
  cases p with
  | lifetime _ name => exact (Balanced.lifetime name).isElement
  | type _ name | const _ name => exact (Balanced.ident name).isElement

namespace IsBalanced

variable {p : Parameter}

theorem isElement_bounded (h : p.IsBalanced) : IsElement (exposed p.bounded) :=
  h.bounded.isElement

theorem isElement_declared (h : p.IsBalanced) : IsElement (exposed p.declared) := by
  rw [Parameter.declared, exposed_append]
  refine h.bounded.isElement.append ?_
  rcases h.default with none | ⟨list, balanced, written⟩
  · rw [none]
    exact Enclosed.nil.isElement
  · rw [written, exposed_append]
    exact (isElement_equals .alone).append balanced.isElement

theorem withoutDefault_declared (h : p.IsBalanced) :
    withoutDefault (exposed p.declared) = exposed p.bounded := by
  rw [Parameter.declared, exposed_append, withoutDefault_enclosed h.bounded]
  rcases h.default with none | ⟨list, -, written⟩
  · simp [none, withoutDefault, withoutDefaultFrom]
  · rw [written, exposed_append]
    exact List.append_nil _

end IsBalanced

theorem parameterName_attributes {ts : List Token} (h : IsAttributes ts) (us : List Token) :
    parameterName (exposed ts ++ us) = parameterName us := by
  obtain ⟨contents, rfl⟩ := h
  induction contents with
  | nil => rfl
  | cons content contents ih =>
    rw [List.flatMap_cons, exposed_append, List.append_assoc]
    exact ih

namespace IsBalanced

variable {p : Parameter}

theorem parameterName_front (h : p.IsBalanced) (us : List Token) :
    parameterName (exposed p.bounded ++ us) = p.argument := by
  cases p with
  | lifetime attributes name bounds =>
    rw [Parameter.bounded, List.append_assoc, exposed_append, List.append_assoc,
      parameterName_attributes h.1]
    rfl
  | type attributes name bounds default =>
    rw [Parameter.bounded, List.append_assoc, exposed_append, List.append_assoc,
      parameterName_attributes h.1]
    exact if_neg h.2.1
  | const attributes name ty default =>
    rw [Parameter.bounded, List.append_assoc, List.append_assoc, exposed_append, List.append_assoc,
      parameterName_attributes h.1]
    exact if_pos rfl

theorem parameterName_bounded (h : p.IsBalanced) :
    parameterName (exposed p.bounded) = p.argument := by
  simpa using h.parameterName_front []

theorem parameterName_declared (h : p.IsBalanced) :
    parameterName (exposed p.declared) = p.argument := by
  rw [Parameter.declared, exposed_append]
  exact h.parameterName_front _

theorem bounded_ne_nil (h : p.IsBalanced) : exposed p.bounded ≠ [] := by
  intro none
  have name := h.parameterName_bounded
  rw [none] at name
  obtain ⟨i, eq | eq⟩ := p.isName_argument <;> cases name.trans eq

theorem declared_ne_nil (h : p.IsBalanced) : exposed p.declared ≠ [] := by
  rw [Parameter.declared, exposed_append]
  exact List.append_ne_nil_of_left_ne_nil h.bounded_ne_nil _

end IsBalanced

end Parameter

def Generics.ordered (g : Generics) : List Parameter :=
  let ps := g.map Prod.fst
  ps.filter (·.isLifetime) ++ ps.filter (!·.isLifetime)

theorem Generics.mem_ordered {g : Generics} {p : Parameter} (h : p ∈ g.ordered) :
    ∃ q ∈ g, q.1 = p := by
  rcases List.mem_append.1 h with h | h <;> exact List.mem_map.1 (List.mem_filter.1 h).1

theorem Generics.eq_nil_of_ordered {g : Generics} (h : g.ordered = []) : g = [] := by
  cases g with
  | nil => rfl
  | cons p g =>
    obtain ⟨others, lifetimes⟩ := List.append_eq_nil_iff.1 h
    cases isLifetime : p.1.isLifetime <;> simp_all

theorem elements_write {g : Generics} (listed : Listed Parameter.IsBalanced "," g)
    {part : Parameter → List Token}
    (elements : ∀ p, p.IsBalanced → IsElement (exposed (part p)) ∧ exposed (part p) ≠ []) :
    elements? (exposed (g.write part)) = some (g.ordered.map fun p => exposed (part p)) := by
  cases g with
  | nil => rfl
  | cons q g =>
    generalize hg : q :: g = ps at listed
    have some : ps.isEmpty = false := by rw [← hg]; rfl
    have separated : Separated (ps.map fun p => ⟨p.1.isLifetime, part p.1, p.2⟩) := by
      refine ⟨?_, List.pairwise_map.2 listed.followed⟩
      exact List.forall_mem_map.2 listed.separators
    rw [Generics.write, some]
    refine (elements_angled separated ?_).trans ?_
    · exact List.forall_mem_map.2 fun p mem => elements p.1 (listed.elements p mem)
    · simp [Generics.ordered, List.filter_map, Function.comp_def]

section

variable {g : Rules} {n : Nat} {ts rest : List Token} {e : Enumeration}

theorem listed_enumeration (h : g.Enclose) {attributes visibility : List Token}
    (read : enumeration g n attributes visibility ts = some (e, rest)) :
    Listed Parameter.IsBalanced "," e.generics := by
  simp only [enumeration, run_bind, Option.bind_eq_some_iff] at read
  obtain ⟨_, -, _, -, ⟨ps, _⟩, list, _, -, _, -, _, -, eq⟩ := read
  cases eq
  have lists : Encloses false (Listed Parameter.IsBalanced ",") (generics g n) :=
    .get fun _ => .ite (encloses_parameterList n h true) (.pure .nil)
  exact (lists _ ps _ list).2

end

theorem listed_generics {item : List Token} {e : Enumeration}
    (read : Item.ofTokens? item = some (.enumeration e)) :
    Listed Parameter.IsBalanced "," e.generics := by
  obtain ⟨_, rule⟩ := itemRule_of_ofTokens read
  obtain ⟨_, _, _, _, -, -, enumeration⟩ := itemRule_some rule
  exact listed_enumeration (rules_enclose _) enumeration

end FontAccessors.Grammar
