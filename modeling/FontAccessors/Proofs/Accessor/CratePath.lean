import FontAccessors.Accessor.Module
import FontAccessors.Proofs.Grammar.Spliced
import FontAccessors.Proofs.Token.Groups

/-!
# The path of the crate in generated code

Generated code puts the names of items behind the path of the crate, in types and in expressions.
The path was read as a type reads one. Where it has arguments without a turbofish, no expression
reads it; where it begins with `try`, no type does.

* `runtime_spliced`: every text is refused, or a path that is read at these places exactly where
  `Spliced` says.
-/

namespace FontAccessors
open Grammar Token

namespace Token

theorem visible_of_lex {text : String} {ts : List Token} (h : lex text = some ts) :
    Visible ts := by
  intro content mem
  obtain ⟨before, after, rfl⟩ := List.append_of_mem mem
  have written := isWritten_lexChars h (.opening .invisible) (by simp [flat])
  cases written

end Token

namespace Grammar

theorem tokens_followedBy {p : Path} (nonempty : p.segments ≠ []) (is : List Ident) :
    (p.followedBy is).tokens = p.tokens ++ moreTokens is := by
  obtain ⟨s, ss, eq⟩ := List.exists_cons_of_ne_nil nonempty
  simp only [Path.tokens, Path.followedBy, eq, List.cons_append, segmentTokens_cons,
    List.flatMap_append, moreTokens_eq, List.append_assoc]

theorem visible_ofNames (isRooted : Bool) (i : Ident) (is : List Ident) :
    Visible (Path.ofNames isRooted i is).tokens := by
  rw [tokens_ofNames]
  intro content mem
  cases isRooted <;> simp [moreTokens, operator, operatorTokens] at mem

theorem ofTokens_tokens {p : Path} (well : p.WellFormed) (names : p.isModule = true) :
    Path.ofTokens? p.tokens = some p ∧ Visible p.tokens := by
  have bare : ∀ s ∈ p.segments, Segment.mk s.name .none = s := fun s mem => by
    obtain ⟨i, a⟩ := s
    have isNone : a.isNone = true := List.all_eq_true.1 names _ mem
    cases a with
    | none => rfl
    | angle | parenthesis => cases isNone
  obtain ⟨s, ss, eq⟩ := List.exists_cons_of_ne_nil well.nonempty
  have same : p = .ofNames p.isRooted s.name (ss.map (·.name)) := by
    obtain ⟨qualifier, isRooted, segments⟩ := p
    obtain rfl : qualifier = [] := well.unqualified
    obtain rfl : segments = s :: ss := eq
    have all : (s :: ss).map (fun s => Segment.mk s.name .none) = s :: ss :=
      (List.map_congr_left bare).trans (List.map_id _)
    rw [Path.ofNames, ← List.map_cons (f := Segment.name), List.map_map]
    exact congrArg _ all.symm
  rw [same]
  refine ⟨ofTokens_ofNames fun j mem => ?_, visible_ofNames _ _ _⟩
  rw [← List.map_cons (f := Segment.name), ← eq] at mem
  obtain ⟨s', mem', rfl⟩ := List.mem_map.1 mem
  exact well.names s' mem'

end Grammar

namespace Settings

/-- A text is refused, or it is a path. With the names of items behind them its tokens are that path
in types unless it begins with `try`, in expressions if its arguments come after a turbofish, and
not otherwise. The tokens that it is written as are it nowhere else, and for a path of names they
are it there too. -/
theorem runtime_spliced (s : Settings) (text : String) :
    (∃ ts p, lex text = some ts ∧ (s.withCratePath text).runtime = .ok p ∧
      Module.checkPath text = .ok () ∧ p.WellFormed ∧
      (∀ is, (p.followedBy is).tokens = p.tokens ++ moreTokens is) ∧
      Spliced ts p ∧ Confined p.tokens p ∧ (p.isModule = true → Spliced p.tokens p)) ∨
    (Path.ofText? text = .none ∧ (s.withCratePath text).runtime = .error (.invalidCratePath text) ∧
      Module.checkPath text = .error (.invalidCratePath text)) := by
  cases accepted : Path.ofText? text with
  | none => exact .inr ⟨rfl, by simp [runtime, withCratePath, accepted],
      by simp [Module.checkPath, accepted]⟩
  | some p =>
    obtain ⟨ts, lexed, read⟩ := Option.bind_eq_some_iff.1 accepted
    have visible := visible_of_lex lexed
    have well := path_wellFormed (ofTokens_some visible read)
    refine .inl ⟨ts, p, lexed, by simp [runtime, withCratePath, accepted],
      by simp [Module.checkPath, accepted], well, tokens_followedBy well.nonempty,
      spliced_of_read visible read, confined_of_begun (begun_of_tokens well), fun names => ?_⟩
    obtain ⟨again, shown⟩ := ofTokens_tokens well names
    exact spliced_of_read shown again

example : ["a<b>", "a::<b>::c", "try::a"].map
    (fun text => (Path.ofText? text).map fun p => (p.fitsExpr, p.startsAtTry)) =
      [some (false, false), some (true, false), some (true, true)] := by
  decide +kernel

end Settings

end FontAccessors
