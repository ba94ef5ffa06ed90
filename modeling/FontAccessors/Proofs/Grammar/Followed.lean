import FontAccessors.Proofs.Grammar.Argument
import FontAccessors.Proofs.Grammar.Item
import FontAccessors.Proofs.Grammar.LocalTypes
import FontAccessors.Proofs.Grammar.Path

namespace FontAccessors.Grammar
open Token

def Arguments.fitsExpr : Arguments → Bool
  | none => true
  | angle turbofish _ => turbofish
  | parenthesis _ => false

def Path.fitsExpr (p : Path) : Bool :=
  p.segments.all (·.arguments.fitsExpr)

def Path.followedBy (p : Path) (is : List Ident) : Path :=
  { p with segments := p.segments ++ is.map (⟨·, .none⟩) }

section

variable {α : Type} {g : Rules} {n : Nat} {inExpr : Bool} {ts rest : List Token}

theorem Local.run {r : Reader α} (h : Local r) {a : α} (visible : Visible ts)
    (read : r ts = some (a, rest)) :
    rest <:+ ts ∧ (Closes rest → ∀ us, r (ts ++ us) = some (a, rest ++ us)) :=
  ⟨(h [] ts ts visible List.suffix_rfl a rest read).1,
    fun closes us => (h us ts ts visible List.suffix_rfl a rest read).2 closes⟩

theorem mark_some {m : String} {out : List Token} (h : mark m ts = some (out, rest)) :
    operatorAt? m.toList ts = some rest := by
  obtain ⟨after, found, eq⟩ := Option.map_eq_some_iff.1 h
  cases eq
  exact found

theorem root_some {b : Bool} (visible : Visible ts) (read : root ts = some (b, rest)) :
    (b = false ∧ atMark "::" ts = false ∧ rest = ts) ∨ (b = true ∧ ∃ s, ts = colons s ++ rest) := by
  simp only [root, maybeMark, whenAt, run_bind, run_get, run_pure, run_ite, Option.bind_some,
    Option.bind_eq_some_iff] at read
  obtain ⟨⟨out, after⟩, read, eq⟩ := read
  cases eq
  split at read
  · obtain ⟨s, rfl⟩ := colonsAt_some visible (mark_some read)
    rw [mark_ok read]
    exact .inr ⟨rfl, s, rfl⟩
  · rename_i other
    cases read
    exact .inl ⟨rfl, by simpa using other, rfl⟩

theorem closing_some {out : List Token} (visible : Visible ts)
    (read : mark ">" ts = some (out, rest)) :
    ∃ s, ts = .punct '>' s :: rest ∧ out = [.punct '>' .alone] := by
  have found : operatorAt? ['>'] ts = some rest := mark_some read
  obtain ⟨⟨c, s, ts'⟩, first, same⟩ := Option.bind_eq_some_iff.1 found
  obtain rfl := markAt_some visible first
  split at same
  · rename_i eq
    cases same
    exact ⟨s, by rw [← eq], mark_ok read⟩
  · cases same

theorem mark_closing (s : Spacing) (ts : List Token) :
    mark ">" (.punct '>' s :: ts) = some ([.punct '>' .alone], ts) := by
  simp [mark, operatorAt?, markAt?, operatorTokens]

theorem angleArguments_append (h : g.Local) {a : Arguments} (visible : Visible ts)
    (read : angleArguments g n ts = some (a, rest)) :
    rest <:+ ts ∧ Closes ts ∧ (∃ es, a = .angle (atMark "::" ts) es) ∧
      ∀ us, angleArguments g n (ts ++ us) = some (a, rest ++ us) := by
  simp only [angleArguments, angleList, run_bind, run_pure, Option.bind_eq_some_iff] at read
  obtain ⟨⟨turbofish, ts₁⟩, first, ⟨es, _⟩, ⟨⟨out, ts₂⟩, opening, ⟨l, ts₃⟩, list, ⟨out', _⟩,
    closing, eq⟩, eq'⟩ := read
  cases eq
  cases eq'
  -- The bracket that closes the list is ahead all the way through it.
  obtain ⟨suffix₁, first'⟩ := local_root.run visible first
  have visible₁ := visible.suffix suffix₁
  obtain ⟨suffix₂, opening'⟩ := (local_mark "<" rfl).run visible₁ opening
  have visible₂ := visible₁.suffix suffix₂
  have element := local_genericArgument n h
  obtain ⟨suffix₃, list'⟩ :=
    (local_listUntil (stable_atMark ">" rfl) element (local_mark "," rfl) n).run visible₂ list
  obtain ⟨s, rfl, rfl⟩ := closing_some (visible₂.suffix suffix₃) closing
  have closes₂ : Closes ts₂ := ⟨s, suffix₃.mem List.mem_cons_self⟩
  have closes₁ := closes₂.of_suffix suffix₂
  refine ⟨?_, closes₁.of_suffix suffix₁, ?_, fun us => ?_⟩
  · exact (((List.suffix_cons _ _).trans suffix₃).trans suffix₂).trans suffix₁
  · rcases root_some visible first with ⟨rfl, bare, -⟩ | ⟨rfl, s, rfl⟩
    · exact ⟨_, by rw [bare]⟩
    · exact ⟨_, by rw [(mark_colons s _).1]⟩
  · have list'' := list' ⟨s, List.mem_cons_self⟩ us
    rw [List.cons_append] at list''
    simp only [angleArguments, angleList, run_bind, first' closes₁, Option.bind_some,
      opening' closes₂, list'', mark_closing, run_pure]

def Further (ts : List Token) : Prop :=
  ts = [] ∨ ∃ s i rest, ts = colons s ++ .ident i :: rest

theorem segment_front {s : Segment} (visible : Visible ts)
    (read : segment g inExpr n ts = some (s, rest)) : ∃ more, ts = .ident s.name :: more ∧
      ((isBareWord s.name = true ∨ atArguments inExpr more = false) ∧
          s.arguments = .none ∧ rest = more ∨
        isBareWord s.name = false ∧ takesArguments s.name = true ∧
          atArguments inExpr more = true ∧ angleArguments g n more = some (s.arguments, rest)) := by
  obtain ⟨-, more, found, arguments⟩ := segment_some read
  exact ⟨more, identAt_some visible found, arguments⟩

theorem stable_atArguments (inExpr : Bool) : Stable (atArguments inExpr) :=
  .or (.and (.and (.const _) (stable_atMark "<" rfl)) (.not (stable_atMarks _ rfl)))
    stable_atTurbofish

theorem not_atArguments_further {us : List Token} (further : Further ts)
    (bare : atArguments inExpr us = false) : atArguments inExpr (ts ++ us) = false := by
  rcases further with rfl | ⟨s, i, rest, rfl⟩
  · exact bare
  · have angle (us : List Token) : atMark "<" (.punct ':' .joint :: us) = false :=
      atMark_of_ne (by decide)
    have name (us : List Token) : atMark "<" (.ident i :: us) = false :=
      atMark_of_none (markAt_ident i us) _
    simp [atArguments, atTurbofish, colons, third, skip, angle, name]

theorem atArguments_turbofish (visible : Visible ts) (ahead : atArguments false ts = true)
    (turbofish : atMark "::" ts = true) (inExpr : Bool) : atArguments inExpr ts = true := by
  obtain ⟨rest, found⟩ := Option.isSome_iff_exists.1 turbofish
  obtain ⟨s, rfl⟩ := colonsAt_some visible found
  have angle : atMark "<" (.punct ':' .joint :: .punct ':' s :: rest) = false :=
    atMark_of_ne (by decide)
  simp only [atArguments, angle, Bool.and_false, Bool.false_and, Bool.false_or] at ahead ⊢
  exact ahead

theorem segment_append (h : g.Local) {s : Segment} {us : List Token} (visible : Visible ts)
    (read : segment g false n ts = some (s, rest)) (further : Further rest)
    (fits : inExpr = true → s.arguments.fitsExpr = true) (bare : atArguments inExpr us = false) :
    segment g inExpr n (ts ++ us) = some (s, rest ++ us) := by
  obtain ⟨behind, rfl, ⟨-, none, rfl⟩ | ⟨other, takes, ahead, arguments⟩⟩ :=
    segment_front visible read
  · have word := (segment_some read).1
    obtain ⟨i, a⟩ := s
    cases none
    exact segment_bare word (not_atArguments_further further bare)
  · obtain ⟨-, closes, ⟨es, angle⟩, more⟩ := angleArguments_append h visible.tail arguments
    have ahead' : atArguments inExpr behind = true := by
      cases inExpr with
      | false => exact ahead
      | true =>
        have turbofish := fits rfl
        rw [angle] at turbofish
        exact atArguments_turbofish visible.tail ahead turbofish true
    rw [← stable_atArguments inExpr us behind visible.tail closes] at ahead'
    rw [List.cons_append, segment_eq, identAt_ident]
    simp [other, takes, ahead', more]

theorem segmentsAfter_front {ss : List Segment} (visible : Visible ts)
    (read : segmentsAfter g inExpr (n + 1) ts = some (ss, rest)) :
    (ss = [] ∧ rest = ts) ∨ ∃ s' ts₁ s ts₂ ss', ts = colons s' ++ ts₁ ∧
      segment g inExpr n ts₁ = some (s, ts₂) ∧
      segmentsAfter g inExpr n ts₂ = some (ss', rest) ∧ ss = s :: ss' := by
  refine (segmentsAfter_some read).imp_right ?_
  rintro ⟨out, ts₁, s, ts₂, ss', lead, first, others, eq⟩
  obtain ⟨s', front⟩ := colonsAt_some visible (mark_some lead)
  exact ⟨s', ts₁, s, ts₂, ss', front, first, others, eq⟩

theorem further_of_segmentsAfter {ss : List Segment} (visible : Visible ts)
    (read : segmentsAfter g inExpr n ts = some (ss, [])) : Further ts := by
  cases n with
  | zero => cases read
  | succ n =>
    rcases segmentsAfter_front visible read with ⟨-, rfl⟩ | ⟨s', ts₁, s, _, _, rfl, first, -⟩
    · exact .inl rfl
    · obtain ⟨behind, rfl, -⟩ := segment_front visible.tail.tail first
      exact .inr ⟨s', s.name, behind, rfl⟩

theorem segmentsAfter_append (h : g.Local) {ss : List Segment} (visible : Visible ts)
    (read : segmentsAfter g false n ts = some (ss, []))
    (fits : inExpr = true → ∀ s ∈ ss, s.arguments.fitsExpr = true) :
    ∃ k, n = ss.length + k + 1 ∧ ∀ us, atArguments inExpr us = false →
      segmentsAfter g inExpr n (ts ++ us) =
        (segmentsAfter g inExpr (k + 1) us).map fun r => (ss ++ r.1, r.2) := by
  induction n generalizing ts ss with
  | zero => cases read
  | succ n ih =>
    rcases segmentsAfter_front visible read with
      ⟨rfl, rfl⟩ | ⟨s', ts₁, s, ts₂, ss', rfl, first, others, rfl⟩
    · exact ⟨n, by simp, fun us _ => by simp⟩
    · have visible₁ : Visible ts₁ := visible.tail.tail
      have visible₂ := visible₁.suffix ((local_segment n h false).run visible₁ first).1
      obtain ⟨k, rfl, more⟩ := ih visible₂ others fun fits' s mem =>
        fits fits' s (List.mem_cons_of_mem _ mem)
      refine ⟨k, by simp; omega, fun us bare => ?_⟩
      have next := segment_append h visible₁ first (further_of_segmentsAfter visible₂ others)
        (fun fits' => fits fits' s List.mem_cons_self) bare
      obtain ⟨behind, rfl, -⟩ := segment_front visible₁ first
      obtain ⟨ahead, read⟩ := mark_colons s' (.ident s.name :: behind ++ us)
      have name : third (atGroup .parenthesis) (colons s' ++ (.ident s.name :: behind ++ us)) =
          false := by
        simp [third, skip, colons, atGroup]
      show segmentsAfter g inExpr _ (colons s' ++ (.ident s.name :: behind ++ us)) = _
      rw [segmentsAfter]
      simp only [run_bind, run_get, Option.bind_some, run_ite, run_pure, ahead, name, read, next,
        more us bare]
      cases segmentsAfter g inExpr (k + 1) us <;> rfl

theorem length_segment (h : g.Local) {s : Segment} (visible : Visible ts)
    (read : segment g inExpr n ts = some (s, rest)) : rest.length < ts.length := by
  obtain ⟨behind, rfl, ⟨-, -, rfl⟩ | ⟨-, -, -, arguments⟩⟩ := segment_front visible read
  · exact Nat.lt_succ_self _
  · obtain ⟨suffix, -⟩ := angleArguments_append h visible.tail arguments
    exact Nat.lt_succ_of_le suffix.length_le

theorem length_segmentsAfter (h : g.Local) {ss : List Segment} (visible : Visible ts)
    (read : segmentsAfter g inExpr n ts = some (ss, rest)) : ss.length ≤ ts.length := by
  induction n generalizing ts ss with
  | zero => cases read
  | succ n ih =>
    rcases segmentsAfter_front visible read with
      ⟨rfl, -⟩ | ⟨s', ts₁, s, ts₂, ss', rfl, first, others, rfl⟩
    · exact Nat.zero_le _
    · have visible₁ : Visible ts₁ := visible.tail.tail
      have suffix := ((local_segment n h inExpr).run visible₁ first).1
      have := ih (visible₁.suffix suffix) others
      have := suffix.length_le
      simp [colons]
      omega

theorem root_colons (s : Spacing) (ts : List Token) :
    root (colons s ++ ts) = some (true, ts) := by
  obtain ⟨ahead, read⟩ := mark_colons s ts
  simp [root, maybeMark, whenAt, ahead, read, operatorTokens]

theorem root_ident (i : Ident) (ts : List Token) :
    root (.ident i :: ts) = some (false, .ident i :: ts) := by
  have other : atMark "::" (.ident i :: ts) = false := atMark_of_none (markAt_ident i ts) _
  simp [root, maybeMark, whenAt, other]

theorem path_append (h : g.Local) {p : Path} {is : List Ident} {us : List Token}
    (visible : Visible ts) (read : path g false n ts = some (p, []))
    (fits : inExpr = true → p.fitsExpr = true) (named : ∀ j ∈ is, IsSegmentWord j)
    (enough : p.segments.length + is.length ≤ n) (ends : EndsPath us) :
    path g inExpr n (ts ++ (moreTokens is ++ us)) = some (p.followedBy is, us) := by
  obtain ⟨ts₁, s, ts₂, ss, lead, first, others, eq⟩ := path_some read
  have visible₁ : Visible ts₁ := visible.suffix (local_root.run visible lead).1
  have visible₂ : Visible ts₂ := visible₁.suffix ((local_segment n h false).run visible₁ first).1
  -- Every part is read again with more tokens behind, where no arguments may begin.
  have bare := not_atArguments_more inExpr is ends
  have fits' (inside : inExpr = true) : ∀ s' ∈ s :: ss, s'.arguments.fitsExpr = true := by
    have all := fits inside
    rw [eq, Path.fitsExpr] at all
    simpa using all
  have first' := segment_append h visible₁ first (further_of_segmentsAfter visible₂ others)
    (fun inside => fits' inside s List.mem_cons_self) bare
  obtain ⟨k, rfl, more⟩ := segmentsAfter_append h visible₂ others fun inside s' mem =>
    fits' inside s' (List.mem_cons_of_mem _ mem)
  rw [eq, List.length_cons] at enough
  have others' := more _ bare
  rw [segmentsAfter_more inExpr (by omega) named ends] at others'
  have lead' : root (ts ++ (moreTokens is ++ us)) =
      some (p.isRooted, ts₁ ++ (moreTokens is ++ us)) := by
    rcases root_some visible lead with ⟨unrooted, -, rfl⟩ | ⟨rooted, s', rfl⟩
    · obtain ⟨behind, rfl, -⟩ := segment_front visible first
      rw [unrooted, List.cons_append, root_ident]
    · rw [rooted, List.append_assoc, root_colons]
  simp only [path, Path.extend, run_bind, run_pure, lead', first', others', Option.bind_some,
    Option.map_some]
  rw [eq]
  rfl

theorem length_path (h : g.Local) {p : Path} (visible : Visible ts)
    (read : path g inExpr n ts = some (p, rest)) : p.segments.length ≤ ts.length := by
  obtain ⟨ts₁, s, ts₂, ss, lead, first, others, eq⟩ := path_some read
  have suffix₁ := (local_root.run visible lead).1
  have visible₁ := visible.suffix suffix₁
  have shorter := length_segment h visible₁ first
  have visible₂ := visible₁.suffix ((local_segment n h inExpr).run visible₁ first).1
  have := length_segmentsAfter h visible₂ others
  have := suffix₁.length_le
  rw [eq, List.length_cons]
  omega

theorem angleArguments_fits {a : Arguments} (ahead : atTurbofish ts = true)
    (read : angleArguments g n ts = some (a, rest)) : a.fitsExpr = true := by
  simp only [angleArguments, run_bind, run_pure, Option.bind_eq_some_iff] at read
  obtain ⟨⟨turbofish, after⟩, first, ⟨es, last⟩, -, eq⟩ := read
  cases eq
  simp only [root, maybeMark, whenAt, run_bind, run_get, run_pure, run_ite, Option.bind_some,
    (Bool.and_eq_true_iff.1 ahead).1, Option.bind_eq_some_iff] at first
  obtain ⟨⟨out, after'⟩, lead, eq⟩ := first
  cases eq
  rw [if_pos trivial] at lead
  rw [mark_ok lead]
  rfl

theorem path_fits {p : Path} (read : path g true n ts = some (p, rest)) : p.fitsExpr = true := by
  rw [Path.fitsExpr, List.all_eq_true]
  refine path_forall (fun n ts s rest read => ?_) read
  obtain ⟨-, more, -, ⟨-, none, -⟩ | ⟨-, -, ahead, arguments⟩⟩ := segment_some read
  · rw [none]
    rfl
  · exact angleArguments_fits (by simpa [atArguments] using ahead) arguments

/-- Names joined by `::`, and perhaps one before them. Arguments are in angle brackets, and no word
but `Self` has them. -/
structure Path.WellFormed (p : Path) : Prop where
  unqualified : p.qualifier = []
  nonempty : p.segments ≠ []
  names : ∀ s ∈ p.segments, IsSegmentWord s.name
  arguments : ∀ s ∈ p.segments, s.arguments = .none ∨
    takesArguments s.name = true ∧ ∃ turbofish entries, s.arguments = .angle turbofish entries

theorem path_wellFormed {p : Path} (read : path g inExpr n ts = some (p, rest)) : p.WellFormed where
  unqualified := by
    obtain ⟨_, _, _, _, -, -, -, eq⟩ := path_some read
    rw [eq]
  nonempty := by
    obtain ⟨_, _, _, _, -, -, -, eq⟩ := path_some read
    rw [eq]
    nofun
  names := path_forall (fun _ _ _ _ read => (segment_some read).1) read
  arguments := path_forall (fun _ _ _ _ read => by
    obtain ⟨-, more, -, ⟨-, none, -⟩ | ⟨-, takes, -, arguments⟩⟩ := segment_some read
    · exact .inl none
    · exact .inr ⟨takes, angleArguments_angle arguments⟩) read

end

end FontAccessors.Grammar
