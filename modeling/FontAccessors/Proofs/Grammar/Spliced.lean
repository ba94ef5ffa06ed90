import FontAccessors.Proofs.Grammar.Followed

namespace FontAccessors.Grammar
open Token

section

variable {g : Rules} {n : Nat} {inExpr : Bool} {ts rest : List Token}

inductive PathFront : List Token → Prop where
  | rooted (s : Spacing) (ts : List Token) : PathFront (colons s ++ ts)
  | named {i : Ident} {ts : List Token} (named : IsSegmentName i) (hash : atMark "#" ts = false) :
    PathFront (.ident i :: ts)

theorem PathFront.angle (front : PathFront ts) : atMark "<" ts = false := by
  cases front with
  | rooted s ts => exact atMark_of_ne (by decide)
  | named named hash => exact atMark_of_none (markAt_ident _ _) _

theorem typeRule_front (plus arguments : Bool) (front : PathFront ts) :
    typeRule g plus arguments n ts = pathType g [] plus n ts := by
  cases front with
  | rooted s ts =>
    have shown : atInvisible (colons s ++ ts) = false := rfl
    simp [typeRule, shown, atFunctionType, atBuiltin]
  | @named i ts named hash =>
    have word {w : String} (reserved : w ∈ keywords ∧ w ∉ pathWords) :
        atWord w (.ident i :: ts) = false := atWord_ident named reserved ts
    have words : atWords ["fn", "unsafe", "extern"] (.ident i :: ts) = false :=
      atWords_ident named (by decide) ts
    have path : atPath (.ident i :: ts) = true := by simp [atPath, atPathName_ident named]
    have group : atGroup .parenthesis (.ident i :: ts) = false := by simp [atGroup]
    have shown : atInvisible (.ident i :: ts) = false := rfl
    have builtin : atBuiltin (.ident i :: ts) = false := by simp [atBuiltin, second, skip, hash]
    simp [typeRule, shown, word (w := "for") (by decide), group, atFunctionType, words, builtin,
      path]

theorem atom_front (braces : Bool) (front : PathFront ts) :
    atom g braces n ts = (path g true n ts).bind fun r => afterPath g braces r.1 n r.2 := by
  cases front with
  | rooted s ts =>
    have bar : atMark "|" (colons s ++ ts) = false := atMark_of_ne (by decide)
    have angle := (PathFront.rooted s ts).angle
    have value : atValue (colons s ++ ts) = false := by simp [colons, atValue, valueAt?]
    have shown : atInvisible (colons s ++ ts) = false := rfl
    simp [atom, shown, value, atAsyncBlock, atTryBlock, atClosure, atQuantifiedClosure, bar,
      atBuiltin, atPathExpr, qualifiablePath, angle]
  | named named hash => exact atom_path named hash

theorem atom_try (braces : Bool) (s : Spacing) (ts : List Token) :
    atom g braces n (.ident (.plain "try") :: (colons s ++ ts)) =
      (path g true n (.ident (.plain "try") :: (colons s ++ ts))).bind fun r =>
        afterPath g braces r.1 n r.2 := by
  have here (i : Ident) (m : String) : atMark m (.ident i :: (colons s ++ ts)) = false :=
    atMark_of_none (markAt_ident i _) m
  have ahead := (mark_colons s ts).1
  simp [atom, atInvisible, invisibleAt?, atValue, valueAt?, atAsyncBlock, atTryBlock, atClosure,
    atQuantifiedClosure, atWord, atWords, Ident.plain, here, atBuiltin, atPathExpr, second, skip,
    ahead, qualifiablePath]

theorem typeRule_try (plus arguments : Bool) (ts : List Token) :
    typeRule g plus arguments n (.ident (.plain "try") :: ts) = none := by
  have here (i : Ident) (m : String) : atMark m (.ident i :: ts) = false :=
    atMark_of_none (markAt_ident i ts) m
  simp [typeRule, atInvisible, invisibleAt?, atWord, atWords, Ident.plain, here, atBuiltin,
    atFunctionType, atPath, atPathName, atName, isName, keywords, pathWords, atMarks, atGroup,
    atLifetime, lifetimeAt?]

theorem pathType_ended {p : Path} (plus : Bool) (angle : atMark "<" ts = false)
    (read : path g false n ts = some (p, rest)) (unqualified : p.qualifier = [])
    (ends : EndsPath rest) :
    pathType g [] plus n ts = some (⟨.path p, p.tokens⟩, rest) := by
  have mark (m : String) : atMark m rest = false := atMark_of_none ends.markAt m
  simp [pathType, qualifiablePath, angle, read, Path.isQualified, unqualified, mark]

def Behind (d : Delimiter) (ts : List Token) : Prop :=
  ts = [] ∨ ∃ content rest, ts = .group d content :: rest

theorem Behind.endsPath {d : Delimiter} (h : Behind d ts) (visible : d ≠ .invisible) :
    EndsPath ts :=
  h.imp_right fun ⟨content, rest, eq⟩ => ⟨d, content, rest, visible, eq⟩

theorem afterPath_ended {braces : Bool} (p : Path) (behind : Behind .parenthesis ts) :
    afterPath g braces p n ts = some (⟨.path p, p.tokens⟩, ts) := by
  have bang : atMark "!" ts = false :=
    atMark_of_none (behind.endsPath (by decide)).markAt _
  have brace : atGroup .brace ts = false := by
    rcases behind with rfl | ⟨content, rest, rfl⟩
    · simp [atGroup, groupAt?]
    · have shown : enter (.group .parenthesis content :: rest) = _ := enter_group (by decide) _ _
      simp [atGroup, groupAt?, shown]
  simp [afterPath, bang, brace]

theorem afterPath_some {braces : Bool} {p q : Path} {out : List Token}
    (read : afterPath g braces p n ts = some (⟨.path q, out⟩, rest)) : q = p := by
  simp only [afterPath, run_bind, run_get, Option.bind_some, run_ite, run_pure] at read
  split at read
  · obtain ⟨⟨call, after⟩, -, eq⟩ := Option.bind_eq_some_iff.1 read
    split at eq <;> cases eq
  · split at read
    · obtain ⟨⟨fields, after⟩, -, eq⟩ := Option.bind_eq_some_iff.1 read
      cases eq
    · cases read
      rfl

def Path.startsAtTry (p : Path) : Bool :=
  !p.isRooted && p.segments.head?.any (·.name = .plain "try")

/-- One or two names: a type in a crate, or what a type in it holds. -/
structure IsItemPath (is : List Ident) : Prop where
  nonempty : is ≠ []
  short : is.length ≤ 2
  named : ∀ i ∈ is, isName i = true

def InType (ts : List Token) (p : Path) (us : List Token) : Prop :=
  ∃ d, typeRule (rules d) true true d ts = some (⟨.path p, p.tokens⟩, us)

def InExpr (braces : Bool) (ts : List Token) (p : Path) (us : List Token) : Prop :=
  ∃ d, atom (rules d) braces d ts = some (⟨.path p, p.tokens⟩, us)

/-- With the names of an item after it, the path is read from the tokens in a type only if it does
not begin with `try`, and in an expression only if all its arguments come after a turbofish. -/
structure Confined (ts : List Token) (p : Path) : Prop where
  type : ∀ is us, IsItemPath is → InType (ts ++ (moreTokens is ++ us)) (p.followedBy is) us →
    p.startsAtTry = false
  expr : ∀ braces is us, IsItemPath is →
    InExpr braces (ts ++ (moreTokens is ++ us)) (p.followedBy is) us → p.fitsExpr = true

/-- There it is read. -/
structure Spliced (ts : List Token) (p : Path) : Prop extends Confined ts p where
  inType : p.startsAtTry = false → ∀ is us, IsItemPath is → Behind .brace us →
    InType (ts ++ (moreTokens is ++ us)) (p.followedBy is) us
  inExpr : p.fitsExpr = true → ∀ braces is us, IsItemPath is → Behind .parenthesis us →
    InExpr braces (ts ++ (moreTokens is ++ us)) (p.followedBy is) us

def BeginsAs (p : Path) (ts : List Token) : Prop :=
  (p.startsAtTry = true ∧ ∃ s more, ts = .ident (.plain "try") :: (colons s ++ more)) ∨
    (p.startsAtTry = false ∧ PathFront ts)

theorem BeginsAs.front {p : Path} (begun : BeginsAs p ts) (unreserved : p.startsAtTry = false) :
    PathFront ts := by
  rcases begun with ⟨isTry, -⟩ | ⟨-, front⟩
  · rw [unreserved] at isTry
    cases isTry
  · exact front

theorem BeginsAs.atom_eq {p : Path} (begun : BeginsAs p ts) (braces : Bool) :
    atom g braces n ts = (path g true n ts).bind fun r => afterPath g braces r.1 n r.2 := by
  rcases begun with ⟨-, s, more, rfl⟩ | ⟨-, front⟩
  · exact atom_try braces s more
  · exact atom_front braces front

theorem begun_named {s : Segment} {ss : List Segment} (word : IsSegmentWord s.name)
    (hash : atMark "#" ts = false)
    (leads : s.name = .plain "try" → ∃ s' more, ts = colons s' ++ more) :
    BeginsAs ⟨[], false, s :: ss⟩ (.ident s.name :: ts) := by
  rcases word with named | isTry
  · have notTry : s.name ≠ .plain "try" := fun isTry => by
      rw [isTry] at named
      simp [IsSegmentName, Ident.plain, keywords, pathWords] at named
    exact .inr ⟨by simp [Path.startsAtTry, notTry], .named named hash⟩
  · obtain ⟨s', more, rfl⟩ := leads isTry
    exact .inl ⟨by simp [Path.startsAtTry, isTry], s', more, by rw [isTry]⟩

theorem confined_of_begun {p : Path}
    (begun : ∀ i is us, BeginsAs p (ts ++ (moreTokens (i :: is) ++ us))) : Confined ts p where
  type is us item := by
    rintro ⟨d, found⟩
    obtain ⟨i, is, rfl⟩ := List.exists_cons_of_ne_nil item.nonempty
    rcases begun i is us with ⟨-, s, more, eq⟩ | ⟨other, -⟩
    · rw [eq, typeRule_try] at found
      cases found
    · exact other
  expr braces is us item := by
    rintro ⟨d, found⟩
    obtain ⟨i, is, rfl⟩ := List.exists_cons_of_ne_nil item.nonempty
    rw [(begun i is us).atom_eq] at found
    obtain ⟨⟨q, rest⟩, inside, after⟩ := Option.bind_eq_some_iff.1 found
    have fits := path_fits inside
    have same : p.followedBy (i :: is) = q := afterPath_some after
    rw [← same] at fits
    simp only [Path.followedBy, Path.fitsExpr, List.all_append, Bool.and_eq_true] at fits
    exact fits.1

theorem nothing_left (visible : Visible ts) (spent : isSpent ts = true) : ts = [] := by
  cases ts with
  | nil => rfl
  | cons t ts =>
    rw [isSpent, enter_visible visible] at spent
    cases spent

theorem ofTokens_some {p : Path} (visible : Visible ts) (read : Path.ofTokens? ts = some p) :
    path (rules (depth ts)) false (depth ts) ts = some (p, []) := by
  rw [Path.ofTokens?, whole] at read
  obtain ⟨⟨q, rest⟩, found, ends⟩ := Option.bind_eq_some_iff.1 read
  split at ends
  · rename_i spent
    cases ends
    have suffix := ((local_path _ (local_rules _) false).run visible found).1
    rw [found, nothing_left (visible.suffix suffix) spent]
  · cases ends

theorem not_hash_of_atArguments (visible : Visible ts) (ahead : atArguments inExpr ts = true) :
    atMark "#" ts = false := by
  cases hash : atMark "#" ts with
  | false => rfl
  | true =>
    obtain ⟨rest, found⟩ := Option.isSome_iff_exists.1 hash
    obtain ⟨⟨c, s, more⟩, first, same⟩ := Option.bind_eq_some_iff.1 found
    obtain rfl := markAt_some visible first
    split at same
    · rename_i eq
      obtain rfl : c = '#' := eq
      have angle : atMark "<" (.punct '#' s :: more) = false := atMark_of_ne (by decide)
      have double : atMark "::" (.punct '#' s :: more) = false := atMark_of_ne (by decide)
      simp [atArguments, atTurbofish, angle, double] at ahead
    · cases same

theorem colons_of_further (further : Further ts) (i : Ident) (is : List Ident) (us : List Token) :
    ∃ s more, ts ++ (moreTokens (i :: is) ++ us) = colons s ++ more := by
  rcases further with rfl | ⟨s, j, rest, rfl⟩
  · exact ⟨.alone, _, by rw [List.nil_append, moreTokens_cons]; rfl⟩
  · exact ⟨s, _, List.append_assoc _ _ _⟩

theorem begun_of_read {p : Path} (h : g.Local) (visible : Visible ts)
    (read : path g false n ts = some (p, [])) (i : Ident) (is : List Ident) (us : List Token) :
    BeginsAs p (ts ++ (moreTokens (i :: is) ++ us)) := by
  obtain ⟨ts₁, s, ts₂, ss, lead, first, others, eq⟩ := path_some read
  have visible₁ : Visible ts₁ := visible.suffix (local_root.run visible lead).1
  have visible₂ : Visible ts₂ := visible₁.suffix ((local_segment n h false).run visible₁ first).1
  have further := further_of_segmentsAfter visible₂ others
  rw [eq]
  rcases root_some visible lead with ⟨unrooted, -, rfl⟩ | ⟨rooted, s', rfl⟩
  · rw [unrooted]
    have word := (segment_some first).1
    obtain ⟨behind, rfl, ⟨-, -, rfl⟩ | ⟨other, -, ahead, arguments⟩⟩ := segment_front visible first
    all_goals rw [List.cons_append]
    · obtain ⟨s', more, eq'⟩ := colons_of_further further i is us
      exact begun_named word (by rw [eq']; exact atMark_of_ne (by decide)) fun _ => ⟨s', more, eq'⟩
    · obtain ⟨-, closes, -⟩ := angleArguments_append h visible.tail arguments
      refine begun_named word ?_ fun isTry => ?_
      · rw [stable_atMark "#" rfl _ behind visible.tail closes]
        exact not_hash_of_atArguments visible.tail ahead
      · rw [isTry] at other
        cases other
  · rw [rooted, List.append_assoc]
    exact .inr ⟨rfl, .rooted s' _⟩

theorem isSegmentWord_of_isName {i : Ident} (named : isName i = true) : IsSegmentWord i :=
  isSegmentWord_iff.2 (.inr (by simp [takesArguments, named]))

theorem spliced_of_read {p : Path} (visible : Visible ts) (read : Path.ofTokens? ts = some p) :
    Spliced ts p := by
  have accepted := ofTokens_some visible read
  have rules := local_rules (depth ts)
  have begun := begun_of_read rules visible accepted
  have extended (inExpr : Bool) (fits : inExpr = true → p.fitsExpr = true) {is : List Ident}
      (item : IsItemPath is) {us : List Token} (ends : EndsPath us) :
      path (Grammar.rules (depth ts)) inExpr (depth ts) (ts ++ (moreTokens is ++ us)) =
        some (p.followedBy is, us) := by
    have short := item.short
    have length := length_le_totalWeight ts
    have segments := length_path rules visible accepted
    refine path_append rules visible accepted fits
      (fun j mem => isSegmentWord_of_isName (item.named j mem)) ?_ ends
    rw [depth]
    omega
  refine ⟨confined_of_begun begun, fun unreserved is us item behind => ?_,
    fun fits braces is us item behind => ?_⟩
  all_goals
    have ends := behind.endsPath (by decide)
    obtain ⟨i, is, rfl⟩ := List.exists_cons_of_ne_nil item.nonempty
    refine ⟨depth ts, ?_⟩
  · have front := (begun i is us).front unreserved
    rw [typeRule_front true true front]
    exact pathType_ended true front.angle (extended false (absurd · Bool.false_ne_true) item ends)
      (path_wellFormed accepted).unqualified ends
  · rw [(begun i is us).atom_eq, extended true (fun _ => fits) item ends]
    exact afterPath_ended _ behind

theorem begun_of_tokens {p : Path} (well : p.WellFormed) (i : Ident) (is : List Ident)
    (us : List Token) : BeginsAs p (p.tokens ++ (moreTokens (i :: is) ++ us)) := by
  obtain ⟨qualifier, isRooted, segments⟩ := p
  obtain rfl : qualifier = [] := well.unqualified
  obtain ⟨s, ss, rfl⟩ := List.exists_cons_of_ne_nil well.nonempty
  rw [Path.tokens, segmentTokens_cons]
  cases isRooted with
  | true =>
    refine .inr ⟨rfl, ?_⟩
    rw [List.append_assoc]
    exact .rooted .alone _
  | false =>
    obtain ⟨s', more, eq⟩ : ∃ s' more,
        (ss.flatMap fun s => operator "::" ++ s.tokens) ++ (moreTokens (i :: is) ++ us) =
          colons s' ++ more := by
      cases ss with
      | nil => exact ⟨.alone, _, moreTokens_cons i is us⟩
      | cons s' ss => exact ⟨.alone, _, by rw [List.flatMap_cons, List.append_assoc]; rfl⟩
    show BeginsAs _ (.ident s.name :: (s.arguments.tokens ++ _ ++ _))
    rw [List.append_assoc, eq]
    have arguments := well.arguments s List.mem_cons_self
    refine begun_named (well.names s List.mem_cons_self) ?_ fun isTry => ?_
    · rcases arguments with none | ⟨-, turbofish, entries, angle⟩
      · rw [none]
        exact atMark_of_ne (by decide)
      · rw [angle]
        cases turbofish <;> exact atMark_of_ne (by decide)
    · rcases arguments with none | ⟨takes, -⟩
      · rw [none]
        exact ⟨s', more, rfl⟩
      · rw [isTry] at takes
        cases takes

end

end FontAccessors.Grammar
