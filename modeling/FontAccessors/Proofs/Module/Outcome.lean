import FontAccessors.Proofs.Module.Checks

/-!
# Which requests for a module succeed, and how the others fail

* `checkFamilies_error_iff`: a list of families fails as the first family that is refused.
* `render_outcome`: the outcome of a request is decided by the path and then by the first family
  that is refused, so that what follows a refused family does not matter.
-/

namespace FontAccessors.Module
open Grammar Token

variable {before fs : List Family} {f : Family} {seen : List String} {path : String}
  {e e' : GenerateError}

def IsTypeName (text : String) : Prop :=
  ∃ i, lex text = some [.ident i] ∧ isName i = true

def IsCratePath (text : String) : Prop :=
  ∃ ts p, lex text = some ts ∧ Path.ofTokens? ts = some p

/-- A family that can follow those before it. -/
structure Accepted (before : List Family) (f : Family) : Prop where
  named : IsTypeName f.typeName
  font : f.fontName.isSome = true
  fresh : ∀ g ∈ before, g.typeName ≠ f.typeName

/-- A family that cannot, with the first reason that applies. -/
inductive Refused (before : List Family) (f : Family) : GenerateError → Prop
  | unnamed (h : ¬IsTypeName f.typeName) : Refused before f (.invalidTypeName f.typeName)
  | noFont (named : IsTypeName f.typeName) (h : f.fontName = none) :
    Refused before f .missingFontName
  | repeated (named : IsTypeName f.typeName) (font : f.fontName.isSome = true) {g : Family}
    (mem : g ∈ before) (same : g.typeName = f.typeName) :
    Refused before f (.duplicateTypeName f.typeName)

/-- The family at place `i` is the first that is refused. -/
def FailsAt (fs : List Family) (i : Nat) (e : GenerateError) : Prop :=
  ∃ h : i < fs.length, Refused (fs.take i) fs[i] e ∧
    ∀ j (hj : j < i), Accepted (fs.take j) fs[j]

theorem isTypeName_iff {text : String} : IsTypeName text ↔ (nameOfText? text).isSome = true := by
  simp only [Option.isSome_iff_exists, nameOfText_iff, ← lexChars_name_iff]
  rfl

theorem isCratePath_iff {text : String} : IsCratePath text ↔ (Path.ofText? text).isSome = true := by
  simp only [Option.isSome_iff_exists, Path.ofText?, Option.bind_eq_some_iff]
  constructor
  · rintro ⟨ts, p, lexed, read⟩
    exact ⟨p, ts, lexed, read⟩
  · rintro ⟨p, ts, lexed, read⟩
    exact ⟨ts, p, lexed, read⟩

theorem accepted_or_refused (before : List Family) (f : Family) :
    Accepted before f ∨ ∃ e, Refused before f e := by
  by_cases named : IsTypeName f.typeName
  · cases font : f.fontName with
    | none => exact .inr ⟨_, .noFont named font⟩
    | some name =>
      have font' : f.fontName.isSome = true := by rw [font]; rfl
      by_cases repeated : ∃ g ∈ before, g.typeName = f.typeName
      · obtain ⟨g, mem, same⟩ := repeated
        exact .inr ⟨_, .repeated named font' mem same⟩
      · exact .inl ⟨named, font', fun g mem same => repeated ⟨g, mem, same⟩⟩
  · exact .inr ⟨_, .unnamed named⟩

theorem Refused.not_accepted (h : Refused before f e) : ¬Accepted before f := by
  rintro ⟨named, font, fresh⟩
  cases h with
  | unnamed h => exact h named
  | noFont _ h =>
    rw [h] at font
    cases font
  | repeated _ _ mem same => exact fresh _ mem same

def Records (seen : List String) (before : List Family) : Prop :=
  ∀ name, name ∈ seen ↔ ∃ g ∈ before, g.typeName = name

theorem Records.snoc (h : Records seen before) (f : Family) :
    Records (f.typeName :: seen) (before ++ [f]) := by
  intro name
  simp only [List.mem_cons, List.mem_append, List.not_mem_nil, or_false, h name]
  constructor
  · rintro (rfl | ⟨g, mem, same⟩)
    · exact ⟨f, .inr rfl, rfl⟩
    · exact ⟨g, .inl mem, same⟩
  · rintro ⟨g, mem | rfl, same⟩
    · exact .inr ⟨g, mem, same⟩
    · exact .inl same.symm

theorem checkFamilies_refused (known : Records seen before) (h : Refused before f e)
    (fs : List Family) : checkFamilies seen (f :: fs) = .error e := by
  rw [checkFamilies]
  cases h with
  | unnamed h =>
    have unnamed : nameOfText? f.typeName = none := by
      rw [isTypeName_iff] at h
      simpa using h
    rw [checkFamily_unnamed unnamed]
    rfl
  | noFont named h =>
    rw [checkFamily_no_font (isTypeName_iff.1 named) h]
    rfl
  | repeated named font mem same =>
    obtain ⟨name, font⟩ := Option.isSome_iff_exists.1 font
    have twice : seen.contains f.typeName = true := by
      rw [List.contains_iff_mem, known]
      exact ⟨_, mem, same⟩
    rw [checkFamily_named (isTypeName_iff.1 named) font, twice]
    rfl

theorem checkFamilies_accepted (known : Records seen before) (h : Accepted before f)
    (fs : List Family) :
    ∃ c, checkFamilies seen (f :: fs) = (checkFamilies (f.typeName :: seen) fs).map (c :: ·) := by
  obtain ⟨name, font⟩ := Option.isSome_iff_exists.1 h.font
  have fresh : seen.contains f.typeName = false := by
    rw [Bool.eq_false_iff]
    intro twice
    rw [List.contains_iff_mem, known] at twice
    obtain ⟨g, mem, same⟩ := twice
    exact h.fresh g mem same
  refine ⟨⟨f.typeName, name⟩, ?_⟩
  rw [checkFamilies, checkFamily_named (isTypeName_iff.1 h.named) font, fresh]
  cases checkFamilies (f.typeName :: seen) fs <;> rfl

theorem checkFamilies_error_iff (known : Records seen before) :
    checkFamilies seen fs = .error e ↔
      ∃ i, ∃ h : i < fs.length, Refused (before ++ fs.take i) fs[i] e ∧
        ∀ j (hj : j < i), Accepted (before ++ fs.take j) fs[j] := by
  induction fs generalizing before seen with
  | nil =>
    constructor
    · nofun
    · rintro ⟨i, h, -⟩
      cases h
  | cons f fs ih =>
    rcases accepted_or_refused before f with accepted | ⟨e', refused⟩
    · -- What is refused later stands one place further on.
      obtain ⟨c, step⟩ := checkFamilies_accepted known accepted fs
      have error : checkFamilies seen (f :: fs) = .error e ↔
          checkFamilies (f.typeName :: seen) fs = .error e := by
        rw [step]
        cases checkFamilies (f.typeName :: seen) fs <;> simp [Except.map]
      rw [error, ih (known.snoc f)]
      constructor
      · rintro ⟨i, h, refused, passed⟩
        refine ⟨i + 1, Nat.succ_lt_succ h, by simpa using refused, ?_⟩
        rintro (_ | j) hj
        · simpa using accepted
        · simpa using passed j (Nat.lt_of_succ_lt_succ hj)
      · rintro ⟨_ | i, h, refused, passed⟩
        · exact absurd accepted (Refused.not_accepted (by simpa using refused))
        · refine ⟨i, Nat.lt_of_succ_lt_succ h, by simpa using refused, fun j hj => ?_⟩
          simpa using passed (j + 1) (Nat.succ_lt_succ hj)
    · have first : checkFamilies seen (f :: fs) = .error e' :=
        checkFamilies_refused known refused fs
      constructor
      · intro h
        rw [first] at h
        cases h
        exact ⟨0, Nat.succ_pos _, by simpa using refused, nofun⟩
      · rintro ⟨_ | i, h, refused', passed⟩
        · exact checkFamilies_refused known (by simpa using refused') fs
        · exact absurd (by simpa using passed 0 (Nat.succ_pos i)) refused.not_accepted

theorem checkFamilies_error_iff_failsAt :
    checkFamilies [] fs = .error e ↔ ∃ i, FailsAt fs i e := by
  have known : Records [] [] := fun name => by simp
  have first : checkFamilies [] fs = .error e ↔ _ := checkFamilies_error_iff known
  simpa [FailsAt] using first

theorem accepted_of_not_failsAt (h : ¬∃ i e, FailsAt fs i e) (i : Nat) (hi : i < fs.length) :
    Accepted (fs.take i) fs[i] := by
  induction i using Nat.strongRecOn with
  | _ i ih =>
    rcases accepted_or_refused (fs.take i) fs[i] with accepted | ⟨e, refused⟩
    · exact accepted
    · exact absurd ⟨i, e, hi, refused, fun j hj => ih j hj (Nat.lt_trans hj hi)⟩ h

theorem checkFamilies_ok_iff_accepted :
    (∃ cs, checkFamilies [] fs = .ok cs) ↔
      ∀ i (h : i < fs.length), Accepted (fs.take i) fs[i] := by
  constructor
  · rintro ⟨cs, ok⟩
    refine accepted_of_not_failsAt ?_
    rintro ⟨i, e, fails⟩
    rw [checkFamilies_error_iff_failsAt.2 ⟨i, fails⟩] at ok
    cases ok
  · intro accepted
    cases checked : checkFamilies [] fs with
    | ok cs => exact ⟨cs, rfl⟩
    | error e =>
      obtain ⟨i, h, refused, -⟩ := checkFamilies_error_iff_failsAt.1 checked
      exact absurd (accepted i h) refused.not_accepted

theorem FailsAt.replace {i : Nat} (h : FailsAt fs i e) (more : List Family) :
    FailsAt (fs.take (i + 1) ++ more) i e := by
  obtain ⟨hi, refused, passed⟩ := h
  have short : i + 1 ≤ fs.length := hi
  have place (j : Nat) (hj : j < i + 1) :
      (fs.take (i + 1) ++ more).take j = fs.take j ∧
        (fs.take (i + 1) ++ more)[j]? = some fs[j] := by
    constructor
    · rw [List.take_append_of_le_length (by simp; omega), List.take_take,
        Nat.min_eq_left (Nat.le_of_lt hj)]
    · rw [List.getElem?_append_left (by simp; omega), List.getElem?_take_of_lt hj,
        List.getElem?_eq_getElem]
  have here (j : Nat) (hj : j < i + 1) : ∃ h : j < (fs.take (i + 1) ++ more).length,
      (fs.take (i + 1) ++ more)[j] = fs[j] :=
    List.getElem?_eq_some_iff.1 (place j hj).2
  obtain ⟨hi', same⟩ := here i (Nat.lt_succ_self i)
  refine ⟨hi', ?_, fun j hj => ?_⟩
  · rw [(place i (Nat.lt_succ_self i)).1, same]
    exact refused
  · rw [(place j (Nat.lt_succ_of_lt hj)).1, (here j (Nat.lt_succ_of_lt hj)).2]
    exact passed j hj

theorem render_bad_path (h : ¬IsCratePath path) (fs : List Family) :
    render fs path = .error (.invalidCratePath path) := by
  rw [isCratePath_iff] at h
  rw [render_eq, checkPath, if_neg h]
  rfl

theorem render_of_path (h : IsCratePath path) (fs : List Family) :
    render fs path = (checkFamilies [] fs).map (text path) := by
  rw [render_eq, checkPath, if_pos (isCratePath_iff.1 h)]
  cases checkFamilies [] fs <;> rfl

theorem render_error_iff : render fs path = .error e ↔
    (¬IsCratePath path ∧ e = .invalidCratePath path) ∨
      (IsCratePath path ∧ ∃ i, FailsAt fs i e) := by
  by_cases isPath : IsCratePath path
  · rw [render_of_path isPath, ← checkFamilies_error_iff_failsAt]
    cases checkFamilies [] fs <;> simp [Except.map, isPath]
  · rw [render_bad_path isPath, Except.error.injEq]
    simp [isPath, eq_comm]

theorem render_ok_iff_accepted : (∃ text, render fs path = .ok text) ↔
    IsCratePath path ∧ ∀ i (h : i < fs.length), Accepted (fs.take i) fs[i] := by
  rw [← checkFamilies_ok_iff_accepted]
  by_cases isPath : IsCratePath path
  · rw [render_of_path isPath]
    cases checkFamilies [] fs <;> simp [Except.map, isPath]
  · rw [render_bad_path isPath]
    simp [isPath]

theorem render_append_error (h : render fs path = .error e) (more : List Family) :
    render (fs ++ more) path = .error e := by
  rw [render_error_iff] at h ⊢
  rcases h with bad | ⟨isPath, i, fails⟩
  · exact .inl bad
  · refine .inr ⟨isPath, i, ?_⟩
    have extended := fails.replace (fs.drop (i + 1) ++ more)
    rwa [← List.append_assoc, List.take_append_drop] at extended

theorem render_take_ok {text : String} (h : render fs path = .ok text) (n : Nat) :
    ∃ text', render (fs.take n) path = .ok text' := by
  cases taken : render (fs.take n) path with
  | ok text' => exact ⟨text', rfl⟩
  | error e =>
    have extended := render_append_error taken (fs.drop n)
    rw [List.take_append_drop, h] at extended
    cases extended

/-- A module is written exactly if the path is one and every family is accepted behind those before
it. Otherwise the path is blamed if it is none, and else the first family that is refused, for the
first reason that applies; families behind it do not matter. -/
theorem render_outcome (families : List Family) (path : String) :
    ((∃ text, render families path = .ok text) ↔
        IsCratePath path ∧
          ∀ i (h : i < families.length), Accepted (families.take i) families[i]) ∧
      (∀ e, render families path = .error e ↔
        (¬IsCratePath path ∧ e = .invalidCratePath path) ∨
          (IsCratePath path ∧ ∃ i, FailsAt families i e)) ∧
      (render families path = .error .missingFontName →
        ∃ i, ∃ h : i < families.length, families[i].fontName = none) ∧
      (∀ e, render families path = .error e →
        ∀ more, render (families ++ more) path = .error e) ∧
      (∀ i e, IsCratePath path → FailsAt families i e →
        ∀ more, render (families.take (i + 1) ++ more) path = .error e) ∧
      ∀ text, render families path = .ok text →
        ∀ n, ∃ text', render (families.take n) path = .ok text' := by
  refine ⟨render_ok_iff_accepted, fun e => render_error_iff, fun missing => ?_,
    fun e h more => render_append_error h more, fun i e isPath fails more => ?_,
    fun text h n => render_take_ok h n⟩
  · rcases render_error_iff.1 missing with ⟨-, other⟩ | ⟨-, i, h, refused, -⟩
    · cases other
    · cases refused with
      | noFont _ font => exact ⟨i, h, font⟩
  · exact render_error_iff.2 (.inr ⟨isPath, i, fails.replace more⟩)

end FontAccessors.Module
