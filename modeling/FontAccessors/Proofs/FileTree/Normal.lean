import FontAccessors.Proofs.FileTree.Effects

namespace FontAccessors

/-! ## Normal paths -/

namespace FilePath
open Text

def IsNormalName (p : String) : Prop :=
  p ≠ "" ∧ p ≠ "." ∧ p ≠ ".."

instance : DecidablePred IsNormalName :=
  fun p => inferInstanceAs (Decidable (p ≠ "" ∧ p ≠ "." ∧ p ≠ ".."))

/-- A sequence of names, none of them empty and none of them special. -/
def IsNormal (path : String) : Prop :=
  ∀ p ∈ pieces path, IsNormalName p

instance : DecidablePred IsNormal :=
  fun path => inferInstanceAs (Decidable (∀ p ∈ pieces path, IsNormalName p))

variable {path d : String}

theorem pieces_ne_nil (path : String) : pieces path ≠ [] := by
  simp [pieces, split_ne_nil]

theorem ofPieces (path : String) :
    String.ofList (join '/' ((pieces path).map String.toList)) = path := by
  rw [pieces, List.map_map]
  simp [Function.comp_def, join_split]

theorem pieces_injective (h : pieces path = pieces d) : path = d := by
  rw [← ofPieces path, h, ofPieces d]

theorem length_split_le (c : Char) (s : List Char) : (split c s).length ≤ s.length + 1 := by
  induction s with
  | nil => simp [split]
  | cons d s ih =>
    rw [split]
    split
    · simpa using ih
    · cases pieces : split c s with
      | nil => simp
      | cons p ps =>
        rw [pieces] at ih
        simp only [List.length_cons] at ih ⊢
        omega

theorem length_pieces_le (path : String) : (pieces path).length ≤ path.length + 1 := by
  rw [pieces, List.length_map, ← String.length_toList]
  exact length_split_le '/' path.toList

namespace IsNormal

theorem ne_empty (h : IsNormal path) : path ≠ "" := by
  rintro rfl
  exact (h "" (by decide)).1 rfl

theorem isRooted_eq (h : IsNormal path) : isRooted path = false := by
  rw [isRooted, beq_eq_false_iff_ne]
  intro rooted
  obtain ⟨s, front⟩ := List.head?_eq_some_iff.1 rooted
  have first : "" ∈ pieces path := by simp [pieces, front, split]
  exact (h "" first).1 rfl

theorem endsInSlash_eq (h : IsNormal path) : endsInSlash path = false := by
  rw [endsInSlash, beq_eq_false_iff_ne]
  intro slash
  obtain ⟨s, back⟩ := List.getLast?_eq_some_iff.1 slash
  have last : "" ∈ pieces path := by simp [pieces, back, split_append, split]
  exact (h "" last).1 rfl

theorem not_isFiller (h : IsNormal path) {p : List Char} (mem : p ∈ split '/' path.toList) :
    isFiller p = false := by
  obtain ⟨named, noDot, -⟩ := h (String.ofList p) (List.mem_map_of_mem mem)
  simp only [isFiller, Bool.or_eq_false_iff, decide_eq_false_iff_not]
  refine ⟨?_, ?_⟩
  · rintro rfl
    exact named rfl
  · rintro rfl
    exact noDot rfl

end IsNormal

theorem trimEnd_eq {ps : List (List Char)} (h : ∀ p ∈ ps, isFiller p = false) :
    trimEnd ps = ps := by
  refine List.rdropWhile_eq_self_iff.2 fun some => ?_
  simp [h _ (List.getLast_mem some)]

theorem parent_normal (h : IsNormal path) : ∃ d x, parent? path = some d ∧
    (d = "" ∧ pieces path = [x] ∨ d ≠ "" ∧ IsNormal d ∧ pieces path = pieces d ++ [x]) := by
  cases split : split '/' path.toList with
  | nil => exact absurd split (split_ne_nil '/' path.toList)
  | cons first rest =>
    have solid : ∀ p ∈ first :: rest, isFiller p = false := fun p mem =>
      h.not_isFiller (by rw [split]; exact mem)
    have named : first ≠ [] := by
      rintro rfl
      cases solid [] List.mem_cons_self
    -- No piece is empty or a dot, so nothing is trimmed at the end.
    have all : trimEnd rest = rest :=
      trimEnd_eq fun p mem => solid p (List.mem_cons_of_mem first mem)
    rcases List.eq_nil_or_concat rest with rfl | ⟨above, x, last⟩
    · refine ⟨"", String.ofList first, ?_, .inl ⟨rfl, ?_⟩⟩
      · simp [parent?, split, trimEnd, named]
      · simp [pieces, split]
    · rw [List.concat_eq_append] at last
      subst last
      have kept : trimEnd above = above := trimEnd_eq fun p mem => solid p (by simp [mem])
      have above_eq : pieces (String.ofList (join '/' (first :: above))) =
          (first :: above).map String.ofList := by
        refine pieces_ofChars (List.cons_ne_nil first above) fun p mem => ?_
        refine not_mem_of_mem_split (s := path.toList) ?_
        rw [split, ← List.cons_append]
        exact List.mem_append_left _ mem
      refine ⟨String.ofList (join '/' (first :: above)), String.ofList x, ?_, .inr ⟨?_, ?_, ?_⟩⟩
      · rw [parent?, split]
        simp [all, kept, named]
      · cases above <;> simp [join, named]
      · intro p mem
        rw [above_eq] at mem
        refine h p ?_
        rw [pieces, split, ← List.cons_append, List.map_append]
        exact List.mem_append_left _ mem
      · rw [above_eq, pieces, split]
        simp

end FilePath

/-! ## Their places -/

namespace Location
open FilePath

variable {l : Location} {path path' d : String}

theorem follow_names {ps : List String} (h : ∀ p ∈ ps, IsNormalName p) :
    l.follow ps = ⟨l.origin, ps.reverse ++ l.names⟩ := by
  induction ps generalizing l with
  | nil => rfl
  | cons p ps ih =>
    obtain ⟨named, noDot, noDots⟩ := h p List.mem_cons_self
    rw [follow_cons, if_neg (by simpa using named),
      ih fun q mem => h q (List.mem_cons_of_mem p mem),
      step, if_neg noDot, if_neg noDots]
    simp

theorem start_normal (h : IsNormal path) : start path = here := by
  rw [start, h.isRooted_eq]
  rfl

theorem ofPath_normal (h : IsNormal path) :
    ofPath path = ⟨.above 0, (pieces path).reverse⟩ := by
  rw [ofPath, start_normal h, follow_names h]
  simp [here]

theorem ofPath_injective (h : IsNormal path) (h' : IsNormal path')
    (same : ofPath path = ofPath path') : path = path' := by
  rw [ofPath_normal h, ofPath_normal h'] at same
  exact pieces_injective (by simpa using same)

def Through (path : String) (l : Location) : Prop :=
  ∃ ps x qs, pieces path = ps ++ x :: qs ∧ l = (start path).follow ps

theorem not_through_ofPath (h : IsNormal path) : ¬Through path (ofPath path) := by
  rintro ⟨ps, x, qs, split, place⟩
  have before : ∀ p ∈ ps, IsNormalName p := fun p mem => h p (by simp [split, mem])
  rw [ofPath_normal h, start_normal h, follow_names before, split] at place
  have longer := congrArg (fun l => l.names.length) place
  simp only [here, List.length_reverse, List.length_append, List.length_cons,
    List.length_nil] at longer
  omega

theorem through_single {x : String} (h : IsNormal path) (single : pieces path = [x]) :
    Through path l ↔ l = here := by
  rw [Through, start_normal h, single]
  constructor
  · rintro ⟨ps, y, qs, split, rfl⟩
    cases ps with
    | nil => rfl
    | cons p ps => simp at split
  · rintro rfl
    exact ⟨[], x, [], rfl, rfl⟩

theorem through_snoc {x : String} (h : IsNormal path) (h' : IsNormal d)
    (longer : pieces path = pieces d ++ [x]) :
    Through path l ↔ Through d l ∨ l = ofPath d := by
  rw [Through, Through, ofPath, start_normal h, start_normal h', longer]
  constructor
  · rintro ⟨ps, y, qs, split, rfl⟩
    rcases List.eq_nil_or_concat qs with rfl | ⟨qs, z, last⟩
    · exact .inr (by rw [(List.append_inj' split rfl).1])
    · rw [last, List.concat_eq_append, ← List.cons_append, ← List.append_assoc] at split
      exact .inl ⟨ps, y, qs, (List.append_inj' split rfl).1, rfl⟩
  · rintro (⟨ps, y, qs, split, rfl⟩ | rfl)
    · exact ⟨ps, y, qs ++ [x], by simp [split], rfl⟩
    · exact ⟨pieces d, x, [], rfl, rfl⟩

end Location

/-! ## Directories of normal paths -/

namespace FileTree
open FilePath Location

variable {t t' : FileTree} {l l' : Location} {path d : String}

structure Fits (path : String) : Prop where
  noNull : '\x00' ∉ path.toList
  short : path.utf8ByteSize ≤ pathLimit
  names : ∀ p ∈ pieces path, p.utf8ByteSize ≤ nameLimit

theorem Fits.parent (h : Fits path) (above : parent? path = some d) (named : d ≠ "")
    {x : String} (longer : pieces path = pieces d ++ [x]) : Fits d where
  noNull null := h.noNull ((startsWith_parent above named).subset null)
  short := (byteSize_le_of_startsWith (startsWith_parent above named)).trans h.short
  names p mem := h.names p (by simp [longer, mem])

theorem walk_of_directories {ps : List String} (named : ∀ p ∈ ps, p ≠ "")
    (short : ∀ p ∈ ps, p.utf8ByteSize ≤ nameLimit)
    (there : ∀ qs x rs, ps = qs ++ x :: rs → t.entry? (l.follow qs) = some .directory) :
    t.walk l ps = .ok (l.follow ps) := by
  induction ps generalizing l with
  | nil => rfl
  | cons p ps ih =>
    have some : p.isEmpty = false := by simpa using named p List.mem_cons_self
    refine (walk_cons_ok some).2 ⟨there [] p ps rfl, short p List.mem_cons_self, ?_⟩
    rw [follow_cons, some]
    refine ih (fun q mem => named q (List.mem_cons_of_mem p mem))
      (fun q mem => short q (List.mem_cons_of_mem p mem)) fun qs x rs split => ?_
    have up := there (p :: qs) x rs (by rw [split]; rfl)
    rw [follow_cons, some] at up
    exact up

theorem walk_of_missing {ps : List String} (named : ∀ p ∈ ps, p ≠ "")
    (short : ∀ p ∈ ps, p.utf8ByteSize ≤ nameLimit)
    (free : ∀ qs x rs, ps = qs ++ x :: rs → ∀ bytes, t.entry? (l.follow qs) ≠ some (.file bytes))
    (missing : ∃ qs x rs, ps = qs ++ x :: rs ∧ t.entry? (l.follow qs) ≠ some .directory) :
    t.walk l ps = .error .notFound := by
  induction ps generalizing l with
  | nil =>
    obtain ⟨qs, x, rs, split, -⟩ := missing
    simp at split
  | cons p ps ih =>
    have some : p.isEmpty = false := by simpa using named p List.mem_cons_self
    rw [walk, some]
    cases entry : t.entry? l with
    | none => rfl
    | some e =>
      cases e with
      | file bytes => exact absurd entry (free [] p ps rfl bytes)
      | directory =>
        have fits := Nat.not_lt.2 (short p List.mem_cons_self)
        simp only [Bool.false_eq_true, if_false, if_neg fits]
        refine ih (fun q mem => named q (List.mem_cons_of_mem p mem))
          (fun q mem => short q (List.mem_cons_of_mem p mem)) (fun qs x rs split => ?_) ?_
        · have up := free (p :: qs) x rs (by rw [split]; rfl)
          rw [follow_cons, some] at up
          exact up
        · obtain ⟨_ | ⟨q, qs⟩, x, rs, split, gone⟩ := missing
          · exact absurd entry gone
          · rw [List.cons_append, List.cons.injEq] at split
            obtain ⟨rfl, split⟩ := split
            rw [follow_cons, some] at gone
            exact ⟨qs, x, rs, split, gone⟩

theorem locate_of_through (normal : IsNormal path) (fits : Fits path)
    (there : ∀ l, Through path l → t.entry? l = some .directory) :
    t.locate path = .ok (.ofPath path) :=
  locate_ok_iff.2 ⟨fits.noNull, normal.ne_empty, fits.short,
    walk_of_directories (fun p mem => (normal p mem).1) fits.names
      fun qs x rs split => there _ ⟨qs, x, rs, split, rfl⟩⟩

theorem locate_of_missing (normal : IsNormal path) (fits : Fits path)
    (free : ∀ l, Through path l → ∀ bytes, t.entry? l ≠ some (.file bytes))
    (missing : ∃ l, Through path l ∧ t.entry? l ≠ some .directory) :
    t.locate path = .error .notFound := by
  obtain ⟨l, ⟨qs, x, rs, split, rfl⟩, gone⟩ := missing
  have walked := walk_of_missing (fun p mem => (normal p mem).1) fits.names
    (fun qs x rs split => free _ ⟨qs, x, rs, split, rfl⟩) ⟨qs, x, rs, split, gone⟩
  have noNull : path.toList.contains '\x00' = false := by simpa using fits.noNull
  rw [locate, noNull, if_neg (by simp), if_neg (by simpa using normal.ne_empty),
    if_neg (Nat.not_lt.2 fits.short), walked]

theorem through_of_locate (normal : IsNormal path) (h : t.locate path = .ok l')
    (through : Through path l) : t.entry? l = some .directory := by
  obtain ⟨-, -, -, walked⟩ := locate_ok_iff.1 h
  obtain ⟨ps, x, qs, split, rfl⟩ := through
  rw [split, walk_append_ok] at walked
  exact directory_of_walk walked.2 ⟨x, List.mem_cons_self, (normal x (by simp [split])).1⟩

theorem fits_of_locate (normal : IsNormal path) (h : t.locate path = .ok l) : Fits path := by
  obtain ⟨noNull, -, short, walked⟩ := locate_ok_iff.1 h
  refine ⟨noNull, short, fun p mem => ?_⟩
  obtain ⟨ps, qs, split⟩ := List.append_of_mem mem
  rw [split, walk_append_ok] at walked
  exact ((walk_cons_ok (by simpa using (normal p mem).1)).1 walked.2).2.1

/-! ## Making them -/

theorem ensure_of_locate (located : t.locate path = .ok (.ofPath path))
    (free : ∀ bytes, t.entry? (.ofPath path) ≠ some (.file bytes)) :
    ∃ t', t.ensure path = (.ok (), t') ∧ t'.entry? (.ofPath path) = some .directory ∧
      ∀ l, l ≠ .ofPath path → t'.entry? l = t.entry? l := by
  cases entry : t.entry? (.ofPath path) with
  | none =>
    have made := makeDirectory_ok_iff.2 ⟨located, entry, rfl⟩
    refine ⟨t.put (.ofPath path) .directory, by rw [ensure, made], ?_, fun l other => ?_⟩
    · rw [entry_put (by simp [entry]), if_pos rfl]
    · rw [entry_put (by simp [entry]), if_neg other]
  | some e =>
    cases e with
    | file bytes => exact absurd entry (free bytes)
    | directory =>
      exact ⟨t, ensure_of_isDirectory (isDirectory_iff.2 ⟨located, entry⟩), entry, fun _ _ => rfl⟩

theorem makeDirectory_ne_notFound (located : t.locate path = .ok l) :
    t.makeDirectory path ≠ .error .notFound := by
  cases entry : t.entry? l <;>
    simp [makeDirectory, located, bind, Except.bind, pure, Except.pure, entry]

theorem makeDirectory_of_locate_error {e : FileError} (h : t.locate path = .error e) :
    t.makeDirectory path = .error e := by
  simp [makeDirectory, h, bind, Except.bind]

structure Made (places : Location → Prop) (t t' : FileTree) : Prop where
  there : ∀ l, places l → t'.entry? l = some .directory
  rest : ∀ l, ¬places l → t'.entry? l = t.entry? l

def Along (path : String) (l : Location) : Prop :=
  Through path l ∨ l = .ofPath path

theorem Made.ensure (made : Made (Through path) t t') (normal : IsNormal path) (fits : Fits path)
    (free : ∀ bytes, t.entry? (.ofPath path) ≠ some (.file bytes)) :
    ∃ t'', t'.ensure path = (.ok (), t'') ∧ Made (Along path) t t'' := by
  have same := made.rest _ (not_through_ofPath normal)
  obtain ⟨t'', ends, directory, rest⟩ :=
    ensure_of_locate (locate_of_through normal fits made.there) (by rwa [same])
  refine ⟨t'', ends, fun l along => ?_, fun l apart => ?_⟩
  · by_cases last : l = .ofPath path
    · rw [last, directory]
    · rw [rest l last, made.there l (along.resolve_right last)]
  · obtain ⟨notThrough, notLast⟩ := not_or.1 apart
    rw [rest l notLast, made.rest l notThrough]

end FileTree

open FileTree FilePath Location

variable {t : FileTree} {path : String}

theorem makeDirectories_normal {n : Nat} (normal : IsNormal path) (fits : Fits path)
    (enough : (pieces path).length ≤ n)
    (free : ∀ l, Along path l → ∀ bytes, t.entry? l ≠ some (.file bytes)) :
    ∃ t', (makeDirectories (upwards n path) : StateM FileTree _) t = (.ok (), t') ∧
      Made (Along path) t t' := by
  induction n generalizing path t with
  | zero => exact absurd (List.length_eq_zero_iff.1 (Nat.le_zero.1 enough)) (pieces_ne_nil path)
  | succ n ih =>
    rw [upwards, if_neg (by simpa using normal.ne_empty), makeDirectories_cons]
    by_cases missing : ∃ l, Through path l ∧ t.entry? l ≠ some .directory
    · -- The directory above is made first, and then this one is tried again.
      have notFound :=
        locate_of_missing normal fits (fun l through => free l (.inl through)) missing
      rw [makeDirectory_of_locate_error notFound]
      obtain ⟨d, x, above, ⟨-, single⟩ | ⟨named, normal', longer⟩⟩ := parent_normal normal
      · obtain ⟨l, through, gone⟩ := missing
        rw [(through_single normal single).1 through] at gone
        exact absurd rfl gone
      · have through_iff : ∀ l, Through path l ↔ Along d l := fun l =>
          through_snoc normal normal' longer
        have shorter : (pieces d).length ≤ n := by simpa [longer] using enough
        obtain ⟨t', ends, made⟩ := ih normal' (fits.parent above named longer) shorter
          fun l along => free l (.inl ((through_iff l).2 along))
        rw [above, Option.map_some, Option.getD_some, ends]
        refine Made.ensure ⟨fun l through => made.there l ((through_iff l).1 through),
          fun l apart => made.rest l (mt (through_iff l).2 apart)⟩ normal fits (free _ (.inr rfl))
    · have there : Made (Through path) t t := by
        refine ⟨fun l through => ?_, fun _ _ => rfl⟩
        by_contra gone
        exact missing ⟨l, through, gone⟩
      split
      case h_1 notFound =>
        exact absurd notFound
          (makeDirectory_ne_notFound (locate_of_through normal fits there.there))
      case h_2 => exact there.ensure normal fits (free _ (.inr rfl))

theorem makeDirectories_through (normal : IsNormal path) (fits : Fits path)
    (free : ∀ l, Through path l → ∀ bytes, t.entry? l ≠ some (.file bytes)) :
    ∃ t', (makeDirectories (directories path) : StateM FileTree _) t = (.ok (), t') ∧
      Made (Through path) t t' := by
  obtain ⟨d, x, above, ⟨rfl, single⟩ | ⟨named, normal', longer⟩⟩ := parent_normal normal
  · refine ⟨t, ?_, fun l through => ?_, fun _ _ => rfl⟩
    · rw [directories, above, Option.map_some, Option.getD_some]
      cases path.length <;> rfl
    · rw [(through_single normal single).1 through]
      rfl
  · have through_iff : Through path = Along d := by
      funext l
      exact propext (through_snoc normal normal' longer)
    have shorter : (pieces d).length ≤ path.length := by
      have bound := length_pieces_le path
      simpa [longer] using bound
    rw [directories, above, Option.map_some, Option.getD_some, through_iff]
    exact makeDirectories_normal normal' (fits.parent above named longer) shorter
      (by rwa [← through_iff])

end FontAccessors
