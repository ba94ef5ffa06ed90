import FontAccessors.Proofs.FileTree.Normal

/-!
# Saving in either order

* `saves_closed`: saving keeps each entry of a tree in a directory.
* `save_of_writable`, `writable_of_save`: when a text can be saved at a normal path, and the tree
  that comes of it.
* `save_commutes`: texts that can be saved one after the other at different paths can be saved the
  other way round, with the same tree in the end.
-/

namespace FontAccessors
open FilePath Location

namespace FileTree

variable {t t' : FileTree} {l l' : Location} {e : Entry} {path : String} {bytes : ByteArray}

/-- What there is in a tree is in a directory. -/
def IsClosed (t : FileTree) : Prop :=
  ∀ l, t.entry? l ≠ none → t.entry? l.parent = some .directory

theorem entry_of_unnamed (t : FileTree) (h : l.names = []) : t.entry? l = some .directory := by
  simp [ entry?, h]

theorem parent_ne (h : l.names ≠ []) : l.parent ≠ l := by
  obtain ⟨o, names⟩ := l
  cases names with
  | nil => exact absurd rfl h
  | cons n ns =>
    intro same
    have shorter := congrArg (fun l => l.names.length) same
    simp [Location.parent] at shorter

theorem isClosed_empty : IsClosed empty := by
  intro l there
  cases named : l.names with
  | nil =>
    refine entry_of_unnamed empty ?_
    obtain ⟨o | _, names⟩ := l <;> cases named <;> rfl
  | cons n ns => simp [ entry?, empty, named] at there

theorem IsClosed.put (h : t.IsClosed) (free : t.entry? l ≠ some .directory)
    (inside : t.entry? l.parent = some .directory) (e : Entry) : (t.put l e).IsClosed := by
  intro l' there
  have kept : ∀ l', l' ≠ l → FileTree.entry? (t.put l e) l' = t.entry? l' := fun l' other => by
    rw [entry_put free, if_neg other]
  by_cases same : l' = l
  · subst same
    rw [kept _ (parent_ne fun unnamed => free (entry_of_unnamed t unnamed)), inside]
  · rw [kept l' same] at there
    have up := h l' there
    rw [kept _ ?_, up]
    intro here
    rw [here] at up
    exact free up

theorem IsClosed.inside_of_walk (h : t.IsClosed) {ps : List String}
    (inside : t.entry? l.parent = some .directory) (walked : t.walk l ps = .ok l') :
    t.entry? l'.parent = some .directory := by
  induction ps generalizing l with
  | nil =>
    cases walked
    exact inside
  | cons p ps ih =>
    cases named : p.isEmpty with
    | true =>
      rw [walk, named] at walked
      exact ih inside walked
    | false =>
      obtain ⟨directory, -, walked⟩ := (walk_cons_ok named).1 walked
      refine ih ?_ walked
      rw [step]
      split
      · exact inside
      · split
        · exact h _ (by simp [inside])
        · exact directory

theorem IsClosed.inside_of_locate (h : t.IsClosed) (located : t.locate path = .ok l) :
    t.entry? l.parent = some .directory := by
  refine h.inside_of_walk (entry_of_unnamed t ?_) (locate_ok_iff.1 located).2.2.2
  rw [start]
  split <;> rfl

theorem IsClosed.ensure (h : t.IsClosed) (path : String) : (t.ensure path).2.IsClosed := by
  rw [FileTree.ensure]
  split
  case h_1 made =>
    obtain ⟨located, free, rfl⟩ := makeDirectory_ok_iff.1 made
    exact h.put (by simp [free]) (h.inside_of_locate located) .directory
  case h_2 => exact h

end FileTree

open FileTree

variable {t t' t₁ t₂ : FileTree} {l : Location} {path path' text text' : String}
  {bytes bytes' : ByteArray}

theorem makeDirectories_closed (h : t.IsClosed) (paths : List String) :
    ((makeDirectories paths : StateM FileTree _) t).2.IsClosed := by
  induction paths generalizing t with
  | nil => exact h
  | cons path above ih =>
    rw [makeDirectories_cons]
    split
    case h_1 =>
      have upward := ih h
      split
      case h_1 t' made =>
        rw [made] at upward
        exact upward.ensure path
      case h_2 made =>
        rw [made] at upward
        exact upward
    case h_2 => exact h.ensure path

theorem saves_closed (h : t.IsClosed) (path text : String) :
    ((save path text : StateM FileTree _) t).2.IsClosed := by
  by_cases read : t.read path = .ok text.toUTF8
  · rw [save_of_read read]
    exact h
  · have upward := makeDirectories_closed h (directories path)
    rw [save_of_unlike read, overwrite_eq]
    rcases made : (makeDirectories (directories path) : StateM FileTree _) t with
      ⟨⟨e⟩ | ⟨⟨⟩⟩, t'⟩
    all_goals rw [made] at upward
    · exact upward
    · cases written : t'.write path text.toUTF8 with
      | error e => simpa only [written] using upward
      | ok t'' =>
        obtain ⟨located, free, -, rfl⟩ := write_ok_iff.1 written
        simpa only [written] using upward.put free (upward.inside_of_locate located) _

structure Writable (path : String) (t : FileTree) : Prop where
  fits : Fits path
  through : ∀ l, Through path l → ∀ bytes, t.entry? l ≠ some (.file bytes)
  free : t.entry? (.ofPath path) ≠ some .directory

structure Written (path : String) (bytes : ByteArray) (t t' : FileTree) : Prop where
  file : t'.entry? (.ofPath path) = some (.file bytes)
  through : ∀ l, Through path l → t'.entry? l = some .directory
  rest : ∀ l, l ≠ .ofPath path → ¬Through path l → t'.entry? l = t.entry? l

theorem written_of_read (normal : IsNormal path) (h : t.read path = .ok bytes) :
    Written path bytes t t := by
  obtain ⟨located, file, -⟩ := read_ok_iff.1 h
  exact ⟨file, fun l through => through_of_locate normal located through, fun _ _ _ => rfl⟩

theorem written_of_write (normal : IsNormal path) (made : Made (Through path) t t')
    (h : t'.write path bytes = .ok t₁) : Written path bytes t t₁ := by
  obtain ⟨-, free, -, rfl⟩ := write_ok_iff.1 h
  refine ⟨by rw [entry_put free, if_pos rfl], fun l through => ?_, fun l other apart => ?_⟩
  · have other : l ≠ .ofPath path := by
      rintro rfl
      exact not_through_ofPath normal through
    rw [entry_put free, if_neg other, made.there l through]
  · rw [entry_put free, if_neg other, made.rest l apart]

theorem save_of_writable (normal : IsNormal path) (h : Writable path t) (text : String) :
    ∃ b t', (save path text : StateM FileTree _) t = (.ok b, t') ∧
      (b = false ↔ t.read path = .ok text.toUTF8) ∧ Written path text.toUTF8 t t' := by
  by_cases read : t.read path = .ok text.toUTF8
  · exact ⟨false, t, save_of_read read, by simp [read], written_of_read normal read⟩
  · obtain ⟨t', ends, made⟩ := makeDirectories_through normal h.fits h.through
    have free : t'.entry? (.ofPath path) ≠ some .directory := by
      rw [made.rest _ (not_through_ofPath normal)]
      exact h.free
    have written : t'.write path text.toUTF8 = .ok (t'.put (.ofPath path) (.file text.toUTF8)) :=
      write_ok_iff.2 ⟨locate_of_through normal h.fits made.there, free, normal.endsInSlash_eq, rfl⟩
    refine ⟨true, t'.put (.ofPath path) (.file text.toUTF8), ?_,
      ⟨nofun, fun same => absurd same read⟩, written_of_write normal made written⟩
    rw [save_of_unlike read, overwrite_eq, ends]
    simp only [written]
    rfl

theorem writable_of_save (normal : IsNormal path) {b : Bool}
    (h : (save path text : StateM FileTree _) t = (.ok b, t')) :
    Writable path t ∧ Written path text.toUTF8 t t' := by
  have ends := saves path text t
  rw [h] at ends
  have writable : Writable path t := by
    cases ends with
    | kept read =>
      obtain ⟨located, file, -⟩ := read_ok_iff.1 read
      have there := fun l => through_of_locate (l := l) normal located
      exact ⟨fits_of_locate normal located, fun l through => by simp [there l through],
        by simp [file]⟩
    | written _ spreads write =>
      obtain ⟨located, free, -, -⟩ := write_ok_iff.1 write
      refine ⟨fits_of_locate normal located, fun l through bytes file => ?_,
        fun directory => free (spreads.keeps _ directory)⟩
      have there := through_of_locate normal located through
      rw [spreads.file_iff.2 file] at there
      cases there
  obtain ⟨b', t'', ends', -, written⟩ := save_of_writable normal writable text
  rw [h] at ends'
  cases ends'
  exact ⟨writable, written⟩

theorem parent_follow (l : Location) (ps : List String) {x : String} (named : IsNormalName x) :
    (l.follow (ps ++ [x])).parent = l.follow ps := by
  obtain ⟨some, noDot, noDots⟩ := named
  rw [follow_append, follow_cons, if_neg (by simpa using some), step, if_neg noDot, if_neg noDots]
  rfl

theorem FileTree.IsClosed.through (closed : t.IsClosed) (normal : IsNormal path)
    (there : t.entry? (.ofPath path) ≠ none) (through : Through path l) :
    t.entry? l = some .directory := by
  obtain ⟨ps, x, qs, split, rfl⟩ := through
  have names : ∀ p ∈ x :: qs, IsNormalName p := fun p mem => normal p (by rw [split]; simp_all)
  rw [ofPath, split] at there
  clear split
  induction qs generalizing ps x with
  | nil =>
    rw [← parent_follow (start path) ps (names x List.mem_cons_self)]
    exact closed _ there
  | cons q qs ih =>
    rw [List.append_cons] at there
    have next := ih (ps ++ [x]) q there fun p mem => names p (List.mem_cons_of_mem x mem)
    rw [← parent_follow (start path) ps (names x List.mem_cons_self)]
    exact closed _ (by simp [next])

theorem read_iff_file (closed : t.IsClosed) (normal : IsNormal path) (fits : Fits path) :
    t.read path = .ok bytes ↔ t.entry? (.ofPath path) = some (.file bytes) := by
  rw [read_ok_iff]
  refine ⟨fun read => read.2.1, fun file => ⟨?_, file, normal.endsInSlash_eq⟩⟩
  exact locate_of_through normal fits fun l => closed.through normal (by simp [file])

structure Apart (path path' : String) : Prop where
  other : Location.ofPath path ≠ .ofPath path'
  inside : ¬Through path (.ofPath path')
  outside : ¬Through path' (.ofPath path)

theorem Apart.symm (h : Apart path path') : Apart path' path :=
  ⟨h.other.symm, h.outside, h.inside⟩

theorem apart_of_written (other : Location.ofPath path ≠ .ofPath path')
    (first : Written path bytes t t₁) (next : Writable path' t₁) : Apart path path' where
  other := other
  inside through := next.free (first.through _ through)
  outside through := next.through _ through bytes first.file

theorem Written.entry_other (h : Written path bytes t t₁) (apart : Apart path path') :
    t₁.entry? (.ofPath path') = t.entry? (.ofPath path') :=
  h.rest _ apart.other.symm apart.inside

theorem Writable.before (h : Writable path' t₁) (first : Written path bytes t t₁)
    (writable : Writable path t) (apart : Apart path path') : Writable path' t where
  fits := h.fits
  through l through bytes' file := by
    by_cases same : l = .ofPath path
    · exact apart.outside (same ▸ through)
    · by_cases shared : Through path l
      · exact writable.through l shared bytes' file
      · exact h.through l through bytes' ((first.rest l same shared).trans file)
  free directory := h.free ((first.entry_other apart).trans directory)

theorem Writable.after (h : Writable path t) (first : Written path' bytes' t t₁)
    (apart : Apart path path') : Writable path t₁ where
  fits := h.fits
  through l through bytes file := by
    by_cases shared : Through path' l
    · rw [first.through l shared] at file
      cases file
    · have other : l ≠ .ofPath path' := by
        rintro rfl
        exact apart.inside through
      exact h.through l through bytes ((first.rest l other shared).symm.trans file)
  free directory := h.free ((first.entry_other apart.symm).symm.trans directory)

theorem written_commute (apart : Apart path path') {u₁ u₂ : FileTree}
    (first : Written path bytes t t₁) (second : Written path' bytes' t₁ t₂)
    (first' : Written path' bytes' t u₁) (second' : Written path bytes u₁ u₂) (l : Location) :
    u₂.entry? l = t₂.entry? l := by
  by_cases here : l = .ofPath path
  · rw [here, second'.file, second.entry_other apart.symm, first.file]
  by_cases there : l = .ofPath path'
  · rw [there, second.file, second'.entry_other apart, first'.file]
  by_cases through : Through path l
  · rw [second'.through l through]
    by_cases through' : Through path' l
    · rw [second.through l through']
    · rw [second.rest l there through', first.through l through]
  · rw [second'.rest l here through]
    by_cases through' : Through path' l
    · rw [first'.through l through', second.through l through']
    · rw [first'.rest l there through', second.rest l there through', first.rest l here through]

theorem read_other_iff (closed : t.IsClosed) (closed₁ : t₁.IsClosed) (normal : IsNormal path')
    (fits : Fits path') (first : Written path bytes t t₁) (apart : Apart path path') :
    t₁.read path' = .ok bytes' ↔ t.read path' = .ok bytes' := by
  rw [read_iff_file closed normal fits, read_iff_file closed₁ normal fits,
    first.entry_other apart]

theorem save_ok (closed : t.IsClosed) {b : Bool}
    (h : (save path text : StateM FileTree _) t = (.ok b, t')) :
    t'.IsClosed ∧ (b = false ↔ t.read path = .ok text.toUTF8) := by
  have ends := saves path text t
  have closed' := saves_closed closed path text
  rw [h] at ends closed'
  exact ⟨closed', by simpa using ends.kept_iff⟩

/-- Saving two texts at different normal paths gives the same tree in either order, with the same
answers, and if it succeeds in one order it does in the other. -/
theorem save_commutes (closed : t.IsClosed) (normal : IsNormal path) (normal' : IsNormal path')
    (distinct : path ≠ path') {b b' : Bool}
    (first : (save path text : StateM FileTree _) t = (.ok b, t₁))
    (second : (save path' text' : StateM FileTree _) t₁ = (.ok b', t₂)) :
    ∃ u₁ u₂, (save path' text' : StateM FileTree _) t = (.ok b', u₁) ∧
      (save path text : StateM FileTree _) u₁ = (.ok b, u₂) ∧ ∀ l, u₂.entry? l = t₂.entry? l := by
  obtain ⟨writable, written⟩ := writable_of_save normal first
  obtain ⟨writable', written'⟩ := writable_of_save normal' second
  -- Each text can be saved in either order, and whether it was there does not depend on the order.
  have apart := apart_of_written (mt (ofPath_injective normal normal') distinct) written writable'
  obtain ⟨c', u₁, ends', answer', w'⟩ :=
    save_of_writable normal' (writable'.before written writable apart) text'
  obtain ⟨c, u₂, ends, answer, w⟩ := save_of_writable normal (writable.after w' apart) text
  obtain ⟨closed₁, kept⟩ := save_ok closed first
  obtain ⟨-, kept'⟩ := save_ok closed₁ second
  obtain ⟨closed', -⟩ := save_ok closed ends'
  rw [read_other_iff closed closed₁ normal' writable'.fits written apart, ← answer'] at kept'
  rw [read_other_iff closed closed' normal writable.fits w' apart.symm, ← kept] at answer
  have same : c = b := by simpa using answer
  have same' : c' = b' := by simpa using kept'.symm
  subst same same'
  exact ⟨u₁, u₂, ends', ends, written_commute apart written written' w' w⟩

def exampleSaved : FileTree :=
  ((save "generated/menlo.rs" "// Menlo\n" : StateM FileTree _) .empty).2

theorem save_commutes_shared :
    ∃ t₁ t₂, (save "generated/menlo.rs" "// Menlo\n" : StateM FileTree _) exampleSaved =
        (.ok false, t₁) ∧
      (save "generated/more/avenir.rs" "// Avenir\n" : StateM FileTree _) t₁ = (.ok true, t₂) ∧
      ∃ u₁ u₂, (save "generated/more/avenir.rs" "// Avenir\n" : StateM FileTree _) exampleSaved =
          (.ok true, u₁) ∧
        (save "generated/menlo.rs" "// Menlo\n" : StateM FileTree _) u₁ = (.ok false, u₂) ∧
        ∀ l, u₂.entry? l = t₂.entry? l := by
  have first : (save "generated/menlo.rs" "// Menlo\n" : StateM FileTree _) exampleSaved =
      (.ok false, ((save "generated/menlo.rs" "// Menlo\n" : StateM FileTree _) exampleSaved).2) :=
    Prod.ext (by decide +kernel) rfl
  -- a tree without a name is computed again wherever two of them are compared
  generalize tree :
    ((save "generated/menlo.rs" "// Menlo\n" : StateM FileTree _) exampleSaved).2 = t₁ at first
  have second : ((save "generated/more/avenir.rs" "// Avenir\n" : StateM FileTree _) t₁).1 =
      .ok true := by
    rw [← tree]
    decide +kernel
  exact ⟨t₁, _, first, Prod.ext second rfl,
    save_commutes (saves_closed isClosed_empty _ _) (by decide) (by decide) (by decide) first
      (Prod.ext second rfl)⟩

end FontAccessors
