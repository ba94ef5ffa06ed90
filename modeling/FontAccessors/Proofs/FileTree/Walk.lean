import FontAccessors.FileTree.Basic

namespace FontAccessors

theorem lookup_filter_ne {α β : Type} [BEq α] [LawfulBEq α] {a b : α} (h : b ≠ a)
    (entries : List (α × β)) : (entries.filter (·.1 != a)).lookup b = entries.lookup b := by
  induction entries with
  | nil => rfl
  | cons p entries ih =>
    obtain ⟨k, e⟩ := p
    by_cases same : k = a
    · subst same
      simp [List.lookup_cons, ih, beq_false_of_ne h]
    · simp [List.lookup_cons, ih, same]

namespace Location

def follow (l : Location) (ps : List String) : Location :=
  ps.foldl (fun l p => if p.isEmpty then l else l.step p) l

theorem follow_cons (l : Location) (p : String) (ps : List String) :
    l.follow (p :: ps) = (if p.isEmpty then l else l.step p).follow ps := rfl

def ofPath (path : String) : Location :=
  (start path).follow (FilePath.pieces path)

end Location

namespace FileTree

variable {t t' : FileTree} {l l' : Location} {e : Entry} {path : String} {bytes : ByteArray}

theorem entry_put (h : t.entry? l ≠ some .directory) (e : Entry) (l' : Location) :
    FileTree.entry? (t.put l e) l' = if l' = l then some e else t.entry? l' := by
  have named : l.names.isEmpty = false := by
    cases outermost : l.names.isEmpty with
    | false => rfl
    | true => simp [ entry?, outermost] at h
  split
  case isTrue same =>
    subst same
    simp [ entry?, put, named]
  case isFalse other =>
    simp [ entry?, put, List.lookup_cons, lookup_filter_ne other, beq_false_of_ne other]

def Keeps (t t' : FileTree) : Prop :=
  ∀ l, t.entry? l = some .directory → t'.entry? l = some .directory

theorem walk_cons_ok {p : String} {ps : List String} (named : p.isEmpty = false) :
    t.walk l (p :: ps) = .ok l' ↔
      t.entry? l = some .directory ∧ p.utf8ByteSize ≤ nameLimit ∧
        t.walk (l.step p) ps = .ok l' := by
  rw [walk, named]
  cases t.entry? l with
  | none => simp
  | some e =>
    cases e with
    | file bytes => simp
    | directory =>
      by_cases long : nameLimit < p.utf8ByteSize
      · simp [long, Nat.not_le.2 long]
      · simp [long, Nat.not_lt.1 long]

theorem walk_ok {ps : List String} (h : t.walk l ps = .ok l') : l' = l.follow ps := by
  induction ps generalizing l with
  | nil =>
    cases h
    rfl
  | cons p ps ih =>
    cases named : p.isEmpty with
    | true =>
      rw [walk, named] at h
      rw [ih h, Location.follow_cons, named]
      rfl
    | false =>
      obtain ⟨-, -, h⟩ := (walk_cons_ok named).1 h
      rw [ih h, Location.follow_cons, named]
      rfl

theorem walk_of_keeps (keeps : Keeps t t') {ps : List String} (h : t.walk l ps = .ok l') :
    t'.walk l ps = .ok l' := by
  induction ps generalizing l with
  | nil => exact h
  | cons p ps ih =>
    cases named : p.isEmpty with
    | true =>
      rw [walk, named] at h ⊢
      exact ih h
    | false =>
      obtain ⟨directory, short, h⟩ := (walk_cons_ok named).1 h
      exact (walk_cons_ok named).2 ⟨keeps l directory, short, ih h⟩

theorem locate_ok_iff : t.locate path = .ok l ↔
    '\x00' ∉ path.toList ∧ path ≠ "" ∧ path.utf8ByteSize ≤ pathLimit ∧
      t.walk (.start path) (FilePath.pieces path) = .ok l := by
  rw [locate]
  split
  case isTrue null => simp_all
  case isFalse null =>
    split
    case isTrue empty => simp_all
    case isFalse empty =>
      split
      case isTrue long =>
        simp
        omega
      case isFalse long => simp_all

theorem locate_ok (h : t.locate path = .ok l) : l = .ofPath path :=
  walk_ok (locate_ok_iff.1 h).2.2.2

theorem locate_of_keeps (keeps : Keeps t t') (h : t.locate path = .ok l) :
    t'.locate path = .ok l := by
  obtain ⟨noNull, named, short, walked⟩ := locate_ok_iff.1 h
  exact locate_ok_iff.2 ⟨noNull, named, short, walk_of_keeps keeps walked⟩

theorem read_ok_iff : t.read path = .ok bytes ↔
    t.locate path = .ok (.ofPath path) ∧ t.entry? (.ofPath path) = some (.file bytes) ∧
      FilePath.endsInSlash path = false := by
  rw [read]
  cases located : t.locate path with
  | error e => simp [bind, Except.bind]
  | ok l =>
    cases locate_ok located
    cases entry : t.entry? (.ofPath path) with
    | none => simp [bind, Except.bind, entry]
    | some e =>
      cases e with
      | directory => simp [bind, Except.bind, entry]
      | file old => cases slash : FilePath.endsInSlash path <;> simp [bind, Except.bind, entry]

theorem write_ok_iff : t.write path bytes = .ok t' ↔
    t.locate path = .ok (.ofPath path) ∧ t.entry? (.ofPath path) ≠ some .directory ∧
      FilePath.endsInSlash path = false ∧ t' = t.put (.ofPath path) (.file bytes) := by
  rw [write]
  cases located : t.locate path with
  | error e => simp [bind, Except.bind]
  | ok l =>
    cases locate_ok located
    cases slash : FilePath.endsInSlash path with
    | true => simp [bind, Except.bind]
    | false =>
      cases entry : t.entry? (.ofPath path) with
      | none => simp [bind, Except.bind, pure, Except.pure, entry, eq_comm]
      | some e =>
        cases e with
        | directory => simp [bind, Except.bind, entry, Entry.isDirectory]
        | file old =>
          simp [bind, Except.bind, pure, Except.pure, entry, Entry.isDirectory, eq_comm]

theorem makeDirectory_ok_iff : t.makeDirectory path = .ok t' ↔
    t.locate path = .ok (.ofPath path) ∧ t.entry? (.ofPath path) = none ∧
      t' = t.put (.ofPath path) .directory := by
  rw [makeDirectory]
  cases located : t.locate path with
  | error e => simp [bind, Except.bind]
  | ok l =>
    cases locate_ok located
    cases entry : t.entry? (.ofPath path) with
    | none => simp [bind, Except.bind, pure, Except.pure, entry, eq_comm]
    | some e => simp [bind, Except.bind, entry]

theorem keeps_put_file (h : t.entry? l ≠ some .directory) (bytes : ByteArray) :
    Keeps t (t.put l (.file bytes)) := by
  intro l' directory
  have other : l' ≠ l := by
    rintro rfl
    exact h directory
  rw [entry_put h, if_neg other, directory]

theorem read_write (h : t.write path bytes = .ok t') : t'.read path = .ok bytes := by
  obtain ⟨located, free, slash, rfl⟩ := write_ok_iff.1 h
  refine read_ok_iff.2 ⟨locate_of_keeps (keeps_put_file free bytes) located, ?_, slash⟩
  rw [entry_put free, if_pos rfl]

end FileTree
end FontAccessors
