import FontAccessors.Proofs.FileTree.Walk
import Mathlib.Data.List.DropRight

namespace FontAccessors

namespace Text

variable {c : Char}

theorem split_ne_nil (c : Char) (s : List Char) : split c s ≠ [] := by
  cases s with
  | nil => simp [split]
  | cons d s =>
    rw [split]
    split
    · simp
    · cases split c s <;> simp

theorem join_cons {p : List Char} {ps : List (List Char)} (h : ps ≠ []) :
    join c (p :: ps) = p ++ c :: join c ps := by
  cases ps with
  | nil => exact absurd rfl h
  | cons q ps => rfl

theorem join_split (c : Char) (s : List Char) : join c (split c s) = s := by
  induction s with
  | nil => rfl
  | cons d s ih =>
    rw [split]
    split
    case isTrue same => rw [join_cons (split_ne_nil c s), ih, same, List.nil_append]
    case isFalse =>
      cases pieces : split c s with
      | nil => exact absurd pieces (split_ne_nil c s)
      | cons p ps =>
        rw [pieces] at ih
        rw [← ih]
        cases ps <;> rfl

theorem not_mem_of_mem_split {s p : List Char} (h : p ∈ split c s) : c ∉ p := by
  induction s generalizing p with
  | nil => simp_all [split]
  | cons d s ih =>
    rw [split] at h
    split at h
    case isTrue =>
      rcases List.mem_cons.1 h with rfl | h
      · exact List.not_mem_nil
      · exact ih h
    case isFalse other =>
      cases pieces : split c s with
      | nil => exact absurd pieces (split_ne_nil c s)
      | cons q ps =>
        rw [pieces] at h ih
        rcases List.mem_cons.1 h with rfl | h
        · rw [List.mem_cons, not_or]
          exact ⟨Ne.symm other, ih List.mem_cons_self⟩
        · exact ih (List.mem_cons_of_mem q h)

theorem split_append (c : Char) (s s' : List Char) :
    split c (s ++ c :: s') = split c s ++ split c s' := by
  induction s with
  | nil => simp [split]
  | cons d s ih =>
    rw [List.cons_append, split, split, ih]
    by_cases same : d = c
    · rw [if_pos same, if_pos same]
      rfl
    · rw [if_neg same, if_neg same]
      cases pieces : split c s with
      | nil => exact absurd pieces (split_ne_nil c s)
      | cons p ps => rfl

theorem split_of_not_mem {p : List Char} (h : c ∉ p) : split c p = [p] := by
  induction p with
  | nil => rfl
  | cons d p ih =>
    rw [List.mem_cons, not_or] at h
    rw [split, if_neg (Ne.symm h.1), ih h.2]

theorem split_join {ps : List (List Char)} (some : ps ≠ []) (h : ∀ p ∈ ps, c ∉ p) :
    split c (join c ps) = ps := by
  induction ps with
  | nil => exact absurd rfl some
  | cons p ps ih =>
    have free := h p List.mem_cons_self
    by_cases last : ps = []
    · subst last
      exact split_of_not_mem free
    · rw [join_cons last, split_append, split_of_not_mem free,
        ih last fun q mem => h q (List.mem_cons_of_mem p mem)]
      rfl

theorem join_prefix (ps qs : List (List Char)) : join c ps <+: join c (ps ++ qs) := by
  induction ps with
  | nil => exact List.nil_prefix
  | cons p ps ih =>
    by_cases last : ps = []
    · subst last
      by_cases none : qs = []
      · subst none
        exact List.prefix_rfl
      · rw [List.singleton_append, join_cons none]
        exact List.prefix_append p _
    · rw [List.cons_append, join_cons last, join_cons (by simp [last])]
      exact (List.prefix_append_right_inj p).2 (List.cons_prefix_cons.2 ⟨rfl, ih⟩)

end Text

namespace FilePath
open Text

variable {path d : String}

theorem pieces_ofChars {ps : List (List Char)} (some : ps ≠ []) (h : ∀ p ∈ ps, '/' ∉ p) :
    pieces (String.ofList (join '/' ps)) = ps.map String.ofList := by
  rw [pieces, String.toList_ofList, split_join some h]

theorem trimEnd_prefix (ps : List (List Char)) : trimEnd ps <+: ps :=
  List.rdropWhile_prefix isFiller ps

theorem trimEnd_last {ps : List (List Char)} (h : trimEnd ps ≠ []) :
    (trimEnd ps).getLast h ≠ [] := by
  intro empty
  have filler : isFiller ((trimEnd ps).getLast h) = true := by rw [empty]; rfl
  exact List.rdropWhile_last_not isFiller ps h filler

/-- A directory that a path leads through, as the path names it. -/
inductive Above : String → String → Prop
  | parent {path d : String} (h : parent? path = some d) (named : d ≠ "") : Above path d
  | further {path d d' : String} (h : parent? path = some d') (named : d' ≠ "")
    (above : Above d' d) : Above path d

theorem above_of_mem_upwards {n : Nat} {d' : String} (h : parent? path = some d')
    (mem : d ∈ upwards n d') : Above path d := by
  induction n generalizing path d' with
  | zero => cases mem
  | succ n ih =>
    rw [upwards] at mem
    split at mem
    case isTrue => cases mem
    case isFalse named =>
      have named : d' ≠ "" := by simpa using named
      rcases List.mem_cons.1 mem with rfl | mem
      · exact .parent h named
      · cases next : parent? d' with
        | none => simp [next] at mem
        | some d'' =>
          rw [next] at mem
          exact .further h named (ih next mem)

theorem above_of_mem_directories (mem : d ∈ directories path) : Above path d := by
  rw [directories] at mem
  cases above : parent? path with
  | none => simp [above] at mem
  | some d' =>
    rw [above] at mem
    exact above_of_mem_upwards above mem

theorem exists_of_parent (h : parent? path = some d) (named : d ≠ "") :
    ∃ ps more, split '/' path.toList = ps ++ more ∧ (∃ x ∈ more, x ≠ []) ∧ ps ≠ [] ∧
      (d.toList = join '/' ps ∨ ps = [[]] ∧ d.toList = ['/']) := by
  unfold parent? at h
  split at h
  case h_1 => cases h
  case h_2 first rest pieces =>
    by_cases none : trimEnd rest = []
    · by_cases rooted : first.isEmpty <;> simp [none, rooted, eq_comm] at h
      exact absurd h named
    · obtain ⟨tail, rest_eq⟩ := trimEnd_prefix rest
      obtain ⟨fillers, above_eq⟩ := trimEnd_prefix (trimEnd rest).dropLast
      refine ⟨first :: trimEnd (trimEnd rest).dropLast,
        fillers ++ (trimEnd rest).getLast none :: tail, ?_,
        ⟨_, List.mem_append_right _ List.mem_cons_self, trimEnd_last none⟩,
        List.cons_ne_nil _ _, ?_⟩
      · rw [pieces, List.cons_append, ← List.append_assoc, above_eq, List.append_cons,
          List.dropLast_append_getLast none, rest_eq]
      · simp only [none, if_false, Option.some.injEq, List.isEmpty_iff, Bool.and_eq_true] at h
        subst h
        split
        case isTrue root => simp [root]
        case isFalse => simp

theorem startsWith_parent (h : parent? path = some d) (named : d ≠ "") :
    d.toList <+: path.toList := by
  obtain ⟨ps, more, pieces, ⟨x, mem, -⟩, -, above | ⟨rfl, root⟩⟩ := exists_of_parent h named
  · rw [above, ← join_split '/' path.toList, pieces]
    exact join_prefix ps more
  · rw [root, ← join_split '/' path.toList, pieces, List.singleton_append,
      join_cons (List.ne_nil_of_mem mem)]
    exact List.prefix_append ['/'] _

theorem isRooted_of_prefix (h : d.toList <+: path.toList) (named : d ≠ "") :
    isRooted d = isRooted path := by
  obtain ⟨more, same⟩ := h
  rw [isRooted, isRooted, ← same, List.head?_append_of_ne_nil _ (by simpa using named)]

end FilePath

theorem Location.follow_append (l : Location) (ps qs : List String) :
    l.follow (ps ++ qs) = (l.follow ps).follow qs :=
  List.foldl_append

namespace FileTree
open FilePath

variable {t : FileTree} {l l' : Location} {path d : String}

theorem walk_append_ok {ps qs : List String} : t.walk l (ps ++ qs) = .ok l' ↔
    t.walk l ps = .ok (l.follow ps) ∧ t.walk (l.follow ps) qs = .ok l' := by
  induction ps generalizing l with
  | nil => simp [walk, Location.follow]
  | cons p ps ih =>
    rw [Location.follow_cons, List.cons_append]
    cases named : p.isEmpty with
    | true =>
      simp only [walk, named, if_true]
      exact ih
    | false =>
      rw [walk_cons_ok named, walk_cons_ok named, ih]
      simp only [Bool.false_eq_true, if_false, and_assoc]

theorem directory_of_walk {ps : List String} (h : t.walk l ps = .ok l')
    (named : ∃ p ∈ ps, p ≠ "") : t.entry? l = some .directory := by
  induction ps with
  | nil => simp at named
  | cons p ps ih =>
    cases empty : p.isEmpty with
    | true =>
      rw [walk, empty] at h
      refine ih h ?_
      simpa [String.isEmpty_iff.1 empty] using named
    | false => exact ((walk_cons_ok empty).1 h).1

theorem byteSize_le_of_startsWith (h : d.toList <+: path.toList) :
    d.utf8ByteSize ≤ path.utf8ByteSize := by
  obtain ⟨more, same⟩ := h
  have split : path = d ++ String.ofList more := by
    rw [← String.toList_inj, ← same, String.toList_append, String.toList_ofList]
  rw [split, String.utf8ByteSize_append]
  exact Nat.le_add_right _ _

theorem walk_parent (above : parent? path = some d) (named : d ≠ "")
    (h : t.walk (.start path) (pieces path) = .ok l) :
    t.walk (.start d) (pieces d) = .ok (.ofPath d) ∧ t.entry? (.ofPath d) = some .directory := by
  have start : Location.start d = .start path := by
    rw [Location.start, Location.start, isRooted_of_prefix (startsWith_parent above named) named]
  obtain ⟨ps, more, split, ⟨x, mem, some⟩, ne, shape⟩ := exists_of_parent above named
  rw [pieces, split, List.map_append, walk_append_ok, ← start] at h
  obtain ⟨up, on⟩ := h
  have directory := directory_of_walk on
    ⟨String.ofList x, List.mem_map_of_mem mem, by simpa using some⟩
  rcases shape with kept | ⟨rfl, root⟩
  · have same : pieces d = ps.map String.ofList := by
      rw [← String.ofList_toList (s := d), kept]
      refine pieces_ofChars ne fun p kept => ?_
      have mem : p ∈ Text.split '/' path.toList := by
        rw [split]
        exact List.mem_append_left _ kept
      exact Text.not_mem_of_mem_split mem
    rw [Location.ofPath, same]
    exact ⟨up, directory⟩
  · have same : pieces d = ["", ""] := by
      rw [pieces, root]
      rfl
    rw [Location.ofPath, same]
    exact ⟨up, directory⟩

theorem locate_parent (above : parent? path = some d) (named : d ≠ "")
    (h : t.locate path = .ok l) :
    t.locate d = .ok (.ofPath d) ∧ t.entry? (.ofPath d) = some .directory := by
  obtain ⟨noNull, -, short, walked⟩ := locate_ok_iff.1 h
  obtain ⟨walked, directory⟩ := walk_parent above named walked
  have part := startsWith_parent above named
  exact ⟨locate_ok_iff.2 ⟨fun null => noNull (part.subset null), named,
    (byteSize_le_of_startsWith part).trans short, walked⟩, directory⟩

theorem isDirectory_iff : t.isDirectory path = true ↔
    t.locate path = .ok (.ofPath path) ∧ t.entry? (.ofPath path) = some .directory := by
  rw [isDirectory]
  cases located : t.locate path with
  | error e => simp
  | ok l =>
    cases locate_ok located
    rcases entry : t.entry? (.ofPath path) with _ | ⟨_ | _⟩ <;> simp [entry, Entry.isDirectory]

theorem isDirectory_of_above (above : Above path d) (h : t.locate path = .ok l) :
    t.isDirectory d = true := by
  induction above generalizing l with
  | parent above named => exact isDirectory_iff.2 (locate_parent above named h)
  | further above named _ ih => exact ih (locate_parent above named h).1

end FileTree
end FontAccessors
