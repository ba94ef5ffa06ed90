import FontAccessors.Proofs.FileTree.Directories
import FontAccessors.Proofs.FileTree.Save

/-!
# What saving changes

* `makeDirectories_untouched`: making directories touches no place but theirs.
* `save_effects`: what a saved file holds, what is made above it, and that all else stays.
-/

namespace FontAccessors
open FileTree

variable {t t' t'' : FileTree} {path text d : String} {bytes : ByteArray} {l : Location}

namespace FileTree

def Untouched (paths : List String) (t t' : FileTree) : Prop :=
  ∀ l, (∀ d ∈ paths, l ≠ .ofPath d) → t'.entry? l = t.entry? l

namespace Untouched

variable {paths paths' : List String}

theorem refl (paths : List String) (t : FileTree) : Untouched paths t t :=
  fun _ _ => rfl

theorem trans (h : Untouched paths t t') (h' : Untouched paths t' t'') :
    Untouched paths t t'' := by
  intro l apart
  rw [h' l apart, h l apart]

theorem mono (h : Untouched paths t t') (sub : paths ⊆ paths') : Untouched paths' t t' :=
  fun l apart => h l fun d mem => apart d (sub mem)

theorem of_makeDirectory (h : t.makeDirectory path = .ok t') (mem : path ∈ paths) :
    Untouched paths t t' := by
  obtain ⟨-, free, rfl⟩ := makeDirectory_ok_iff.1 h
  intro l apart
  rw [entry_put (by simp [free]), if_neg (apart path mem)]

theorem of_ensure (mem : path ∈ paths) : Untouched paths t (t.ensure path).2 := by
  rw [ensure]
  split
  case h_1 made => exact of_makeDirectory made mem
  case h_2 => exact refl paths t

end Untouched

theorem makeDirectory_of_isDirectory (h : t.isDirectory path = true) :
    t.makeDirectory path = .error .alreadyExists := by
  obtain ⟨located, directory⟩ := isDirectory_iff.1 h
  simp [makeDirectory, located, directory, bind, Except.bind]

theorem ensure_of_isDirectory (h : t.isDirectory path = true) : t.ensure path = (.ok (), t) := by
  rw [ensure, makeDirectory_of_isDirectory h]
  simp [h]

end FileTree

theorem makeDirectories_untouched (paths : List String) (t : FileTree) :
    Untouched paths t ((makeDirectories paths : StateM FileTree _) t).2 := by
  induction paths generalizing t with
  | nil => exact .refl [] t
  | cons path above ih =>
    have here : path ∈ path :: above := List.mem_cons_self
    rw [makeDirectories_cons]
    split
    case h_1 =>
      have upward := (ih t).mono (List.subset_cons_self path above)
      split
      case h_1 t' made =>
        rw [made] at upward
        exact upward.trans (.of_ensure here)
      case h_2 made =>
        rw [made] at upward
        exact upward
    case h_2 => exact .of_ensure here

theorem makeDirectories_of_isDirectory {paths : List String}
    (h : ∀ d ∈ paths, t.isDirectory d = true) :
    (makeDirectories paths : StateM FileTree _) t = (.ok (), t) := by
  cases paths with
  | nil => rfl
  | cons path above =>
    have there := h path List.mem_cons_self
    rw [makeDirectories_cons, makeDirectory_of_isDirectory there]
    exact ensure_of_isDirectory there

namespace FileTree

/-- An entry is as it was, or it is a new directory that a path leads through. -/
def GrownAbove (path : String) (t t' : FileTree) (l : Location) : Prop :=
  t'.entry? l = t.entry? l ∨
    t.entry? l = none ∧ t'.entry? l = some .directory ∧ ∃ d, FilePath.Above path d ∧ l = .ofPath d

theorem grownAbove_directories (path : String) (t : FileTree) (l : Location) :
    GrownAbove path t
      ((makeDirectories (FilePath.directories path) : StateM FileTree _) t).2 l := by
  rcases makeDirectories_spreads (FilePath.directories path) t l with same | ⟨free, made⟩
  · exact .inl same
  · by_cases above : ∃ d ∈ FilePath.directories path, l = .ofPath d
    · obtain ⟨d, mem, place⟩ := above
      exact .inr ⟨free, made, d, FilePath.above_of_mem_directories mem, place⟩
    · exact .inl (makeDirectories_untouched _ t l (by simpa using above))

end FileTree

theorem overwrite_eq (path : String) (bytes : ByteArray) (t : FileTree) :
    (overwrite path bytes : StateM FileTree _) t =
      match (makeDirectories (FilePath.directories path) : StateM FileTree _) t with
      | (.error e, t') => (.error (.noDirectory ((FilePath.directories path).headD "") e), t')
      | (.ok (), t') =>
        match t'.write path bytes with
        | .error e => (.error (.notWritten path e), t')
        | .ok t'' => (.ok (), t'') := by
  rcases made : (makeDirectories (FilePath.directories path) : StateM FileTree _) t with
    ⟨⟨e⟩ | ⟨⟨⟩⟩, t'⟩
  · simp [overwrite, made]
  · cases written : t'.write path bytes <;> simp [overwrite, made, written, update]

theorem overwrite_grown (path : String) (bytes : ByteArray) (t : FileTree) :
    (∃ e t', (overwrite path bytes : StateM FileTree _) t = (.error e, t') ∧
        ∀ l, GrownAbove path t t' l) ∨
      ∃ t', (overwrite path bytes : StateM FileTree _) t = (.ok (), t') ∧
        ∀ l, l ≠ .ofPath path → GrownAbove path t t' l := by
  have grown := grownAbove_directories path t
  rw [overwrite_eq]
  rcases made : (makeDirectories (FilePath.directories path) : StateM FileTree _) t with
    ⟨⟨e⟩ | ⟨⟨⟩⟩, t'⟩
  all_goals rw [made] at grown
  · exact .inl ⟨_, t', rfl, grown⟩
  · cases written : t'.write path bytes with
    | error e => exact .inl ⟨.notWritten path e, t', by simp only [written], grown⟩
    | ok t'' =>
      obtain ⟨-, free, -, rfl⟩ := write_ok_iff.1 written
      refine .inr ⟨t'.put (.ofPath path) (.file bytes), by simp only [written], ?_⟩
      intro l other
      rw [GrownAbove, entry_put free, if_neg other]
      exact grown l

theorem overwrite_of_read (h : t.read path = .ok bytes) (new : ByteArray) :
    ∃ t', (overwrite path new : StateM FileTree _) t = (.ok (), t') := by
  obtain ⟨located, file, slash⟩ := read_ok_iff.1 h
  have there : ∀ d ∈ FilePath.directories path, t.isDirectory d = true := fun d mem =>
    isDirectory_of_above (FilePath.above_of_mem_directories mem) located
  have written : t.write path new = .ok (t.put (.ofPath path) (.file new)) :=
    write_ok_iff.2 ⟨located, by simp [file], slash, rfl⟩
  refine ⟨t.put (.ofPath path) (.file new), ?_⟩
  simp only [overwrite_eq, makeDirectories_of_isDirectory there, written]

theorem toUTF8_of_fromUTF8_none (h : String.fromUTF8? bytes = none) : bytes ≠ text.toUTF8 := by
  rintro rfl
  simp [String.fromUTF8?, text.isValidUTF8] at h

namespace Saves

variable {r : Except SaveError Bool}

theorem kept_iff (h : Saves path text t r t') :
    r = .ok false ↔ t.read path = .ok text.toUTF8 := by
  constructor
  · rintro rfl
    cases h with
    | kept read => exact read
  · exact fun read => (h.eq_of_read read).1

theorem isDirectory_above {b : Bool} (h : Saves path text t (.ok b) t')
    (above : FilePath.Above path d) : t'.isDirectory d = true :=
  isDirectory_of_above above (read_ok_iff.1 h.read).1

end Saves

theorem save_grown (path text : String) (t : FileTree) (l : Location) :
    GrownAbove path t ((save path text : StateM FileTree _) t).2 l ∨
      (∃ b, ((save path text : StateM FileTree _) t).1 = .ok b) ∧ l = .ofPath path := by
  by_cases read : t.read path = .ok text.toUTF8
  · rw [save_of_read read]
    exact .inl (.inl rfl)
  · rw [save_of_unlike read]
    rcases overwrite_grown path text.toUTF8 t with ⟨e, t', ends, grown⟩ | ⟨t', ends, grown⟩
    · rw [ends]
      exact .inl (grown l)
    · rw [ends]
      by_cases other : l = .ofPath path
      · exact .inr ⟨⟨true, rfl⟩, other⟩
      · exact .inl (grown l other)

theorem save_differing (old : t.read path = .ok bytes)
    (unlike : bytes ≠ text.toUTF8 ∨ String.fromUTF8? bytes = none) :
    ((save path text : StateM FileTree _) t).1 = .ok true := by
  have differ : t.read path ≠ .ok text.toUTF8 := by
    intro same
    cases old.symm.trans same
    exact unlike.elim (· rfl) fun noText => toUTF8_of_fromUTF8_none noText rfl
  obtain ⟨t', ends⟩ := overwrite_of_read old text.toUTF8
  rw [save_of_unlike differ, ends]
  rfl

/-- Saving leaves a file alone exactly if it holds the text, and then changes nothing. Where it
writes, the file holds the text, the directories above are there, and nothing else has changed but
that some of them are new. Where it fails, new directories above are all that may be left behind.
Files that hold something else are written, whether or not they hold a text. -/
theorem save_effects (path text : String) (t : FileTree) :
    let after := (save path text : StateM FileTree _) t
    (after.1 = .ok false ↔ t.read path = .ok text.toUTF8) ∧
      (after.1 = .ok false → after.2 = t) ∧
      (after.1 = .ok true → after.2.read path = .ok text.toUTF8 ∧
        (∀ d, FilePath.Above path d → after.2.isDirectory d = true) ∧
        ∀ l, l ≠ .ofPath path → GrownAbove path t after.2 l) ∧
      (∀ e, after.1 = .error e → ∀ l, GrownAbove path t after.2 l) ∧
      (∀ l, t.entry? l = some .directory → FileTree.entry? after.2 l = some .directory) ∧
      ∀ bytes, t.read path = .ok bytes → bytes ≠ text.toUTF8 ∨ String.fromUTF8? bytes = none →
        after.1 = .ok true := by
  have ends := saves path text t
  have grown := save_grown path text t
  refine ⟨ends.kept_iff, fun kept => (ends.eq_of_read (ends.kept_iff.1 kept)).2,
    fun written => ?_, fun e failed l => ?_, ends.keeps, fun bytes => save_differing⟩
  · rw [written] at ends
    refine ⟨ends.read, fun d => ends.isDirectory_above, fun l other => ?_⟩
    exact (grown l).resolve_right fun here => other here.2
  · refine (grown l).resolve_right ?_
    rintro ⟨⟨b, done⟩, -⟩
    rw [failed] at done
    cases done

end FontAccessors
