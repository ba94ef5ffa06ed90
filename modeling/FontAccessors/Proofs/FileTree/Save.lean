import FontAccessors.FileTree.Access
import FontAccessors.Proofs.FileTree.Walk

namespace FontAccessors
open FileTree

variable {t t' t'' : FileTree} {path text : String} {bytes : ByteArray} {l : Location}

namespace FileTree

section

variable {α β : Type}

@[simp] theorem run_bind (x : StateM FileTree α) (f : α → StateM FileTree β) (t : FileTree) :
    (x >>= f) t = f (x t).1 (x t).2 := rfl

@[simp] theorem run_map (f : α → β) (x : StateM FileTree α) (t : FileTree) :
    (f <$> x) t = (f (x t).1, (x t).2) := rfl

@[simp] theorem run_pure (a : α) (t : FileTree) : (pure a : StateM FileTree α) t = (a, t) := rfl

@[simp] theorem run_read (path : String) (t : FileTree) :
    (Files.read path : StateM FileTree _) t = (t.read path, t) := rfl

@[simp] theorem run_write (path : String) (bytes : ByteArray) (t : FileTree) :
    (Files.write path bytes : StateM FileTree _) t = t.update (t.write path bytes) := rfl

@[simp] theorem run_makeDirectory (path : String) (t : FileTree) :
    (Files.makeDirectory path : StateM FileTree _) t = t.update (t.makeDirectory path) := rfl

@[simp] theorem run_isDirectory (path : String) (t : FileTree) :
    (Files.isDirectory path : StateM FileTree _) t = (t.isDirectory path, t) := rfl

end

/-- There may be new directories, and all else is as it was. -/
def Spreads (t t' : FileTree) : Prop :=
  ∀ l, t'.entry? l = t.entry? l ∨ t.entry? l = none ∧ t'.entry? l = some .directory

namespace Spreads

theorem refl (t : FileTree) : Spreads t t :=
  fun _ => .inl rfl

theorem trans (h : Spreads t t') (h' : Spreads t' t'') : Spreads t t'' := by
  intro l
  rcases h' l with same | ⟨free, made⟩
  · rw [same]
    exact h l
  · rcases h l with same | ⟨-, made'⟩
    · rw [same] at free
      exact .inr ⟨free, made⟩
    · rw [made'] at free
      cases free

theorem keeps (h : Spreads t t') : Keeps t t' := by
  intro l directory
  rcases h l with same | ⟨free, -⟩
  · rw [same, directory]
  · rw [directory] at free
    cases free

theorem file_iff (h : Spreads t t') :
    t'.entry? l = some (.file bytes) ↔ t.entry? l = some (.file bytes) := by
  rcases h l with same | ⟨free, made⟩
  · rw [same]
  · simp [free, made]

theorem of_makeDirectory (h : t.makeDirectory path = .ok t') : Spreads t t' := by
  obtain ⟨-, free, rfl⟩ := makeDirectory_ok_iff.1 h
  intro l
  rw [entry_put (by simp [free])]
  split
  case isTrue same =>
    subst same
    exact .inr ⟨free, rfl⟩
  case isFalse => exact .inl rfl

end Spreads

def ensure (t : FileTree) (path : String) : Except FileError Unit × FileTree :=
  match t.makeDirectory path with
  | .ok t' => (.ok (), t')
  | .error e => (if t.isDirectory path then .ok () else .error e, t)

theorem ensure_spreads (t : FileTree) (path : String) : Spreads t (t.ensure path).2 := by
  rw [ensure]
  split
  case h_1 made => exact .of_makeDirectory made
  case h_2 => exact .refl t

end FileTree

theorem makeDirectories_cons (path : String) (above : List String) (t : FileTree) :
    (makeDirectories (path :: above) : StateM FileTree _) t =
      match t.makeDirectory path with
      | .error .notFound =>
        match (makeDirectories above : StateM FileTree _) t with
        | (.ok (), t') => t'.ensure path
        | (.error e, t') => (.error e, t')
      | _ => t.ensure path := by
  cases made : t.makeDirectory path with
  | ok t' => simp [makeDirectories, made, ensure, update]
  | error e =>
    cases e with
    | notFound =>
      rcases upward : (makeDirectories above : StateM FileTree _) t with ⟨⟨e⟩ | ⟨⟨⟩⟩, t'⟩
      · simp [makeDirectories, made, update, upward]
      · cases again : t'.makeDirectory path <;>
          simp [makeDirectories, made, update, upward, ensure, again]
    | _ => simp [makeDirectories, made, update, ensure]

theorem makeDirectories_spreads (paths : List String) (t : FileTree) :
    Spreads t ((makeDirectories paths : StateM FileTree _) t).2 := by
  induction paths generalizing t with
  | nil => exact .refl t
  | cons path above ih =>
    rw [makeDirectories_cons]
    split
    case h_1 =>
      have upward := ih t
      split
      case h_1 t' made =>
        rw [made] at upward
        exact upward.trans (ensure_spreads t' path)
      case h_2 made =>
        rw [made] at upward
        exact upward
    case h_2 => exact ensure_spreads t path

theorem overwrite_cases (path : String) (bytes : ByteArray) (t : FileTree) :
    ∃ t', Spreads t t' ∧
      ((∃ e, (overwrite path bytes : StateM FileTree _) t = (.error e, t')) ∨
        ∃ t'', t'.write path bytes = .ok t'' ∧
          (overwrite path bytes : StateM FileTree _) t = (.ok (), t'')) := by
  have spreads := makeDirectories_spreads (FilePath.directories path) t
  rcases made : (makeDirectories (FilePath.directories path) : StateM FileTree _) t with
    ⟨⟨e⟩ | ⟨⟨⟩⟩, t'⟩
  all_goals rw [made] at spreads
  · exact ⟨t', spreads, .inl ⟨_, by simp [overwrite, made]; rfl⟩⟩
  · cases written : t'.write path bytes with
    | error e => exact ⟨t', spreads, .inl ⟨_, by simp [overwrite, made, written, update]; rfl⟩⟩
    | ok t'' =>
      exact ⟨t', spreads, .inr ⟨t'', written, by simp [overwrite, made, written, update]⟩⟩

inductive Saves (path text : String) (t : FileTree) : Except SaveError Bool → FileTree → Prop
  | kept (read : t.read path = .ok text.toUTF8) : Saves path text t (.ok false) t
  | written {t' t'' : FileTree} (unlike : t.read path ≠ .ok text.toUTF8) (spreads : Spreads t t')
    (write : t'.write path text.toUTF8 = .ok t'') : Saves path text t (.ok true) t''
  | failed {t' : FileTree} (unlike : t.read path ≠ .ok text.toUTF8) (spreads : Spreads t t')
    (e : SaveError) : Saves path text t (.error e) t'

theorem save_of_read (h : t.read path = .ok text.toUTF8) :
    (save path text : StateM FileTree _) t = (.ok false, t) := by
  simp [save, h]

theorem save_of_unlike (h : t.read path ≠ .ok text.toUTF8) :
    (save path text : StateM FileTree _) t =
      let o := (overwrite path text.toUTF8 : StateM FileTree _) t
      (o.1.map fun _ => true, o.2) := by
  cases read : t.read path with
  | error e => simp [save, read]
  | ok old =>
    have differ : old.data ≠ text.toUTF8.data := by
      intro same
      rw [read, ByteArray.ext same] at h
      exact h rfl
    simp only [save, run_bind, run_read, read, if_neg differ]
    rfl

theorem saves (path text : String) (t : FileTree) :
    Saves path text t ((save path text : StateM FileTree _) t).1
      ((save path text : StateM FileTree _) t).2 := by
  by_cases read : t.read path = .ok text.toUTF8
  · rw [save_of_read read]
    exact .kept read
  · rw [save_of_unlike read]
    obtain ⟨t', spreads, ⟨e, failed⟩ | ⟨t'', write, done⟩⟩ := overwrite_cases path text.toUTF8 t
    · rw [failed]
      exact .failed read spreads e
    · rw [done]
      exact .written read spreads write

namespace Saves

variable {r : Except SaveError Bool} {b : Bool} {e : SaveError} {path' : String}

theorem eq_of_read (h : Saves path text t r t') (read : t.read path = .ok text.toUTF8) :
    r = .ok false ∧ t' = t := by
  cases h with
  | kept => exact ⟨rfl, rfl⟩
  | written unlike => exact absurd read unlike
  | failed unlike => exact absurd read unlike

theorem read (h : Saves path text t (.ok b) t') : t'.read path = .ok text.toUTF8 := by
  cases h with
  | kept read => exact read
  | written _ _ write => exact read_write write

theorem file_iff (h : Saves path text t r t') (other : l ≠ .ofPath path) :
    t'.entry? l = some (.file bytes) ↔ t.entry? l = some (.file bytes) := by
  cases h with
  | kept => rfl
  | failed _ spreads => exact spreads.file_iff
  | written _ spreads write =>
    obtain ⟨-, free, -, rfl⟩ := write_ok_iff.1 write
    rw [entry_put free, if_neg other]
    exact spreads.file_iff

theorem file_iff_of_error (h : Saves path text t (.error e) t') :
    t'.entry? l = some (.file bytes) ↔ t.entry? l = some (.file bytes) := by
  cases h with
  | failed _ spreads => exact spreads.file_iff

theorem keeps (h : Saves path text t r t') : Keeps t t' := by
  cases h with
  | kept => exact fun _ directory => directory
  | failed _ spreads => exact spreads.keeps
  | written _ spreads write =>
    obtain ⟨-, free, -, rfl⟩ := write_ok_iff.1 write
    exact fun l directory => keeps_put_file free _ l (spreads.keeps l directory)

theorem read_other (h : Saves path text t r t') (other : Location.ofPath path' ≠ .ofPath path)
    (old : t.read path' = .ok bytes) : t'.read path' = .ok bytes := by
  obtain ⟨located, file, slash⟩ := read_ok_iff.1 old
  exact read_ok_iff.2 ⟨locate_of_keeps h.keeps located, (h.file_iff other).2 file, slash⟩

end Saves
end FontAccessors
