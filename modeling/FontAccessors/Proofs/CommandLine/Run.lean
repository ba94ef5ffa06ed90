import FontAccessors.CommandLine.Run
import FontAccessors.Proofs.CommandLine.Arguments
import FontAccessors.Proofs.FileTree.Save
import FontAccessors.Proofs.Generator.Render

/-!
# Runs that generate

* `runs`: the four ways in which a run that generates ends (`Runs`).
* `ran_all_or_nothing`: a run writes to its output what it would print without one, or leaves the
  files as they are.
* `ran_again`: once a run has written its output, the same arguments change nothing.
-/

namespace FontAccessors.CommandLine
open FileTree

variable {arguments : List String} {o o' : Options} {filter : Option String} {t t' : FileTree}
  {path text : String} {e : Failure} {x : Logged String}

/-- A run of the program on a tree of files. -/
def ran (arguments : List String) (filter : Option String) (t : FileTree) : Outcome × FileTree :=
  (run arguments filter : StateM FileTree Outcome) t

def rendered (o : Options) (t : FileTree) : Except Failure String :=
  match Source.ofOptions (o.value? .manifest) (o.value? .typeName) (o.value? .fontName) with
  | .error e => .error e
  | .ok s => Generator.outcome s (o.value? .cratePath) t

theorem source_state (s : Source) (requested : Option String) (t : FileTree) :
    ((Generator.source s requested : StateM FileTree _) t).2 = t := by
  cases s <;> rfl

theorem deliver_none (x : Logged String) (t : FileTree) :
    (Generator.deliver none x : StateM FileTree _) t = (x, t) := rfl

theorem deliver_failed (h : x.outcome = .error e) (path : String) (t : FileTree) :
    (Generator.deliver (some path) x : StateM FileTree _) t = (x, t) := by
  simp [Generator.deliver, h]

theorem deliver_saved (h : x.outcome = .ok text) (path : String) (t : FileTree) :
    ((Generator.deliver (some path) x : StateM FileTree _) t).1.outcome =
        (((save path text : StateM FileTree _) t).1.mapError Failure.unsaved).map (fun _ => "") ∧
      ((Generator.deliver (some path) x : StateM FileTree _) t).2 =
        ((save path text : StateM FileTree _) t).2 := by
  rcases saved : (save path text : StateM FileTree _) t with ⟨_ | b, t'⟩
  · simp [Generator.deliver, h, Generator.saveModule, saved, Logged.andThen, Logged.failed,
      Except.map, Except.mapError]
  · simp [Generator.deliver, h, Generator.saveModule, saved, Logged.andThen, Logged.ok,
      Except.map, Except.mapError]

/-- How a run that generates ends. -/
inductive Runs (o : Options) (t : FileTree) : UInt32 → String → FileTree → Prop
  | failed {e : Failure} (failed : rendered o t = .error e) : Runs o t 1 "" t
  | printed {text : String} (noOutput : o.value? .output = none) (ok : rendered o t = .ok text) :
    Runs o t 0 text t
  | saved {path text : String} {b : Bool} {t' : FileTree} (output : o.value? .output = some path)
    (ok : rendered o t = .ok text) (saves : Saves path text t (.ok b) t') : Runs o t 0 "" t'
  | unsaved {path text : String} {e : SaveError} {t' : FileTree}
    (output : o.value? .output = some path) (ok : rendered o t = .ok text)
    (saves : Saves path text t (.error e) t') : Runs o t 1 "" t'

theorem report_ok (f : Log.Filter) (h : x.outcome = .ok text) :
    (report f x).status = 0 ∧ (report f x).stdout = text := by
  simp [report, h]

theorem report_error (f : Log.Filter) (h : x.outcome = .error e) :
    (report f x).status = 1 ∧ (report f x).stdout = "" := by
  simp [report, h]

theorem deliver_runs (f : Log.Filter) (h : x.outcome = rendered o t) :
    let d := (Generator.deliver (o.value? .output) x : StateM FileTree _) t
    Runs o t (report f d.1).status (report f d.1).stdout d.2 := by
  cases ok : rendered o t with
  | error e =>
    rw [ok] at h
    obtain ⟨status, stdout⟩ := report_error f h
    have unchanged : (Generator.deliver (o.value? .output) x : StateM FileTree _) t = (x, t) := by
      cases o.value? .output with
      | none => rfl
      | some path => exact deliver_failed h path t
    simp only [unchanged, status, stdout]
    exact .failed ok
  | ok text =>
    rw [ok] at h
    cases output : o.value? .output with
    | none =>
      obtain ⟨status, stdout⟩ := report_ok f h
      simp only [deliver_none, status, stdout]
      exact .printed output ok
    | some path =>
      obtain ⟨outcome, state⟩ := deliver_saved h path t
      have ends := saves path text t
      rcases saved : (save path text : StateM FileTree _) t with ⟨e | b, t'⟩
      all_goals rw [saved] at outcome state ends
      · obtain ⟨status, stdout⟩ := report_error f outcome
        simp only [state, status, stdout]
        exact .unsaved output ok ends
      · obtain ⟨status, stdout⟩ := report_ok f outcome
        simp only [state, status, stdout]
        exact .saved output ok ends

theorem generate_runs (o : Options) (f : Log.Filter) (t : FileTree) :
    let g := (generate o : StateM FileTree _) t
    Runs o t (report f g.1).status (report f g.1).stdout g.2 := by
  cases source : Source.ofOptions (o.value? .manifest) (o.value? .typeName)
      (o.value? .fontName) with
  | error e =>
    have missing : rendered o t = .error e := by rw [rendered, source]
    simp only [generate, source]
    exact .failed missing
  | ok s =>
    have given : ((Generator.source s (o.value? .cratePath) : StateM FileTree _) t).1.outcome =
        rendered o t := by
      rw [rendered, source]
      rfl
    simp only [generate, source, run_bind, source_state]
    exact deliver_runs f given

theorem runs (accepted : Invocation.ofArguments arguments = .generate o) (filter : Option String)
    (t : FileTree) :
    Runs o t (ran arguments filter t).1.status (ran arguments filter t).1.stdout
      (ran arguments filter t).2 := by
  have h := generate_runs o (Log.Filter.ofText (filter.getD defaultFilter)).1 t
  simp only [ran, run, accepted]
  exact h

theorem rendered_of_prints (prints : o'.Prints o) (t : FileTree) :
    rendered o' t = rendered o t := by
  simp only [rendered, prints.same _ (nofun : Key.manifest ≠ .output),
    prints.same _ (nofun : Key.typeName ≠ .output), prints.same _ (nofun : Key.fontName ≠ .output),
    prints.same _ (nofun : Key.cratePath ≠ .output)]

section

variable {status status' : UInt32} {stdout stdout' : String} {t'' : FileTree}

theorem Runs.print (h : Runs o t status stdout t') (noOutput : o.value? .output = none) :
    t' = t ∧ ((∃ text, rendered o t = .ok text ∧ status = 0 ∧ stdout = text) ∨
      (∃ e, rendered o t = .error e) ∧ status = 1 ∧ stdout = "") := by
  cases h with
  | failed failed => exact ⟨rfl, .inr ⟨⟨_, failed⟩, rfl, rfl⟩⟩
  | printed _ ok => exact ⟨rfl, .inl ⟨_, ok, rfl, rfl⟩⟩
  | saved output => simp [noOutput] at output
  | unsaved output => simp [noOutput] at output

theorem Runs.silent (h : Runs o t status stdout t') (output : o.value? .output = some path) :
    stdout = "" := by
  cases h with
  | printed noOutput => simp [output] at noOutput
  | _ => rfl

theorem Runs.unchanged (h : Runs o t status stdout t') (printed : Runs o' t status' stdout' t'')
    (prints : o'.Prints o) (failed : status' ≠ 0) : status = 1 ∧ t' = t := by
  cases printed with
  | failed error =>
    rw [rendered_of_prints prints] at error
    cases h with
    | failed => exact ⟨rfl, rfl⟩
    | printed _ ok | saved _ ok | unsaved _ ok => simp [error] at ok
  | printed => exact absurd rfl failed
  | saved output | unsaved output => simp [prints.noOutput] at output

theorem Runs.written (h : Runs o t status stdout t') (printed : Runs o' t status' stdout' t'')
    (prints : o'.Prints o) (output : o.value? .output = some path) (done : status' = 0) :
    (status = 0 ∧ t'.read path = .ok stdout'.toUTF8 ∧ ∀ l bytes, l ≠ .ofPath path →
        (t'.entry? l = some (.file bytes) ↔ t.entry? l = some (.file bytes))) ∨
      (status = 1 ∧ ∀ l bytes,
        t'.entry? l = some (.file bytes) ↔ t.entry? l = some (.file bytes)) := by
  cases printed with
  | failed => cases done
  | saved output' | unsaved output' => simp [prints.noOutput] at output'
  | printed _ ok =>
    rw [rendered_of_prints prints] at ok
    cases h with
    | failed error => simp [ok] at error
    | printed noOutput => simp [output] at noOutput
    | saved output' ok' saves =>
      cases output.symm.trans output'
      cases ok.symm.trans ok'
      exact .inl ⟨rfl, saves.read, fun _ _ other => saves.file_iff other⟩
    | unsaved output' ok' saves => exact .inr ⟨rfl, fun _ _ => saves.file_iff_of_error⟩

end

/-- A run prints exactly the text, or nothing if it fails; a run with an output prints nothing. Its
output is what the same options print without one, and no other file changes; or all files stay as
they are, and nothing at all changes if there is no text. -/
theorem ran_all_or_nothing (accepted : Invocation.ofArguments arguments = .generate o)
    (filter : Option String) (t : FileTree) :
    (o.value? .output = none → (ran arguments filter t).2 = t ∧
      ((∃ text, rendered o t = .ok text ∧ (ran arguments filter t).1.status = 0 ∧
          (ran arguments filter t).1.stdout = text) ∨
        (∃ e, rendered o t = .error e) ∧ (ran arguments filter t).1.status = 1 ∧
          (ran arguments filter t).1.stdout = "")) ∧
    ∀ path, o.value? .output = some path → (ran arguments filter t).1.stdout = "" ∧
      (∃ arguments' o', Invocation.ofArguments arguments' = .generate o' ∧ o'.Prints o) ∧
      ∀ arguments' o' filter', Invocation.ofArguments arguments' = .generate o' → o'.Prints o →
        ((ran arguments' filter' t).1.status ≠ 0 →
          (ran arguments filter t).1.status = 1 ∧ (ran arguments filter t).2 = t) ∧
        ((ran arguments' filter' t).1.status = 0 →
          ((ran arguments filter t).1.status = 0 ∧
            (ran arguments filter t).2.read path =
              .ok (ran arguments' filter' t).1.stdout.toUTF8 ∧
            ∀ l bytes, l ≠ .ofPath path →
              (FileTree.entry? (ran arguments filter t).2 l = some (.file bytes) ↔
                t.entry? l = some (.file bytes))) ∨
          ((ran arguments filter t).1.status = 1 ∧
            ∀ l bytes, FileTree.entry? (ran arguments filter t).2 l = some (.file bytes) ↔
              t.entry? l = some (.file bytes))) := by
  have ends := runs accepted filter t
  refine ⟨ends.print, fun path output => ⟨ends.silent output, exists_prints accepted, ?_⟩⟩
  intro arguments' o' filter' accepted' prints
  have ends' := runs accepted' filter' t
  exact ⟨ends.unchanged ends' prints, ends.written ends' prints output⟩

def exampleArguments : List String :=
  ["generate", "-m", "fonts.yaml", "--output=generated/fonts.rs"]

def exampleOptions : Options :=
  [(.output, "generated/fonts.rs"), (.manifest, "fonts.yaml")]

theorem exampleArguments_accepted :
    Invocation.ofArguments exampleArguments = .generate exampleOptions := by
  decide +kernel

theorem exampleArguments_done :
    (ran exampleArguments none Generator.exampleTree).1.status = 0 := by
  decide +kernel

theorem ran_all_or_nothing_fonts :
    Invocation.ofArguments exampleArguments = .generate exampleOptions ∧
      ∃ arguments' o', Invocation.ofArguments arguments' = .generate o' ∧
        o'.Prints exampleOptions ∧ (ran arguments' none Generator.exampleTree).1.status = 0 ∧
        (ran exampleArguments none Generator.exampleTree).1.stdout = "" ∧
        (ran exampleArguments none Generator.exampleTree).2.read "generated/fonts.rs" =
          .ok (ran arguments' none Generator.exampleTree).1.stdout.toUTF8 := by
  obtain ⟨-, writes⟩ :=
    ran_all_or_nothing exampleArguments_accepted none Generator.exampleTree
  obtain ⟨silent, ⟨arguments', o', accepted, prints⟩, same⟩ := writes "generated/fonts.rs" rfl
  obtain ⟨unchanged, written⟩ := same arguments' o' none accepted prints
  rw [exampleArguments_done] at unchanged written
  by_cases done : (ran arguments' none Generator.exampleTree).1.status = 0
  · rcases written done with ⟨-, read, -⟩ | ⟨failed, -⟩
    · exact ⟨exampleArguments_accepted, arguments', o', accepted, prints, done, silent, read⟩
    · cases failed
  · cases (unchanged done).1

theorem outcome_manifest_read (m : String) (requested : Option String) (t : FileTree) :
    Generator.outcome (.manifest m) requested t =
      ((Generator.manifestOf m (t.read m)).andThen (Generator.renderManifest requested)).outcome :=
  rfl

theorem read_of_outcome {m : String} {requested : Option String}
    (h : Generator.outcome (.manifest m) requested t = .ok text) :
    ∃ bytes, t.read m = .ok bytes := by
  cases read : t.read m with
  | ok bytes => exact ⟨bytes, rfl⟩
  | error e =>
    rw [outcome_manifest_read, read] at h
    cases h

theorem rendered_of_saves {written : String} {r : Except SaveError Bool}
    (h : Saves path written t r t')
    (apart : ∀ m, o.value? .manifest = some m → Location.ofPath m ≠ .ofPath path)
    (ok : rendered o t = .ok text) : rendered o t' = .ok text := by
  unfold rendered at ok ⊢
  cases manifest : o.value? .manifest with
  | none =>
    rw [manifest] at ok
    cases typeName : o.value? .typeName with
    | none => simp [typeName, Source.ofOptions] at ok
    | some name =>
      rw [typeName] at ok
      exact ok
  | some m =>
    rw [manifest] at ok
    obtain ⟨bytes, read⟩ := read_of_outcome ok
    have read' := h.read_other (apart m manifest) read
    simp only [Source.ofOptions, outcome_manifest_read, read] at ok ⊢
    rw [read', ok]

theorem Runs.saves {status : UInt32} {stdout : String} (h : Runs o t status stdout t')
    (output : o.value? .output = some path) (done : status = 0) :
    ∃ text b, rendered o t = .ok text ∧ Saves path text t (.ok b) t' := by
  cases h with
  | failed | unsaved => cases done
  | printed noOutput => simp [output] at noOutput
  | saved output' ok saves =>
    cases output.symm.trans output'
    exact ⟨_, _, ok, saves⟩

theorem ran_of_read (accepted : Invocation.ofArguments arguments = .generate o)
    (output : o.value? .output = some path) (ok : rendered o t = .ok text)
    (read : t.read path = .ok text.toUTF8) (filter : Option String) :
    (ran arguments filter t).1.status = 0 ∧ (ran arguments filter t).2 = t := by
  have ends := runs accepted filter t
  generalize (ran arguments filter t).1.status = status, (ran arguments filter t).1.stdout = stdout,
    (ran arguments filter t).2 = t' at ends ⊢
  cases ends with
  | failed error => simp [ok] at error
  | printed noOutput => simp [output] at noOutput
  | saved output' ok' saves =>
    cases output.symm.trans output'
    cases ok.symm.trans ok'
    exact ⟨rfl, (saves.eq_of_read read).2⟩
  | unsaved output' ok' saves =>
    cases output.symm.trans output'
    cases ok.symm.trans ok'
    cases (saves.eq_of_read read).1

def ranAgain (arguments : List String) (filters : List (Option String)) (t : FileTree) :
    List Outcome × FileTree :=
  (filters.mapM (run arguments) : StateM FileTree (List Outcome)) t

theorem ranAgain_cons (filters : List (Option String)) :
    ranAgain arguments (filter :: filters) t =
      ((ran arguments filter t).1 :: (ranAgain arguments filters (ran arguments filter t).2).1,
        (ranAgain arguments filters (ran arguments filter t).2).2) := by
  simp [ranAgain, ran, List.mapM_cons]

theorem ranAgain_of_fixed
    (fixed : ∀ filter, (ran arguments filter t).1.status = 0 ∧ (ran arguments filter t).2 = t)
    (filters : List (Option String)) :
    (ranAgain arguments filters t).2 = t ∧
      ∀ out ∈ (ranAgain arguments filters t).1, out.status = 0 := by
  induction filters with
  | nil => simp [ranAgain]
  | cons filter filters ih =>
    obtain ⟨done, same⟩ := fixed filter
    rw [ranAgain_cons, same]
    exact ⟨ih.1, List.forall_mem_cons.2 ⟨done, ih.2⟩⟩

/-- After a run that has written its output, which is not its manifest, the output is up to date:
the same arguments succeed again, however often, and nothing changes. -/
theorem ran_again {path : String} (accepted : Invocation.ofArguments arguments = .generate o)
    (output : o.value? .output = some path)
    (apart : ∀ m, o.value? .manifest = some m → Location.ofPath m ≠ .ofPath path)
    (filter : Option String) (t : FileTree) (done : (ran arguments filter t).1.status = 0) :
    (∃ text, rendered o (ran arguments filter t).2 = .ok text ∧
      (save path text : StateM FileTree _) (ran arguments filter t).2 =
        (.ok false, (ran arguments filter t).2)) ∧
    ∀ filters, (ranAgain arguments filters (ran arguments filter t).2).2 =
        (ran arguments filter t).2 ∧
      ∀ out ∈ (ranAgain arguments filters (ran arguments filter t).2).1, out.status = 0 := by
  obtain ⟨text, b, ok, saves⟩ := (runs accepted filter t).saves output done
  have ok' := rendered_of_saves saves apart ok
  refine ⟨⟨text, ok', save_of_read saves.read⟩, fun filters => ?_⟩
  exact ranAgain_of_fixed (ran_of_read accepted output ok' saves.read) filters

theorem ran_again_fonts :
    (ran exampleArguments none Generator.exampleTree).1.status = 0 ∧
      ∀ filters, (ranAgain exampleArguments filters
          (ran exampleArguments none Generator.exampleTree).2).2 =
        (ran exampleArguments none Generator.exampleTree).2 := by
  have apart : ∀ m, exampleOptions.value? .manifest = some m →
      Location.ofPath m ≠ .ofPath "generated/fonts.rs" := by
    intro m given
    cases given
    decide +kernel
  obtain ⟨-, again⟩ := ran_again exampleArguments_accepted rfl apart none Generator.exampleTree
    exampleArguments_done
  exact ⟨exampleArguments_done, fun filters => (again filters).1⟩

end FontAccessors.CommandLine
