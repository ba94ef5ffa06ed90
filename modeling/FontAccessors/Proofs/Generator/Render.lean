import FontAccessors.Generator.Render
import FontAccessors.Proofs.Module.Outcome
import Mathlib.Data.List.Forall2

namespace FontAccessors

namespace Module

variable {before fs gs : List Family} {f : Family} {path : String} {e : GenerateError}

theorem Accepted.alone (h : Accepted before f) : Accepted [] f :=
  ⟨h.named, h.font, nofun⟩

theorem Refused.alone (h : Refused before f e) :
    (e = .duplicateTypeName f.typeName ∧ ∃ g ∈ before, g.typeName = f.typeName) ∨
      Refused [] f e := by
  cases h with
  | unnamed h => exact .inr (.unnamed h)
  | noFont named h => exact .inr (.noFont named h)
  | repeated _ _ mem same => exact .inl ⟨rfl, _, mem, same⟩

theorem render_accepted (isPath : IsCratePath path) (h : Accepted [] f) :
    ∃ text, render [f] path = .ok text := by
  refine render_ok_iff_accepted.2 ⟨isPath, ?_⟩
  rintro (_ | i) hi
  · exact h
  · cases Nat.lt_of_succ_lt_succ hi

theorem render_refused (isPath : IsCratePath path) (h : Refused [] f e) :
    render [f] path = .error e :=
  render_error_iff.2 (.inr ⟨isPath, 0, Nat.succ_pos 0, h, nofun⟩)

theorem render_singles {text : String} (h : render fs path = .ok text) :
    ∃ bodies, text = header ++ String.join bodies ∧
      List.Forall₂ (fun f body => render [f] path = .ok (header ++ body)) fs bodies := by
  obtain ⟨isPath, cs, rfl, named, -, rfl⟩ := render_ok_iff.1 h
  refine ⟨cs.map (familyText path), rfl, ?_⟩
  rw [List.forall₂_map_left_iff, List.forall₂_map_right_iff, List.forall₂_same]
  intro c mem
  refine render_ok_iff.2 ⟨isPath, [c], rfl, ?_, by simp, ?_⟩
  · simpa using named c mem
  · simp [text, String.join]

theorem accepted_of_singles (singles : ∀ f ∈ fs, ∃ text, render [f] path = .ok text)
    (unique : (fs.map Family.typeName).Nodup) (i : Nat) (hi : i < fs.length) :
    Accepted (fs.take i) fs[i] := by
  have alone := (render_ok_iff_accepted.1 (singles _ (List.getElem_mem hi))).2 0 (Nat.succ_pos 0)
  refine ⟨alone.named, alone.font, fun g mem same => ?_⟩
  obtain ⟨j, hj, rfl⟩ := List.mem_take_iff_getElem.1 mem
  have before : j < i := Nat.lt_of_lt_of_le hj (Nat.min_le_left _ _)
  rw [List.Nodup, List.pairwise_map, List.pairwise_iff_getElem] at unique
  exact unique j i _ hi before same

theorem render_ok_iff_singles : (∃ text, render fs path = .ok text) ↔
    IsCratePath path ∧ (∀ f ∈ fs, ∃ text, render [f] path = .ok text) ∧
      (fs.map Family.typeName).Nodup := by
  constructor
  · rintro ⟨text, ok⟩
    obtain ⟨isPath, accepted⟩ := render_ok_iff_accepted.1 ⟨text, ok⟩
    obtain ⟨-, cs, rfl, -, unique, -⟩ := render_ok_iff.1 ok
    refine ⟨isPath, fun f mem => ?_, ?_⟩
    · obtain ⟨i, hi, rfl⟩ := List.getElem_of_mem mem
      exact render_accepted isPath (accepted i hi).alone
    · rw [List.map_map]
      exact unique
  · rintro ⟨isPath, singles, unique⟩
    exact render_ok_iff_accepted.2 ⟨isPath, accepted_of_singles singles unique⟩

theorem render_error_singles (h : render fs path = .error e) :
    (∃ name, e = .duplicateTypeName name ∧ 2 ≤ (fs.map Family.typeName).count name) ∨
      (e = .invalidCratePath path ∧ ∀ f, render [f] path = .error e) ∨
      ∃ first f rest, fs = first ++ f :: rest ∧ render [f] path = .error e ∧
        ∀ g ∈ first, ∃ text, render [g] path = .ok text := by
  rcases render_error_iff.1 h with ⟨bad, rfl⟩ | ⟨isPath, i, hi, refused, passed⟩
  · exact .inr (.inl ⟨rfl, fun f => render_bad_path bad [f]⟩)
  · have split : fs = fs.take i ++ fs[i] :: fs.drop (i + 1) := by
      rw [← List.drop_eq_getElem_cons hi, List.take_append_drop]
    rcases refused.alone with ⟨rfl, g, mem, same⟩ | refused
    · have earlier : 0 < ((fs.take i).map Family.typeName).count fs[i].typeName :=
        List.count_pos_iff.2 (List.mem_map.2 ⟨g, mem, same⟩)
      have names := congrArg (List.map Family.typeName) split
      rw [List.map_append, List.map_cons] at names
      refine .inl ⟨_, rfl, ?_⟩
      rw [names, List.count_append, List.count_cons_self]
      omega
    · refine .inr (.inr ⟨fs.take i, fs[i], fs.drop (i + 1), split,
        render_refused isPath refused, ?_⟩)
      intro g mem
      obtain ⟨j, hj, rfl⟩ := List.mem_take_iff_getElem.1 mem
      exact render_accepted isPath (passed j (Nat.lt_of_lt_of_le hj (Nat.min_le_left _ _))).alone

theorem render_append_ok {text : String} (h : render (fs ++ gs) path = .ok text) :
    ∃ text' more, render fs path = .ok text' ∧ text = text' ++ more := by
  obtain ⟨isPath, cs, split, named, unique, rfl⟩ := render_ok_iff.1 h
  obtain ⟨as, bs, rfl, rfl, rfl⟩ := List.append_eq_map_iff.1 split
  rw [List.map_append, List.nodup_append] at unique
  refine ⟨text path as, String.join (bs.map (familyText path)),
    render_ok_iff.2 ⟨isPath, as, rfl, fun c mem => named c (List.mem_append_left _ mem),
      unique.1, rfl⟩, ?_⟩
  simp [text, String.append_assoc]

end Module

namespace Generator

/-- What a source gives when its files are those of a tree. -/
def outcome (s : Source) (requested : Option String) (tree : FileTree) : Except Failure String :=
  ((source s requested : StateM FileTree _) tree).1.outcome

/-- The file at a path of a tree holds a manifest. -/
def Loads (tree : FileTree) (path : String) (m : Manifest) : Prop :=
  ((load path : StateM FileTree _) tree).1.outcome = .ok m

section

variable {tree : FileTree} {path crate : String} {requested own : Option String}
  {fs : List Family}

theorem Loads.of_read {text : String} {m : Manifest} (read : tree.read path = .ok text.toUTF8)
    (manifest : Manifest.ofText text = .ok m) : Loads tree path m := by
  have loaded : ((load path : StateM FileTree _) tree).1 = manifestOf path (tree.read path) := rfl
  have decoded : String.fromUTF8? text.toUTF8 = some text := dif_pos text.isValidUTF8
  simp only [Loads, loaded, read, manifestOf, decoded, manifest]
  rfl

theorem mapError_ok {x : Except GenerateError String} {text : String} :
    x.mapError Failure.refused = .ok text ↔ x = .ok text := by
  cases x <;> simp [Except.mapError]

theorem mapError_error {x : Except GenerateError String} {e : Failure} :
    x.mapError Failure.refused = .error e ↔ ∃ e', x = .error e' ∧ e = .refused e' := by
  cases x <;> simp [Except.mapError, eq_comm]

theorem outcome_render (fs : List Family) (crate : String) :
    (render fs crate).outcome = (Module.render fs crate).mapError Failure.refused := by
  rw [render]
  cases Module.render fs crate <;> rfl

theorem outcome_single (f : Family) (crate : String) (tree : FileTree) :
    outcome (.single f) (some crate) tree =
      (Module.render [f] crate).mapError Failure.refused :=
  outcome_render [f] crate

theorem outcome_manifest (loads : Loads tree path ⟨own, fs⟩)
    (precedence : (requested.or own).getD "::fontsgen" = crate) :
    outcome (.manifest path) requested tree =
      (Module.render fs crate).mapError Failure.refused := by
  have opened : outcome (.manifest path) requested tree =
      (((load path : StateM FileTree _) tree).1.andThen (renderManifest requested)).outcome := rfl
  rw [opened, Logged.andThen, loads, ← precedence]
  exact outcome_render fs _

/-- A manifest gives one after the other what its families give by themselves, for the path that is
requested, or else the manifest's own, or else the default one. Unless a name is repeated, it fails
only if one of them does, and as the first of these; what is requested hides the manifest's own
path; and further families only add to the text. -/
theorem source_manifest (loads : Loads tree path ⟨own, fs⟩)
    (precedence : (requested.or own).getD "::fontsgen" = crate) :
    ((∃ text, outcome (.manifest path) requested tree = .ok text) ↔
        Module.IsCratePath crate ∧
          (∀ f ∈ fs, ∃ text, outcome (.single f) (some crate) tree = .ok text) ∧
          (fs.map Family.typeName).Nodup) ∧
      (∀ text, outcome (.manifest path) requested tree = .ok text →
        ∃ bodies, text = Module.header ++ String.join bodies ∧
          List.Forall₂ (fun f body => outcome (.single f) (some crate) tree =
            .ok (Module.header ++ body)) fs bodies) ∧
      (∀ e, outcome (.manifest path) requested tree = .error e →
        (∃ name, e = .refused (.duplicateTypeName name) ∧
            2 ≤ (fs.map Family.typeName).count name) ∨
          (e = .refused (.invalidCratePath crate) ∧
            ∀ f, outcome (.single f) (some crate) tree = .error e) ∨
          ∃ first f rest, fs = first ++ f :: rest ∧
            outcome (.single f) (some crate) tree = .error e ∧
            ∀ g ∈ first, ∃ text, outcome (.single g) (some crate) tree = .ok text) ∧
      (∀ given tree' path' own', Loads tree' path' ⟨own', fs⟩ →
        outcome (.manifest path') (some given) tree' = outcome (.manifest path) (some given) tree) ∧
      ∀ gs tree' path' requested' own', Loads tree' path' ⟨own', fs ++ gs⟩ →
        (requested'.or own').getD "::fontsgen" = crate →
        ∀ text, outcome (.manifest path') requested' tree' = .ok text →
          ∃ text' more, outcome (.manifest path) requested tree = .ok text' ∧
            text = text' ++ more := by
  simp only [outcome_single, outcome_manifest loads precedence, mapError_ok]
  refine ⟨Module.render_ok_iff_singles, fun text ok => Module.render_singles ok,
    fun e error => ?_,
    fun given tree' path' own' loads' => ?_,
    fun gs tree' path' requested' own' loads' precedence' text ok => ?_⟩
  · obtain ⟨e, failed, rfl⟩ := mapError_error.1 error
    simp only [mapError_error, Failure.refused.injEq, exists_eq_right']
    exact Module.render_error_singles failed
  · rw [outcome_manifest loads' rfl, outcome_manifest loads rfl]
    rfl
  · rw [outcome_manifest loads' precedence', mapError_ok] at ok
    exact Module.render_append_ok ok

end

def exampleFamilies : List Family :=
  [⟨"Zapfino", some "Zapfino"⟩, ⟨"Avenir", some "Avenir Next"⟩]

def exampleTree : FileTree :=
  FileTree.empty.put ⟨.above 0, ["fonts.yaml"]⟩ (.file ("crate_path: fonts\nfamilies:\n" ++
    "- \x7btype_name: Zapfino, font_name: Zapfino\x7d\n" ++
    "- \x7btype_name: Avenir, font_name: Avenir Next\x7d\n").toUTF8)

theorem source_manifest_two :
    Loads exampleTree "fonts.yaml" ⟨some "fonts", exampleFamilies⟩ ∧
      ∃ zapfino avenir, outcome (.manifest "fonts.yaml") (some "crate") exampleTree =
          .ok (Module.header ++ String.join [zapfino, avenir]) ∧
        outcome (.single ⟨"Zapfino", some "Zapfino"⟩) (some "crate") exampleTree =
          .ok (Module.header ++ zapfino) ∧
        outcome (.single ⟨"Avenir", some "Avenir Next"⟩) (some "crate") exampleTree =
          .ok (Module.header ++ avenir) := by
  have loads : Loads exampleTree "fonts.yaml" ⟨some "fonts", exampleFamilies⟩ := by
    unfold Loads
    decide +kernel
  have precedence : ((some "crate").or (some "fonts")).getD "::fontsgen" = "crate" := rfl
  have valid : (Module.render exampleFamilies "crate").isOk = true := by decide +kernel
  have opened := outcome_manifest loads precedence
  cases rendered : Module.render exampleFamilies "crate" with
  | error e =>
    rw [rendered] at valid
    cases valid
  | ok text =>
    rw [rendered] at opened
    obtain ⟨bodies, rfl, singles⟩ := (source_manifest loads precedence).2.1 text opened
    cases singles with
    | cons first singles =>
      cases singles with
      | cons second singles =>
        cases singles
        exact ⟨loads, _, _, opened, first, second⟩

end Generator
end FontAccessors
