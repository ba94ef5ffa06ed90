import FontAccessors.Proofs.Module.Checks
import FontAccessors.Proofs.Text.Quoted
import Mathlib.Data.List.Forall2

namespace FontAccessors

def Family.withFont (f : Family) (name : String) : Family :=
  { f with fontName := some name }

def Family.Checked.withFont (c : Family.Checked) (name : String) : Family.Checked :=
  { c with fontName := name }

namespace Module
open Text

def styleLead (path : String) (s : Style) : String :=
  "    pub fn " ++ s.functionName ++ "() -> " ++ path ++ "::Font \x7b\n        " ++ path ++
    "::Font::custom("

def styleRest (path : String) (s : Style) : String :=
  ", " ++ toString s.pointSize.toNat ++ ".0, " ++ path ++ "::TextStyle::" ++ s.variantName ++
    ")\n    \x7d\n\n"

def sizeLead (path : String) : String :=
  "    pub fn " ++ sizeFunctionName ++ "(size: f32) -> " ++ path ++ "::Font \x7b\n        " ++
    path ++ "::Font::fixed("

def sizeRest : String :=
  ", size)\n    \x7d\n"

theorem styleFunction_split (path literal : String) (s : Style) :
    styleFunction path literal s = styleLead path s ++ literal ++ styleRest path s := by
  delta styleFunction styleLead styleRest
  simp only [String.append_assoc]

theorem sizeFunction_split (path literal : String) :
    sizeFunction path literal = sizeLead path ++ literal ++ sizeRest := by
  delta sizeFunction sizeLead sizeRest
  simp only [String.append_assoc]

def accessorFragments (path before behind : String) : List Style → List String
  | [] => [before ++ sizeLead path, sizeRest ++ behind]
  | s :: ss =>
    (before ++ styleLead path s) :: accessorFragments path (styleRest path s) behind ss

def familyFragments (path typeName before behind : String) : List String :=
  (before ++ "\n/// Text styles for the ") ::
    accessorFragments path
      (" font family.\npub enum " ++ typeName ++ " \x7b\x7d\n\nimpl " ++ typeName ++ " \x7b\n")
      ("\x7d\n" ++ behind) Style.table

def callSites (path : String) (ss : List Style) : List String :=
  ss.map (fun _ => path ++ "::Font::custom(") ++ [path ++ "::Font::fixed("]

def fontSites (path : String) : List String :=
  "/// Text styles for the " :: callSites path Style.table

section

variable (path before behind literal : String) (ss : List Style)

theorem accessorFragments_ne_nil : accessorFragments path before behind ss ≠ [] := by
  cases ss <;> rw [accessorFragments] <;> exact List.cons_ne_nil _ _

theorem length_accessorFragments :
    (accessorFragments path before behind ss).length = ss.length + 2 := by
  induction ss generalizing before with
  | nil => rfl
  | cons s ss ih => rw [accessorFragments, List.length_cons, ih, List.length_cons]

theorem accessorFragments_sites :
    List.Forall₂ (fun site fragment => ∃ lead, fragment = lead ++ site) (callSites path ss)
      (accessorFragments path before behind ss).dropLast := by
  induction ss generalizing before with
  | nil =>
    refine .cons ⟨before ++ ("    pub fn " ++ sizeFunctionName ++ "(size: f32) -> " ++ path ++
      "::Font \x7b\n        "), ?_⟩ .nil
    delta sizeLead
    simp only [String.append_assoc]
  | cons s ss ih =>
    rw [accessorFragments, List.dropLast_cons_of_ne_nil (accessorFragments_ne_nil _ _ _ _)]
    refine .cons ⟨before ++ ("    pub fn " ++ s.functionName ++ "() -> " ++ path ++
      "::Font \x7b\n        "), ?_⟩ (ih _)
    delta styleLead
    simp only [String.append_assoc]

theorem intercalate_accessorFragments :
    literal.intercalate (accessorFragments path before behind ss) =
      before ++ String.join (ss.map (styleFunction path literal)) ++ sizeFunction path literal ++
        behind := by
  induction ss generalizing before with
  | nil =>
    rw [accessorFragments, String.intercalate_cons_cons, String.intercalate_singleton,
      sizeFunction_split]
    simp only [List.map_nil, String.join_nil, String.append_empty, String.append_assoc]
  | cons s ss ih =>
    rw [accessorFragments, String.intercalate_cons_of_ne_nil (accessorFragments_ne_nil _ _ _ _), ih,
      List.map_cons, String.join_cons, styleFunction_split]
    simp only [String.append_assoc]

end

section

variable (path typeName before behind : String)

theorem length_familyFragments : (familyFragments path typeName before behind).length = 13 := by
  rw [familyFragments, List.length_cons, length_accessorFragments]
  rfl

theorem familyFragments_sites :
    List.Forall₂ (fun site fragment => ∃ lead, fragment = lead ++ site) (fontSites path)
      (familyFragments path typeName before behind).dropLast := by
  rw [familyFragments, List.dropLast_cons_of_ne_nil (accessorFragments_ne_nil _ _ _ _)]
  refine .cons ⟨before ++ "\n", ?_⟩ (accessorFragments_sites ..)
  rw [String.append_assoc]
  rfl

theorem intercalate_familyFragments (font : String) :
    (Quoted.literal font).intercalate (familyFragments path typeName before behind) =
      before ++ familyText path ⟨typeName, font⟩ ++ behind := by
  rw [familyFragments, String.intercalate_cons_of_ne_nil (accessorFragments_ne_nil _ _ _ _),
    intercalate_accessorFragments]
  delta familyText
  simp only [String.append_assoc]

end

/-- The fragments of a whole module around the font name of one family. -/
def moduleFragments (path : String) (earlier : List Family.Checked) (typeName : String)
    (later : List Family.Checked) : List String :=
  familyFragments path typeName (text path earlier) (String.join (later.map (familyText path)))

theorem text_interleaved (path : String) (earlier later : List Family.Checked)
    (c : Family.Checked) :
    text path (earlier ++ c :: later) =
      (Quoted.literal c.fontName).intercalate
        (moduleFragments path earlier c.typeName later) := by
  rw [moduleFragments, intercalate_familyFragments]
  delta text
  simp only [List.map_append, List.map_cons, String.join_append, String.join_cons,
    String.append_assoc]

theorem count_intercalate {c : Char} {separator separator' : String}
    (absent : c ∉ separator.toList) (absent' : c ∉ separator'.toList) (fragments : List String) :
    (separator.intercalate fragments).toList.count c =
      (separator'.intercalate fragments).toList.count c := by
  induction fragments with
  | nil => rfl
  | cons f fs ih =>
    by_cases last : fs = []
    · subst last
      rw [String.intercalate_singleton, String.intercalate_singleton]
    · simp only [String.intercalate_cons_of_ne_nil last, String.toList_append, List.count_append,
        List.count_eq_zero.2 absent, List.count_eq_zero.2 absent', ih]

theorem modify_append_cons {α : Type} (f : α → α) (xs ys : List α) (a : α) :
    (xs ++ a :: ys).modify xs.length f = xs ++ f a :: ys := by
  induction xs with
  | nil => rfl
  | cons x xs ih => rw [List.cons_append, List.length_cons, List.modify_succ_cons, ih,
      List.cons_append]

theorem render_withFont {earlier later : List Family.Checked} {c : Family.Checked} {path : String}
    (isPath : (Grammar.Path.ofText? path).isSome = true)
    (named : ∀ d ∈ earlier ++ c :: later, (Grammar.nameOfText? d.typeName).isSome = true)
    (unique : ((earlier ++ c :: later).map Family.Checked.typeName).Nodup) (name : String) :
    render (((earlier ++ c :: later).map Family.Checked.request).modify earlier.length
        (Family.withFont · name)) path =
      .ok ((Quoted.literal name).intercalate (moduleFragments path earlier c.typeName later)) := by
  refine render_ok_iff.2 ⟨isPath, earlier ++ c.withFont name :: later, ?_, ?_, ?_, ?_⟩
  · rw [List.map_append, List.map_cons, ← List.length_map (f := Family.Checked.request),
      modify_append_cons, List.map_append, List.map_cons]
    rfl
  · intro d mem
    rcases List.mem_append.1 mem with mem | mem
    · exact named d (List.mem_append_left _ mem)
    · rcases List.mem_cons.1 mem with rfl | mem
      · exact named c (List.mem_append_right _ List.mem_cons_self)
      · exact named d (List.mem_append_right _ (List.mem_cons_of_mem _ mem))
  · simpa [Family.Checked.withFont] using unique
  · exact (text_interleaved path earlier later (c.withFont name)).symm

/-- Whatever the name of a family's font is, the text of the module is the same twelve times that
name's literal between the same fragments: the name is no more than its literals. -/
theorem render_interleaved {families : List Family} {path text : String}
    (accepted : render families path = .ok text) {i : Nat} (inside : i < families.length) :
    ∃ fragments : List String,
      fragments.length = 13 ∧
      List.Forall₂ (fun site fragment => ∃ lead, fragment = lead ++ site) (fontSites path)
        fragments.dropLast ∧
      (∃ name, families[i].fontName = some name ∧
        text = (Quoted.literal name).intercalate fragments) ∧
      (∀ name, render (families.modify i (Family.withFont · name)) path =
        .ok ((Quoted.literal name).intercalate fragments)) ∧
      (∀ name name' : String,
        ((Quoted.literal name).intercalate fragments).toList.count '\n' =
          ((Quoted.literal name').intercalate fragments).toList.count '\n') ∧
      ∀ name, Quoted.IsEnclosed (Quoted.literal name).toList := by
  obtain ⟨isPath, cs, rfl, named, unique, rfl⟩ := render_ok_iff.1 accepted
  have inside' : i < cs.length := by simpa using inside
  obtain ⟨earlier, c, later, rfl, rfl⟩ : ∃ earlier c later,
      cs = earlier ++ c :: later ∧ earlier.length = i := by
    refine ⟨cs.take i, cs[i], cs.drop (i + 1), ?_, by simp; omega⟩
    rw [← List.drop_eq_getElem_cons inside', List.take_append_drop]
  refine ⟨moduleFragments path earlier c.typeName later, length_familyFragments _ _ _ _,
    familyFragments_sites _ _ _ _, ⟨c.fontName, ?_, text_interleaved path earlier later c⟩,
    render_withFont isPath named unique, fun name name' => ?_, Quoted.isEnclosed_literal⟩
  · simp [Family.Checked.request]
  · exact count_intercalate (Quoted.isEnclosed_literal name).one_line.1
      (Quoted.isEnclosed_literal name').one_line.1 _

theorem render_interleaved_second : ∃ text, ∃ fragments : List String,
    render [⟨"Zapfino", some "Zapfino"⟩, ⟨"Menlo", some "a\nb"⟩] "::fontsgen" = .ok text ∧
    fragments.length = 13 ∧ text = (Quoted.literal "a\nb").intercalate fragments ∧
    ∀ name, render [⟨"Zapfino", some "Zapfino"⟩, ⟨"Menlo", some name⟩] "::fontsgen" =
      .ok ((Quoted.literal name).intercalate fragments) := by
  obtain ⟨text, accepted⟩ : ∃ text,
      render [⟨"Zapfino", some "Zapfino"⟩, ⟨"Menlo", some "a\nb"⟩] "::fontsgen" = .ok text :=
    render_of_valid (by decide +kernel) (by decide +kernel) (by decide)
  obtain ⟨fragments, length, -, ⟨name, font, eq⟩, others, -⟩ :=
    render_interleaved accepted (i := 1) (by decide)
  obtain rfl : "a\nb" = name := Option.some.inj font
  exact ⟨text, fragments, accepted, length, eq, others⟩

end Module
end FontAccessors
