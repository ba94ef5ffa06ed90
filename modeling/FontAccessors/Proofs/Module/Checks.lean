import FontAccessors.Proofs.Grammar.Reader
import FontAccessors.Proofs.Module.Template
import FontAccessors.Proofs.Token.Spelling

namespace FontAccessors

namespace Grammar
open Token Lexeme

theorem enter_of_written {ts : List Token} (h : ∀ l ∈ flatAll ts, l.isWritten = true) :
    enter ts = ts := by
  cases ts with
  | nil => exact enter_nil
  | cons t ts =>
    cases t with
    | group d content =>
      refine enter_group ?_ content ts
      rintro rfl
      cases h (.opening .invisible) (by simp [flat])
    | ident => exact enter_ident _ _
    | punct => exact enter_punct _ _ _
    | literal => exact enter_literal _ _

theorem whole_name_iff {ts : List Token} {i : Ident}
    (written : ∀ l ∈ flatAll ts, l.isWritten = true) :
    whole (fun _ _ => name) ts = some i ↔ ts = [.ident i] ∧ isName i = true := by
  constructor
  · intro h
    obtain ⟨⟨j, rest⟩, read, ends⟩ := Option.bind_eq_some_iff.1 h
    obtain ⟨at_, named⟩ := Option.filter_eq_some_iff.1 read
    rw [identAt?, enter_of_written written] at at_
    split at at_
    · cases at_
      have rest' : enter rest = rest :=
        enter_of_written fun l mem => written l (by simp [mem])
      split at ends
      · rename_i spent
        cases ends
        rw [isSpent, rest', List.isEmpty_iff] at spent
        subst spent
        exact ⟨rfl, named⟩
      · cases ends
    · cases at_
  · rintro ⟨rfl, named⟩
    have read : identAt? [.ident i] = some (i, []) := by simp [identAt?]
    have run : (name : Reader Ident) [.ident i] = some (i, []) := by
      show (identAt? [.ident i]).filter _ = _
      rw [read, Option.filter_some, if_pos named]
    rw [whole, run]
    simp [isSpent]

theorem nameOfText_iff {text : String} {i : Ident} :
    nameOfText? text = some i ↔ Spells (unmarked text.toList) i ∧ isName i = true := by
  rw [← lexChars_name_iff]
  constructor
  · intro h
    obtain ⟨ts, hts, hwhole⟩ := Option.bind_eq_some_iff.1 h
    obtain ⟨rfl, named⟩ := (whole_name_iff (isWritten_lexChars hts)).1 hwhole
    exact ⟨hts, named⟩
  · rintro ⟨hts, named⟩
    have written : ∀ l ∈ flatAll [.ident i], l.isWritten = true := by simp [flat, isWritten]
    rw [nameOfText?, lex, hts]
    exact (whole_name_iff written).2 ⟨rfl, named⟩

end Grammar

def Family.Checked.request (c : Family.Checked) : Family :=
  ⟨c.typeName, some c.fontName⟩

namespace Module
open Grammar Lexeme Token

theorem bind_ok {ε α β : Type} {x : Except ε α} {f : α → Except ε β} {b : β} :
    x >>= f = .ok b ↔ ∃ a, x = .ok a ∧ f a = .ok b := by
  cases x with
  | error e => exact ⟨nofun, fun ⟨_, h, _⟩ => nomatch h⟩
  | ok a => exact ⟨fun h => ⟨a, rfl, h⟩, fun ⟨_, h, h'⟩ => by cases h; exact h'⟩

theorem checkFamily_unnamed {f : Family} (h : nameOfText? f.typeName = none) :
    checkFamily f = .error (.invalidTypeName f.typeName) := by
  rw [checkFamily, h]
  rfl

theorem checkFamily_no_font {f : Family} (named : (nameOfText? f.typeName).isSome = true)
    (h : f.fontName = none) : checkFamily f = .error .missingFontName := by
  obtain ⟨i, hi⟩ := Option.isSome_iff_exists.1 named
  have missing : f.settings.accessors .enumeration = .error .missingFontName :=
    Settings.accessors_of_no_fontName (by rw [Family.settings, h]; rfl)
  rw [checkFamily, hi, missing]
  rfl

theorem checkFamily_named {f : Family} (named : (nameOfText? f.typeName).isSome = true)
    {font : String} (h : f.fontName = some font) : checkFamily f = .ok ⟨f.typeName, font⟩ := by
  obtain ⟨i, hi⟩ := Option.isSome_iff_exists.1 named
  have given : f.settings.accessors .enumeration = .ok (Accessor.ofFont font) :=
    Settings.accessors_of_fontName (by rw [Family.settings, h]; rfl)
  rw [checkFamily, hi, given]
  rfl

theorem checkFamily_ok_iff {f : Family} {c : Family.Checked} :
    checkFamily f = .ok c ↔ f = c.request ∧ (nameOfText? c.typeName).isSome = true := by
  constructor
  · intro h
    cases named : nameOfText? f.typeName with
    | none =>
      rw [checkFamily_unnamed named] at h
      cases h
    | some i =>
      have named' : (nameOfText? f.typeName).isSome = true := by rw [named]; rfl
      cases font : f.fontName with
      | none =>
        rw [checkFamily_no_font named' font] at h
        cases h
      | some name =>
        rw [checkFamily_named named' font] at h
        cases h
        exact ⟨by rw [Family.Checked.request, ← font], named'⟩
  · rintro ⟨rfl, named⟩
    exact checkFamily_named (f := c.request) named rfl

theorem checkFamilies_cons_ok_iff {seen : List String} {f : Family} {fs : List Family}
    {cs : List Family.Checked} :
    checkFamilies seen (f :: fs) = .ok cs ↔ ∃ c cs', cs = c :: cs' ∧ f = c.request ∧
      (nameOfText? c.typeName).isSome = true ∧ c.typeName ∉ seen ∧
      checkFamilies (c.typeName :: seen) fs = .ok cs' := by
  rw [checkFamilies, bind_ok]
  constructor
  · rintro ⟨c, hc, rest⟩
    obtain ⟨rfl, named⟩ := checkFamily_ok_iff.1 hc
    split at rest
    · cases rest
    · rename_i fresh
      obtain ⟨cs', hcs', eq⟩ := bind_ok.1 rest
      cases eq
      exact ⟨c, cs', rfl, rfl, named, by simpa [Family.Checked.request] using fresh, hcs'⟩
  · rintro ⟨c, cs', rfl, rfl, named, fresh, rest⟩
    refine ⟨c, checkFamily_ok_iff.2 ⟨rfl, named⟩, ?_⟩
    rw [if_neg (by simpa [Family.Checked.request] using fresh), bind_ok]
    exact ⟨cs', rest, rfl⟩

theorem checkFamilies_ok_iff {seen : List String} {fs : List Family} {cs : List Family.Checked} :
    checkFamilies seen fs = .ok cs ↔
      fs = cs.map Family.Checked.request ∧
        (∀ c ∈ cs, (nameOfText? c.typeName).isSome = true ∧ c.typeName ∉ seen) ∧
        (cs.map Family.Checked.typeName).Nodup := by
  induction fs generalizing seen cs with
  | nil =>
    rw [checkFamilies, Except.ok.injEq]
    constructor
    · rintro rfl
      simp
    · rintro ⟨eq, -, -⟩
      exact (List.map_eq_nil_iff.1 eq.symm).symm
  | cons f fs ih =>
    -- A later name is fresh for what was seen and for the first one, which has been seen by then.
    rw [checkFamilies_cons_ok_iff]
    constructor
    · rintro ⟨c, cs', rfl, rfl, named, fresh, rest⟩
      obtain ⟨rfl, valid, unique⟩ := ih.1 rest
      refine ⟨rfl, ?_, ?_⟩
      · intro d mem
        rcases List.mem_cons.1 mem with rfl | mem
        · exact ⟨named, fresh⟩
        · obtain ⟨named', fresh'⟩ := valid d mem
          exact ⟨named', fun seen' => fresh' (List.mem_cons_of_mem _ seen')⟩
      · rw [List.map_cons, List.nodup_cons]
        refine ⟨fun mem => ?_, unique⟩
        obtain ⟨d, hd, same⟩ := List.mem_map.1 mem
        exact (valid d hd).2 (by rw [same]; exact List.mem_cons_self)
    · rintro ⟨eq, valid, unique⟩
      cases cs with
      | nil => cases eq
      | cons c cs =>
        obtain ⟨rfl, rfl⟩ := List.cons.inj eq
        obtain ⟨named, fresh⟩ := valid c List.mem_cons_self
        rw [List.map_cons, List.nodup_cons] at unique
        refine ⟨c, cs, rfl, rfl, named, fresh, ih.2 ⟨rfl, fun d mem => ?_, unique.2⟩⟩
        obtain ⟨named', fresh'⟩ := valid d (List.mem_cons_of_mem _ mem)
        refine ⟨named', fun seen' => ?_⟩
        rcases List.mem_cons.1 seen' with same | seen'
        · exact unique.1 (List.mem_map.2 ⟨d, mem, same⟩)
        · exact fresh' seen'

theorem render_ok_iff {families : List Family} {path text : String} :
    render families path = .ok text ↔
      (Path.ofText? path).isSome = true ∧ ∃ cs : List Family.Checked,
        families = cs.map Family.Checked.request ∧
        (∀ c ∈ cs, (nameOfText? c.typeName).isSome = true) ∧
        (cs.map Family.Checked.typeName).Nodup ∧ text = Module.text path cs := by
  rw [render_eq, bind_ok]
  constructor
  · rintro ⟨_, hpath, h⟩
    obtain ⟨cs, hcs, eq⟩ := bind_ok.1 h
    cases eq
    obtain ⟨rfl, valid, unique⟩ := checkFamilies_ok_iff.1 hcs
    rw [checkPath] at hpath
    split at hpath
    · rename_i isPath
      exact ⟨isPath, cs, rfl, fun c mem => (valid c mem).1, unique, rfl⟩
    · cases hpath
  · rintro ⟨isPath, cs, rfl, valid, unique, rfl⟩
    refine ⟨(), if_pos isPath, bind_ok.2 ⟨cs, checkFamilies_ok_iff.2 ⟨rfl, ?_, unique⟩, rfl⟩⟩
    exact fun c mem => ⟨valid c mem, List.not_mem_nil⟩

/-- The type that a family's text declares; raw or not, a name is the same. -/
def declared? (f : Family) : Option String :=
  (nameOfText? f.typeName).map Ident.name

/-- The text says a name and nothing else, raw or not, between blanks and comments. -/
def Denotes (text name : String) : Prop :=
  ∃ i, Spells (unmarked text.toList) i ∧ isName i = true ∧ i.name = name

theorem declared_iff {f : Family} {name : String} :
    declared? f = some name ↔ Denotes f.typeName name := by
  rw [declared?, Option.map_eq_some_iff]
  simp only [nameOfText_iff, and_assoc, Denotes]

theorem nodup_map_iff {α β γ : Type} {f : α → β} {g : α → γ} {l : List α} (h : (l.map f).Nodup) :
    (l.map g).Nodup ↔ ∀ a ∈ l, ∀ b ∈ l, f a ≠ f b → g a ≠ g b := by
  induction l with
  | nil => simp
  | cons a l ih =>
    rw [List.map_cons, List.nodup_cons] at h
    rw [List.map_cons, List.nodup_cons, ih h.2]
    have apart : ∀ b ∈ l, f a ≠ f b := fun b mem same =>
      h.1 (List.mem_map.2 ⟨b, mem, same.symm⟩)
    constructor
    · rintro ⟨fresh, rest⟩ x hx y hy differ same
      rcases List.mem_cons.1 hx with hx | hx <;> rcases List.mem_cons.1 hy with hy | hy
      · exact differ (by rw [hx, hy])
      · exact fresh (List.mem_map.2 ⟨y, hy, by rw [← same, hx]⟩)
      · exact fresh (List.mem_map.2 ⟨x, hx, by rw [same, hy]⟩)
      · exact rest x hx y hy differ same
    · intro rest
      refine ⟨fun mem => ?_, fun x hx y hy => rest x (List.mem_cons_of_mem _ hx) y
        (List.mem_cons_of_mem _ hy)⟩
      obtain ⟨b, hb, same⟩ := List.mem_map.1 mem
      exact rest a List.mem_cons_self b (List.mem_cons_of_mem _ hb) (apart b hb) same.symm

theorem render_of_valid {families : List Family} {path : String}
    (isPath : (Path.ofText? path).isSome = true)
    (valid : ∀ f ∈ families, f.fontName.isSome = true ∧ (nameOfText? f.typeName).isSome = true)
    (unique : (families.map Family.typeName).Nodup) : ∃ text, render families path = .ok text := by
  have written : ∃ cs : List Family.Checked, families = cs.map Family.Checked.request := by
    clear unique
    induction families with
    | nil => exact ⟨[], rfl⟩
    | cons f fs ih =>
      obtain ⟨cs, rfl⟩ := ih fun g mem => valid g (List.mem_cons_of_mem _ mem)
      obtain ⟨name, font⟩ := Option.isSome_iff_exists.1 (valid f List.mem_cons_self).1
      refine ⟨⟨f.typeName, name⟩ :: cs, ?_⟩
      rw [List.map_cons, Family.Checked.request, ← font]
  obtain ⟨cs, rfl⟩ := written
  refine ⟨_, render_ok_iff.2 ⟨isPath, cs, rfl, fun c mem => ?_, ?_, rfl⟩⟩
  · exact (valid _ (List.mem_map_of_mem mem)).2
  · rw [List.map_map] at unique
    exact unique

/-- A module declares one type twice exactly if it is asked for with valid families of different
texts, two of which say the same name. -/
theorem declares_twice_iff {families : List Family} {path : String} :
    (∃ text, render families path = .ok text ∧ ¬(families.map declared?).Nodup) ↔
      (Path.ofText? path).isSome = true ∧
        (∀ f ∈ families, f.fontName.isSome = true ∧ ∃ name, Denotes f.typeName name) ∧
        (families.map Family.typeName).Nodup ∧
        ∃ f ∈ families, ∃ g ∈ families, f.typeName ≠ g.typeName ∧
          ∃ name, Denotes f.typeName name ∧ Denotes g.typeName name := by
  have named (f : Family) :
      (nameOfText? f.typeName).isSome = true ↔ ∃ name, Denotes f.typeName name := by
    simp only [← declared_iff, declared?, Option.isSome_iff_exists, Option.map_eq_some_iff]
    exact ⟨fun ⟨i, hi⟩ => ⟨i.name, i, hi, rfl⟩, fun ⟨_, i, hi, _⟩ => ⟨i, hi⟩⟩
  constructor
  · rintro ⟨text, h, twice⟩
    obtain ⟨isPath, cs, rfl, valid, unique, -⟩ := render_ok_iff.1 h
    have valid' : ∀ f ∈ cs.map Family.Checked.request,
        f.fontName.isSome = true ∧ ∃ name, Denotes f.typeName name := by
      intro f mem
      obtain ⟨c, hc, rfl⟩ := List.mem_map.1 mem
      exact ⟨rfl, (named _).1 (valid c hc)⟩
    have unique' : ((cs.map Family.Checked.request).map Family.typeName).Nodup := by
      rw [List.map_map]
      exact unique
    refine ⟨isPath, valid', unique', ?_⟩
    rw [nodup_map_iff unique'] at twice
    simp only [Classical.not_forall, Classical.not_not] at twice
    obtain ⟨f, hf, g, hg, differ, same⟩ := twice
    obtain ⟨-, name, denotes⟩ := valid' f hf
    refine ⟨f, hf, g, hg, differ, name, denotes, ?_⟩
    rw [← declared_iff, ← same, declared_iff]
    exact denotes
  · rintro ⟨isPath, valid, unique, f, hf, g, hg, differ, name, first, second⟩
    obtain ⟨text, h⟩ := render_of_valid isPath
      (fun f mem => ⟨(valid f mem).1, (named f).2 (valid f mem).2⟩) unique
    refine ⟨text, h, fun apart => ?_⟩
    refine (nodup_map_iff unique).1 apart f hf g hg differ ?_
    rw [declared_iff.2 first, declared_iff.2 second]

end Module
end FontAccessors
