import FontAccessors.Font.Basic
import FontAccessors.Proofs.Decimal.Text

namespace FontAccessors

theorem append_space_inj {front front' back back' : List Char} (h : ' ' ∉ back)
    (h' : ' ' ∉ back') (same : front ++ ' ' :: back = front' ++ ' ' :: back') :
    front = front' ∧ back = back' := by
  rcases List.append_eq_append_iff.1 same with ⟨more, rfl, eq⟩ | ⟨more, rfl, eq⟩
  · cases more with
    | nil => exact ⟨(List.append_nil front).symm, (List.cons.inj eq).2⟩
    | cons c more => exact absurd ((List.cons.inj eq).2 ▸ by simp) h
  · cases more with
    | nil => exact ⟨List.append_nil front', (List.cons.inj eq).2.symm⟩
    | cons c more => exact absurd ((List.cons.inj eq).2 ▸ by simp) h'

namespace TextStyle

theorem space_not_mem_name (s : TextStyle) : ' ' ∉ s.name.toList := by
  cases s <;> decide

end TextStyle

namespace Font

def isNaN (size : Float32) : Bool :=
  Decimal.binary32.isNaN size.toBits.toNat

theorem sizeText_eq_iff {x y : Float32} :
    sizeText x = sizeText y ↔ x.toBits = y.toBits ∨ isNaN x = true ∧ isNaN y = true := by
  have small (x : Float32) : x.toBits.toNat < 2 * Decimal.binary32.size := UInt32.toNat_lt _
  rw [sizeText, sizeText, Decimal.Format.text_eq_iff (by decide) (small x) (small y),
    UInt32.toNat_inj]
  rfl

def points (size : Float32) : List Char :=
  (sizeText size).toList ++ ['p', 't']

def styleWord (s : TextStyle) : List Char :=
  '(' :: s.name.toList ++ [')']

theorem space_not_mem_points (size : Float32) : ' ' ∉ points size := by
  simp [points, Decimal.Format.space_not_mem_text, sizeText]

theorem space_not_mem_styleWord (s : TextStyle) : ' ' ∉ styleWord s := by
  simp [styleWord, s.space_not_mem_name]

theorem points_ne_styleWord (size : Float32) (s : TextStyle) : points size ≠ styleWord s := by
  intro eq
  have last := congrArg List.getLast? eq
  rw [points, styleWord, List.getLast?_append_cons, List.getLast?_append_cons] at last
  cases last

theorem points_inj {x y : Float32} : points x = points y ↔ sizeText x = sizeText y := by
  rw [points, points, List.append_cancel_right_eq, String.toList_inj]

theorem styleWord_inj {s t : TextStyle} (h : styleWord s = styleWord t) : s = t := by
  refine TextStyle.name_injective (String.toList_inj.1 ?_)
  exact List.append_cancel_right (List.cons.inj h).2

theorem display_fixed {f : Font} (h : f.relativeTo = none) :
    f.display.toList = f.family.toList ++ ' ' :: points f.size := by
  simp [display, h, points]

theorem display_dynamic {f : Font} {s : TextStyle} (h : f.relativeTo = some s) :
    f.display.toList = f.family.toList ++ ' ' :: points f.size ++ ' ' :: styleWord s := by
  simp [display, h, points, styleWord]

theorem parts_of_display {f g : Font} (h : f.display.toList = g.display.toList) :
    f.family = g.family ∧ f.relativeTo = g.relativeTo ∧ sizeText f.size = sizeText g.size := by
  have size := space_not_mem_points f.size
  have size' := space_not_mem_points g.size
  cases style : f.relativeTo <;> cases style' : g.relativeTo
  case none.none =>
    rw [display_fixed style, display_fixed style'] at h
    obtain ⟨family, points⟩ := append_space_inj size size' h
    exact ⟨String.toList_inj.1 family, rfl, points_inj.1 points⟩
  case none.some t =>
    rw [display_fixed style, display_dynamic style'] at h
    obtain ⟨-, word⟩ := append_space_inj size (space_not_mem_styleWord t) h
    exact absurd word (points_ne_styleWord _ _)
  case some.none s =>
    rw [display_dynamic style, display_fixed style'] at h
    obtain ⟨-, word⟩ := append_space_inj (space_not_mem_styleWord s) size' h
    exact absurd word.symm (points_ne_styleWord _ _)
  case some.some s t =>
    rw [display_dynamic style, display_dynamic style'] at h
    obtain ⟨front, word⟩ := append_space_inj (space_not_mem_styleWord s)
      (space_not_mem_styleWord t) h
    obtain ⟨family, points⟩ := append_space_inj size size' front
    exact ⟨String.toList_inj.1 family, congrArg some (styleWord_inj word), points_inj.1 points⟩

/-- Two fonts have one text just where they have one family, one style and sizes that print the
same, whatever the families hold. Sizes that print the same are the same, unless they are no
numbers. -/
theorem display_eq_iff (f g : Font) :
    (f.display = g.display ↔ f.family = g.family ∧ f.relativeTo = g.relativeTo ∧
      sizeText f.size = sizeText g.size) ∧
    (sizeText f.size = sizeText g.size ↔
      f.size.toBits = g.size.toBits ∨ isNaN f.size = true ∧ isNaN g.size = true) := by
  refine ⟨⟨fun h => parts_of_display (congrArg String.toList h), ?_⟩, sizeText_eq_iff⟩
  rintro ⟨family, style, size⟩
  rw [display, display, family, style, size]

end Font
end FontAccessors
