namespace FontAccessors

inductive TextStyle where
  | largeTitle
  | title
  | title2
  | title3
  | body
  | callout
  | subheadline
  | footnote
  | caption
  | caption2
  deriving DecidableEq, Repr

namespace TextStyle

def all : List TextStyle :=
  [largeTitle, title, title2, title3, body, callout, subheadline, footnote, caption, caption2]

def name : TextStyle → String
  | largeTitle => "largeTitle"
  | title => "title"
  | title2 => "title2"
  | title3 => "title3"
  | body => "body"
  | callout => "callout"
  | subheadline => "subheadline"
  | footnote => "footnote"
  | caption => "caption"
  | caption2 => "caption2"

def variant : TextStyle → String
  | largeTitle => "LargeTitle"
  | title => "Title"
  | title2 => "Title2"
  | title3 => "Title3"
  | body => "Body"
  | callout => "Callout"
  | subheadline => "Subheadline"
  | footnote => "Footnote"
  | caption => "Caption"
  | caption2 => "Caption2"

def defaultPointSize : TextStyle → Float32
  | largeTitle => 34.0
  | title => 28.0
  | title2 => 22.0
  | title3 => 20.0
  | body => 17.0
  | callout => 16.0
  | subheadline => 15.0
  | footnote => 13.0
  | caption => 12.0
  | caption2 => 11.0

structure Unknown where
  name : String
  deriving DecidableEq, Repr

def Unknown.message (u : Unknown) : String :=
  "unknown text style '" ++ u.name ++ "'"

def ofName (n : String) : Except Unknown TextStyle :=
  match all.find? (·.name == n) with
  | some s => .ok s
  | none => .error ⟨n⟩

theorem name_injective {s t : TextStyle} (h : s.name = t.name) : s = t := by
  cases s <;> cases t <;> first | rfl | exact absurd h (by decide)

end TextStyle
end FontAccessors
