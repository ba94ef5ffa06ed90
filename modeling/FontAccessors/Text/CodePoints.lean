/-!
Sets of characters given by ranges of code points. Standard properties of characters are tables of
this type; a table leaves out the characters below 128, for which its user states a rule.
-/

namespace FontAccessors.Text

structure CodePoints where
  ranges : List (Nat × Nat)
  deriving DecidableEq, Repr

namespace CodePoints

def contains (s : CodePoints) (c : Char) : Bool :=
  s.ranges.any fun r => decide (r.1 ≤ c.toNat) && decide (c.toNat ≤ r.2)

theorem contains_iff {s : CodePoints} {c : Char} :
    s.contains c = true ↔ ∃ r ∈ s.ranges, r.1 ≤ c.toNat ∧ c.toNat ≤ r.2 := by
  simp [contains]

def empty : CodePoints :=
  ⟨[]⟩

def last : Nat := 0x10FFFF

def union (s t : CodePoints) : CodePoints :=
  ⟨s.ranges ++ t.ranges⟩

def gaps (start : Nat) : List (Nat × Nat) → List (Nat × Nat)
  | [] => if start ≤ last then [(start, last)] else []
  | (a, b) :: rs => (if start < a then [(start, a - 1)] else []) ++ gaps (max start (b + 1)) rs

def complement (s : CodePoints) : CodePoints :=
  ⟨gaps 0 (s.ranges.mergeSort fun r q => decide (r.1 ≤ q.1))⟩

def intersection (s t : CodePoints) : CodePoints :=
  (s.complement.union t.complement).complement

def difference (s t : CodePoints) : CodePoints :=
  s.intersection t.complement

def symmetricDifference (s t : CodePoints) : CodePoints :=
  (s.difference t).union (t.difference s)

end CodePoints

def isAscii (c : Char) : Bool :=
  decide (c.toNat < 128)

end FontAccessors.Text
