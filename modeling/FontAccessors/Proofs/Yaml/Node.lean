import FontAccessors.Yaml.Document

namespace FontAccessors.Yaml.Node

mutual

def isDirect : Node → Bool
  | scalar .. | broken => true
  | reference _ => false
  | sequence _ items => areDirect items
  | mapping _ entries => haveDirectParts entries

def areDirect : List Node → Bool
  | [] => true
  | n :: ns => isDirect n && areDirect ns

def haveDirectParts : List (Node × Node) → Bool
  | [] => true
  | (k, v) :: es => isDirect k && isDirect v && haveDirectParts es

end

mutual

def unmarked : Node → Node
  | scalar _ tag isPlain text => scalar .start tag isPlain text
  | sequence _ items => sequence .start (unmarkedItems items)
  | mapping _ entries => mapping .start (unmarkedEntries entries)
  | reference anchor => reference anchor
  | broken => broken

def unmarkedItems : List Node → List Node
  | [] => []
  | n :: ns => unmarked n :: unmarkedItems ns

def unmarkedEntries : List (Node × Node) → List (Node × Node)
  | [] => []
  | (k, v) :: es => (unmarked k, unmarked v) :: unmarkedEntries es

end

mutual

theorem isWhole_unmarked (n : Node) : n.unmarked.isWhole = n.isWhole := by
  cases n with
  | sequence mark items => exact areWhole_unmarked items
  | mapping mark entries => exact haveWholeParts_unmarked entries
  | _ => rfl

theorem areWhole_unmarked (ns : List Node) : areWhole (unmarkedItems ns) = areWhole ns := by
  cases ns with
  | nil => rfl
  | cons n ns => rw [unmarkedItems, areWhole, areWhole, isWhole_unmarked n, areWhole_unmarked ns]

theorem haveWholeParts_unmarked (es : List (Node × Node)) :
    haveWholeParts (unmarkedEntries es) = haveWholeParts es := by
  cases es with
  | nil => rfl
  | cons e es =>
    obtain ⟨k, v⟩ := e
    rw [unmarkedEntries, haveWholeParts, haveWholeParts, isWhole_unmarked k, isWhole_unmarked v,
      haveWholeParts_unmarked es]

end

mutual

def equal : Node → Node → Bool
  | scalar m t p s, scalar m' t' p' s' => m = m' && t = t' && p = p' && s = s'
  | sequence m ns, sequence m' ns' => m = m' && equalItems ns ns'
  | mapping m es, mapping m' es' => m = m' && equalEntries es es'
  | reference a, reference a' => a = a'
  | broken, broken => true
  | _, _ => false

def equalItems : List Node → List Node → Bool
  | [], [] => true
  | n :: ns, n' :: ns' => equal n n' && equalItems ns ns'
  | _, _ => false

def equalEntries : List (Node × Node) → List (Node × Node) → Bool
  | [], [] => true
  | (k, v) :: es, (k', v') :: es' => equal k k' && equal v v' && equalEntries es es'
  | _, _ => false

end

mutual

theorem equal_iff (n n' : Node) : equal n n' = true ↔ n = n' := by
  cases n with
  | scalar m t p s => cases n' <;> simp [equal, and_assoc]
  | sequence m ns => cases n' <;> simp [equal, equalItems_iff ns]
  | mapping m es => cases n' <;> simp [equal, equalEntries_iff es]
  | reference a => cases n' <;> simp [equal]
  | broken => cases n' <;> simp [equal]

theorem equalItems_iff (ns ns' : List Node) : equalItems ns ns' = true ↔ ns = ns' := by
  cases ns with
  | nil => cases ns' <;> simp [equalItems]
  | cons n ns => cases ns' <;> simp [equalItems, equal_iff n, equalItems_iff ns]

theorem equalEntries_iff (es es' : List (Node × Node)) :
    equalEntries es es' = true ↔ es = es' := by
  cases es with
  | nil => cases es' <;> simp [equalEntries]
  | cons e es =>
    obtain ⟨k, v⟩ := e
    cases es' with
    | nil => simp [equalEntries]
    | cons e' es' =>
      simp [equalEntries, equal_iff k, equal_iff v, equalEntries_iff es, Prod.ext_iff]

end

instance : DecidableEq Node :=
  fun n n' => decidable_of_iff (equal n n' = true) (equal_iff n n')

end FontAccessors.Yaml.Node
