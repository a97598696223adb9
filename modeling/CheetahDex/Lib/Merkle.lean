import Mathlib.Data.List.Basic

/-!
# Merkle trees

The nodes of a row are hashed in pairs, a last node without a neighbour with itself, until one node
is left. The branch of a leaf lists the other child of every node above it, from the bottom up, and
climbing it gives the root again. The hash of two nodes is any function `node`.
-/

namespace CheetahDex.Lib.Merkle

open List

variable {α : Type*} (node : α → α → α)

/-- The row above. -/
def above : List α → List α
  | [] => []
  | [a] => [node a a]
  | a :: b :: row => node a b :: above row

@[simp]
theorem length_above (row : List α) : (above node row).length = (row.length + 1) / 2 := by
  fun_induction above with
  | case1 => simp
  | case2 a => simp
  | case3 a b row ih =>
    rw [length_cons, ih, length_cons, length_cons]
    omega

theorem length_above_lt (a b : α) (row : List α) :
    (above node (a :: b :: row)).length < (a :: b :: row).length := by
  rw [length_above, length_cons, length_cons]
  omega

/-- The last row; a row without nodes has none. -/
def root : List α → Option α
  | [] => none
  | [a] => some a
  | a :: b :: row => root (above node (a :: b :: row))
termination_by row => row.length
decreasing_by exact length_above_lt node a b row

/-- The other child of the node above: the right neighbour of an even position, or the node itself
if it has none, and the left neighbour of an odd one. -/
def sibling (row : List α) (i : ℕ) (self : α) : α :=
  row.getD (if i % 2 = 1 then i - 1 else i + 1) self

/-- The siblings on the way from a position up to the root. -/
def branch : List α → ℕ → List α
  | [], _ => []
  | [_], _ => []
  | a :: b :: row, i =>
    sibling (a :: b :: row) i ((a :: b :: row).getD i a) ::
      branch (above node (a :: b :: row)) (i / 2)
termination_by row => row.length
decreasing_by exact length_above_lt node a b row

/-- One step up: the bit of the position says on which side the sibling is. -/
def join (i : ℕ) (self other : α) : α := if i % 2 = 1 then node other self else node self other

/-- From a node up, with the siblings on the way. -/
def climb : α → List α → ℕ → α
  | self, [], _ => self
  | self, other :: others, i => climb (join node i self other) others (i / 2)

variable {node}

theorem sibling_add_two (a b : α) (row : List α) (i : ℕ) (self : α) :
    sibling (a :: b :: row) (i + 2) self = sibling row i self := by
  unfold sibling
  rw [Nat.add_mod_right]
  split
  · rename_i hodd
    obtain ⟨j, rfl⟩ : ∃ j, i = j + 1 := ⟨i - 1, by omega⟩
    rfl
  · rfl

section

variable {row : List α} {i : ℕ} {self : α} (h : row[i]? = some self)

include h

/-- What stands above a position. -/
theorem above_getElem? :
    (above node row)[i / 2]? = some (join node i self (sibling row i self)) := by
  fun_induction above generalizing i with
  | case1 => simp at h
  | case2 a =>
    obtain ⟨rfl, rfl⟩ : i = 0 ∧ a = self := by simpa [getElem?_singleton] using h
    rfl
  | case3 a b row ih =>
    match i with
    | 0 =>
      cases h
      rfl
    | 1 =>
      cases h
      rfl
    | i + 2 =>
      rw [sibling_add_two, Nat.add_div_right i Nat.two_pos, getElem?_cons_succ, ih h]
      simp only [join, Nat.add_mod_right]

/-- **Climbing the branch of a leaf gives the root.** -/
theorem climb_branch : root node row = some (climb node self (branch node row i) i) := by
  -- along the rows of the tree, as `branch` goes up
  fun_induction branch generalizing self with
  | case1 => simp at h
  | case2 a i =>
    obtain ⟨rfl, rfl⟩ : i = 0 ∧ a = self := by simpa [getElem?_singleton] using h
    rw [root, climb]
  | case3 a b row i ih =>
    have hsl : (a :: b :: row).getD i a = self := by rw [getD_eq_getElem?_getD, h, Option.getD_some]
    rw [root, climb, hsl]
    exact ih (above_getElem? h)

end

end CheetahDex.Lib.Merkle
