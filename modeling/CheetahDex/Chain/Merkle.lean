import CheetahDex.Chain.Codec
import CheetahDex.Lib.Merkle

/-!
# The merkle root of a block

`merkleRoot` computes row after row in a vector, with an index that goes up by two. The rows are
those of `Lib.Merkle`.
-/

namespace CheetahDex.Chain

open Lib Merkle

variable (sha256 : Bytes → H256)

def merkleNodeHash (left right : H256) : H256 := dhash256 sha256 (left.toList ++ right.toList)

/-- The inner loop of `merkle_root`. -/
def nextRow (current : List H256) (idx : Nat) (next : List H256) : List H256 :=
  if h : idx < current.length then
    let left := current[idx]
    let right := if h' : idx + 1 < current.length then current[idx + 1] else left
    nextRow current (idx + 2) (next ++ [merkleNodeHash sha256 left right])
  else next
termination_by current.length - idx

/-- The loop goes through the row from left to right. -/
theorem nextRow_append (done row next : List H256) :
    nextRow sha256 (done ++ row) done.length next = next ++ above (merkleNodeHash sha256) row := by
  match row with
  | [] => rw [nextRow, dif_neg (by simp), above, List.append_nil]
  | [a] =>
    rw [nextRow, dif_pos (by simp), nextRow, dif_neg (by simp)]
    simp [above]
  | a :: b :: row =>
    have ih := nextRow_append (done ++ [a, b]) row (next ++ [merkleNodeHash sha256 a b])
    rw [nextRow, dif_pos (by simp)]
    simpa [above] using ih
termination_by row.length

theorem nextRow_eq (current : List H256) :
    nextRow sha256 current 0 [] = above (merkleNodeHash sha256) current :=
  nextRow_append sha256 [] current []

/-- `merkle_root`. Without leaves it panics. -/
def merkleRoot (leaves : List H256) : Option H256 :=
  if 1 < leaves.length then merkleRoot (nextRow sha256 leaves 0 []) else leaves[0]?
termination_by leaves.length
decreasing_by
  rw [nextRow_eq, length_above]
  omega

/-- The loop over the rows computes the root of the tree. -/
theorem merkleRoot_eq (leaves : List H256) :
    merkleRoot sha256 leaves = root (merkleNodeHash sha256) leaves := by
  fun_induction merkleRoot with
  | case1 leaves hmn ih =>
    obtain ⟨a, row, rfl⟩ := List.exists_cons_of_length_pos (Nat.zero_lt_of_lt hmn)
    obtain ⟨b, row, rfl⟩ := List.exists_cons_of_length_pos (Nat.lt_of_succ_lt_succ hmn)
    rw [ih, nextRow_eq, root]
  | case2 leaves hfew =>
    cases leaves with
    | nil => rw [root, List.getElem?_nil]
    | cons a row =>
      cases row with
      | nil => rw [root, List.getElem?_cons_zero]
      | cons b row => simp at hfew

end CheetahDex.Chain
