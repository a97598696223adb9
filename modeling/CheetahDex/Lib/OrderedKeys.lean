import CheetahDex.Lib.HashMap
import Mathlib.Data.Finset.Max

/-!
# Hash maps with ordered keys

The least and the greatest key, and several entries put at once.
-/

namespace CheetahDex.Lib.HashMap

open Finmap

variable {κ ν : Type*} [LinearOrder κ] {m : HashMap κ ν} {k : κ}

/-- `keys().min()`. -/
def minKey (m : HashMap κ ν) : Option κ :=
  if h : m.keys.Nonempty then some (m.keys.min' h) else none

/-- `keys().max()`. -/
def maxKey (m : HashMap κ ν) : Option κ :=
  if h : m.keys.Nonempty then some (m.keys.max' h) else none

/-- `extend`: the entries of `m` replace those of `rows` with the same key. -/
def extend (rows m : HashMap κ ν) : HashMap κ ν := m ∪ rows

@[simp]
theorem lookup_extend (rows m : HashMap κ ν) (k : κ) :
    (extend rows m).lookup k = (m.lookup k).or (rows.lookup k) := by
  unfold extend
  by_cases h : k ∈ m
  · obtain ⟨v, hv⟩ := mem_iff.mp h
    rw [lookup_union_left h, hv, Option.some_or]
  · rw [lookup_union_right h, lookup_eq_none.mpr h, Option.none_or]

/-- The keys that have a value. -/
def Keys (m : HashMap κ ν) : Set κ := {k | ∃ v, m.lookup k = some v}

theorem coe_keys : (m.keys : Set κ) = Keys m := by
  ext k
  exact Finmap.mem_keys.trans mem_iff

theorem minKey_eq_some : m.minKey = some k ↔ IsLeast (Keys m) k := by
  unfold minKey
  split
  · next h =>
    have hls := m.keys.isLeast_min' h
    rw [coe_keys] at hls
    rw [Option.some.injEq]
    exact ⟨fun heq => heq ▸ hls, hls.unique⟩
  · next h =>
    refine ⟨nofun, fun hls => absurd ⟨k, ?_⟩ h⟩
    rw [← Finset.mem_coe, coe_keys]
    exact hls.1

theorem maxKey_eq_some : m.maxKey = some k ↔ IsGreatest (Keys m) k := by
  unfold maxKey
  split
  · next h =>
    have hgr := m.keys.isGreatest_max' h
    rw [coe_keys] at hgr
    rw [Option.some.injEq]
    exact ⟨fun heq => heq ▸ hgr, hgr.unique⟩
  · next h =>
    refine ⟨nofun, fun hgr => absurd ⟨k, ?_⟩ h⟩
    rw [← Finset.mem_coe, coe_keys]
    exact hgr.1

end CheetahDex.Lib.HashMap
