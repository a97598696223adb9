import CheetahDex.Lib.HashMap

/-!
# Hash-rooted tries, seen from outside

A Patricia trie commits to a finite map by one hash, and a node database lets whoever knows that
hash read the map back. A `TrieHash` is the function from maps to roots, with collisions excluded,
and a database is the map from the roots committed so far to their contents. The default hash is the
root of no trie; the empty trie has a root of its own and is always present.
-/

namespace CheetahDex.Lib

variable {H κ ν : Type*} [DecidableEq H]

/-- Roots of finite maps, without collisions. -/
structure TrieHash (H κ ν : Type*) where
  /-- The default hash. -/
  zero : H
  /-- The root of the trie that holds a map. -/
  root : HashMap κ ν → H
  /-- No two maps have the same root. -/
  root_injective : Function.Injective root
  /-- No map has the default hash as its root. -/
  root_ne_zero : ∀ c, root c ≠ zero

/-- The contents by root. -/
abbrev TrieDb (H κ ν : Type*) := HashMap H (HashMap κ ν)

namespace TrieHash

variable (th : TrieHash H κ ν)

/-- The root of the empty trie. -/
def nullNode : H := th.root ∅

variable (db : TrieDb H κ ν)

/-- The trie under an existing root; `none` when the database does not have it. -/
def openTrie (r : H) : Option (HashMap κ ν) := if r = th.nullNode then some ∅ else db.lookup r

/-- The database after the trie of `c` has been written to it. -/
def commit (c : HashMap κ ν) : TrieDb H κ ν := db.insert (th.root c) c

/-- Every stored content stands under its own root. -/
def Sound : Prop := ∀ r c, db.lookup r = some c → r = th.root c

/-- `r` is the root of `c`, and the database can read it. -/
def Holds (r : H) (c : HashMap κ ν) : Prop := r = th.root c ∧ th.openTrie db r = some c

variable {th} {db : TrieDb H κ ν}

theorem sound_empty : th.Sound ∅ := by
  intro r c h
  simp at h

theorem Sound.commit (h : th.Sound db) (c : HashMap κ ν) : th.Sound (th.commit db c) := by
  intro r c' hl
  rw [TrieHash.commit, HashMap.lookup_insert_ite] at hl
  split at hl
  · rename_i hr
    rw [hr, Option.some.inj hl]
  · exact h r c' hl

variable {c : HashMap κ ν} {r : H}

theorem Sound.holds_of_open (h : th.Sound db) (ho : th.openTrie db r = some c) :
    th.Holds db r c := by
  refine ⟨?_, ho⟩
  unfold openTrie at ho
  split at ho
  · rename_i hr
    rw [hr, ← Option.some.inj ho, nullNode]
  · exact h r c ho

/-- The default hash opens nothing. -/
theorem Sound.openTrie_zero (h : th.Sound db) : th.openTrie db th.zero = none := by
  cases ho : th.openTrie db th.zero with
  | none => rfl
  | some c => exact absurd (h.holds_of_open ho).1.symm (th.root_ne_zero c)

theorem holds_commit (c : HashMap κ ν) : th.Holds (th.commit db c) (th.root c) c := by
  refine ⟨rfl, ?_⟩
  unfold openTrie TrieHash.commit
  split
  · rename_i hr
    rw [th.root_injective hr]
  · exact Finmap.lookup_insert _

/-- Committing another trie does not disturb one that can be read. -/
theorem Holds.commit (h : th.Holds db r c) (c' : HashMap κ ν) : th.Holds (th.commit db c') r c := by
  obtain ⟨hr, ho⟩ := h
  refine ⟨hr, ?_⟩
  unfold openTrie TrieHash.commit at *
  split
  · rename_i hn
    rw [if_pos hn] at ho
    exact ho
  · rename_i hn
    rw [if_neg hn] at ho
    rw [HashMap.lookup_insert_ite]
    split
    · rename_i hc
      rw [th.root_injective (hc.symm.trans hr)]
    · exact ho

theorem Holds.ne_zero (h : th.Holds db r c) : r ≠ th.zero := h.1 ▸ th.root_ne_zero c

/-- Roots that are the maps themselves, for running a program on concrete values. -/
def plain : TrieHash (Option (HashMap κ ν)) κ ν where
  zero := none
  root := some
  root_injective := Option.some_injective _
  root_ne_zero := by simp

end TrieHash

end CheetahDex.Lib
