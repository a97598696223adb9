import Mathlib.Algebra.Order.BigOperators.Group.Finset
import Mathlib.Data.Finmap
import Mathlib.Data.List.Sort

/-!
# Hash maps, hash sets and maps of sets

A hash map is Mathlib's `Finmap`. This file adds what a program does with such maps beyond inserting
and erasing: `get_mut`-style updates, `retain`, sums over the values, and the bookkeeping of a map
whose values are sets and which never keeps an empty set.

A hash set is a `Finset`. A loop over one sees its elements in an order nobody controls; an
`Iteration` is one such order, and a function that loops over a set takes it as a parameter.
-/

namespace CheetahDex.Lib

open List Option Finmap

variable {κ ν α : Type*} [DecidableEq κ]

/-- A finite map without order. -/
abbrev HashMap (κ ν : Type*) := Finmap fun _ : κ => ν

namespace HashMap

/-- The value at `k`, or `d` when the key is absent. -/
def getD (m : HashMap κ ν) (k : κ) (d : ν) : ν := (m.lookup k).getD d

/-- Change the value at `k` in place; an absent key stays absent. -/
def modify (m : HashMap κ ν) (k : κ) (f : ν → ν) : HashMap κ ν :=
  match m.lookup k with
  | some v => m.insert k (f v)
  | none => m

variable {es : Multiset (Sigma fun _ : κ => ν)} {k : κ}

omit [DecidableEq κ] in
theorem nodupKeys_filter (h : es.NodupKeys) (p : (Sigma fun _ : κ => ν) → Bool) :
    (es.filter fun e => p e).NodupKeys :=
  Multiset.nodup_keys.1 (Multiset.nodup_of_le (Multiset.map_le_map (Multiset.filter_le _ es))
    h.nodup_keys)

/-- Keep the entries that satisfy `p`. -/
def retain (m : HashMap κ ν) (p : κ → ν → Bool) : HashMap κ ν where
  entries := m.entries.filter fun e => p e.1 e.2
  nodupKeys := nodupKeys_filter m.nodupKeys fun e => p e.1 e.2

@[simp]
theorem lookup_retain (m : HashMap κ ν) (p : κ → ν → Bool) (k : κ) :
    (m.retain p).lookup k = (m.lookup k).filter (p k) := by
  refine Option.ext fun v => ?_
  rw [Finmap.lookup_eq_some_iff]
  simp only [retain, Multiset.mem_filter, filter_eq_some_iff, Finmap.lookup_eq_some_iff]

variable {μ : Type*} {m : HashMap κ ν}

omit [DecidableEq κ] in
theorem nodupKeys_mapValues (h : es.NodupKeys) (f : ν → μ) :
    (es.map fun e => (⟨e.1, f e.2⟩ : Sigma fun _ : κ => μ)).NodupKeys := by
  rw [← Multiset.nodup_keys, Multiset.keys, Multiset.map_map]
  exact h.nodup_keys

/-- Apply `f` to every value. -/
def mapValues {μ : Type*} (m : HashMap κ ν) (f : ν → μ) : HashMap κ μ where
  entries := m.entries.map fun e => ⟨e.1, f e.2⟩
  nodupKeys := nodupKeys_mapValues m.nodupKeys f

@[simp]
theorem lookup_mapValues (m : HashMap κ ν) (f : ν → μ) (k : κ) :
    (m.mapValues f).lookup k = (m.lookup k).map f := by
  refine Option.ext fun v => ?_
  rw [Finmap.lookup_eq_some_iff, map_eq_some_iff]
  simp only [mapValues, Multiset.mem_map, Finmap.lookup_eq_some_iff]
  constructor
  · rintro ⟨⟨k', v'⟩, hmem, heq⟩
    obtain ⟨rfl, hv⟩ := Sigma.mk.inj_iff.1 heq
    exact ⟨v', hmem, eq_of_heq hv⟩
  · rintro ⟨v', hmem, rfl⟩
    exact ⟨⟨k, v'⟩, hmem, rfl⟩

theorem lookup_insert_ite (m : HashMap κ ν) (k k' : κ) (v : ν) :
    (m.insert k v).lookup k' = if k' = k then some v else m.lookup k' := by
  by_cases hk : k' = k
  · subst hk
    simp
  · simp [lookup_insert_of_ne _ hk, hk]

theorem insert_self {v : ν} (h : m.lookup k = some v) : m.insert k v = m := by
  refine ext_lookup fun k' => ?_
  rw [lookup_insert_ite]
  split
  · rename_i hk
    rw [hk, h]
  · rfl

theorem lookup_erase_ite (m : HashMap κ ν) (k k' : κ) :
    (m.erase k).lookup k' = if k' = k then none else m.lookup k' := by
  by_cases hk : k' = k
  · subst hk
    simp
  · simp [lookup_erase_ne hk, hk]

/-- Some value satisfies `p`. -/
def any (m : HashMap κ ν) (p : ν → Bool) : Bool :=
  have : Decidable (∃ e ∈ m.entries, p e.2) := Multiset.decidableExistsMultiset
  decide (∃ e ∈ m.entries, p e.2)

theorem any_of_lookup {p : ν → Bool} {k : κ} {v : ν} (h : m.lookup k = some v) (hp : p v) :
    m.any p :=
  (@decide_eq_true_iff _ Multiset.decidableExistsMultiset).mpr ⟨⟨k, v⟩, lookup_eq_some_iff.1 h, hp⟩

/-! ## Sums -/

section Sum

variable {M : Type*} [AddCommMonoid M]

/-- The sum of a quantity over the values. -/
def sum (m : HashMap κ ν) (f : ν → M) : M := ∑ k ∈ m.keys, ((m.lookup k).map f).getD 0

/-- Keys beyond those of the map add nothing. -/
theorem sum_eq_of_subset (m : HashMap κ ν) (f : ν → M) {s : Finset κ} (hs : m.keys ⊆ s) :
    m.sum f = ∑ k ∈ s, ((m.lookup k).map f).getD 0 := by
  refine Finset.sum_subset hs fun k _ hk => ?_
  have hn : m.lookup k = none := lookup_eq_none.2 fun hmem => hk (mem_keys.2 hmem)
  rw [hn]
  rfl

variable {f : ν → M}

theorem sum_congr {m m' : HashMap κ ν} (h : ∀ k, (m'.lookup k).map f = (m.lookup k).map f) :
    m'.sum f = m.sum f := by
  have hlf : m.keys ⊆ m.keys ∪ m'.keys := Finset.subset_union_left
  have hrg : m'.keys ⊆ m.keys ∪ m'.keys := Finset.subset_union_right
  rw [sum_eq_of_subset m f hlf, sum_eq_of_subset m' f hrg]
  exact Finset.sum_congr rfl fun k _ => by rw [h]

theorem sum_insert_of_not_mem (f : ν → M) (v : ν) (hk : k ∉ m) :
    sum (m.insert k v) f = f v + m.sum f := by
  have hky : k ∉ m.keys := fun hmem => hk (mem_keys.1 hmem)
  have hsub : keys (m.insert k v) ⊆ insert k m.keys := by
    intro x hx
    rw [Finmap.mem_keys, mem_insert] at hx
    rw [Finset.mem_insert, Finmap.mem_keys]
    exact hx
  rw [sum_eq_of_subset _ f hsub, Finset.sum_insert hky, lookup_insert]
  refine congrArg₂ _ rfl (Finset.sum_congr rfl fun x hx => ?_)
  have hne : x ≠ k := fun hxk => hky (hxk ▸ hx)
  rw [lookup_insert_of_ne _ hne]

variable [PartialOrder M] [IsOrderedAddMonoid M]

theorem sum_nonneg (h : ∀ k v, m.lookup k = some v → 0 ≤ f v) : 0 ≤ m.sum f := by
  refine Finset.sum_nonneg fun k _ => ?_
  cases hv : m.lookup k with
  | none => exact le_rfl
  | some v => exact h k v hv

theorem sum_retain_le (h : ∀ k v, m.lookup k = some v → 0 ≤ f v) (p : κ → ν → Bool) :
    (m.retain p).sum f ≤ m.sum f := by
  have hsub : keys (m.retain p) ⊆ m.keys := by
    intro k hk
    rw [Finmap.mem_keys, ← lookup_isSome, lookup_retain] at hk
    obtain ⟨v, hv⟩ := isSome_iff_exists.1 hk
    exact mem_keys.2 (mem_of_lookup_eq_some (filter_eq_some_iff.1 hv).1)
  rw [sum_eq_of_subset _ f hsub]
  refine Finset.sum_le_sum fun k _ => ?_
  rw [lookup_retain]
  cases hv : m.lookup k with
  | none => exact le_rfl
  | some v =>
    rw [filter_some]
    split
    · exact le_rfl
    · exact h k v hv

end Sum

end HashMap

/-! ## Maps of sets -/

/-- A map from keys to sets, as an index keeps one: absent and empty mean the same to a reader, but
are different maps. -/
abbrev SetIndex (κ α : Type*) := HashMap κ (Finset α)

namespace SetIndex

/-- The set at `k`; an absent key has none. -/
def members (m : SetIndex κ α) (k : κ) : Finset α := HashMap.getD m k ∅

/-- No empty set is stored. -/
def NoEmpty (m : SetIndex κ α) : Prop := ∀ k s, m.lookup k = some s → s.Nonempty

@[simp]
theorem members_empty (k : κ) : members (∅ : SetIndex κ α) k = ∅ := by simp [members, HashMap.getD]

variable {m : SetIndex κ α}

variable {s : Finset α}

theorem members_eq_of_lookup {k : κ} (h : m.lookup k = some s) : members m k = s := by
  simp [members, HashMap.getD, h]

theorem members_insert (m : SetIndex κ α) (k k' : κ) (s : Finset α) :
    members (m.insert k s) k' = if k' = k then s else members m k' := by
  unfold members HashMap.getD
  rw [HashMap.lookup_insert_ite]
  split <;> rfl

theorem members_erase (m : SetIndex κ α) (k k' : κ) :
    members (m.erase k) k' = if k' = k then ∅ else members m k' := by
  unfold members HashMap.getD
  rw [HashMap.lookup_erase_ite]
  split <;> rfl

theorem noEmpty_empty : NoEmpty (∅ : SetIndex κ α) := by
  intro k s h
  simp at h

theorem NoEmpty.insert (h : NoEmpty m) {k : κ} (hs : s.Nonempty) : NoEmpty (m.insert k s) := by
  intro k' s' hl
  rw [HashMap.lookup_insert_ite] at hl
  split at hl
  · injection hl with hl
    exact hl ▸ hs
  · exact h k' s' hl

variable [DecidableEq α]

/-- `entry(k).or_default().insert(a)`. -/
def add (m : SetIndex κ α) (k : κ) (a : α) : SetIndex κ α := m.insert k (insert a (members m k))

/-- Remove `a` from the set at `k`, and the whole entry when nothing is left in it. -/
def remove (m : SetIndex κ α) (k : κ) (a : α) : SetIndex κ α :=
  match m.lookup k with
  | some s => if s.erase a = ∅ then m.erase k else m.insert k (s.erase a)
  | none => m

theorem members_add (m : SetIndex κ α) (k k' : κ) (a : α) :
    members (add m k a) k' = if k' = k then insert a (members m k) else members m k' :=
  members_insert m k k' _

theorem members_remove (m : SetIndex κ α) (k k' : κ) (a : α) :
    members (remove m k a) k' = if k' = k then (members m k).erase a else members m k' := by
  unfold remove
  split
  · rename_i s hs
    have hm := members_eq_of_lookup hs
    split
    · rename_i he
      rw [members_erase, hm, he]
    · rw [members_insert, hm]
  · rename_i hs
    have hm : members m k = ∅ := by simp [members, HashMap.getD, hs]
    by_cases hk : k' = k
    · subst hk
      simp [hm]
    · simp [hk]

theorem NoEmpty.add (h : NoEmpty m) (k : κ) (a : α) : NoEmpty (add m k a) :=
  h.insert (Finset.insert_nonempty _ _)

theorem NoEmpty.remove (h : NoEmpty m) (k : κ) (a : α) : NoEmpty (remove m k a) := by
  unfold SetIndex.remove
  split
  · split
    · intro k' s' hl
      rw [HashMap.lookup_erase_ite] at hl
      split at hl
      · cases hl
      · exact h k' s' hl
    · rename_i hne
      exact h.insert (Finset.nonempty_iff_ne_empty.2 hne)
  · exact h

end SetIndex

/-! ## Iterating over a set -/

/-- One order in which a loop may see the elements of a hash set. -/
structure Iteration (α : Type*) where
  /-- The elements in the order the loop sees them. -/
  toList : Finset α → List α
  /-- No element is seen twice. -/
  nodup : ∀ s, (toList s).Nodup
  /-- Exactly the elements of the set are seen. -/
  mem_toList : ∀ s a, a ∈ toList s ↔ a ∈ s

attribute [simp] Iteration.mem_toList

namespace Iteration

/-- The entries of a map in the order a loop sees their keys. -/
def entries (it : Iteration κ) (m : HashMap κ ν) : List (κ × ν) :=
  (it.toList m.keys).filterMap fun k => (m.lookup k).map (k, ·)

variable (it : Iteration κ) (m : HashMap κ ν)

@[simp]
theorem mem_entries (k : κ) (v : ν) : (k, v) ∈ it.entries m ↔ m.lookup k = some v := by
  simp only [entries, mem_filterMap, mem_toList, map_eq_some_iff, Prod.mk.injEq]
  constructor
  · rintro ⟨_, -, _, hv, rfl, rfl⟩
    exact hv
  · intro hv
    exact ⟨k, mem_keys.2 (mem_of_lookup_eq_some hv), v, hv, rfl, rfl⟩

theorem lookup_entries [BEq κ] [LawfulBEq κ] (m : HashMap κ ν) (k : κ) :
    (it.entries m).lookup k = m.lookup k := by
  have hls : ∀ ks : List κ, (ks.filterMap fun k => (m.lookup k).map (k, ·)).lookup k =
      if k ∈ ks then m.lookup k else none := by
    intro ks
    induction ks with
    | nil => rfl
    | cons k' ks ih =>
      rw [filterMap_cons]
      by_cases hk : k = k'
      · subst hk
        cases hv : m.lookup k <;> simp [ih, hv]
      · cases m.lookup k' <;> simp [ih, hk, lookup_cons, beq_eq_false_iff_ne.2 hk]
  rw [entries, hls]
  split
  · rfl
  · rename_i hk
    rw [mem_toList, Finmap.mem_keys, ← lookup_eq_none] at hk
    exact hk.symm

/-- A loop over a map sees every key once. -/
theorem nodup_keys_entries : ((it.entries m).map Prod.fst).Nodup := by
  rw [entries, map_filterMap]
  refine (it.nodup m.keys).filterMap fun k k' b hb hb' => ?_
  simp only [Option.map_map, Option.mem_def, map_eq_some_iff] at hb hb'
  obtain ⟨⟨_, -, hk⟩, _, -, hk'⟩ := And.intro hb hb'
  exact hk.trans hk'.symm

/-- The order of a key, for running a loop on concrete values. -/
def sortedBy {β : Type*} [LinearOrder β] (f : α → β) (hf : Function.Injective f) : Iteration α where
  toList s := Quot.liftOn s.val (List.insertionSort fun a b => f a ≤ f b) fun l l' h =>
    haveI : Std.Total fun a b : α => f a ≤ f b := ⟨fun a b => le_total (f a) (f b)⟩
    haveI : IsTrans α fun a b => f a ≤ f b := ⟨fun _ _ _ => le_trans⟩
    List.Perm.eq_of_pairwise (fun _ _ _ _ hab hba => hf (le_antisymm hab hba))
      (pairwise_insertionSort _ l) (pairwise_insertionSort _ l')
      ((perm_insertionSort _ l).trans (h.trans (perm_insertionSort _ l').symm))
  nodup s := by
    obtain ⟨⟨l⟩, hs⟩ := s
    exact (perm_insertionSort _ l).nodup_iff.2 hs
  mem_toList s a := by
    obtain ⟨⟨l⟩, hs⟩ := s
    exact (perm_insertionSort _ l).mem_iff

theorem pairwise_sortedBy {β : Type*} [LinearOrder β] {f : α → β} (hf : Function.Injective f)
    (s : Finset α) : ((sortedBy f hf).toList s).Pairwise fun a b => f a ≤ f b := by
  obtain ⟨⟨l⟩, hs⟩ := s
  have : Std.Total fun a b : α => f a ≤ f b := ⟨fun a b => le_total (f a) (f b)⟩
  have : IsTrans α fun a b => f a ≤ f b := ⟨fun _ _ _ => le_trans⟩
  exact pairwise_insertionSort _ l

end Iteration

end CheetahDex.Lib
