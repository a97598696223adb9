import CheetahDex.Common.TimeCache

/-!
# Runs of the time cache

Beside the cache stands the map it is meant to be: what was last stored for every key, and when. The
queue of the cache has old elements of keys that were removed, inserted again or updated; they are
popped without a trace, because the time in the map decides.
-/

namespace CheetahDex.Common

open Lib List Option Function TimeCache

variable {κ ν : Type*} [DecidableEq κ]

inductive CacheOp (κ ν : Type*) where
  | entry (k : κ) (occupied : List (Access ν)) (vacant : Option ν)
  | insert (k : κ) (v : ν)
  | remove (k : κ)
  | clear

def TimeCache.apply (c : TimeCache κ ν) (now : Instant) : CacheOp κ ν → TimeCache κ ν
  | .entry k occupied vacant => c.entry now k occupied vacant
  | .insert k v => (c.insert now k v).1
  | .remove k => (c.remove now k).1
  | .clear => c.clear

/-! ## A map with expiry -/

/-- What was last stored for a key, and when it was inserted or its expiry updated. -/
structure Stored (ν : Type*) where
  value : ν
  refreshed : Instant

def Stored.access (now : Instant) (r : Stored ν) (a : Access ν) : Stored ν :=
  ⟨a.store r.value, if a.updates then now else r.refreshed⟩

variable (ttl : ℕ) (now : Instant)

/-- A record that was refreshed less than the time to live ago. -/
def live (r : Option (Stored ν)) : Option (Stored ν) := r.filter (now < ·.refreshed + ttl)

/-- What an operation stores. A key that is live is not inserted again. -/
def stores (s : κ → Option (Stored ν)) : CacheOp κ ν → κ → Option (Stored ν)
  | .entry k occupied vacant => update s k <| match live ttl now (s k) with
    | some r => some (occupied.foldl (Stored.access now) r)
    | none => vacant.map (⟨·, now⟩)
  | .insert k v => update s k ((live ttl now (s k)).or (some ⟨v, now⟩))
  | .remove k => update s k none
  | .clear => fun _ => none

/-- After an operation at `now` the cache has what is live, and its queue nothing that expired. -/
structure Tracks (c : TimeCache κ ν) (s : κ → Option (Stored ν)) : Prop
    extends c.Queued now where
  ttl_eq : c.ttl = ttl
  lookup : ∀ k, c.map.lookup k = (live ttl now (s k)).map fun r => ⟨r.value, r.refreshed + ttl⟩
  fresh : ∀ e ∈ c.list, now < e.expires

namespace Tracks

open TimeCache

variable {ttl now} {now' : Instant} {c : TimeCache κ ν} {s : κ → Option (Stored ν)} {k : κ}

theorem empty (now : Instant) : Tracks ttl now (⟨∅, [], ttl⟩ : TimeCache κ ν) fun _ => none where
  toQueued := queued_new now ttl
  ttl_eq := rfl
  lookup _ := rfl
  fresh _ he := nomatch he

section

variable (h : Tracks ttl now c s)

include h

/-- Records that are not live do not matter. -/
theorem update_of_live {r : Option (Stored ν)} (hr : live ttl now r = live ttl now (s k)) :
    Tracks ttl now c (update s k r) :=
  { h with
    lookup := fun k' => by
      rw [update_apply, h.lookup]
      split
      · subst k'
        rw [hr]
      · rfl }

theorem removeExpiredKeys (hle : now ≤ now') : Tracks ttl now' (c.removeExpiredKeys now') s where
  toQueued := (h.later hle).removeExpiredKeys
  ttl_eq := h.ttl_eq
  lookup k := by
    rw [(h.later hle).lookup_removeExpiredKeys, h.lookup, live, live]
    cases s k with
    | none => rfl
    | some r =>
      by_cases hnow : now < r.refreshed + ttl
      · simp [Option.filter, hnow]
      · have hnow' : ¬ now' < r.refreshed + ttl := fun hlt => hnow (hle.trans_lt hlt)
        simp [Option.filter, hnow, hnow']
  fresh := popExpired_fresh now' c.map c.list h.sorted

theorem erase (k : κ) : Tracks ttl now { c with map := c.map.erase k } (update s k none) where
  sorted := h.sorted
  queued k' v hv := by
    rw [HashMap.lookup_erase_ite] at hv
    split at hv
    · cases hv
    · exact h.queued k' v hv
  bound := h.bound
  ttl_eq := h.ttl_eq
  lookup k' := by
    rw [HashMap.lookup_erase_ite, update_apply]
    split
    · rfl
    · exact h.lookup k'
  fresh := h.fresh

theorem push (hpos : 0 < ttl) (k : κ) :
    Tracks ttl now { c with list := c.list ++ [⟨k, now + ttl⟩] } s where
  toQueued := h.ttl_eq ▸ h.toQueued.push k
  ttl_eq := h.ttl_eq
  lookup := h.lookup
  fresh := forall_mem_append.2 ⟨h.fresh, by simpa using hpos⟩

theorem set {r : Stored ν} (hmem : ⟨k, r.refreshed + ttl⟩ ∈ c.list) :
    Tracks ttl now { c with map := c.map.insert k ⟨r.value, r.refreshed + ttl⟩ }
      (update s k (some r)) where
  toQueued := h.toQueued.set hmem
  ttl_eq := h.ttl_eq
  lookup k' := by
    rw [HashMap.lookup_insert_ite, update_apply]
    split
    · rw [live, filter_some_pos (by simpa using h.fresh _ hmem), map_some]
    · exact h.lookup k'
  fresh := h.fresh

theorem insertVacant (hpos : 0 < ttl) (k : κ) (v : ν) :
    Tracks ttl now (c.insertVacant (now + ttl) k v) (update s k (some ⟨v, now⟩)) :=
  (h.push hpos k).set (r := ⟨v, now⟩) (mem_append_right _ mem_cons_self)

end

theorem foldl_access (hpos : 0 < ttl) {r : Stored ν} (h : Tracks ttl now c (update s k (some r)))
    (hk : c.map.lookup k = some ⟨r.value, r.refreshed + ttl⟩) (occupied : List (Access ν)) :
    Tracks ttl now (occupied.foldl (access (now + ttl) k) c)
      (update s k (some (occupied.foldl (Stored.access now) r))) := by
  induction occupied generalizing c r with
  | nil => exact h
  | cons a rest ih =>
    rw [foldl_cons, foldl_cons, access, hk, Stored.access]
    dsimp only
    split
    · refine ih ?_ (Finmap.lookup_insert _)
      simpa using h.insertVacant hpos k (a.store r.value)
    · refine ih ?_ (Finmap.lookup_insert _)
      simpa using h.set (r := ⟨a.store r.value, r.refreshed⟩) (h.queued _ _ hk)

theorem entry (h : Tracks ttl now c s) (hpos : 0 < ttl) (hle : now ≤ now') (k : κ)
    (occupied : List (Access ν)) (vacant : Option ν) :
    Tracks ttl now' (c.entry now' k occupied vacant)
      (stores ttl now' s (.entry k occupied vacant)) := by
  have h := h.removeExpiredKeys hle
  have hk := h.lookup k
  simp only [TimeCache.entry, stores, h.ttl_eq]
  cases hs : live ttl now' (s k) with
  | some r =>
    rw [hs, map_some] at hk
    simp only [hk]
    refine foldl_access hpos (h.update_of_live ?_) hk occupied
    rw [← hs, live, live, Option.filter_filter]
    simp
  | none =>
    rw [hs, map_none] at hk
    simp only [hk]
    cases vacant with
    | some v => exact h.insertVacant hpos k v
    | none => exact h.update_of_live hs.symm

/-- Every operation of the cache does what the map with deadlines does. -/
theorem apply (h : Tracks ttl now c s) (hpos : 0 < ttl) (hle : now ≤ now') (op : CacheOp κ ν) :
    Tracks ttl now' (c.apply now' op) (stores ttl now' s op) := by
  cases op with
  | entry k occupied vacant => exact h.entry hpos hle k occupied vacant
  | insert k v =>
    -- an insertion takes the entry and fills a vacant one
    have hent := h.entry hpos hle k [] (some v)
    simp only [TimeCache.entry, stores] at hent
    simp only [TimeCache.apply, TimeCache.insert, stores]
    cases hs : live ttl now' (s k) <;> cases hc : (c.removeExpiredKeys now').map.lookup k <;>
      simpa [hs, hc] using hent
  | remove k => exact (h.erase k).removeExpiredKeys hle
  | clear => exact h.ttl_eq ▸ empty now'

theorem run (h : Tracks ttl now c s) (hpos : 0 < ttl) {ops : List (Instant × CacheOp κ ν)}
    (hsorted : ops.Pairwise (·.1 ≤ ·.1)) (hfr : ∀ o ∈ ops, now ≤ o.1) :
    Tracks ttl (ops.foldl (fun _ o => o.1) now) (ops.foldl (fun c o => c.apply o.1 o.2) c)
      (ops.foldl (fun s o => stores ttl o.1 s o.2) s) := by
  induction ops generalizing now c s with
  | nil => exact h
  | cons o rest ih =>
    obtain ⟨hfst, hre⟩ := pairwise_cons.1 hsorted
    exact ih (h.apply hpos (hfr o mem_cons_self) o.2) hre hfst

end Tracks

/-- **The time cache is a map with expiry.** After every operation it has the keys that are live
with what was last stored for them, and its list is sorted by expiry, has the current expiry of
every key and no element that has expired. -/
theorem cached_eq_live (hpos : 0 < ttl) (ops : List (Instant × CacheOp κ ν)) (op : CacheOp κ ν)
    (hsorted : (ops ++ [(now, op)]).Pairwise (·.1 ≤ ·.1)) :
    let c := (ops ++ [(now, op)]).foldl (fun c o => c.apply o.1 o.2) (new ttl)
    let s := (ops ++ [(now, op)]).foldl (fun s o => stores ttl o.1 s o.2) fun _ => none
    (∀ k, c.map.lookup k = (live ttl now (s k)).map fun r => ⟨r.value, r.refreshed + ttl⟩) ∧
      c.list.Pairwise (·.expires ≤ ·.expires) ∧
      (∀ k v, c.map.lookup k = some v → ⟨k, v.expires⟩ ∈ c.list) ∧
      ∀ e ∈ c.list, now < e.expires := by
  have h := (Tracks.empty 0).run hpos hsorted fun _ _ => Nat.zero_le _
  rw [foldl_append (l := ops) (f := fun _ o => o.1)] at h
  exact ⟨h.lookup, h.sorted, h.queued, h.fresh⟩

/-- A key that is inserted, updated and looked after until it expires. -/
def updatedKey : List (Instant × CacheOp Nat Nat) :=
  [(0, .insert 1 10), (3, .entry 1 [.intoMutWithUpdateExpiration (· + 1)] none)]

theorem updatedKey_cached :
    let ops := updatedKey ++ [(6, .insert 2 20)]
    let c := ops.foldl (fun c o => c.apply o.1 o.2) (new 4)
    let s := ops.foldl (fun s o => stores 4 o.1 s o.2) fun _ => none
    (∀ k, c.map.lookup k = (live 4 6 (s k)).map fun r => ⟨r.value, r.refreshed + 4⟩) ∧
      c.list.Pairwise (·.expires ≤ ·.expires) ∧
      (∀ k v, c.map.lookup k = some v → ⟨k, v.expires⟩ ∈ c.list) ∧
      ∀ e ∈ c.list, 6 < e.expires :=
  cached_eq_live 4 6 (by decide) updatedKey (.insert 2 20) (by simp [updatedKey])

end CheetahDex.Common
