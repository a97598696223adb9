import CheetahDex.Lib.HashMap

/-!
# The time cache

A map whose entries carry an expiry time, beside a queue of keys by the time they were (re)inserted.
Nothing expires on its own: expired entries disappear only when `entry` or `remove` is called, which
first pops the expired front of the queue.
-/

namespace CheetahDex.Common

open Lib List Option HashMap

variable {κ ν : Type*} [DecidableEq κ]

/-- A reading of the monotonic clock, in nanoseconds. -/
abbrev Instant := Nat

def fromSecs (n : Nat) : Nat := n * 1000000000

structure ExpiringElement (α : Type*) where
  element : α
  expires : Instant
  deriving DecidableEq

structure TimeCache (κ ν : Type*) where
  /-- A key's value with its latest expiry time. -/
  map : HashMap κ (ExpiringElement ν)
  /-- Keys in the order of their (re)insertion, front first. -/
  list : List (ExpiringElement κ)
  /-- How long an element stays. -/
  ttl : Nat

/-- What can be done with an occupied entry, and to the value that it lends. -/
inductive Access (ν : Type*) where
  | intoMut (f : ν → ν)
  | insertWithoutUpdatingExpiration (value : ν)
  | insertAndUpdateExpiration (value : ν)
  | intoMutWithUpdateExpiration (f : ν → ν)

namespace Access

def store : Access ν → ν → ν
  | intoMut f, v | intoMutWithUpdateExpiration f, v => f v
  | insertWithoutUpdatingExpiration value, _ | insertAndUpdateExpiration value, _ => value

def updates : Access ν → Bool
  | intoMut _ | insertWithoutUpdatingExpiration _ => false
  | insertAndUpdateExpiration _ | intoMutWithUpdateExpiration _ => true

end Access

namespace TimeCache

def new (ttl : Nat) : TimeCache κ ν := ⟨∅, [], ttl⟩

/-- The loop of `remove_expired_keys`. A popped key leaves the map only when the map's own, possibly
later, expiry has passed as well. -/
def popExpired (now : Instant) (m : HashMap κ (ExpiringElement ν)) :
    List (ExpiringElement κ) → HashMap κ (ExpiringElement ν) × List (ExpiringElement κ)
  | [] => (m, [])
  | e :: rest =>
    if now < e.expires then (m, e :: rest)
    else
      match m.lookup e.element with
      | some v => popExpired now (if v.expires ≤ now then m.erase e.element else m) rest
      | none => popExpired now m rest

variable (c : TimeCache κ ν) (now : Instant)

def removeExpiredKeys : TimeCache κ ν :=
  let (map, list) := popExpired now c.map c.list
  { c with map, list }

variable (k : κ)

/-- `get`: no look at the clock. -/
def get : Option ν := (c.map.lookup k).map (·.element)

def containsKey : Bool := (c.map.lookup k).isSome

/-- `VacantEntry::insert`. -/
def insertVacant (expiration : Instant) (k : κ) (v : ν) : TimeCache κ ν :=
  { c with
    map := c.map.insert k ⟨v, expiration⟩
    list := c.list ++ [⟨k, expiration⟩] }

/-- `insert`: only a vacant key takes the value; the flag says whether it did. -/
def insert (v : ν) : TimeCache κ ν × Bool :=
  let c := c.removeExpiredKeys now
  match c.map.lookup k with
  | some _ => (c, false)
  | none => (c.insertVacant (now + c.ttl) k v, true)

/-- `remove`: the value that was there, expired or not. -/
def remove : TimeCache κ ν × Option ν :=
  ({ c with map := c.map.erase k }.removeExpiredKeys now, c.get k)

def clear : TimeCache κ ν := { c with map := ∅, list := [] }

/-- An access to the entry of a key. One that updates the expiry pushes the key once more, and the
element with the old time will be ignored. -/
def access (expiration : Instant) (k : κ) (c : TimeCache κ ν) (a : Access ν) : TimeCache κ ν :=
  match c.map.lookup k with
  | some v =>
    if a.updates then c.insertVacant expiration k (a.store v.element)
    else { c with map := c.map.insert k ⟨a.store v.element, v.expires⟩ }
  | none => c

/-- `entry`, with what the caller does to an occupied entry and puts into a vacant one. -/
def entry (occupied : List (Access ν)) (vacant : Option ν) : TimeCache κ ν :=
  let c := c.removeExpiredKeys now
  match c.map.lookup k with
  | some _ => occupied.foldl (access (now + c.ttl) k) c
  | none => vacant.elim c (c.insertVacant (now + c.ttl) k)

/-- `entry(k).or_insert_with_update_expiration(d)`, and `f` applied to what it returns. -/
def modifyOrInsert (d : ν) (f : ν → ν) :
    TimeCache κ ν :=
  let c := c.removeExpiredKeys now
  match c.map.lookup k with
  | some v =>
    { c with
      map := c.map.insert k ⟨f v.element, now + c.ttl⟩
      list := c.list ++ [⟨k, now + c.ttl⟩] }
  | none => c.insertVacant (now + c.ttl) k (f d)

@[simp]
theorem get_new (ttl : Nat) (k : κ) : (new ttl : TimeCache κ ν).get k = none := by simp [get, new]

variable (now : Instant) (m : HashMap κ (ExpiringElement ν))

/-- Dropping expired keys never changes a value that stays. -/
theorem popExpired_lookup (l : List (ExpiringElement κ)) (k : κ) :
    (popExpired now m l).1.lookup k = none ∨ (popExpired now m l).1.lookup k = m.lookup k := by
  induction l generalizing m with
  | nil => exact .inr rfl
  | cons e rest ih =>
    simp only [popExpired]
    split
    · exact .inr rfl
    · split
      · split
        · rcases ih (m.erase e.element) with h | h
          · exact .inl h
          · rw [lookup_erase_ite] at h
            split at h
            · exact .inl h
            · exact .inr h
        · exact ih m
      · exact ih m

theorem get_removeExpiredKeys (c : TimeCache κ ν) (now : Instant) (k : κ) :
    (c.removeExpiredKeys now).get k = none ∨ (c.removeExpiredKeys now).get k = c.get k := by
  rcases popExpired_lookup now c.map c.list k with h | h
  · exact .inl (by simp [get, removeExpiredKeys, h])
  · exact .inr (by simp [get, removeExpiredKeys, h])

theorem get_remove_self (c : TimeCache κ ν) (now : Instant) (k : κ) :
    (c.remove now k).1.get k = none := by
  rcases get_removeExpiredKeys { c with map := c.map.erase k } now k with h | h
  · exact h
  · exact h.trans (by simp [get])

/-! ## What holds of every entry -/

/-- Every entry satisfies `Q`, expired or not. -/
def All (Q : κ → ν → Prop) (c : TimeCache κ ν) : Prop := ∀ k v, c.get k = some v → Q k v

variable {Q : κ → ν → Prop} {c : TimeCache κ ν}

theorem all_new (ttl : Nat) : All Q (new ttl) := by
  intro k v h
  simp at h

section

variable (h : All Q c)

include h

theorem All.removeExpiredKeys : All Q (c.removeExpiredKeys now) := by
  intro k v hk
  rcases get_removeExpiredKeys c now k with hn | hs
  · cases hn.symm.trans hk
  · exact h k v (hs ▸ hk)

theorem All.insertVacant (expiration : Instant) {k : κ} {v : ν} (hv : Q k v) :
    All Q (c.insertVacant expiration k v) := by
  intro k' v' hk
  simp only [TimeCache.insertVacant, get, lookup_insert_ite] at hk
  split at hk
  · rename_i hkk
    simp only [map_some, some.injEq] at hk
    exact hkk ▸ hk ▸ hv
  · exact h k' v' hk

theorem All.insert {k : κ} {v : ν} (hv : Q k v) : All Q (c.insert now k v).1 := by
  unfold TimeCache.insert
  dsimp only
  split
  · exact h.removeExpiredKeys now
  · exact (h.removeExpiredKeys now).insertVacant _ hv

theorem All.remove (k : κ) : All Q (c.remove now k).1 := by
  refine All.removeExpiredKeys (c := { c with map := c.map.erase k }) now ?_
  intro k' v hk
  simp only [get, lookup_erase_ite] at hk
  split at hk
  · cases hk
  · exact h k' v hk

theorem All.modifyOrInsert {k : κ} {d : ν} {f : ν → ν} (hd : Q k (f d))
    (hf : ∀ v, Q k v → Q k (f v)) : All Q (c.modifyOrInsert now k d f) := by
  have hexp := h.removeExpiredKeys now
  unfold TimeCache.modifyOrInsert
  dsimp only
  split
  · rename_i e he
    intro k' v hk
    simp only [get, lookup_insert_ite] at hk
    split at hk
    · rename_i hkk
      simp only [map_some, some.injEq] at hk
      exact hkk ▸ hk ▸ hf e.element (hexp k e.element (by simp [get, he]))
    · exact hexp k' v hk
  · exact hexp.insertVacant _ hd

end

/-! ## Expiry

The queue has the time a key was inserted with. As long as no key is reinserted, it has the key of
every entry with the time of that entry, the earliest in front, and expired entries are exactly
those that go.
-/

/-- What is left of the map once an expired front is popped. -/
def popFront (now : Instant) (m : HashMap κ (ExpiringElement ν)) (e : ExpiringElement κ) :
    HashMap κ (ExpiringElement ν) :=
  match m.lookup e.element with
  | some v => if v.expires ≤ now then m.erase e.element else m
  | none => m

theorem popExpired_cons {now : Instant} {m : HashMap κ (ExpiringElement ν)}
    {e : ExpiringElement κ} (h : ¬ now < e.expires) (rest : List (ExpiringElement κ)) :
    popExpired now m (e :: rest) = popExpired now (popFront now m e) rest := by
  rw [popExpired, if_neg h, popFront]
  cases m.lookup e.element <;> rfl

theorem lookup_popFront (e : ExpiringElement κ) (k : κ) : (popFront now m e).lookup k =
      (m.lookup k).filter fun v => !(k = e.element ∧ v.expires ≤ now) := by
  rw [popFront]
  by_cases hk : k = e.element
  · subst hk
    cases hm : m.lookup e.element with
    | none => exact hm
    | some v =>
      by_cases hv : v.expires ≤ now
      · simp [hv, Option.filter]
      · simp [hv, hm, Option.filter]
  · have hfl : ((m.lookup k).filter fun v => !(k = e.element ∧ v.expires ≤ now)) =
        m.lookup k := by
      cases m.lookup k <;> simp [Option.filter, hk]
    rw [hfl]
    split
    · split
      · rw [lookup_erase_ite, if_neg hk]
      · rfl
    · rfl

/-- The queue is in order, so it is enough to look at its front. -/
theorem popExpired_spec (l : List (ExpiringElement κ))
    (hsr : l.Pairwise fun e e' => e.expires ≤ e'.expires)
    (hqd : ∀ k v, m.lookup k = some v → ⟨k, v.expires⟩ ∈ l) :
    (∀ k, (popExpired now m l).1.lookup k = (m.lookup k).filter (now < ·.expires)) ∧
    (∀ k v, (popExpired now m l).1.lookup k = some v → ⟨k, v.expires⟩ ∈ (popExpired now m l).2) ∧
    (popExpired now m l).2 <:+ l := by
  induction l generalizing m with
  | nil =>
    have hno : ∀ k, m.lookup k = none := fun k =>
      eq_none_iff_forall_ne_some.2 fun v hv => nomatch hqd k v hv
    refine ⟨fun k => ?_, fun k v hv => ?_, suffix_refl _⟩
    · rw [popExpired, hno]
      rfl
    · rw [popExpired, hno] at hv
      cases hv
  | cons e rest ih =>
    obtain ⟨hfst, hr⟩ := pairwise_cons.1 hsr
    by_cases hlt : now < e.expires
    · -- The front has not expired, so nothing has.
      rw [popExpired, if_pos hlt]
      refine ⟨fun k => ?_, hqd, suffix_refl _⟩
      cases hv : m.lookup k with
      | none => rfl
      | some v =>
        have hle : e.expires ≤ v.expires := by
          rcases mem_cons.1 (hqd k v hv) with heq | hmem
          · exact (congrArg ExpiringElement.expires heq).ge
          · exact hfst _ hmem
        rw [filter_some_pos (by simpa using hlt.trans_le hle)]
    · -- What is left of the map is queued in the rest.
      have hqd' : ∀ k v, (popFront now m e).lookup k = some v → ⟨k, v.expires⟩ ∈ rest := by
        intro k v hv
        rw [lookup_popFront, filter_eq_some_iff] at hv
        rcases mem_cons.1 (hqd k v hv.1) with hhd | hmem
        · have hkey : k = e.element := congrArg ExpiringElement.element hhd
          have hexp : v.expires = e.expires := congrArg ExpiringElement.expires hhd
          have hle : v.expires ≤ now := hexp ▸ Nat.not_lt.1 hlt
          exact absurd hv.2 (by simp [hkey, hle])
        · exact hmem
      obtain ⟨hlk, hkp, hsf⟩ := ih (popFront now m e) hr hqd'
      rw [popExpired_cons hlt]
      refine ⟨fun k => ?_, hkp, hsf.trans (suffix_cons e rest)⟩
      rw [hlk, lookup_popFront]
      cases m.lookup k with
      | none => rfl
      | some v =>
        by_cases hk : k = e.element <;> by_cases hv : v.expires ≤ now <;>
          simp [Option.filter, hk, hv]

/-- Nothing that is left in the queue has expired. -/
theorem popExpired_fresh (l : List (ExpiringElement κ))
    (hsr : l.Pairwise fun e e' => e.expires ≤ e'.expires) :
    ∀ e ∈ (popExpired now m l).2, now < e.expires := by
  induction l generalizing m with
  | nil => exact fun e he => nomatch he
  | cons e rest ih =>
    obtain ⟨hfst, hr⟩ := pairwise_cons.1 hsr
    by_cases hlt : now < e.expires
    · rw [popExpired, if_pos hlt]
      exact forall_mem_cons.2 ⟨hlt, fun e' he' => hlt.trans_le (hfst e' he')⟩
    · rw [popExpired_cons hlt]
      exact ih _ hr

/-- Every entry is queued with its time, the earliest in front, and none is later than one made now.
-/
structure Queued (now : Instant) (c : TimeCache κ ν) : Prop where
  sorted : c.list.Pairwise fun e e' => e.expires ≤ e'.expires
  queued : ∀ k v, c.map.lookup k = some v → ⟨k, v.expires⟩ ∈ c.list
  bound : ∀ e ∈ c.list, e.expires ≤ now + c.ttl

theorem queued_new (ttl : Nat) : Queued now (new ttl : TimeCache κ ν) := by
  refine ⟨List.Pairwise.nil, fun k v h => ?_, fun e h => nomatch h⟩
  rw [new, Finmap.lookup_empty] at h
  cases h

theorem Queued.later {now now' : Instant} {c : TimeCache κ ν} (h : Queued now c)
    (hle : now ≤ now') : Queued now' c :=
  ⟨h.sorted, h.queued, fun e he => (h.bound e he).trans (Nat.add_le_add_right hle _)⟩

section

variable {now : Instant} {c : TimeCache κ ν} (h : Queued now c)

include h

theorem Queued.lookup_removeExpiredKeys (k : κ) : (c.removeExpiredKeys now).map.lookup k =
      (c.map.lookup k).filter (now < ·.expires) :=
  (popExpired_spec now c.map c.list h.sorted h.queued).1 k

theorem Queued.removeExpiredKeys : Queued now (c.removeExpiredKeys now) := by
  obtain ⟨-, hkp, hsf⟩ := popExpired_spec now c.map c.list h.sorted h.queued
  exact ⟨h.sorted.sublist hsf.sublist, hkp, fun e he => h.bound e (hsf.subset he)⟩

/-- A key that is pushed now expires after all the others. -/
theorem Queued.push (k : κ) : Queued now { c with list := c.list ++ [⟨k, now + c.ttl⟩] } where
  sorted := pairwise_append.2 ⟨h.sorted, pairwise_singleton _ _, fun e he e' he' => by
    rw [List.mem_singleton.1 he']
    exact h.bound e he⟩
  queued k' v hv := mem_append_left _ (h.queued k' v hv)
  bound := forall_mem_append.2 ⟨h.bound, forall_mem_singleton.2 le_rfl⟩

theorem Queued.set {k : κ} {v : ExpiringElement ν} (hmem : ⟨k, v.expires⟩ ∈ c.list) :
    Queued now { c with map := c.map.insert k v } where
  sorted := h.sorted
  queued k' v' hv' := by
    rw [lookup_insert_ite] at hv'
    split at hv'
    · rename_i heq
      rwa [heq, ← some.inj hv']
    · exact h.queued k' v' hv'
  bound := h.bound

theorem Queued.insertVacant (k : κ) (v : ν) : Queued now (c.insertVacant (now + c.ttl) k v) :=
  (h.push k).set (v := ⟨v, now + c.ttl⟩) (mem_append_right _ mem_cons_self)

theorem Queued.insert (k : κ) (v : ν) : Queued now (c.insert now k v).1 := by
  unfold TimeCache.insert
  dsimp only
  split
  · exact h.removeExpiredKeys
  · exact h.removeExpiredKeys.insertVacant k v

end

@[simp]
theorem ttl_insert (c : TimeCache κ ν) (now : Instant) (k : κ) (v : ν) :
    (c.insert now k v).1.ttl = c.ttl := by
  unfold TimeCache.insert
  dsimp only
  split <;> rfl

/-- What is under a key after an insertion: what was there and has not expired, or the new value. -/
theorem Queued.lookup_insert {now : Instant} {c : TimeCache κ ν} (h : Queued now c) (k : κ) (v : ν)
    (k' : κ) : (c.insert now k v).1.map.lookup k' =
      if k' = k then ((c.map.lookup k).filter (now < ·.expires)).or (some ⟨v, now + c.ttl⟩)
      else (c.map.lookup k').filter (now < ·.expires) := by
  unfold TimeCache.insert
  dsimp only
  split
  · rename_i w hw
    rw [h.lookup_removeExpiredKeys] at hw ⊢
    split
    · rename_i heq
      rw [heq, hw]
      rfl
    · rfl
  · rename_i hno
    rw [h.lookup_removeExpiredKeys] at hno
    rw [TimeCache.insertVacant, lookup_insert_ite, hno, h.lookup_removeExpiredKeys]
    rfl

end TimeCache

end CheetahDex.Common
