import CheetahDex.Ordermatch.ProcessMsg
import Mathlib.Tactic.NormNum

/-!
# Cancelled orders stay cancelled

A cancellation is remembered for a while, so that a creation that arrives late does not bring the
order back. The memory has one place for a uuid, and only a vacant place is taken: whoever cancels
first, also someone who has no such order, keeps the place until it expires, and the owner who
cancels twice has only the time of the first cancellation.
-/

namespace CheetahDex.Proof

open Lib Common Ordermatch Orderbook List Option

/-! ## Messages in time -/

/-- A message about orders, or the answer to a synchronisation request. -/
inductive BookMsg where
  | created (msg : MakerOrderCreated)
  | updated (msg : MakerOrderUpdated)
  | cancelled (uuid : Uuid)
  | synced (iter : SyncIteration) (res : SyncPubkeyOrderbookStateRes)

/-- A message, with the time since the one before. -/
structure Incoming where
  elapsed : Nat
  fromPubkey : String
  banned : Bool
  msg : BookMsg

/-- An order book and the time of its last message. -/
structure Listener where
  book : Orderbook
  now : Instant

/-- The message as it is handled at a time. -/
def BookMsg.input (now : Instant) : BookMsg → P2PInput
  | .created msg => .makerOrderCreated msg
  | .updated msg => .makerOrderUpdated msg
  | .cancelled uuid => .makerOrderCancelled now uuid
  | .synced iter res => .syncResponse iter res

namespace Listener

def start (now : Instant) : Listener := ⟨Orderbook.default, now⟩

def step (s : Listener) (m : Incoming) : Listener :=
  { book := (processMsg s.book m.banned m.fromPubkey (m.msg.input (s.now + m.elapsed))).1
    now := s.now + m.elapsed }

end Listener

/-! ## What a message does to the book -/

variable {ob : Orderbook} {expires : Instant} {pubkey : String} {uuid : Uuid} {s : Listener}

/-- A message that is not a cancellation removes orders and inserts them: what each of these keeps,
it keeps. -/
theorem step_induction {P : Orderbook → Prop} {m : Incoming} (h : P s.book)
    (hrm : ∀ ob uuid, P ob → P (ob.indexRemove uuid).1)
    (hins : ∀ ob order, P ob → P (ob.indexInsertOrUpdate order).1)
    (hcn : ∀ uuid, P (deleteOrder s.book (s.now + m.elapsed) m.fromPubkey uuid).1) :
    P (s.step m).book := by
  obtain ⟨elapsed, fromPubkey, banned, msg⟩ := m
  unfold Listener.step processMsg
  split
  · exact h
  · cases msg with
    | created msg => exact hins _ _ h
    | updated msg =>
      unfold BookMsg.input processMakerOrderUpdated
      dsimp only
      split
      · exact hins _ _ h
      · exact h
    | cancelled uuid => exact hcn uuid
    | synced iter res =>
      exact processSyncResponse_induction hrm (fun ob _ _ _ h => hins ob _ h) h iter fromPubkey

theorem recentlyCancelled_deleteOrder (ob : Orderbook) (now : Instant) (pubkey : String)
    (uuid : Uuid) : (deleteOrder ob now pubkey uuid).1.recentlyCancelled =
      (ob.recentlyCancelled.insert now uuid pubkey).1 := by
  unfold deleteOrder
  dsimp only
  split
  · split
    · rw [indexRemove_recentlyCancelled]
    · rfl
  · rfl

/-! ## What is remembered -/

/-- What is remembered is queued up to now. -/
def Remembers (s : Listener) : Prop :=
  s.book.recentlyCancelled.Queued s.now ∧ s.book.recentlyCancelled.ttl = recentlyCancelledTimeout

theorem remembers_step (s : Listener) (m : Incoming) (h : Remembers s) : Remembers (s.step m) := by
  obtain ⟨hqd, httl⟩ := h
  have hla := hqd.later (Nat.le_add_right s.now m.elapsed)
  refine step_induction (P := fun ob => ob.recentlyCancelled.Queued (s.now + m.elapsed) ∧
    ob.recentlyCancelled.ttl = recentlyCancelledTimeout) ⟨hla, httl⟩ (fun ob uuid h => ?_)
    (fun ob order h => ?_) fun uuid => ?_
  · rwa [indexRemove_recentlyCancelled]
  · rwa [indexInsertOrUpdate_recentlyCancelled]
  · rw [recentlyCancelled_deleteOrder]
    exact ⟨hla.insert uuid m.fromPubkey, (TimeCache.ttl_insert _ _ _ _).trans httl⟩

theorem remembers_run (now : Instant) (before : List Incoming) :
    Remembers (before.foldl Listener.step (.start now)) :=
  List.foldlRecOn before Listener.step ⟨TimeCache.queued_new now _, rfl⟩
    fun s h m _ => remembers_step s m h

/-! ## The window -/

/-- The cancellation of an order is remembered until a time, and the book has no such order. -/
structure Shut (pubkey : String) (uuid : Uuid) (expires : Instant) (ob : Orderbook) : Prop where
  remembered : ob.recentlyCancelled.map.lookup uuid = some ⟨pubkey, expires⟩
  absent : ∀ order, ob.orderSet.lookup uuid = some order → order.pubkey ≠ pubkey

theorem Shut.indexRemove (h : Shut pubkey uuid expires ob) (uuid' : Uuid) :
    Shut pubkey uuid expires (ob.indexRemove uuid').1 := by
  refine ⟨by rw [indexRemove_recentlyCancelled, h.remembered], fun order hlk => ?_⟩
  rw [indexRemove_orderSet_lookup] at hlk
  split at hlk
  · cases hlk
  · exact h.absent order hlk

theorem Shut.indexInsertOrUpdate (h : Shut pubkey uuid expires ob) (order : OrderbookItem) :
    Shut pubkey uuid expires (ob.indexInsertOrUpdate order).1 := by
  refine ⟨by rw [indexInsertOrUpdate_recentlyCancelled, h.remembered], fun order' hlk => ?_⟩
  refine forall_indexInsertOrUpdate (P := fun u o => u = uuid → o.pubkey ≠ pubkey) ?_ ?_ uuid
    order' hlk rfl
  · rintro u o ho rfl
    exact h.absent o ho
  · -- An order of the pubkey would have been refused.
    rintro hnew - heq rfl
    refine hnew ?_
    rw [RecentlyCancelled, TimeCache.get, heq, h.remembered]
    rfl

section

variable (hrem : Remembers s) (h : Shut pubkey uuid expires s.book)

include hrem h

/-- Until it expires a cancellation keeps the order out. -/
theorem Shut.step {m : Incoming}
    (hlt : s.now + m.elapsed < expires) : Shut pubkey uuid expires (s.step m).book := by
  refine step_induction h (fun ob uuid' h => h.indexRemove uuid')
    (fun ob order h => h.indexInsertOrUpdate order) fun uuid' => ?_
  have hqd := hrem.1.later (Nat.le_add_right s.now m.elapsed)
  refine ⟨?_, fun order hlk => h.absent order (deleteOrder_orderSet_lookup.1 hlk).1⟩
  -- The place is taken and has not expired, so it stays as it is.
  have hkp : (s.book.recentlyCancelled.map.lookup uuid).filter
      (s.now + m.elapsed < ·.expires) = some ⟨pubkey, expires⟩ := by
    rw [h.remembered, filter_some_pos (by simpa using hlt)]
  rw [recentlyCancelled_deleteOrder, hqd.lookup_insert]
  split
  · rename_i heq
    rw [← heq, hkp]
    rfl
  · exact hkp

theorem Shut.run
    {after : List Incoming} (hlt : s.now + (after.map Incoming.elapsed).sum < expires) :
    Shut pubkey uuid expires (after.foldl Listener.step s).book := by
  induction after generalizing s with
  | nil => exact h
  | cons m after ih =>
    rw [map_cons, sum_cons, ← Nat.add_assoc] at hlt
    exact ih (remembers_step s m hrem)
      (h.step hrem (Nat.lt_of_le_of_lt (Nat.le_add_right _ _) hlt)) hlt

end

/-! ## When a cancellation counts -/

/-- As long as a cancellation is to be remembered, nothing brings an order of the pubkey back. -/
def StaysCancelled (s : Listener) (pubkey : String) (uuid : Uuid) : Prop :=
  ∀ after : List Incoming, (after.map Incoming.elapsed).sum < recentlyCancelledTimeout →
    ∀ order, (after.foldl Listener.step s).book.orderSet.lookup uuid = some order →
      order.pubkey ≠ pubkey

/-- The owner of an order cancels it. -/
def ownCancel (elapsed : Nat) (pubkey : String) (uuid : Uuid) : Incoming :=
  { elapsed, fromPubkey := pubkey, banned := false, msg := .cancelled uuid }

/-- An order with acceptable numbers. -/
def lateOrder (uuid : Uuid) : MakerOrderCreated :=
  { uuid, base := "KMD", rel := "BTC", price := 1, maxVolume := 1, minVolume := 0, createdAt := 0
    confSettings := ⟨1, false, 1, false⟩, baseProtocolInfo := [], relProtocolInfo := [] }

/-- A creation that arrives late. -/
def lateCreated (pubkey : String) (uuid : Uuid) : Incoming :=
  { elapsed := 0, fromPubkey := pubkey, banned := false, msg := .created (lateOrder uuid) }

theorem accepts_lateOrder (uuid : Uuid) (pubkey : String) :
    Accepts ((lateOrder uuid).toItem pubkey) := by
  rw [Accepts]
  norm_num [lateOrder, MakerOrderCreated.toItem]

/-- What is remembered about a uuid once its cancellation is handled. -/
theorem lookup_ownCancel (h : Remembers s) (elapsed : Nat) (pubkey : String) (uuid uuid' : Uuid) :
    (s.step (ownCancel elapsed pubkey uuid)).book.recentlyCancelled.map.lookup uuid' =
      if uuid' = uuid then
        ((s.book.recentlyCancelled.map.lookup uuid).filter (s.now + elapsed < ·.expires)).or
          (some ⟨pubkey, s.now + elapsed + recentlyCancelledTimeout⟩)
      else (s.book.recentlyCancelled.map.lookup uuid').filter (s.now + elapsed < ·.expires) := by
  have hqd := h.1.later (Nat.le_add_right s.now elapsed)
  simp only [Listener.step, ownCancel, processMsg, BookMsg.input, Bool.false_eq_true, if_false]
  rw [recentlyCancelled_deleteOrder, hqd.lookup_insert, h.2]

/-- An order comes back if someone else, or nobody, is remembered to have cancelled it. -/
theorem lateCreated_inserted (h : s.book.recentlyCancelled.get uuid ≠ some pubkey) :
    ∃ order, (s.step (lateCreated pubkey uuid)).book.orderSet.lookup uuid = some order ∧
      order.pubkey = pubkey := by
  simp only [Listener.step, lateCreated, processMsg, BookMsg.input, Bool.false_eq_true, if_false,
    insertOrUpdateOrder]
  rcases indexInsertOrUpdate_cases s.book ((lateOrder uuid).toItem pubkey) with
    ⟨hcan, -⟩ | ⟨-, -, he⟩ | ⟨-, hrf, -⟩
  · exact absurd hcan h
  · rw [he, indexInsertOrUpdateInner_orderSet]
    exact ⟨_, Finmap.lookup_insert _, rfl⟩
  · exact absurd (accepts_lateOrder uuid pubkey) hrf

/-- A place that another has, or that expires early, lets the order back in. -/
theorem not_staysCancelled {t : Listener} (h : Remembers t) {entry : ExpiringElement String}
    (hent : t.book.recentlyCancelled.map.lookup uuid = some entry) (hlt : t.now < entry.expires)
    (hne : entry ≠ ⟨pubkey, t.now + recentlyCancelledTimeout⟩) : ¬StaysCancelled t pubkey uuid := by
  intro hst
  by_cases hpk : entry.element = pubkey
  · -- The place expires before the window ends, and then any cancellation frees it.
    have hbd : entry.expires ≤ t.now + recentlyCancelledTimeout := by
      have := h.1.bound _ (h.1.queued uuid entry hent)
      rwa [h.2] at this
    have her : entry.expires < t.now + recentlyCancelledTimeout := by
      refine lt_of_le_of_ne hbd fun heq => hne ?_
      obtain ⟨element, expires⟩ := entry
      simp only [ExpiringElement.mk.injEq]
      exact ⟨hpk, heq⟩
    have hwt : t.now + (entry.expires - t.now) = entry.expires := Nat.add_sub_of_le hlt.le
    have hoth : uuid ≠ uuid + 1 := by bv_omega
    have hfr : TimeCache.get (t.step
        (ownCancel (entry.expires - t.now) pubkey (uuid + 1))).book.recentlyCancelled uuid ≠
          some pubkey := by
      rw [TimeCache.get, lookup_ownCancel h, if_neg hoth, hent, hwt, filter_some_neg (by simp)]
      exact some_ne_none pubkey |>.symm
    obtain ⟨order, hbc, how⟩ := lateCreated_inserted hfr
    refine hst [ownCancel (entry.expires - t.now) pubkey (uuid + 1), lateCreated pubkey uuid] ?_
      order hbc how
    simp only [map_cons, map_nil, sum_cons, sum_nil, ownCancel, lateCreated, add_zero]
    exact Nat.sub_lt_left_of_lt_add hlt.le her
  · have hfor : t.book.recentlyCancelled.get uuid ≠ some pubkey := by
      rw [TimeCache.get, hent]
      exact fun heq => hpk (some.inj heq)
    obtain ⟨order, hbc, how⟩ := lateCreated_inserted hfor
    have hwn : ([lateCreated pubkey uuid].map Incoming.elapsed).sum <
        recentlyCancelledTimeout := by
      simp [lateCreated, recentlyCancelledTimeout, fromSecs]
    exact hst [lateCreated pubkey uuid] hwn order hbc how

/-- After every run, a cancellation keeps the order out of the book for the whole window, whatever
arrives, exactly if nothing else that has not expired is remembered about the uuid. -/
theorem staysCancelled_iff (now : Instant) (before : List Incoming) (elapsed : Nat)
    (pubkey : String) (uuid : Uuid) :
    StaysCancelled ((before.foldl Listener.step (.start now)).step (ownCancel elapsed pubkey uuid))
      pubkey uuid ↔
    ∀ entry,
      (before.foldl Listener.step (.start now)).book.recentlyCancelled.map.lookup uuid =
        some entry →
      (before.foldl Listener.step (.start now)).now + elapsed < entry.expires →
      entry = ⟨pubkey,
        (before.foldl Listener.step (.start now)).now + elapsed + recentlyCancelledTimeout⟩ := by
  have hrem := remembers_run now before
  generalize before.foldl Listener.step (.start now) = s at *
  have haft := remembers_step s (ownCancel elapsed pubkey uuid) hrem
  have hpl := lookup_ownCancel hrem elapsed pubkey uuid uuid
  rw [if_pos rfl] at hpl
  constructor
  · intro hst entry hent hlt
    by_contra hne
    rw [hent, filter_some_pos (by simpa using hlt)] at hpl
    exact not_staysCancelled haft hpl hlt hne hst
  · intro hfre after hwn
    have hsh : Shut pubkey uuid (s.now + elapsed + recentlyCancelledTimeout)
        (s.step (ownCancel elapsed pubkey uuid)).book := by
      refine ⟨hpl.trans ?_, fun order hlk => (deleteOrder_orderSet_lookup.1 hlk).2 rfl⟩
      cases hent : s.book.recentlyCancelled.map.lookup uuid with
      | none => rfl
      | some entry =>
        by_cases hlt : s.now + elapsed < entry.expires
        · rw [filter_some_pos (by simpa using hlt), hfre entry hent hlt]
          rfl
        · rw [filter_some_neg (by simpa using hlt)]
          rfl
    exact (hsh.run haft (Nat.add_lt_add_left hwn _)).absent

/-- Someone else cancels the order before its owner does. -/
def foreignCancelFirst : List Incoming := [lateCreated "P" 1, ownCancel 0 "Q" 1, ownCancel 0 "P" 1]

/-- The owner has cancelled and the order is gone. A creation that arrives late brings it back. -/
theorem foreignCancelFirst_comes_back :
    (foreignCancelFirst.foldl Listener.step (.start 0)).book.orderSet.lookup 1 = none ∧
    ((foreignCancelFirst ++ [lateCreated "P" 1]).foldl Listener.step
      (.start 0)).book.orderSet.lookup
      1 = some ((lateOrder 1).toItem "P") := by
  decide +kernel

end CheetahDex.Proof
