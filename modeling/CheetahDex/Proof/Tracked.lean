import CheetahDex.Proof.StoreRuns

/-!
# Which orders the store tracks

Beside the tries the store keeps the set of all orders of a pubkey, `orders_uuids`, without looking
at whether opening a trie works. A batch is a write to these sets in the sense of `Lib.Keyed`.
-/

namespace CheetahDex.Proof

open Lib Common Ordermatch Orderbook TrieStore

variable {H : Type} [DecidableEq H] (st : TrieStore H)

/-- `orders_uuids` of a pubkey; a pubkey without a state has none. -/
def ordersUuidsOf (pubkey : String) : Finset (Uuid × AlbOrderedOrderbookPair) :=
  match st.pubkeysState.lookup pubkey with
  | some ps => ps.ordersUuids
  | none => ∅

/-- An order by its pubkey, its pair and its uuid. -/
abbrev OrderKey := PairKey × Uuid

/-- The store tracks the order. -/
def tracked (key : OrderKey) : Bool := (key.2, key.1.2) ∈ ordersUuidsOf st key.1.1

/-- What a batch says about an order. -/
def batchWrites (ops : List TrieOp) (key : OrderKey) : Option Bool :=
  if .removePubkey key.1.1 ∈ ops then some false
  else if key.2 ∈ (groupFor key.1 ops).removes then some false
  else if key.2 ∈ (groupFor key.1 ops).inserts.map Prod.fst then some true
  else if (groupFor key.1 ops).clear then some false
  else none

theorem batchWrites_nil (key : OrderKey) : batchWrites [] key = none := by
  simp [batchWrites, groupFor, insertsFor, removesFor]

/-! ## The operations -/

/-- The tracked uuids by pubkey and pair. -/
def trackedAt (key : PairKey) : Set Uuid := {u | tracked st (key, u)}

omit [DecidableEq H] in
theorem mem_trackedAt {st : TrieStore H} {key : PairKey} {u : Uuid} :
    u ∈ trackedAt st key ↔ (u, key.2) ∈ ordersUuidsOf st key.1 := by
  simp [trackedAt, tracked]

variable (st : TrieStore H)

omit [DecidableEq H] in
theorem ordersUuidsOf_pubkeyState (nowMs : Nat) (pubkey : String) :
    (st.pubkeyState nowMs pubkey).ordersUuids = ordersUuidsOf st pubkey := by
  unfold ordersUuidsOf TrieStore.pubkeyState HashMap.getD
  cases hp : st.pubkeysState.lookup pubkey with
  | some ps => rfl
  | none => rfl

variable (db : PairTries H)

omit [DecidableEq H] in
theorem ordersUuidsOf_insert (pubkey pubkey' : String)
    (ps : OrderbookPubkeyState H) :
    ordersUuidsOf ⟨st.pubkeysState.insert pubkey ps, db⟩ pubkey' =
      if pubkey' = pubkey then ps.ordersUuids else ordersUuidsOf st pubkey' := by
  unfold ordersUuidsOf
  rw [HashMap.lookup_insert_ite]
  by_cases hp : pubkey' = pubkey
  · simp [hp]
  · simp [hp]

omit [DecidableEq H] in
/-- A new state for a pubkey, whose set differs from the old one in the pair `albPair` only. -/
theorem trackedAt_insert (pubkey albPair : String) (ps : OrderbookPubkeyState H)
    {g : Set Uuid → Set Uuid} (hps : ∀ u pair, (u, pair) ∈ ps.ordersUuids ↔
      if pair = albPair then u ∈ g (trackedAt st (pubkey, albPair))
      else (u, pair) ∈ ordersUuidsOf st pubkey) (key : PairKey) :
    trackedAt ⟨st.pubkeysState.insert pubkey ps, db⟩ key =
      if key = (pubkey, albPair) then g (trackedAt st (pubkey, albPair)) else trackedAt st key := by
  obtain ⟨pubkey', pair⟩ := key
  ext u
  rw [mem_trackedAt, ordersUuidsOf_insert]
  by_cases hp : pubkey' = pubkey
  · subst hp
    rw [if_pos rfl, hps]
    by_cases hpr : pair = albPair
    · rw [if_pos hpr, if_pos (by rw [hpr])]
    · rw [if_neg hpr, if_neg fun h => hpr (Prod.mk.inj h).2, mem_trackedAt]
  · rw [if_neg hp, if_neg fun h => hp (Prod.mk.inj h).1, mem_trackedAt]

variable (th : PairHash H) (clock : Clock) (pubkey albPair : String)

theorem actsAt_applyInsert (uuid : Uuid) (order : OrderbookItem) :
    ActsAt (fun _ => True) trackedAt (pubkey, albPair)
      (fun st => applyInsert th clock st pubkey albPair uuid order) (insert uuid) := by
  refine fun st _ => ⟨trivial, fun key => ?_⟩
  have hps : ∀ u pair, (u, pair) ∈ insert (uuid, albPair)
    (st.pubkeyState clock.nowMs pubkey).ordersUuids
      ↔ if pair = albPair then u ∈ insert uuid (trackedAt st (pubkey, albPair))
        else (u, pair) ∈ ordersUuidsOf st pubkey := by
    intro u pair
    rw [Finset.mem_insert, ordersUuidsOf_pubkeyState, Prod.mk.injEq]
    by_cases hpr : pair = albPair
    · simp [hpr, mem_trackedAt]
    · simp [hpr]
  -- neither a failure to open the trie nor the history has a say in the set
  unfold TrieStore.applyInsert
  dsimp only
  split
  · exact trackedAt_insert st _ pubkey albPair _ hps key
  · split
    · exact trackedAt_insert st _ pubkey albPair _ hps key
    · exact trackedAt_insert st _ pubkey albPair _ hps key

theorem actsAt_applyRemove (uuid : Uuid) :
    ActsAt (fun _ => True) trackedAt (pubkey, albPair)
      (fun st => applyRemove th clock st pubkey albPair uuid) (· \ {uuid}) := by
  refine fun st _ => ⟨trivial, fun key => ?_⟩
  have hps : ∀ u pair, (u, pair) ∈ (st.pubkeyState clock.nowMs pubkey).ordersUuids.erase
    (uuid, albPair)
      ↔ if pair = albPair then u ∈ trackedAt st (pubkey, albPair) \ {uuid}
        else (u, pair) ∈ ordersUuidsOf st pubkey := by
    intro u pair
    rw [Finset.mem_erase, ordersUuidsOf_pubkeyState, Ne, Prod.mk.injEq]
    by_cases hpr : pair = albPair
    · simp [hpr, mem_trackedAt, and_comm]
    · simp [hpr]
  unfold TrieStore.applyRemove
  dsimp only
  split
  · exact trackedAt_insert st _ pubkey albPair _ (g := (· \ {uuid})) hps key
  · split
    · exact trackedAt_insert st _ pubkey albPair _ (g := (· \ {uuid})) hps key
    · exact trackedAt_insert st _ pubkey albPair _ (g := (· \ {uuid})) hps key

omit [DecidableEq H] in
theorem actsAt_applyClearPair :
    ActsAt (fun _ => True) trackedAt (pubkey, albPair)
      (fun st : TrieStore H => applyClearPair clock st pubkey albPair) (fun _ => ∅) := by
  refine fun st _ => ⟨trivial, fun key => ?_⟩
  unfold TrieStore.applyClearPair HashMap.modify
  cases hp : st.pubkeysState.lookup pubkey with
  | none =>
    simp only [hp]
    split
    · rename_i hkey
      ext u
      simp [hkey, mem_trackedAt, ordersUuidsOf, hp]
    · rfl
  | some ps =>
    simp only [hp]
    refine trackedAt_insert st _ pubkey albPair _ (g := fun _ => ∅) (fun u pair => ?_) key
    by_cases hpr : pair = albPair
    · simp [hpr]
    · simp [hpr, ordersUuidsOf, hp]

/-! ## Batches -/

theorem mem_foldl_insert (entries : List (Uuid × OrderbookItem)) (s : Set Uuid) (u : Uuid) :
    u ∈ entries.foldl (fun s e => insert e.1 s) s ↔ u ∈ entries.map Prod.fst ∨ u ∈ s := by
  induction entries generalizing s with
  | nil => simp
  | cons e entries ih =>
    rw [List.foldl_cons, ih, Set.mem_insert_iff, List.map_cons, List.mem_cons]
    exact or_left_comm.trans or_assoc.symm

theorem mem_foldl_sdiff (uuids : List Uuid) (s : Set Uuid) (u : Uuid) :
    u ∈ uuids.foldl (fun s uuid => s \ {uuid}) s ↔ u ∉ uuids ∧ u ∈ s := by
  induction uuids generalizing s with
  | nil => simp
  | cons uuid uuids ih =>
    rw [List.foldl_cons, ih, Set.mem_sdiff, Set.mem_singleton_iff, List.mem_cons, not_or]
    exact ⟨fun ⟨h, hs, hu⟩ => ⟨⟨hu, h⟩, hs⟩, fun ⟨⟨hu, h⟩, hs⟩ => ⟨h, hs, hu⟩⟩

/-- The tracked uuids of a pubkey and pair after a group. -/
def groupTracked (g : Group) (s : Set Uuid) : Set Uuid :=
  g.removes.foldl (fun s uuid => s \ {uuid})
    (g.inserts.foldl (fun s e => insert e.1 s) (if g.clear then ∅ else s))

theorem mem_groupTracked (g : Group) (s : Set Uuid) (u : Uuid) :
    u ∈ groupTracked g s ↔
      u ∉ g.removes ∧ (u ∈ g.inserts.map Prod.fst ∨ g.clear = false ∧ u ∈ s) := by
  rw [groupTracked, mem_foldl_sdiff, mem_foldl_insert]
  cases g.clear <;> simp

theorem opsAct_tracked : OpsAct th (fun _ => True) trackedAt (fun _ _ => True) (fun _ => ∅)
    (fun s e => insert e.1 s) (fun s uuid => s \ {uuid}) where
  clear clock key := actsAt_applyClearPair clock key.1 key.2
  insert clock key e _ := actsAt_applyInsert th clock key.1 key.2 e.1 e.2
  remove clock key uuid := actsAt_applyRemove th clock key.1 key.2 uuid

omit [DecidableEq H] in
theorem ordersUuidsOf_retain (p : String → Bool) (pubkey : String) :
    ordersUuidsOf
        { st with pubkeysState := st.pubkeysState.retain fun pubkey _ => p pubkey } pubkey =
      if p pubkey then ordersUuidsOf st pubkey else ∅ := by
  unfold ordersUuidsOf
  rw [HashMap.lookup_retain]
  cases st.pubkeysState.lookup pubkey with
  | none => simp
  | some ps =>
    cases p pubkey with
    | true => rfl
    | false => rfl

/-- **A batch is a write to the tracked orders.** -/
theorem tracked_applyOps (env : BatchEnv) (st : TrieStore H) (ops : List TrieOp) :
    tracked (applyOps th env st ops) = overwrite (tracked st) (batchWrites ops) := by
  funext key
  obtain ⟨⟨pubkey, albPair⟩, u⟩ := key
  have hgs := (opsAct_tracked th).groups env st ops (fun _ _ _ _ => trivial) trivial
  have hgr : _ ↔ u ∈ groupTracked _ _ := Set.ext_iff.1 (hgs.2 (pubkey, albPair)) u
  rw [mem_groupTracked, mem_trackedAt, mem_trackedAt] at hgr
  rw [Bool.eq_iff_iff, tracked, decide_eq_true_iff]
  unfold applyOps
  rw [ordersUuidsOf_retain _ (fun pubkey => pubkey ∉ (groupOps ops).2), overwrite, batchWrites]
  -- a removed pubkey goes last, whatever else the batch says about it
  by_cases hrem : .removePubkey pubkey ∈ ops
  · rw [if_pos hrem, if_neg (by simpa [mem_groupOps_removed] using hrem)]
    simp
  · rw [if_neg hrem, if_pos (by simpa [mem_groupOps_removed] using hrem), hgr]
    by_cases hrmd : u ∈ (groupFor (pubkey, albPair) ops).removes
    · simp [hrmd]
    · rw [if_neg hrmd]
      by_cases hin : u ∈ (groupFor (pubkey, albPair) ops).inserts.map Prod.fst
      · rw [if_pos hin]
        simp [hrmd, hin]
      · rw [if_neg hin]
        cases hclr : (groupFor (pubkey, albPair) ops).clear with
        | true => simp [hin]
        | false => simp [hrmd, hin, tracked]

/-- Comparing a keep-alive with the roots does not touch the tracked orders. -/
theorem tracked_prepareSyncRequestForKeepAlive (iter : Iteration AlbOrderedOrderbookPair)
    (clock : Clock) (st : TrieStore H) (fromPubkey : String) (message : PubkeyKeepAlive H)
    (iAmRelay : Bool) (isSubscribed : String → Bool) :
    tracked (prepareSyncRequestForKeepAlive th iter clock st fromPubkey message iAmRelay
      isSubscribed).1 = tracked st := by
  have hsta : Compared th (st.pubkeyState clock.nowMs fromPubkey)
      { st.pubkeyState clock.nowMs fromPubkey with lastKeepAlive := message.timestamp } :=
    ⟨fun _ => rfl, rfl, rfl⟩
  have hcm := hsta.foldl iAmRelay isSubscribed (_, ∅) (iter.entries message.trieRoots)
  funext key
  unfold tracked prepareSyncRequestForKeepAlive
  rw [ordersUuidsOf_insert, hcm.uuids]
  rw [ordersUuidsOf_pubkeyState]
  split
  · rename_i hp
    rw [hp]
  · rfl

end CheetahDex.Proof
