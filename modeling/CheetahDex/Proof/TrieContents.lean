import CheetahDex.Ordermatch.TrieStore

/-!
# What the tries contain

`contents` is the set of orders of a pubkey in a pair, and the operations of the store are
insertions, removals and resets of these sets, each of them touching one pubkey and pair. That rests
on the invariant `StoreInv`: every root in the store is the default hash or can be opened, so the
error branches of `applyInsert` and `applyRemove` are taken in the one harmless case, a removal
below the default hash.

The invariant also says what the histories are worth: a diff recorded at a root leads from the
orders of that root to the orders of the next one.
-/

namespace CheetahDex.Proof

open Lib Common Ordermatch Orderbook TrieStore Option HashMap

variable {H : Type} [DecidableEq H]

variable (pubkey albPair : String)

/-- The order is one of `pubkey` in `albPair` under `uuid`, with numbers the book accepts. -/
structure OrderOf (uuid : Uuid)
    (order : OrderbookItem) : Prop where
  pubkey_eq : order.pubkey = pubkey
  albPair_eq : albOrderedPair order.base order.rel = albPair
  uuid_eq : order.uuid = uuid
  accepted : Accepts order

/-- Every record is one of an order of `pubkey` in `albPair`. -/
def Records (c : PairOrders) : Prop :=
  ∀ u x, c.lookup u = some x → ∃ order, OrderOf pubkey albPair u order ∧ order.toP2P = x

theorem records_empty : Records pubkey albPair ∅ := by
  intro u x h
  simp at h

variable {albPair : AlbOrderedOrderbookPair} {c : PairOrders} {pubkey : String}

variable {order : OrderbookItem} {uuid : Uuid}

theorem Records.insert (h : Records pubkey albPair c) (ho : OrderOf pubkey albPair uuid order) :
    Records pubkey albPair (c.insert uuid order.toP2P) := by
  intro u x hx
  rw [lookup_insert_ite] at hx
  split at hx
  · rename_i hu
    exact ⟨order, hu ▸ ho, some.inj hx⟩
  · exact h u x hx

theorem Records.erase (h : Records pubkey albPair c) (uuid : Uuid) :
    Records pubkey albPair (c.erase uuid) := by
  intro u x hx
  rw [lookup_erase_ite] at hx
  split at hx
  · cases hx
  · exact h u x hx

/-- One change of a diff applied to a set of orders. -/
def applyChange (c : PairOrders) : Uuid × Option OrderbookItem → PairOrders
  | (u, some order) => c.insert u order.toP2P
  | (u, none) => c.erase u

/-- A diff applied to a set of orders. -/
def applyDelta (c : PairOrders) (delta : OrdersDelta) : PairOrders := delta.foldl applyChange c

/-- The operations the order book sends: an insertion carries the key of its own order. -/
def WellFormedOp : TrieOp → Prop
  | .insert pubkey albPair uuid order => OrderOf pubkey albPair uuid order
  | .clearPair _ _ => True
  | .remove _ _ _ => True
  | .removePubkey _ => True

section Store

variable (th : PairHash H)

/-- The root of a pubkey and pair; the default hash stands for none. -/
def rootOf (st : TrieStore H) (pubkey albPair : String) : H :=
  match st.pubkeysState.lookup pubkey with
  | some ps => pairRoot th ps albPair
  | none => th.zero

/-- The orders of a pubkey in a pair. -/
def contents (st : TrieStore H) (pubkey albPair : String) :
    PairOrders :=
  (getTrieMut th st.memoryDb (rootOf th st pubkey albPair)).getD ∅

/-- A root is the default hash, or one that can be opened and holds orders of its pubkey and pair.
-/
def RootOk (db : PairTries H) (pubkey albPair : String) (root : H) : Prop :=
  root = th.zero ∨ ∃ c, th.Holds db root c ∧ Records pubkey albPair c

/-- The diff recorded at `root` leads from its orders to those of the next root. -/
def DiffOk (pubkey albPair : String) (root : H) (diff : TrieDiff H) :
    Prop :=
  (∃ c, root = th.root c ∧ diff.nextRoot = th.root (applyDelta c diff.delta)) ∧
    ∀ u order, (u, some order) ∈ diff.delta → OrderOf pubkey albPair u order

/-- The state of one pubkey. -/
structure PubkeyInv (db : PairTries H) (pubkey : String)
    (ps : OrderbookPubkeyState H) : Prop where
  roots : ∀ albPair, RootOk th db pubkey albPair (pairRoot th ps albPair)
  history : ps.orderPairsTrieStateHistory.All fun albPair h => h.All (DiffOk th pubkey albPair)

/-- The invariant of the store. -/
structure StoreInv (st : TrieStore H) : Prop where
  sound : th.Sound st.memoryDb
  pubkeys : ∀ pubkey ps, st.pubkeysState.lookup pubkey = some ps →
    PubkeyInv th st.memoryDb pubkey ps

variable {th}

theorem storeInv_default : StoreInv th TrieStore.default where
  sound := TrieHash.sound_empty
  pubkeys := by
    intro pubkey ps h
    simp [TrieStore.default] at h

variable {db : PairTries H} {root : H} {ps : OrderbookPubkeyState H} {st : TrieStore H}

theorem RootOk.commit (h : RootOk th db pubkey albPair root) (c : PairOrders) :
    RootOk th (th.commit db c) pubkey albPair root := by
  rcases h with h | ⟨c', hc', hr⟩
  · exact .inl h
  · exact .inr ⟨c', hc'.commit c, hr⟩

theorem StoreInv.pubkeyState (h : StoreInv th st) (nowMs : Nat) (pubkey : String) :
    PubkeyInv th st.memoryDb pubkey (st.pubkeyState nowMs pubkey) := by
  unfold TrieStore.pubkeyState HashMap.getD
  cases hp : st.pubkeysState.lookup pubkey with
  | some ps => exact h.pubkeys pubkey ps hp
  | none =>
    refine ⟨fun albPair => .inl ?_, TimeCache.all_new _⟩
    simp [pairRoot, HashMap.getD, OrderbookPubkeyState.withHistoryTimeout]

omit [DecidableEq H] in
/-- A fresh state has no root, so creating one does not show in the roots. -/
theorem pairRoot_pubkeyState (st : TrieStore H) (nowMs : Nat) (pubkey albPair : String) :
    pairRoot th (st.pubkeyState nowMs pubkey) albPair = rootOf th st pubkey albPair := by
  unfold rootOf TrieStore.pubkeyState HashMap.getD
  cases hp : st.pubkeysState.lookup pubkey with
  | some ps => rfl
  | none => simp [pairRoot, HashMap.getD, OrderbookPubkeyState.withHistoryTimeout]

section

variable (h : StoreInv th st) (pubkey albPair : String)

include h

theorem StoreInv.rootOk : RootOk th st.memoryDb pubkey albPair (rootOf th st pubkey albPair) := by
  rw [← pairRoot_pubkeyState st 0]
  exact (h.pubkeyState 0 pubkey).roots albPair

/-- Every trie of the store can be opened. -/
theorem StoreInv.getTrieMut_rootOf :
    getTrieMut th st.memoryDb (rootOf th st pubkey albPair) =
      some (contents th st pubkey albPair) := by
  unfold contents
  rcases h.rootOk pubkey albPair with hz | ⟨c, hc, -⟩
  · rw [getTrieMut, if_pos hz]
    rfl
  · rw [getTrieMut, if_neg hc.ne_zero, hc.2]
    rfl

theorem StoreInv.records : Records pubkey albPair (contents th st pubkey albPair) := by
  unfold contents
  rcases h.rootOk pubkey albPair with hz | ⟨c, hc, hr⟩
  · rw [getTrieMut, if_pos hz]
    exact records_empty pubkey albPair
  · rw [getTrieMut, if_neg hc.ne_zero, hc.2]
    exact hr

end

/-- A root other than the default hash is the root of the contents. -/
theorem StoreInv.rootOf_eq (h : StoreInv th st) (hz : rootOf th st pubkey albPair ≠ th.zero) :
    rootOf th st pubkey albPair = th.root (contents th st pubkey albPair) := by
  rcases h.rootOk pubkey albPair with hr | ⟨c, hc, -⟩
  · exact absurd hr hz
  · have hop := h.getTrieMut_rootOf pubkey albPair
    rw [getTrieMut, if_neg hz, hc.2] at hop
    rw [← some.inj hop]
    exact hc.1

/-! ## The operations -/

omit [DecidableEq H] in
theorem rootOf_insert (st : TrieStore H) (db : PairTries H)
    (pubkey pubkey' : String) (ps : OrderbookPubkeyState H) (albPair : AlbOrderedOrderbookPair) :
    rootOf th ⟨st.pubkeysState.insert pubkey ps, db⟩ pubkey' albPair =
      if pubkey' = pubkey then pairRoot th ps albPair else rootOf th st pubkey' albPair := by
  unfold rootOf
  rw [lookup_insert_ite]
  by_cases hp : pubkey' = pubkey
  · simp [hp]
  · simp [hp]

theorem contents_of_rootOf_eq_zero (h : rootOf th st pubkey albPair = th.zero) :
    contents th st pubkey albPair = ∅ := by
  rw [contents, getTrieMut, if_pos h]
  rfl

theorem StoreInv.contents_of_root (h : StoreInv th st)
    (hrt : rootOf th st pubkey albPair = th.root c) : contents th st pubkey albPair = c :=
  th.root_injective ((h.rootOf_eq (hrt ▸ th.root_ne_zero c)).symm.trans hrt)

variable {st' : TrieStore H}

/-- The contents are determined by the root. -/
theorem StoreInv.contents_congr (h : StoreInv th st) (h' : StoreInv th st')
    (hrt : rootOf th st' pubkey albPair = rootOf th st pubkey albPair) :
    contents th st' pubkey albPair = contents th st pubkey albPair := by
  by_cases hz : rootOf th st pubkey albPair = th.zero
  · rw [contents_of_rootOf_eq_zero hz, contents_of_rootOf_eq_zero (hrt.trans hz)]
  · exact h'.contents_of_root (hrt.trans (h.rootOf_eq hz))

variable (th) in
/-- What an operation does: the store is in order again, and of all roots only the one of the key
has changed, to one that stands for the orders `c`. -/
structure Updates (st st' : TrieStore H) (key : PairKey) (root : H)
    (c : PairOrders) : Prop where
  inv : StoreInv th st'
  roots : ∀ key', rootOf th st' key'.1 key'.2 =
    if key' = key then root else rootOf th st key'.1 key'.2
  stands : root = th.zero ∧ c = ∅ ∨ root = th.root c

/-- These are the only contents that change. -/
theorem Updates.contents {key : PairKey}
    (hst' : Updates th st st' key root c) (h : StoreInv th st)
    (key' : PairKey) :
    contents th st' key'.1 key'.2 = if key' = key then c else contents th st key'.1 key'.2 := by
  have hrt := hst'.roots key'
  by_cases hkey : key' = key
  · rw [if_pos hkey] at hrt ⊢
    rcases hst'.stands with ⟨hz, rfl⟩ | hc
    · exact contents_of_rootOf_eq_zero (hrt.trans hz)
    · exact hst'.inv.contents_of_root (hrt.trans hc)
  · rw [if_neg hkey] at hrt ⊢
    exact h.contents_congr hst'.inv hrt

section write

variable (h : StoreInv th st) (hdb : th.Sound db)
  (hkp : ∀ {pubkey albPair root}, RootOk th st.memoryDb pubkey albPair root →
    RootOk th db pubkey albPair root)

include h hdb hkp

/-- A new state for a pubkey, and a database in which all roots can still be read. -/
theorem StoreInv.put (hps : PubkeyInv th db pubkey ps) :
    StoreInv th ⟨st.pubkeysState.insert pubkey ps, db⟩ := by
  refine ⟨hdb, fun pubkey' ps' hlk => ?_⟩
  rw [lookup_insert_ite] at hlk
  split at hlk
  · rename_i hp
    cases hlk
    exact hp ▸ hps
  · have hold := h.pubkeys pubkey' ps' hlk
    exact ⟨fun pair => hkp (hold.roots pair), hold.history⟩

/-- A new state for a pubkey that differs from the old one in the root of one pair. -/
theorem StoreInv.write (hro : ∀ pair, pairRoot th ps pair =
      if pair = albPair then root else rootOf th st pubkey pair)
    (hhis : ps.orderPairsTrieStateHistory.All fun pair h => h.All (DiffOk th pubkey pair))
    (hrt : root = th.zero ∧ c = ∅ ∨ th.Holds db root c ∧ Records pubkey albPair c) :
    Updates th st ⟨st.pubkeysState.insert pubkey ps, db⟩ (pubkey, albPair) root c := by
  refine ⟨h.put hdb hkp ⟨fun pair => ?_, hhis⟩, fun key => ?_, hrt.imp id fun hc => hc.1.1⟩
  · rw [hro]
    split
    · rename_i hpr
      rw [hpr]
      exact hrt.imp And.left fun hc => ⟨c, hc⟩
    · exact hkp (h.rootOk pubkey pair)
  · rw [rootOf_insert, hro]
    by_cases hp : key.1 = pubkey
    · simp [hp, Prod.ext_iff]
    · simp [hp, Prod.ext_iff]

end write

variable {t : TrieOrderHistory H} {diff : TrieDiff H}

/-- Dropping a chain of diffs only takes entries away. -/
theorem all_dropChain {Q : H → TrieDiff H → Prop} (clock : Nat → Instant) (hall : t.All Q) (r : H)
    (i fuel : Nat) : TimeCache.All Q (t.dropChain clock r i fuel) := by
  induction fuel generalizing t r i with
  | zero => exact hall
  | succ fuel ih =>
    have hrem := hall.remove (clock i) r
    unfold TrieOrderHistory.dropChain
    split
    · rename_i h' d he
      rw [he] at hrem
      exact ih hrem _ _
    · rename_i h' he
      rw [he] at hrem
      exact hrem

/-- Recording a diff only takes entries away, or it adds the diff when nothing leads on from where
the diff leads. -/
theorem insertNewDiff_cases (clock : Nat → Instant) (h : TrieOrderHistory H) (root : H)
    (diff : TrieDiff H) :
    (∀ {Q}, h.All Q → TimeCache.All Q (h.insertNewDiff clock root diff)) ∨
    root ≠ diff.nextRoot ∧ ∃ h' : TrieOrderHistory H, h'.get diff.nextRoot = none ∧
      (∀ {Q}, h.All Q → h'.All Q) ∧
      h.insertNewDiff clock root diff = (h'.insert (clock 1) root diff).1 := by
  unfold TrieOrderHistory.insertNewDiff
  split
  · exact .inl id
  · rename_i hne
    have hrem : ∀ {Q}, h.All Q → (h.remove (clock 0) diff.nextRoot).1.All Q :=
      fun hall => hall.remove _ _
    have hn := TimeCache.get_remove_self h (clock 0) diff.nextRoot
    split
    · rename_i h' d he
      rw [he] at hrem
      exact .inl fun hall => all_dropChain clock (hrem hall) _ _ _
    · rename_i h' he
      rw [he] at hrem hn
      exact .inr ⟨hne, h', hn, hrem, rfl⟩

/-- Recording a correct diff keeps the histories correct. -/
theorem all_insertNewDiff (hall : t.All (DiffOk th pubkey albPair)) (clock : Nat → Instant)
    (hdf : DiffOk th pubkey albPair root diff) :
    TimeCache.All (DiffOk th pubkey albPair) (t.insertNewDiff clock root diff) := by
  rcases insertNewDiff_cases clock t root diff with hkp | ⟨-, h', -, hkp, heq⟩
  · exact hkp hall
  · rw [heq]
    exact (hkp hall).insert _ hdf

theorem all_recordDiff
    (hall : ps.orderPairsTrieStateHistory.All fun pair h => h.All (DiffOk th pubkey pair))
    (clock : Clock) (hdf : DiffOk th pubkey albPair root diff) :
    (recordDiff clock ps albPair root diff).orderPairsTrieStateHistory.All
      fun pair h => h.All (DiffOk th pubkey pair) :=
  hall.modifyOrInsert _ (all_insertNewDiff (TimeCache.all_new _) _ hdf)
    fun _ hv => all_insertNewDiff hv _ hdf

omit [DecidableEq H] in
theorem pairRoot_insert (ps : OrderbookPubkeyState H) (albPair pair : AlbOrderedOrderbookPair)
    (root : H) {ps' : OrderbookPubkeyState H}
    (h : ps'.trieRoots = ps.trieRoots.insert albPair root) :
    pairRoot th ps' pair = if pair = albPair then root else pairRoot th ps pair := by
  unfold pairRoot HashMap.getD
  rw [h, lookup_insert_ite]
  split <;> rfl

/-- **`applyInsert` adds the order to the contents of its pubkey and pair.** -/
theorem StoreInv.applyInsert (h : StoreInv th st) (clock : Clock)
    (ho : OrderOf pubkey albPair uuid order) :
    let c := (Proof.contents th st pubkey albPair).insert uuid order.toP2P
    Updates th st (applyInsert th clock st pubkey albPair uuid order) (pubkey, albPair)
      (th.root c) c := by
  have hps := h.pubkeyState clock.nowMs pubkey
  have hrt : ∀ pair, pairRoot th (st.pubkeyState clock.nowMs pubkey) pair =
      rootOf th st pubkey pair := pairRoot_pubkeyState st clock.nowMs pubkey
  unfold TrieStore.applyInsert
  simp only [hrt, h.getTrieMut_rootOf]
  refine h.write (h.sound.commit _) (·.commit _) (fun pair => ?_) ?_
    (.inr ⟨TrieHash.holds_commit _, (h.records pubkey albPair).insert ho⟩)
  · -- the root is written twice, and the history has no say in it
    rw [← hrt pair]
    refine pairRoot_insert _ _ _ _ ?_
    split
    · exact Finmap.insert_insert _
    · exact Finmap.insert_insert _
  · split
    · exact hps.history
    · rename_i hz
      refine all_recordDiff hps.history clock ⟨⟨_, h.rootOf_eq hz, rfl⟩, ?_⟩
      intro u o hmem
      simp only [List.mem_singleton, Prod.mk.injEq, some.injEq] at hmem
      obtain ⟨rfl, rfl⟩ := hmem
      exact ho

section

variable (h : StoreInv th st) (clock : Clock) (pubkey albPair : String)

include h

/-- **`applyRemove` takes the order out of the contents of its pubkey and pair.** -/
theorem StoreInv.applyRemove (uuid : Uuid) :
    let c := (Proof.contents th st pubkey albPair).erase uuid
    Updates th st (applyRemove th clock st pubkey albPair uuid) (pubkey, albPair)
      (if rootOf th st pubkey albPair = th.zero then th.zero else th.root c) c := by
  have hps := h.pubkeyState clock.nowMs pubkey
  have hrt : ∀ pair, pairRoot th (st.pubkeyState clock.nowMs pubkey) pair =
      rootOf th st pubkey pair := pairRoot_pubkeyState st clock.nowMs pubkey
  unfold TrieStore.applyRemove
  simp only [hrt]
  by_cases hz : rootOf th st pubkey albPair = th.zero
  · -- nothing to open below the default hash, and nothing there to remove
    rw [if_pos hz, hz, h.sound.openTrie_zero, contents_of_rootOf_eq_zero hz]
    refine h.write h.sound id (fun pair => ?_) hps.history (.inl ⟨rfl, rfl⟩)
    rw [← hrt pair]
    exact pairRoot_insert _ _ _ _ rfl
  · have hop := h.getTrieMut_rootOf pubkey albPair
    rw [getTrieMut, if_neg hz] at hop
    simp only [if_neg hz, hop]
    refine h.write (h.sound.commit _) (·.commit _) (fun pair => ?_) ?_
      (.inr ⟨TrieHash.holds_commit _, (h.records pubkey albPair).erase uuid⟩)
    · rw [← hrt pair]
      refine pairRoot_insert _ _ _ _ ?_
      split
      · exact Finmap.insert_insert _
      · exact Finmap.insert_insert _
    · split
      · refine all_recordDiff hps.history clock ⟨⟨_, h.rootOf_eq hz, rfl⟩, ?_⟩
        intro u o hmem
        simp at hmem
      · exact hps.history

/-- **`applyClearPair` empties the contents of its pubkey and pair.** -/
theorem StoreInv.applyClearPair :
    Updates th st (applyClearPair clock st pubkey albPair) (pubkey, albPair) th.zero ∅ := by
  unfold TrieStore.applyClearPair HashMap.modify
  cases hp : st.pubkeysState.lookup pubkey with
  | none =>
    refine ⟨h, fun key => ?_, .inl ⟨rfl, rfl⟩⟩
    by_cases hkey : key = (pubkey, albPair)
    · subst hkey
      simp [rootOf, hp]
    · rw [if_neg hkey]
  | some ps =>
    refine h.write h.sound id (fun pair => ?_) ((h.pubkeys pubkey ps hp).history.remove _ _)
      (.inl ⟨rfl, rfl⟩)
    rw [rootOf, hp]
    unfold pairRoot HashMap.getD
    rw [lookup_erase_ite]
    split <;> rfl

end

end Store

end CheetahDex.Proof
