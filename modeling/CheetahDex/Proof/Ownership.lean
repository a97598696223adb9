import CheetahDex.Proof.StoredOrders

/-!
# Who may touch an order

An order belongs to the pubkey stored with it. The handlers for updates and cancellations check that
the signer is the owner. The other two do not: a creation message is stored under whatever uuid it
names, and a synchronisation answer inserts and removes whatever uuids its payload names.

Every handler is described by its *writes*: the list of uuids it assigns, in order, with the order
stored there or `none`. A foreign order survives exactly when the last write to its uuid, if there
is one, writes the very same order.
-/

namespace CheetahDex.Proof

open Lib Common Ordermatch Orderbook Option

/-- An assignment to a uuid: the order stored there, or `none` for a removal. -/
abbrev Write := Uuid × Option OrderbookItem

/-- What the list of writes last assigns to `u`. -/
def lastWritten (u : Uuid) : List Write → Option (Option OrderbookItem)
  | [] => none
  | (u', w) :: ws => (lastWritten u ws).or (if u' = u then some w else none)

theorem lastWritten_append (u : Uuid) (ws ws' : List Write) :
    lastWritten u (ws ++ ws') = (lastWritten u ws').or (lastWritten u ws) := by
  induction ws with
  | nil => simp [lastWritten]
  | cons w ws ih => simp only [List.cons_append, lastWritten, ih, Option.or_assoc]

/-! ## What the handlers write -/

variable (cancelled : TimeCache Uuid String)

/-- The write of `indexInsertOrUpdate`: none for a recently cancelled order, a removal for an order
with unacceptable numbers. -/
def insertWrites (order : OrderbookItem) : List Write :=
  if cancelled.get order.uuid = some order.pubkey then []
  else [(order.uuid, if Accepts order then some order else none)]

theorem lastWritten_insertWrites (u : Uuid) (cancelled : TimeCache Uuid String)
    (order : OrderbookItem) :
    lastWritten u (insertWrites cancelled order) =
      if order.uuid = u ∧ cancelled.get order.uuid ≠ some order.pubkey then
        some (if Accepts order then some order else none)
      else none := by
  unfold insertWrites
  by_cases hc : cancelled.get order.uuid = some order.pubkey
  · simp [hc, lastWritten]
  · simp [hc, lastWritten]

/-- The write for one entry of a delta. -/
def deltaWrites (res : SyncPubkeyOrderbookStateRes) : Uuid × Option OrderbookP2PItem → List Write
  | (uuid, some order) => insertWrites cancelled (res.item uuid order)
  | (uuid, none) => [(uuid, none)]

variable (iter : SyncIteration) (res : SyncPubkeyOrderbookStateRes)

/-- The writes for one pair of a synchronisation answer. -/
def pairWrites : AlbOrderedOrderbookPair × PairAnswer → List Write
  | (pair, .delta orders) => ((iter.delta pair).entries orders).flatMap (deltaWrites cancelled res)
  | (_, .fullTrie orders) =>
    orders.flatMap fun (uuid, order) => insertWrites cancelled (res.item uuid order)

/-- The writes of a synchronisation answer. -/
def syncWrites : List Write :=
  (iter.pairs.entries res.pairOrdersDiff).flatMap (pairWrites cancelled iter res)

/-! ## How writes determine the foreign orders -/

/-- `ob'` comes from `ob` by the writes `ws`, and otherwise by changes to orders of `owner` only. -/
structure Effect (owner : String) (ob ob' : Orderbook) (ws : List Write) : Prop where
  cancelled : ob'.recentlyCancelled = ob.recentlyCancelled
  /-- A foreign order is stored afterwards if it was written last, or was there and not written. -/
  foreign : ∀ u o, o.pubkey ≠ owner → (ob'.orderSet.lookup u = some o ↔
    lastWritten u ws = some (some o) ∨ lastWritten u ws = none ∧ ob.orderSet.lookup u = some o)

variable (owner : String) (ob : Orderbook)

theorem Effect.refl : Effect owner ob ob [] where
  cancelled := rfl
  foreign := by simp [lastWritten]

theorem Effect.trans {owner : String} {ob ob' ob'' : Orderbook} {ws ws' : List Write}
    (h : Effect owner ob ob' ws) (h' : Effect owner ob' ob'' ws') :
    Effect owner ob ob'' (ws ++ ws') where
  cancelled := h'.cancelled.trans h.cancelled
  foreign := by
    intro u o ho
    rw [h'.foreign u o ho, h.foreign u o ho, lastWritten_append]
    cases lastWritten u ws' with
    | some w => simp
    | none => simp

/-- A loop whose turns have the effects `writes` has the effect of all of them in order. -/
theorem Effect.foldEmit {α : Type} {owner : String} {f : Orderbook → α → Orderbook × List TrieOp}
    (writes : TimeCache Uuid String → α → List Write)
    (hf : ∀ ob a, Effect owner ob (f ob a).1 (writes ob.recentlyCancelled a)) (ob : Orderbook)
    (as : List α) :
    Effect owner ob (foldEmit f ob as).1 (as.flatMap (writes ob.recentlyCancelled)) := by
  induction as generalizing ob with
  | nil => exact Effect.refl owner ob
  | cons a as ih =>
    have hr := ih (f ob a).1
    rw [(hf ob a).cancelled] at hr
    exact (hf ob a).trans hr

theorem Effect.indexRemove (uuid : Uuid) :
    Effect owner ob (ob.indexRemove uuid).1 [(uuid, none)] where
  cancelled := indexRemove_recentlyCancelled ob uuid
  foreign := by
    intro u o _
    rw [indexRemove_orderSet_lookup]
    by_cases hu : u = uuid
    · subst hu
      simp [lastWritten]
    · simp [lastWritten, hu, Ne.symm hu]

theorem Effect.indexInsertOrUpdate (order : OrderbookItem) :
    Effect owner ob (ob.indexInsertOrUpdate order).1 (insertWrites ob.recentlyCancelled order) := by
  rcases indexInsertOrUpdate_cases ob order with ⟨hc, he⟩ | ⟨hc, ha, he⟩ | ⟨hc, ha, he⟩ <;>
    rw [RecentlyCancelled] at hc
  · rw [he, insertWrites, if_pos hc]
    exact Effect.refl owner ob
  · rw [he, insertWrites, if_neg hc, if_pos ha]
    refine ⟨rfl, fun u o _ => ?_⟩
    rw [indexInsertOrUpdateInner_orderSet, HashMap.lookup_insert_ite]
    by_cases hu : u = order.uuid
    · subst hu
      simp [lastWritten]
    · simp [lastWritten, hu, Ne.symm hu]
  · rw [he, insertWrites, if_neg hc, if_neg ha]
    exact Effect.indexRemove owner ob order.uuid

/-- Clearing a pair drops only orders of the given pubkey. -/
theorem Effect.indexRemovePubkeyPairOrders (iter : String × String → Iteration Uuid)
    (owner : String) (ob : Orderbook) (albPair : AlbOrderedOrderbookPair) :
    Effect owner ob (ob.indexRemovePubkeyPairOrders iter owner albPair) [] := by
  refine removePairOrders_induction (P := fun ob' => Effect owner ob ob' []) ?_ iter
    albPair (Effect.refl owner ob)
  intro ob' uuid order h hord how
  refine ⟨(indexRemove_recentlyCancelled ob' uuid).trans h.cancelled, fun u o ho => ?_⟩
  rw [← h.foreign u o ho, indexRemove_orderSet_lookup]
  by_cases hu : u = uuid
  · subst hu
    rw [if_pos rfl, hord]
    refine ⟨fun h => absurd h (by simp), fun h => ?_⟩
    injection h with h
    exact absurd (h ▸ how) ho
  · rw [if_neg hu]

theorem Effect.processPairDiff
    (diff : AlbOrderedOrderbookPair × PairAnswer) :
    Effect owner ob (processPairDiff iter res owner ob diff).1
      (pairWrites ob.recentlyCancelled iter res diff) := by
  obtain ⟨pair, orders | orders⟩ := diff
  · refine Effect.foldEmit (fun c e => deltaWrites c res e) ?_ ob _
    rintro ob ⟨uuid, order | _⟩
    · exact Effect.indexRemove owner ob uuid
    · exact Effect.indexInsertOrUpdate owner ob _
  · have hclr := Effect.indexRemovePubkeyPairOrders (iter.unordered pair) owner ob pair
    have hins := Effect.foldEmit
      (f := fun ob (e : Uuid × OrderbookP2PItem) => ob.indexInsertOrUpdate (res.item e.1 e.2))
      (fun c e => insertWrites c (res.item e.1 e.2))
      (fun ob e => Effect.indexInsertOrUpdate owner ob _)
      (ob.indexRemovePubkeyPairOrders (iter.unordered pair) owner pair) orders
    rw [hclr.cancelled] at hins
    exact hclr.trans hins

theorem Effect.processSyncResponse :
    Effect owner ob (processSyncResponse iter ob owner res).1
      (syncWrites ob.recentlyCancelled iter res) :=
  Effect.foldEmit (fun c e => pairWrites c iter res e)
    (fun ob diff => Effect.processPairDiff iter res owner ob diff) ob _

/-! ## The handlers -/

/-- Every order of another pubkey is stored as before. -/
def ForeignKept (ob ob' : Orderbook) : Prop :=
  ∀ u o, ob.orderSet.lookup u = some o → o.pubkey ≠ owner → ob'.orderSet.lookup u = some o

/-- Orders of others are kept if the last write to each of them is its own value. -/
theorem Effect.foreignKept_iff {owner : String} {ob ob' : Orderbook} {ws : List Write}
    (h : Effect owner ob ob' ws) :
    ForeignKept owner ob ob' ↔ ∀ u o, ob.orderSet.lookup u = some o → o.pubkey ≠ owner →
      ∀ w, lastWritten u ws = some w → w = some o := by
  constructor
  · intro hkp u o ho hfor w hw
    rcases (h.foreign u o hfor).1 (hkp u o ho hfor) with hl | ⟨hn, -⟩
    · rw [hw] at hl
      exact some.inj hl
    · cases hw.symm.trans hn
  · intro hl u o ho hfor
    rw [h.foreign u o hfor]
    cases hw : lastWritten u ws with
    | none => exact .inr ⟨rfl, ho⟩
    | some w => exact .inl (by rw [hl u o ho hfor w hw])

/-- When an input leaves the foreign orders alone. A creation must not name a uuid that another
pubkey holds, unless the signer's recent cancellation of it makes the book ignore it. The last write
of a synchronisation answer to such a uuid must repeat the stored order. -/
def LeavesForeign (signer : String) : P2PInput → Prop
  | .makerOrderCreated msg => ∀ o, ob.orderSet.lookup msg.uuid = some o → o.pubkey ≠ signer →
      ob.recentlyCancelled.get msg.uuid = some signer
  | .makerOrderUpdated _ => True
  | .makerOrderCancelled _ _ => True
  | .syncResponse iter res => ∀ u o, ob.orderSet.lookup u = some o → o.pubkey ≠ signer →
      ∀ w, lastWritten u (syncWrites ob.recentlyCancelled iter res) = some w → w = some o

theorem foreignKept_created_iff (signer : String) (msg : MakerOrderCreated) :
    ForeignKept signer ob (insertOrUpdateOrder ob (msg.toItem signer)).1 ↔
      LeavesForeign ob signer (.makerOrderCreated msg) := by
  rw [insertOrUpdateOrder,
    (Effect.indexInsertOrUpdate signer ob (msg.toItem signer)).foreignKept_iff]
  simp only [lastWritten_insertWrites, LeavesForeign]
  constructor
  · -- the signer's own order, or nothing, is written where the foreign one was
    intro h o ho hfor
    by_contra hc
    have hw := h msg.uuid o ho hfor _ (if_pos ⟨rfl, hc⟩)
    split at hw
    · exact hfor (some.inj hw ▸ rfl)
    · cases hw
  · intro h u o ho hfor w hw
    have hno : ¬((msg.toItem signer).uuid = u ∧ ob.recentlyCancelled.get (msg.toItem signer).uuid ≠
        some (msg.toItem signer).pubkey) := by
      rintro ⟨rfl, hc⟩
      exact hc (h o ho hfor)
    rw [if_neg hno] at hw
    cases hw

/-- **In every book the program can reach, an input of a pubkey that is not banned leaves the orders
of all other pubkeys as they were exactly when it meets `LeavesForeign`.** -/
theorem foreignKept_processMsg_iff (ops : List BookOp) (banned : Bool) (signer : String)
    (input : P2PInput) :
    ForeignKept signer (ops.foldl BookOp.apply Orderbook.default)
        (processMsg (ops.foldl BookOp.apply Orderbook.default) banned signer input).1 ↔
      banned = true ∨ LeavesForeign (ops.foldl BookOp.apply Orderbook.default) signer input := by
  have hkey := storedOk_run ops
  generalize ops.foldl BookOp.apply Orderbook.default = ob at hkey ⊢
  cases banned with
  | true => exact iff_of_true (fun u o ho _ => ho) (.inl rfl)
  | false =>
    simp only [Bool.false_eq_true, false_or]
    cases input with
    | makerOrderCreated msg => exact foreignKept_created_iff ob signer msg
    | makerOrderUpdated msg =>
      -- an update is applied to the order the signer owns under that uuid
      refine iff_of_true ?_ trivial
      change ForeignKept signer ob (processMakerOrderUpdated ob signer msg).1.1
      unfold processMakerOrderUpdated
      split
      · rename_i order hfn
        rw [findOrderByUuidAndPubkey, Option.filter_eq_some_iff, decide_eq_true_eq] at hfn
        obtain ⟨hord, how⟩ := hfn
        rw [(Effect.indexInsertOrUpdate signer ob (order.applyUpdated msg)).foreignKept_iff]
        intro u o ho hfor w hw
        have hne : order.uuid ≠ u := by
          rintro rfl
          rw [(hkey _ _ hord).1, hord] at ho
          exact hfor (some.inj ho ▸ how)
        rw [lastWritten_insertWrites, if_neg fun h => hne h.1] at hw
        cases hw
      · exact fun u o ho _ => ho
    | makerOrderCancelled now uuid =>
      -- a cancellation removes the order only if the signer owns it
      exact iff_of_true (fun _ _ ho hfor =>
        deleteOrder_orderSet_lookup.2 ⟨ho, fun _ => hfor⟩) trivial
    | syncResponse iter res => exact (Effect.processSyncResponse iter res signer ob).foreignKept_iff

/-- `P` announces an order, and `Q` announces one with zero volume under the same uuid. -/
theorem created_removes_foreign :
    let order (volume : MmNumber) : MakerOrderCreated :=
      { uuid := 7, base := "KMD", rel := "BTC", price := 1, maxVolume := volume, minVolume := 0,
        createdAt := 0, confSettings := ⟨1, false, 1, false⟩, baseProtocolInfo := [],
        relProtocolInfo := [] }
    let ob := (processMsg Orderbook.default false "P" (.makerOrderCreated (order 1))).1
    ob = [BookOp.index (.insertOrUpdate
      ((order 1).toItem "P"))].foldl BookOp.apply Orderbook.default ∧
      ob.orderSet.lookup 7 = some ((order 1).toItem "P") ∧
      (processMsg ob false "Q" (.makerOrderCreated (order 0))).1.orderSet.lookup 7 = none ∧
      ¬ForeignKept "Q" ob (processMsg ob false "Q" (.makerOrderCreated (order 0))).1 := by
  intro order ob
  have hsto : ob.orderSet.lookup 7 = some ((order 1).toItem "P") := by decide
  have hgn : (processMsg ob false "Q" (.makerOrderCreated (order 0))).1.orderSet.lookup 7 =
      none := by
    decide
  refine ⟨rfl, hsto, hgn, fun h => ?_⟩
  have hkp := h 7 _ hsto (by decide)
  cases hgn.symm.trans hkp

end CheetahDex.Proof
