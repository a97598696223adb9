import CheetahDex.Common.TimeCache
import CheetahDex.Ordermatch.Types
import Mathlib.Data.Finset.Max

/-!
# The order book indices

The order book keeps every order three times: in `orderSet` by uuid, in `unordered` by pair, and in
`ordered` by pair and price. What has to happen to the tries is returned as a list of `TrieOp`s for
a worker to apply later.
-/

namespace CheetahDex.Ordermatch

open Lib Common Finset

structure OrderedByPriceOrder where
  price : MmNumber
  uuid : Uuid
  deriving DecidableEq

/-- `TrieOp`, without the barrier that only tests send. -/
inductive TrieOp where
  | clearPair (pubkey : String) (albPair : AlbOrderedOrderbookPair)
  | insert (pubkey : String) (albPair : AlbOrderedOrderbookPair) (uuid : Uuid)
      (order : OrderbookItem)
  | remove (pubkey : String) (albPair : AlbOrderedOrderbookPair) (uuid : Uuid)
  | removePubkey (pubkey : String)
  deriving DecidableEq

structure Orderbook where
  /-- A map from (base, rel). -/
  ordered : SetIndex (String × String) OrderedByPriceOrder
  /-- From base ticker to the tickers it is paired with. -/
  pairsExistingForBase : SetIndex String String
  /-- From rel ticker to the tickers it is paired with. -/
  pairsExistingForRel : SetIndex String String
  /-- A map from (base, rel). -/
  unordered : SetIndex (String × String) Uuid
  orderSet : HashMap Uuid OrderbookItem
  /-- Cancelled uuids with the cancelling pubkey. -/
  recentlyCancelled : TimeCache Uuid String
  /-- Per-order pubkeys of this node. -/
  myP2pPubkeys : Finset String

def recentlyCancelledTimeout : Nat := fromSecs 120

namespace Orderbook

protected def default : Orderbook :=
  { ordered := ∅, pairsExistingForBase := ∅, pairsExistingForRel := ∅, unordered := ∅,
    orderSet := ∅, recentlyCancelled := .new recentlyCancelledTimeout, myP2pPubkeys := ∅ }

variable (ob : Orderbook)

def findOrderByUuidAndPubkey (uuid : Uuid) (fromPubkey : String) :
    Option OrderbookItem :=
  (ob.orderSet.lookup uuid).filter fun order => order.pubkey = fromPubkey

def findOrderByUuid (uuid : Uuid) : Option OrderbookItem := ob.orderSet.lookup uuid

variable (s : Finset OrderedByPriceOrder)

/-- The first entry with this uuid, in the ascending order of the B-tree set: the cheapest one. -/
def findExisting (uuid : Uuid) : Option OrderedByPriceOrder :=
  WithTop.recTopCoe none (fun price => some ⟨price, uuid⟩)
    ((s.filter (·.uuid = uuid)).image (·.price)).min

/-- The set without the entry that `findExisting` finds. -/
def eraseExisting (uuid : Uuid) : Finset OrderedByPriceOrder :=
  match findExisting s uuid with
  | some existing => s.erase existing
  | none => s

variable (order : OrderbookItem)

def indexInsertOrUpdateInner : Orderbook :=
  { ob with
    ordered := ob.ordered.insert order.baseRel
      (insert ⟨order.price, order.uuid⟩
        (eraseExisting (ob.ordered.members order.baseRel) order.uuid))
    pairsExistingForBase := ob.pairsExistingForBase.add order.base order.rel
    pairsExistingForRel := ob.pairsExistingForRel.add order.rel order.base
    unordered := ob.unordered.add order.baseRel order.uuid
    orderSet := ob.orderSet.insert order.uuid order }

/-- What `index_remove` leaves of the indices once the order under `uuid` is known. -/
def dropOrder (uuid : Uuid) (order : OrderbookItem) : Orderbook :=
  { ob with
    orderSet := ob.orderSet.erase uuid
    ordered := ob.ordered.remove order.baseRel ⟨order.price, uuid⟩
    unordered := ob.unordered.remove order.baseRel uuid }

def indexRemove (uuid : Uuid) : Orderbook × Option (OrderbookItem × TrieOp) :=
  match ob.orderSet.lookup uuid with
  | none => (ob, none)
  | some order =>
    (ob.dropOrder uuid order,
      some (order, .remove order.pubkey (albOrderedPair order.base order.rel) uuid))

/-- The volumes and the price that `index_insert_or_update` accepts. -/
def Accepts : Prop := ¬(order.maxVolume ≤ 0 ∨ order.price ≤ 0 ∨ order.minVolume < 0)

instance (order : OrderbookItem) : Decidable (Accepts order) :=
  inferInstanceAs (Decidable (¬_))

/-- The order was cancelled a short while ago by the pubkey that owns it. -/
def RecentlyCancelled : Prop := ob.recentlyCancelled.get order.uuid = some order.pubkey

instance (ob : Orderbook) (order : OrderbookItem) : Decidable (ob.RecentlyCancelled order) :=
  inferInstanceAs (Decidable (_ = _))

def indexInsertOrUpdate : Orderbook × List TrieOp :=
  if ob.RecentlyCancelled order then (ob, [])
  else if Accepts order then
    (ob.indexInsertOrUpdateInner order,
      [.insert order.pubkey (albOrderedPair order.base order.rel) order.uuid order])
  else
    match ob.indexRemove order.uuid with
    | (ob, some (_, op)) => (ob, [op])
    | (ob, none) => (ob, [])

/-- One turn of the loop of `index_remove_pubkey_pair_orders`. -/
def removeIfOwned (pubkey : String) (ob : Orderbook) (uuid : Uuid) : Orderbook :=
  match ob.orderSet.lookup uuid with
  | some order => if order.pubkey = pubkey then (ob.indexRemove uuid).1 else ob
  | none => ob

variable (iter : String × String → Iteration Uuid)

/-- The inner loop of `index_remove_pubkey_pair_orders`, over a copy of the set of one pair. -/
def removeOwnedOfPair (pubkey : String) (ob : Orderbook) (pair : String × String) : Orderbook :=
  match ob.unordered.lookup pair with
  | some uuids => ((iter pair).toList uuids).foldl (removeIfOwned pubkey) ob
  | none => ob

def indexRemovePubkeyPairOrders (ob : Orderbook)
    (pubkey : String) (albPair : AlbOrderedOrderbookPair) : Orderbook :=
  match splitOnce albPair with
  | some (base, rel) => [(base, rel), (rel, base)].foldl (removeOwnedOfPair iter pubkey) ob
  | none => ob

end Orderbook

/-- The operations on the indices. -/
inductive IndexOp where
  | insertOrUpdate (order : OrderbookItem)
  | remove (uuid : Uuid)
  | removePubkeyPairOrders (iter : String × String → Iteration Uuid) (pubkey : String)
      (albPair : AlbOrderedOrderbookPair)

/-- The indices after an operation. -/
def IndexOp.apply (ob : Orderbook) : IndexOp → Orderbook
  | .insertOrUpdate order => (ob.indexInsertOrUpdate order).1
  | .remove uuid => (ob.indexRemove uuid).1
  | .removePubkeyPairOrders iter pubkey albPair =>
    ob.indexRemovePubkeyPairOrders iter pubkey albPair

namespace Orderbook

/-! ### What the operations do to the single fields -/

theorem indexRemove_of_lookup {ob : Orderbook} {uuid : Uuid} {order : OrderbookItem}
    (h : ob.orderSet.lookup uuid = some order) :
    ob.indexRemove uuid = (ob.dropOrder uuid order,
      some (order, .remove order.pubkey (albOrderedPair order.base order.rel) uuid)) := by
  simp [indexRemove, h]

theorem indexRemove_of_absent {ob : Orderbook} {uuid : Uuid} (h : ob.orderSet.lookup uuid = none) :
    ob.indexRemove uuid = (ob, none) := by
  simp [indexRemove, h]

variable (ob : Orderbook)

theorem indexRemove_orderSet_lookup (uuid u : Uuid) :
    (ob.indexRemove uuid).1.orderSet.lookup u =
      if u = uuid then none else ob.orderSet.lookup u := by
  cases h : ob.orderSet.lookup uuid with
  | some order =>
    rw [indexRemove_of_lookup h]
    exact HashMap.lookup_erase_ite _ _ _
  | none =>
    rw [indexRemove_of_absent h]
    split
    · rename_i hu
      rw [hu, h]
    · rfl

@[simp]
theorem indexRemove_recentlyCancelled (uuid : Uuid) :
    (ob.indexRemove uuid).1.recentlyCancelled = ob.recentlyCancelled := by
  unfold indexRemove
  split <;> rfl

variable (order : OrderbookItem)

@[simp]
theorem indexInsertOrUpdateInner_orderSet :
    (ob.indexInsertOrUpdateInner order).orderSet = ob.orderSet.insert order.uuid order := rfl

/-- The three outcomes of `indexInsertOrUpdate`, with what decides between them. -/
theorem indexInsertOrUpdate_cases :
    (ob.RecentlyCancelled order ∧ ob.indexInsertOrUpdate order = (ob, [])) ∨
    (¬ob.RecentlyCancelled order ∧ Accepts order ∧
      ob.indexInsertOrUpdate order = (ob.indexInsertOrUpdateInner order,
        [.insert order.pubkey (albOrderedPair order.base order.rel) order.uuid order])) ∨
    (¬ob.RecentlyCancelled order ∧ ¬Accepts order ∧
      ob.indexInsertOrUpdate order = ((ob.indexRemove order.uuid).1,
        ((ob.indexRemove order.uuid).2.map (·.2)).toList)) := by
  unfold indexInsertOrUpdate
  by_cases hc : ob.RecentlyCancelled order
  · exact .inl ⟨hc, by rw [if_pos hc]⟩
  by_cases ha : Accepts order
  · exact .inr (.inl ⟨hc, ha, by rw [if_neg hc, if_pos ha]⟩)
  · refine .inr (.inr ⟨hc, ha, ?_⟩)
    rw [if_neg hc, if_neg ha]
    split <;> rename_i h <;> simp [h]

@[simp]
theorem indexInsertOrUpdate_recentlyCancelled :
    (ob.indexInsertOrUpdate order).1.recentlyCancelled = ob.recentlyCancelled := by
  rcases indexInsertOrUpdate_cases ob order with ⟨-, he⟩ | ⟨-, -, he⟩ | ⟨-, -, he⟩
  · rw [he]
  · rw [he]
    rfl
  · rw [he, indexRemove_recentlyCancelled]

section stored

variable {ob} {P : Uuid → OrderbookItem → Prop} (h : ∀ u o, ob.orderSet.lookup u = some o → P u o)

include h

/-- What holds of every stored order still does when one is removed. -/
theorem forall_indexRemove (uuid : Uuid) :
    ∀ u o, (ob.indexRemove uuid).1.orderSet.lookup u = some o → P u o := by
  intro u o ho
  rw [indexRemove_orderSet_lookup] at ho
  split at ho
  · cases ho
  · exact h u o ho

/-- It still does when one is stored that it holds of. -/
theorem forall_indexInsertOrUpdate {order : OrderbookItem}
    (hord : ¬ob.RecentlyCancelled order → Accepts order → P order.uuid order) :
    ∀ u o, (ob.indexInsertOrUpdate order).1.orderSet.lookup u = some o → P u o := by
  rcases indexInsertOrUpdate_cases ob order with ⟨-, he⟩ | ⟨hc, ha, he⟩ | ⟨-, -, he⟩
  · rw [he]
    exact h
  · rw [he]
    intro u o ho
    rw [indexInsertOrUpdateInner_orderSet, HashMap.lookup_insert_ite] at ho
    split at ho
    · rename_i hu
      exact hu ▸ Option.some.inj ho ▸ hord hc ha
    · exact h u o ho
  · rw [he]
    exact forall_indexRemove h order.uuid

end stored

/-- `indexRemovePubkeyPairOrders` only ever removes an order of the given pubkey: what such removals
keep, it keeps. -/
theorem removePairOrders_induction {P : Orderbook → Prop} {pubkey : String}
    (hrm : ∀ ob uuid order, P ob → ob.orderSet.lookup uuid = some order →
      order.pubkey = pubkey → P (ob.indexRemove uuid).1)
    (iter : String × String → Iteration Uuid) (albPair : AlbOrderedOrderbookPair) {ob : Orderbook}
    (h : P ob) : P (ob.indexRemovePubkeyPairOrders iter pubkey albPair) := by
  have htr : ∀ ob uuid, P ob → P (removeIfOwned pubkey ob uuid) := by
    intro ob uuid h
    unfold removeIfOwned
    split
    · rename_i order hord
      split
      · rename_i how
        exact hrm ob uuid order h hord how
      · exact h
    · exact h
  have hpr : ∀ ob pair, P ob → P (removeOwnedOfPair iter pubkey ob pair) := by
    intro ob pair h
    unfold removeOwnedOfPair
    split
    · exact List.foldlRecOn _ _ h fun ob h uuid _ => htr ob uuid h
    · exact h
  unfold indexRemovePubkeyPairOrders
  split
  · exact hpr _ _ (hpr _ _ h)
  · exact h

/-- What `findExisting` returns is an entry of the set with the wanted uuid; when it returns nothing
there is none. -/
theorem findExisting_spec (s : Finset OrderedByPriceOrder) (uuid : Uuid) :
    (∃ e ∈ s, e.uuid = uuid ∧ findExisting s uuid = some e) ∨
    ((∀ e ∈ s, e.uuid ≠ uuid) ∧ findExisting s uuid = none) := by
  unfold findExisting
  rcases eq_empty_or_nonempty ((s.filter (·.uuid = uuid)).image (·.price)) with he | hne
  · refine .inr ⟨?_, by rw [he]; rfl⟩
    intro e hes heu
    have hmem : e.price ∈ (s.filter (·.uuid = uuid)).image (·.price) :=
      mem_image_of_mem _ (mem_filter.2 ⟨hes, heu⟩)
    rw [he] at hmem
    exact absurd hmem (by simp)
  · obtain ⟨p, hp⟩ := min_of_nonempty hne
    obtain ⟨e, he, hep⟩ := mem_image.1 (mem_of_min hp)
    obtain ⟨hes, heu⟩ := mem_filter.1 he
    refine .inl ⟨e, hes, heu, ?_⟩
    rw [hp, ← hep, ← heu]
    rfl

end Orderbook

/-! ## Answering an order book request -/

structure GetPubkeysOrdersRes where
  totalNumberOfOrders : Nat
  uuidsByPubkey : HashMap String (List (Uuid × OrderbookP2PItem))
  protocolInfos : HashMap Uuid BaseRelProtocolInfo
  confInfos : HashMap Uuid OrderConfirmationsSettings

/-- One turn of the loop of `get_pubkeys_orders`. `none` is the panic of the `expect`. -/
def collectOrder (ob : Orderbook) (res : GetPubkeysOrdersRes) (uuid : Uuid) :
    Option GetPubkeysOrdersRes :=
  (ob.orderSet.lookup uuid).map fun order =>
    { res with
      uuidsByPubkey := res.uuidsByPubkey.insert order.pubkey
        (HashMap.getD res.uuidsByPubkey order.pubkey [] ++ [(uuid, order.toP2P)])
      protocolInfos := res.protocolInfos.insert order.uuid
        ⟨order.baseProtocolInfo, order.relProtocolInfo⟩
      confInfos :=
        match order.confSettings with
        | some info => res.confInfos.insert order.uuid info
        | none => res.confInfos }

/-- `get_pubkeys_orders`. `none` is the panic of the `expect`. -/
def getPubkeysOrders (iter : String × String → Iteration Uuid) (ob : Orderbook)
    (base rel : String) : Option GetPubkeysOrdersRes :=
  let asks := ob.unordered.members (base, rel)
  let bids := ob.unordered.members (rel, base)
  ((iter (base, rel)).toList asks ++ (iter (rel, base)).toList bids).foldlM (collectOrder ob)
    { totalNumberOfOrders := asks.card + bids.card, uuidsByPubkey := ∅, protocolInfos := ∅,
      confInfos := ∅ }

end CheetahDex.Ordermatch
