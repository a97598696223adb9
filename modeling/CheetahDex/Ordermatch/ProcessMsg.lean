import CheetahDex.Lib.Run
import CheetahDex.Ordermatch.Orderbook

/-!
# Messages that change the order book

The handlers behind `process_msg`, up to the point where the order book lock is released: each one
changes the indices and returns the `TrieOp`s to enqueue. A keep-alive changes the book only through
the answer to the synchronisation request it triggers, and that answer is whatever the asked peer
sends.
-/

namespace CheetahDex.Ordermatch

open Lib Common

/-! ## The messages -/

/-- `MakerOrderCreated`, without the two fields no handler reads. -/
structure MakerOrderCreated where
  uuid : Uuid
  base : String
  rel : String
  price : MmNumber
  maxVolume : MmNumber
  minVolume : MmNumber
  createdAt : Nat
  confSettings : OrderConfirmationsSettings
  baseProtocolInfo : List UInt8
  relProtocolInfo : List UInt8

/-- `From<(MakerOrderCreated, String)> for OrderbookItem`. -/
def MakerOrderCreated.toItem (msg : MakerOrderCreated) (pubkey : String) : OrderbookItem :=
  { pubkey, base := msg.base, rel := msg.rel, price := msg.price, maxVolume := msg.maxVolume,
    minVolume := msg.minVolume, uuid := msg.uuid, createdAt := msg.createdAt,
    baseProtocolInfo := msg.baseProtocolInfo, relProtocolInfo := msg.relProtocolInfo,
    confSettings := some msg.confSettings }

/-- `MakerOrderUpdated`: the first version cannot change the confirmation settings. -/
inductive MakerOrderUpdated where
  | v1 (uuid : Uuid) (newPrice newMaxVolume newMinVolume : Option MmNumber)
  | v2 (uuid : Uuid) (newPrice newMaxVolume newMinVolume : Option MmNumber)
      (confSettings : Option OrderConfirmationsSettings)

namespace MakerOrderUpdated

def uuid : MakerOrderUpdated → Uuid
  | v1 uuid _ _ _ => uuid
  | v2 uuid _ _ _ _ => uuid

def newPrice : MakerOrderUpdated → Option MmNumber
  | v1 _ newPrice _ _ => newPrice
  | v2 _ newPrice _ _ _ => newPrice

def newMaxVolume : MakerOrderUpdated → Option MmNumber
  | v1 _ _ newMaxVolume _ => newMaxVolume
  | v2 _ _ newMaxVolume _ _ => newMaxVolume

def newMinVolume : MakerOrderUpdated → Option MmNumber
  | v1 _ _ _ newMinVolume => newMinVolume
  | v2 _ _ _ newMinVolume _ => newMinVolume

def newConfSettings : MakerOrderUpdated → Option OrderConfirmationsSettings
  | v1 _ _ _ _ => none
  | v2 _ _ _ _ confSettings => confSettings

end MakerOrderUpdated

def OrderbookItem.applyUpdated (order : OrderbookItem) (msg : MakerOrderUpdated) : OrderbookItem :=
  { order with
    price := msg.newPrice.getD order.price
    maxVolume := msg.newMaxVolume.getD order.maxVolume
    minVolume := msg.newMinVolume.getD order.minVolume }

inductive DeltaOrFullTrie (κ ν : Type) where
  | delta (orders : HashMap κ (Option ν))
  | fullTrie (orders : List (κ × ν))

abbrev PairAnswer := DeltaOrFullTrie Uuid OrderbookP2PItem

/-- `SyncPubkeyOrderbookStateRes`, without the payload that is always empty. -/
structure SyncPubkeyOrderbookStateRes where
  pairOrdersDiff : HashMap AlbOrderedOrderbookPair PairAnswer
  protocolInfos : HashMap Uuid BaseRelProtocolInfo
  confInfos : HashMap Uuid OrderConfirmationsSettings

/-- The orders in which the loops over a synchronisation answer see their sets: over the pairs, over
a pair's delta, and over the indexed uuids of a pair that a full trie replaces. -/
structure SyncIteration where
  pairs : Iteration AlbOrderedOrderbookPair
  delta : AlbOrderedOrderbookPair → Iteration Uuid
  unordered : AlbOrderedOrderbookPair → String × String → Iteration Uuid

/-! ## The handlers -/

variable (ob : Orderbook)

/-- `process_maker_order_updated`. The flag is the handler's answer. -/
def processMakerOrderUpdated (fromPubkey : String) (msg : MakerOrderUpdated) :
    (Orderbook × List TrieOp) × Bool :=
  match ob.findOrderByUuidAndPubkey msg.uuid fromPubkey with
  | some order => (ob.indexInsertOrUpdate (order.applyUpdated msg), true)
  | none => ((ob, []), false)

def insertOrUpdateOrder (item : OrderbookItem) : Orderbook × List TrieOp :=
  ob.indexInsertOrUpdate item

/-- `insert_or_update_my_order`; `p2pPubkey` is the public half of the order's own key, if any. -/
def insertOrUpdateMyOrder (item : OrderbookItem) (p2pPubkey : Option String) :
    Orderbook × List TrieOp :=
  let (ob, ops) := ob.indexInsertOrUpdate item
  match p2pPubkey with
  | some key => ({ ob with myP2pPubkeys := insert key ob.myP2pPubkeys }, ops)
  | none => (ob, ops)

def deleteOrder (now : Instant) (pubkey : String) (uuid : Uuid) : Orderbook × List TrieOp :=
  let ob := { ob with recentlyCancelled := (ob.recentlyCancelled.insert now uuid pubkey).1 }
  match ob.orderSet.lookup uuid with
  | some order =>
    if order.pubkey = pubkey then
      ((ob.indexRemove uuid).1, ((ob.indexRemove uuid).2.map (·.2)).toList)
    else (ob, [])
  | none => (ob, [])

/-- A cancellation removes the order of the pubkey under the uuid, and no other. -/
theorem deleteOrder_orderSet_lookup {ob : Orderbook} {now : Instant} {pubkey : String}
    {uuid u : Uuid} {order : OrderbookItem} :
    (deleteOrder ob now pubkey uuid).1.orderSet.lookup u = some order ↔
      ob.orderSet.lookup u = some order ∧ (u = uuid → order.pubkey ≠ pubkey) := by
  unfold deleteOrder
  dsimp only
  split
  · split
    · rw [Orderbook.indexRemove_orderSet_lookup]
      grind
    · grind
  · grind

/-- `process_my_maker_order_updated`: no look at the owner. -/
def processMyMakerOrderUpdated (msg : MakerOrderUpdated) : Orderbook × List TrieOp :=
  match ob.findOrderByUuid msg.uuid with
  | some order => ob.indexInsertOrUpdate (order.applyUpdated msg)
  | none => (ob, [])

/-- `delete_my_order`: no look at the owner. -/
def deleteMyOrder (uuid : Uuid) (p2pPubkey : Option String) : Orderbook × List TrieOp :=
  let ops := ((ob.indexRemove uuid).2.map (·.2)).toList
  let ob := (ob.indexRemove uuid).1
  match p2pPubkey with
  | some key => ({ ob with myP2pPubkeys := ob.myP2pPubkeys.erase key }, ops)
  | none => (ob, ops)

variable (res : SyncPubkeyOrderbookStateRes)

/-- The order a synchronisation answer describes under `uuid`, with what the answer says about its
protocols and confirmations. -/
def SyncPubkeyOrderbookStateRes.item (uuid : Uuid) (order : OrderbookP2PItem) : OrderbookItem :=
  .fromP2PAndInfo order (HashMap.getD res.protocolInfos uuid {}) (res.confInfos.lookup uuid)

/-- One turn of the loop of `process_trie_delta`. -/
def processDeltaEntry (ob : Orderbook) : Uuid × Option OrderbookP2PItem → Orderbook × List TrieOp
  | (uuid, some order) => ob.indexInsertOrUpdate (res.item uuid order)
  | (uuid, none) => ((ob.indexRemove uuid).1, ((ob.indexRemove uuid).2.map (·.2)).toList)

/-- `process_trie_delta`, over the delta's entries in the order the loop sees them. -/
def processTrieDelta (ob : Orderbook)
    (deltaOrders : List (Uuid × Option OrderbookP2PItem)) : Orderbook × List TrieOp :=
  foldEmit (processDeltaEntry res) ob deltaOrders

def processPubkeyFullTrie (iter : String × String → Iteration Uuid)
    (res : SyncPubkeyOrderbookStateRes) (ob : Orderbook) (pubkey : String)
    (albPair : AlbOrderedOrderbookPair) (newTrieOrders : List (Uuid × OrderbookP2PItem)) :
    Orderbook × List TrieOp :=
  let (ob, ops) := foldEmit (fun ob (uuid, order) => ob.indexInsertOrUpdate (res.item uuid order))
    (ob.indexRemovePubkeyPairOrders iter pubkey albPair) newTrieOrders
  (ob, .clearPair pubkey albPair :: ops)

/-- One turn of the loop over the pairs in `process_orders_keep_alive`. -/
def processPairDiff (iter : SyncIteration) (res : SyncPubkeyOrderbookStateRes) (fromPubkey : String)
    (ob : Orderbook) :
    AlbOrderedOrderbookPair × PairAnswer → Orderbook × List TrieOp
  | (pair, .delta orders) => processTrieDelta res ob ((iter.delta pair).entries orders)
  | (pair, .fullTrie orders) =>
    processPubkeyFullTrie (iter.unordered pair) res ob fromPubkey pair orders

/-- The part of `process_orders_keep_alive` after the answer has arrived. -/
def processSyncResponse (iter : SyncIteration) (ob : Orderbook) (fromPubkey : String)
    (res : SyncPubkeyOrderbookStateRes) : Orderbook × List TrieOp :=
  foldEmit (processPairDiff iter res fromPubkey) ob (iter.pairs.entries res.pairOrdersDiff)

/-- The answer lists an order under a uuid, as a change or in the whole of a pair. -/
def SyncPubkeyOrderbookStateRes.Lists (uuid : Uuid) (order : OrderbookP2PItem) : Prop :=
  ∃ pair, (∃ orders, res.pairOrdersDiff.lookup pair = some (.delta orders) ∧
      orders.lookup uuid = some (some order)) ∨
    ∃ orders, res.pairOrdersDiff.lookup pair = some (.fullTrie orders) ∧ (uuid, order) ∈ orders

section induction

variable {P : Orderbook → Prop} {ob : Orderbook} {res : SyncPubkeyOrderbookStateRes}
  (hrm : ∀ ob uuid, P ob → P (ob.indexRemove uuid).1)
  (hins : ∀ ob uuid order, res.Lists uuid order → P ob →
    P (ob.indexInsertOrUpdate (res.item uuid order)).1) (h : P ob)
  (iter : SyncIteration) (fromPubkey : String)

include hrm hins h

theorem processPairDiff_induction
    (entry : AlbOrderedOrderbookPair × PairAnswer)
    (hent : res.pairOrdersDiff.lookup entry.1 = some entry.2) :
    P (processPairDiff iter res fromPubkey ob entry).1 := by
  obtain ⟨pair, diff⟩ := entry
  cases diff with
  | delta orders =>
    refine foldEmit_induction h fun ob change hch h => ?_
    obtain ⟨uuid, order⟩ := change
    rw [Iteration.mem_entries] at hch
    cases order with
    | none => exact hrm ob uuid h
    | some order => exact hins ob uuid order ⟨pair, .inl ⟨orders, hent, hch⟩⟩ h
  | fullTrie orders =>
    -- the orders of the pair go first, then the listed ones come in
    have hcl : P (ob.indexRemovePubkeyPairOrders (iter.unordered pair) fromPubkey pair) :=
      Orderbook.removePairOrders_induction (fun ob uuid _ h _ _ => hrm ob uuid h) _ _ h
    exact foldEmit_induction hcl fun ob entry hin h =>
      hins ob entry.1 entry.2 ⟨pair, .inr ⟨orders, hent, hin⟩⟩ h

/-- An answer removes orders and inserts those it lists: what each of these keeps, it keeps. -/
theorem processSyncResponse_induction : P (processSyncResponse iter ob fromPubkey res).1 :=
  foldEmit_induction h fun _ entry hent h =>
    processPairDiff_induction hrm hins h iter fromPubkey entry ((Iteration.mem_entries ..).1 hent)

end induction

/-! ## Dispatch -/

/-- What a peer can make the order book handle: a signed message about an order, or the answer to
the request a signed keep-alive triggers. -/
inductive P2PInput where
  | makerOrderCreated (msg : MakerOrderCreated)
  | makerOrderUpdated (msg : MakerOrderUpdated)
  | makerOrderCancelled (now : Instant) (uuid : Uuid)
  | syncResponse (iter : SyncIteration) (res : SyncPubkeyOrderbookStateRes)

/-- The part of `process_msg` that reaches the order book. `fromPubkey` signed the message; `banned`
is what `is_pubkey_banned` says about it. -/
def processMsg (banned : Bool) (fromPubkey : String) : P2PInput → Orderbook × List TrieOp
  | input =>
    if banned then (ob, [])
    else
      match input with
      | .makerOrderCreated msg => insertOrUpdateOrder ob (msg.toItem fromPubkey)
      | .makerOrderUpdated msg => (processMakerOrderUpdated ob fromPubkey msg).1
      | .makerOrderCancelled now uuid => deleteOrder ob now fromPubkey uuid
      | .syncResponse iter res => processSyncResponse iter ob fromPubkey res

/-! ## Every way the book changes -/

/-- The calls that change an order book. Every handler, the stale order sweep and the node's own
order management are made of these. -/
inductive BookOp where
  | index (op : IndexOp)
  | rememberCancelled (now : Instant) (uuid : Uuid) (pubkey : String)
  | setMyP2pPubkeys (keys : Finset String)

/-- The book after a call. -/
def BookOp.apply : BookOp → Orderbook
  | .index op => op.apply ob
  | .rememberCancelled now uuid pubkey =>
    { ob with recentlyCancelled := (ob.recentlyCancelled.insert now uuid pubkey).1 }
  | .setMyP2pPubkeys keys => { ob with myP2pPubkeys := keys }

end CheetahDex.Ordermatch
