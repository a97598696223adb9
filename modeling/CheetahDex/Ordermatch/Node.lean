import CheetahDex.Ordermatch.Sync

/-!
# A node with its trie worker

The handlers change the order book under its lock, release the lock, and only then send the
operations for the trie store into a channel; a worker takes the batches from the channel in order.
Between the two phases of one handler any other handler can run, and batches need not reach the
channel in the order of the changes they belong to.

The sweep of stale orders reads the store first, to see which pubkeys have not been heard of for too
long and which orders they have. After it has given up that lock it takes these orders out of the
book and asks the worker to forget the pubkeys.
-/

namespace CheetahDex.Ordermatch

open Lib Common

variable {H : Type} [DecidableEq H]

/-! ## The sweep of stale orders -/

/-- What the sweep of `lp_ordermatch_loop` has read from the store. -/
structure StaleOrders where
  uuids : List Uuid
  pubkeys : List String

/-- What the environment decides during the first half of the sweep. -/
structure ScanEnv where
  pubkeys : Iteration String
  uuids : String → Iteration (Uuid × AlbOrderedOrderbookPair)
  myPubkey : String
  makerOrderTimeout : Nat
  nowMs : Nat

/-- The pubkey stays: it is the node's own, or was heard of recently. The sum is one of `u64`. -/
def ScanEnv.toKeep (env : ScanEnv) (pubkey : String) (state : OrderbookPubkeyState H) : Bool :=
  pubkey = env.myPubkey ∨ (state.lastKeepAlive + env.makerOrderTimeout) % 2 ^ 64 > env.nowMs / 1000

/-- The first half: identify the stale pubkeys and their orders. -/
def scanStale (env : ScanEnv) (st : TrieStore H) : StaleOrders :=
  let stale := (env.pubkeys.entries st.pubkeysState).filter fun e => !env.toKeep e.1 e.2
  { uuids := stale.flatMap fun e => ((env.uuids e.1).toList e.2.ordersUuids).map Prod.fst
    pubkeys := stale.map Prod.fst }

/-- The second half: take the orders out of the book. -/
def removeStale (ob : Orderbook) (stale : StaleOrders) : Orderbook × List TrieOp :=
  let (ob, ops) := foldEmit
    (fun ob uuid => ((ob.indexRemove uuid).1, ((ob.indexRemove uuid).2.map (·.2)).toList)) ob
    stale.uuids
  (ob, ops ++ stale.pubkeys.map .removePubkey)

/-! ## The node -/

/-- A node, as far as the order book and its tries go. -/
structure Node (H : Type) where
  orderbook : Orderbook
  trieStore : TrieStore H
  /-- The batches in the channel, the oldest first. -/
  channel : List (List TrieOp)
  /-- The batches of handlers between their two phases, in the order of their changes of the book.
  -/
  unsent : List (List TrieOp)
  /-- What the sweep has read, if it is between its two halves. -/
  stale : Option StaleOrders

/-- The events of a node. -/
inductive NodeEvent (H : Type) where
  | created (fromPubkey : String) (msg : MakerOrderCreated)
  | updated (fromPubkey : String) (msg : MakerOrderUpdated)
  | cancelled (now : Instant) (fromPubkey : String) (uuid : Uuid)
  | insertMy (item : OrderbookItem) (p2pPubkey : Option String)
  | updatedMy (msg : MakerOrderUpdated)
  | deleteMy (uuid : Uuid) (p2pPubkey : Option String)
  | keepAlive (iter : Iteration AlbOrderedOrderbookPair) (clock : Clock) (fromPubkey : String)
      (message : PubkeyKeepAlive H) (iAmRelay : Bool) (isSubscribed : String → Bool)
  /-- A handler sends its batch, the one at this position. -/
  | send (i : Nat)
  /-- The worker applies the oldest batch of the channel. -/
  | work (env : TrieStore.BatchEnv)
  | scan (env : ScanEnv)
  | sweep

namespace Node

/-- The node at start. -/
def start : Node H := ⟨Orderbook.default, TrieStore.default, [], [], none⟩

/-- The first phase of a handler; nothing is sent if there is nothing to send. -/
def change (node : Node H) (result : Orderbook × List TrieOp) : Node H :=
  { node with
    orderbook := result.1
    unsent := if result.2.isEmpty then node.unsent else node.unsent ++ [result.2] }

/-- The node after an event. -/
def step (th : PairHash H) (node : Node H) : NodeEvent H → Node H
  | .created fromPubkey msg =>
    node.change (insertOrUpdateOrder node.orderbook (msg.toItem fromPubkey))
  | .updated fromPubkey msg =>
    node.change (processMakerOrderUpdated node.orderbook fromPubkey msg).1
  | .cancelled now fromPubkey uuid => node.change (deleteOrder node.orderbook now fromPubkey uuid)
  | .insertMy item p2pPubkey => node.change (insertOrUpdateMyOrder node.orderbook item p2pPubkey)
  | .updatedMy msg => node.change (processMyMakerOrderUpdated node.orderbook msg)
  | .deleteMy uuid p2pPubkey => node.change (deleteMyOrder node.orderbook uuid p2pPubkey)
  | .keepAlive iter clock fromPubkey message iAmRelay isSubscribed =>
    { node with
      trieStore := (TrieStore.prepareSyncRequestForKeepAlive th iter clock node.trieStore fromPubkey
        message iAmRelay isSubscribed).1 }
  | .send i =>
    -- the book is unlocked before its batch is sent, so another one may overtake it
    match node.unsent[i]? with
    | some batch =>
      { node with channel := node.channel ++ [batch], unsent := node.unsent.eraseIdx i }
    | none => node
  | .work env =>
    match node.channel with
    | [] => node
    | batch :: rest =>
      { node with trieStore := TrieStore.applyOps th env node.trieStore batch, channel := rest }
  | .scan env =>
    match node.stale with
    | none => { node with stale := some (scanStale env node.trieStore) }
    | some _ => node
  | .sweep =>
    match node.stale with
    -- what the scan has seen may have changed since
    | some stale => { node.change (removeStale node.orderbook stale) with stale := none }
    | none => node

/-- No batch is on its way. -/
def Quiescent (node : Node H) : Prop := node.channel = [] ∧ node.unsent = []

end Node

end CheetahDex.Ordermatch
