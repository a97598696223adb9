import CheetahDex.Ordermatch.ProcessMsg
import CheetahDex.Ordermatch.TrieStore

/-!
# Keep-alive synchronisation

A maker's keep-alive carries the roots of its tries. A node whose own root for a pair differs asks
the peer that relayed the message for the pair's orders. The asked node answers with the changes
since the root named in the request if its history reaches from there to its current root, with all
orders otherwise.
-/

namespace CheetahDex.Ordermatch

open Lib Common

structure SyncPubkeyOrderbookState (H : Type) where
  pubkey : String
  trieRoots : HashMap AlbOrderedOrderbookPair H
  deriving DecidableEq

def orderbookTopicFromOrderedPair (pair : AlbOrderedOrderbookPair) : String := "orbk/" ++ pair

variable {H : Type} [DecidableEq H]

namespace TrieStore

variable (th : PairHash H)

/-- `broadcast_keep_alive_for_pub`: the topics and the message, if there is one. The pairs left out
are those whose root is the default hash and at the same time the root of the empty trie. -/
def broadcastKeepAliveForPub (nowMs : Nat) (st : TrieStore H) (pubkey : String) :
    Option (Finset String × PubkeyKeepAlive H) :=
  match st.pubkeysState.lookup pubkey with
  | none => none
  | some state =>
    let trieRoots := state.trieRoots.retain fun _ root => !(root = th.zero && root = th.nullNode)
    some (trieRoots.keys.image orderbookTopicFromOrderedPair, ⟨trieRoots, nowMs / 1000⟩)

/-- One turn of the loop of `prepare_sync_request_for_keep_alive`, on the state of the pubkey and
the roots to request. It is the root of the keep-alive that goes into the request. -/
def requestPair (iAmRelay : Bool) (isSubscribed : String → Bool)
    (acc : OrderbookPubkeyState H × HashMap AlbOrderedOrderbookPair H)
    (entry : AlbOrderedOrderbookPair × H) :
    OrderbookPubkeyState H × HashMap AlbOrderedOrderbookPair H :=
  let (ps, toRequest) := acc
  let (albPair, trieRoot) := entry
  if !isSubscribed (orderbookTopicFromOrderedPair albPair) && !iAmRelay then (ps, toRequest)
  else if trieRoot = th.zero ∨ trieRoot = th.nullNode then (ps, toRequest)
  else
    let actualTrieRoot := pairRoot th ps albPair
    let ps := { ps with trieRoots := ps.trieRoots.insert albPair actualTrieRoot }
    if actualTrieRoot ≠ trieRoot then (ps, toRequest.insert albPair trieRoot) else (ps, toRequest)

def prepareSyncRequestForKeepAlive (iter : Iteration AlbOrderedOrderbookPair) (clock : Clock)
    (st : TrieStore H) (fromPubkey : String) (message : PubkeyKeepAlive H) (iAmRelay : Bool)
    (isSubscribed : String → Bool) : TrieStore H × Option (SyncPubkeyOrderbookState H) :=
  let ps := { st.pubkeyState clock.nowMs fromPubkey with lastKeepAlive := message.timestamp }
  let (ps, toRequest) :=
    (iter.entries message.trieRoots).foldl (requestPair th iAmRelay isSubscribed) (ps, ∅)
  ({ st with pubkeysState := st.pubkeysState.insert fromPubkey ps },
    if toRequest = ∅ then none else some ⟨fromPubkey, toRequest⟩)

end TrieStore

/-! ## The answer -/

/-- `TrieDiffHistoryError`, as far as the model can meet it. -/
inductive TrieDiffHistoryError where
  | trieDbError
  | getterNoneForKeyFromTrie

/-- `HashMap::extend` with the entries of a diff. -/
def extendDelta (total : HashMap Uuid (Option OrderbookItem))
    (delta : OrdersDelta) : HashMap Uuid (Option OrderbookItem) :=
  delta.foldl (fun total e => total.insert e.1 e.2) total

/-- The loop of `from_history`: follow the diffs from `diff` on. The result is the union of the
deltas with the root where the history ends; `none` is a loop that does not end. -/
def followHistory (history : TrieOrderHistory H) :
    Nat → TrieDiff H → HashMap Uuid (Option OrderbookItem) →
      Option (HashMap Uuid (Option OrderbookItem) × H)
  | 0, _, _ => none
  | fuel + 1, diff, total =>
    match history.get diff.nextRoot with
    | some cur => followHistory history fuel cur (extendDelta total cur.delta)
    | none => some (total, diff.nextRoot)

/-- The orders of the uuids of a trie; a uuid without an order stops the loop. -/
def getOrders (getter : Uuid → Option OrderbookItem) :
    List Uuid → Except TrieDiffHistoryError (List (Uuid × OrderbookItem))
  | [] => .ok []
  | uuid :: rest =>
    match getter uuid with
    | some order => (getOrders getter rest).map ((uuid, order) :: ·)
    | none => .error .getterNoneForKeyFromTrie

section Answer

variable (th : PairHash H) (iter : Iteration Uuid)

/-- `get_full_trie`: the uuids come from the trie, the orders from `getter`. -/
def getFullTrie (trieRoot : H) (db : PairTries H)
    (getter : Uuid → Option OrderbookItem) :
    Except TrieDiffHistoryError (List (Uuid × OrderbookItem)) :=
  match th.openTrie db trieRoot with
  | none => .error .trieDbError
  | some trie => getOrders getter (iter.toList trie.keys)

/-- `DeltaOrFullTrie::from_history`. A chain of diffs visits every key of the history at most once;
a history that goes in circles would keep the loop running, which is `none`. -/
def fromHistory (history : TrieOrderHistory H) (fromHash actualTrieRoot : H)
    (db : PairTries H) (getter : Uuid → Option OrderbookItem) :
    Option (Except TrieDiffHistoryError (DeltaOrFullTrie Uuid OrderbookItem)) :=
  match history.get fromHash with
  | some delta =>
    match followHistory history (history.map.keys.card + 1) delta (extendDelta ∅ delta.delta) with
    | none => none
    | some (total, lastRoot) =>
      if lastRoot = actualTrieRoot then some (.ok (.delta total))
      else some ((getFullTrie th iter actualTrieRoot db getter).map .fullTrie)
  | none => some ((getFullTrie th iter actualTrieRoot db getter).map .fullTrie)

/-- Why `process_sync_pubkey_orderbook_state` fails. -/
inductive SyncError where
  | noPairTrieRoot (pair : AlbOrderedOrderbookPair)
  | history (error : TrieDiffHistoryError)

/-- The answer for one requested pair. -/
def pairDiff (ob : Orderbook) (st : TrieStore H)
    (ps : OrderbookPubkeyState H) (pair : AlbOrderedOrderbookPair) (root : H) :
    Option (Except SyncError (DeltaOrFullTrie Uuid OrderbookItem)) :=
  match ps.trieRoots.lookup pair with
  | none => some (.error (.noPairTrieRoot pair))
  | some actualPairRoot =>
    let result :=
      match ps.orderPairsTrieStateHistory.get pair with
      | some history =>
        fromHistory th iter history root actualPairRoot st.memoryDb ob.findOrderByUuid
      | none =>
        some ((getFullTrie th iter actualPairRoot st.memoryDb ob.findOrderByUuid).map .fullTrie)
    result.map (Except.mapError .history)

/-- The answers for the requested pairs; the first error stops the loop. -/
def pairDiffs (iter : AlbOrderedOrderbookPair → Iteration Uuid) (ob : Orderbook) (st : TrieStore H)
    (ps : OrderbookPubkeyState H) : List (AlbOrderedOrderbookPair × H) →
      Option (Except SyncError
        (List (AlbOrderedOrderbookPair × DeltaOrFullTrie Uuid OrderbookItem)))
  | [] => some (.ok [])
  | (pair, root) :: rest =>
    match pairDiff th (iter pair) ob st ps pair root with
    | none => none
    | some (.error e) => some (.error e)
    | some (.ok diff) => (pairDiffs iter ob st ps rest).map (Except.map ((pair, diff) :: ·))

/-- What `map_to` collects for one uuid beside the orders. -/
def collectInfo (infos : HashMap Uuid BaseRelProtocolInfo × HashMap Uuid OrderConfirmationsSettings)
    (entry : Uuid × Option OrderbookItem) :
    HashMap Uuid BaseRelProtocolInfo × HashMap Uuid OrderConfirmationsSettings :=
  match entry with
  | (_, some o) =>
    (infos.1.insert o.uuid ⟨o.baseProtocolInfo, o.relProtocolInfo⟩,
      match o.confSettings with
      | some info => infos.2.insert o.uuid info
      | none => infos.2)
  | (uuid, none) => (infos.1.erase uuid, infos.2.erase uuid)

/-- `DeltaOrFullTrie::map_to`, the orders. -/
def DeltaOrFullTrie.mapTo : DeltaOrFullTrie Uuid OrderbookItem → PairAnswer
  | .delta orders => .delta (orders.mapValues (Option.map OrderbookItem.toP2P))
  | .fullTrie orders => .fullTrie (orders.map fun e => (e.1, e.2.toP2P))

/-- The entries `map_to` visits, in the order it visits them. -/
def DeltaOrFullTrie.visited : DeltaOrFullTrie Uuid OrderbookItem → OrdersDelta
  | .delta orders => iter.entries orders
  | .fullTrie orders => orders.map fun e => (e.1, some e.2)

/-- The orders in which the loops of `process_sync_pubkey_orderbook_state` see their maps. -/
structure AnswerIteration where
  requested : Iteration AlbOrderedOrderbookPair
  answered : Iteration AlbOrderedOrderbookPair
  trie : AlbOrderedOrderbookPair → Iteration Uuid
  delta : AlbOrderedOrderbookPair → Iteration Uuid

variable (iter : AnswerIteration) (ob : Orderbook) (st : TrieStore H)
  (request : SyncPubkeyOrderbookState H)

/-- `process_sync_pubkey_orderbook_state`. The outer `none` is a loop that does not end, the inner
one a pubkey the store does not know. -/
def processSyncPubkeyOrderbookState :
    Option (Except SyncError (Option SyncPubkeyOrderbookStateRes)) :=
  match st.pubkeysState.lookup request.pubkey with
  | none => some (.ok none)
  | some ps =>
    (pairDiffs th iter.trie ob st ps (iter.requested.entries request.trieRoots)).map <|
      Except.map fun diffs =>
        let diffs : HashMap AlbOrderedOrderbookPair (DeltaOrFullTrie Uuid OrderbookItem) :=
          diffs.foldl (fun m e => m.insert e.1 e.2) ∅
        let visited := (iter.answered.entries diffs).flatMap fun e => e.2.visited (iter.delta e.1)
        let infos := visited.foldl collectInfo (∅, ∅)
        some { pairOrdersDiff := diffs.mapValues DeltaOrFullTrie.mapTo
               protocolInfos := infos.1
               confInfos := infos.2 }

/-- What the asking node gets from `request_one_peer`: an error and an empty answer are the same. -/
def askPeer : Option SyncPubkeyOrderbookStateRes :=
  match processSyncPubkeyOrderbookState th iter ob st request with
  | some (.ok answer) => answer
  | some (.error _) => none
  | none => none

/-! ## The asking node -/

/-- What the environment decides while a keep-alive is handled. -/
structure KeepAliveEnv where
  roots : Iteration AlbOrderedOrderbookPair
  clock : Clock
  answer : SyncIteration
  iAmRelay : Bool
  isSubscribed : String → Bool

/-- What `process_orders_keep_alive` leaves behind: the book, the store, the operations to enqueue
and the handler's answer. -/
structure KeepAliveOutcome (H : Type) where
  orderbook : Orderbook
  trieStore : TrieStore H
  ops : List TrieOp
  processed : Bool

/-- `process_orders_keep_alive`, with `ask` for the request to the peer. -/
def processOrdersKeepAlive (env : KeepAliveEnv) (ob : Orderbook) (st : TrieStore H)
    (fromPubkey : String) (keepAlive : PubkeyKeepAlive H)
    (ask : SyncPubkeyOrderbookState H → Option SyncPubkeyOrderbookStateRes) : KeepAliveOutcome H :=
  match st.prepareSyncRequestForKeepAlive th env.roots env.clock fromPubkey keepAlive env.iAmRelay
      env.isSubscribed with
  | (st, none) => ⟨ob, st, [], true⟩
  | (st, some request) =>
    match ask request with
    | none => ⟨ob, st, [], false⟩
    | some response =>
      let (ob, ops) := processSyncResponse env.answer ob fromPubkey response
      ⟨ob, st, ops, true⟩

end Answer

end CheetahDex.Ordermatch
