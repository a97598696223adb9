import CheetahDex.Lib.Run
import CheetahDex.Lib.TrieDb
import CheetahDex.Ordermatch.Orderbook

/-!
# The trie store

For every pubkey and pair the store keeps a trie of that pubkey's orders, by its root, and a history
of the recent changes of that root. The trie is a `TrieHash` over the records it commits to, so a
root stands for exactly one set of orders. The serialised record `trie_state_bytes` is the record
`OrderbookP2PItem` itself.
-/

namespace CheetahDex.Ordermatch

open Lib Common

/-- How long the history of a pair is kept. -/
def trieStateHistoryTimeout : Nat := fromSecs 14400

/-- How long one diff is kept. -/
def trieOrderHistoryTimeout : Nat := fromSecs 300

/-- The clock readings of one operation on the store: the monotonic clock may be read several times,
the wall clock is read at most once. -/
structure Clock where
  instant : Nat → Instant
  nowMs : Nat

/-- The orders of one pubkey in one pair, as the trie holds them. -/
abbrev PairOrders := HashMap Uuid OrderbookP2PItem

abbrev PairHash (H : Type) := TrieHash H Uuid OrderbookP2PItem

abbrev PairTries (H : Type) := TrieDb H Uuid OrderbookP2PItem

/-- A pubkey and a pair: what a trie is for. -/
abbrev PairKey := String × AlbOrderedOrderbookPair

abbrev OrdersDelta := List (Uuid × Option OrderbookItem)

variable {H : Type} [DecidableEq H]

structure TrieDiff (H : Type) where
  delta : OrdersDelta
  nextRoot : H

/-- `TrieOrderHistory`: from a root to the diff that leads on from it. -/
abbrev TrieOrderHistory (H : Type) := TimeCache H (TrieDiff H)

namespace TrieOrderHistory

/-- The loop of `insert_new_diff`: remove the chain of diffs that starts at `root`. Every turn but
the last one removes an entry. -/
def dropChain (clock : Nat → Instant) (h : TrieOrderHistory H) (root : H) :
    Nat → Nat → TrieOrderHistory H
  | _, 0 => h
  | i, fuel + 1 =>
    match h.remove (clock i) root with
    | (h, some diff) => dropChain clock h diff.nextRoot (i + 1) fuel
    | (h, none) => h

def insertNewDiff (clock : Nat → Instant) (h : TrieOrderHistory H) (insertAt : H)
    (diff : TrieDiff H) : TrieOrderHistory H :=
  if insertAt = diff.nextRoot then h
  else
    match h.remove (clock 0) diff.nextRoot with
    | (h, some diff) => dropChain clock h diff.nextRoot 1 (h.map.keys.card + 1)
    | (h, none) => (h.insert (clock 1) insertAt diff).1

end TrieOrderHistory

structure OrderbookPubkeyState (H : Type) where
  lastKeepAlive : Nat
  orderPairsTrieStateHistory : TimeCache AlbOrderedOrderbookPair (TrieOrderHistory H)
  ordersUuids : Finset (Uuid × AlbOrderedOrderbookPair)
  trieRoots : HashMap AlbOrderedOrderbookPair H

def OrderbookPubkeyState.withHistoryTimeout (nowMs : Nat) (ttl : Nat) : OrderbookPubkeyState H :=
  { lastKeepAlive := nowMs / 1000, orderPairsTrieStateHistory := .new ttl, ordersUuids := ∅,
    trieRoots := ∅ }

structure TrieStore (H : Type) where
  pubkeysState : HashMap String (OrderbookPubkeyState H)
  memoryDb : PairTries H

namespace TrieStore

protected def default : TrieStore H := ⟨∅, ∅⟩

variable (th : PairHash H) (st : TrieStore H)

/-- `pubkey_state_mut`: the state of a pubkey, a fresh one if there is none. -/
def pubkeyState (nowMs : Nat) (pubkey : String) : OrderbookPubkeyState H :=
  HashMap.getD st.pubkeysState pubkey (.withHistoryTimeout nowMs trieStateHistoryTimeout)

/-- `order_pair_root_mut`: the root of a pair, the default hash if there is none. -/
def pairRoot (ps : OrderbookPubkeyState H) (albPair : AlbOrderedOrderbookPair) : H :=
  HashMap.getD ps.trieRoots albPair th.zero

/-- `get_trie_mut`: the default hash opens a new trie. -/
def getTrieMut (db : PairTries H) (root : H) : Option PairOrders :=
  if root = th.zero then some ∅ else th.openTrie db root

variable (clock : Clock)

/-- Record a diff with `pair_history_mut` and `insert_new_diff`. -/
def recordDiff (ps : OrderbookPubkeyState H) (albPair : AlbOrderedOrderbookPair)
    (insertAt : H) (diff : TrieDiff H) : OrderbookPubkeyState H :=
  { ps with
    orderPairsTrieStateHistory :=
      ps.orderPairsTrieStateHistory.modifyOrInsert (clock.instant 0) albPair
        (.new trieOrderHistoryTimeout)
        fun h => h.insertNewDiff (fun i => clock.instant (i + 1)) insertAt diff }

variable (st : TrieStore H) (pubkey : String) (albPair : AlbOrderedOrderbookPair)

/-- `apply_insert`. The uuid is recorded before the trie is opened. -/
def applyInsert (uuid : Uuid) (order : OrderbookItem) : TrieStore H :=
  let ps := st.pubkeyState clock.nowMs pubkey
  let prevRoot := pairRoot th ps albPair
  let ps :=
    { ps with
      trieRoots := ps.trieRoots.insert albPair prevRoot
      ordersUuids := insert (uuid, albPair) ps.ordersUuids }
  match getTrieMut th st.memoryDb prevRoot with
  | none => { st with pubkeysState := st.pubkeysState.insert pubkey ps }
  | some trie =>
    let trie := trie.insert uuid order.toP2P
    let ps := { ps with trieRoots := ps.trieRoots.insert albPair (th.root trie) }
    let ps :=
      if prevRoot = th.zero then ps
      else recordDiff clock ps albPair prevRoot ⟨[(uuid, some order)], th.root trie⟩
    { pubkeysState := st.pubkeysState.insert pubkey ps, memoryDb := th.commit st.memoryDb trie }

/-- `apply_remove`. The default hash is no existing trie, so nothing is removed below it. -/
def applyRemove (uuid : Uuid) : TrieStore H :=
  let ps := st.pubkeyState clock.nowMs pubkey
  let oldState := pairRoot th ps albPair
  let ps :=
    { ps with
      trieRoots := ps.trieRoots.insert albPair oldState
      ordersUuids := ps.ordersUuids.erase (uuid, albPair) }
  match th.openTrie st.memoryDb oldState with
  | none => { st with pubkeysState := st.pubkeysState.insert pubkey ps }
  | some trie =>
    let trie := trie.erase uuid
    let ps := { ps with trieRoots := ps.trieRoots.insert albPair (th.root trie) }
    let ps :=
      if ps.orderPairsTrieStateHistory.containsKey albPair then
        recordDiff clock ps albPair oldState ⟨[(uuid, none)], th.root trie⟩
      else ps
    { pubkeysState := st.pubkeysState.insert pubkey ps, memoryDb := th.commit st.memoryDb trie }

def applyClearPair : TrieStore H :=
  { st with
    pubkeysState := st.pubkeysState.modify pubkey fun ps =>
      { ps with
        orderPairsTrieStateHistory :=
          (ps.orderPairsTrieStateHistory.remove (clock.instant 0) albPair).1
        ordersUuids := ps.ordersUuids.filter fun e => e.2 ≠ albPair
        trieRoots := ps.trieRoots.erase albPair } }

/-! ## Batches -/

/-- The operations of a batch on one pubkey and pair. -/
structure Group where
  clear : Bool := false
  inserts : List (Uuid × OrderbookItem) := []
  removes : List Uuid := []

/-- One turn of the grouping loop of `apply_ops`. -/
def groupOp (acc : HashMap PairKey Group × Finset String) :
    TrieOp → HashMap PairKey Group × Finset String
  | .clearPair pubkey albPair =>
    let g := HashMap.getD acc.1 (pubkey, albPair) {}
    (acc.1.insert (pubkey, albPair) { g with clear := true }, acc.2)
  | .insert pubkey albPair uuid order =>
    let g := HashMap.getD acc.1 (pubkey, albPair) {}
    (acc.1.insert (pubkey, albPair) { g with inserts := g.inserts ++ [(uuid, order)] }, acc.2)
  | .remove pubkey albPair uuid =>
    let g := HashMap.getD acc.1 (pubkey, albPair) {}
    (acc.1.insert (pubkey, albPair) { g with removes := g.removes ++ [uuid] }, acc.2)
  | .removePubkey pubkey => (acc.1, insert pubkey acc.2)

/-- The groups of a batch and the pubkeys it removes. -/
def groupOps (ops : List TrieOp) : HashMap PairKey Group × Finset String := ops.foldl groupOp (∅, ∅)

/-- Apply one group: clear, then all insertions, then all removals. -/
def applyGroup (clock : Nat → Clock) (st : TrieStore H) (pubkey : String)
    (albPair : AlbOrderedOrderbookPair) (g : Group) : TrieStore H :=
  let st := if g.clear then applyClearPair (clock 0) st pubkey albPair else st
  let st := g.inserts.zipIdx.foldl
    (fun st e => applyInsert th (clock (e.2 + 1)) st pubkey albPair e.1.1 e.1.2) st
  g.removes.zipIdx.foldl
    (fun st e => applyRemove th (clock (e.2 + 1 + g.inserts.length)) st pubkey albPair e.1) st

/-- What the environment decides while a batch is applied. -/
structure BatchEnv where
  /-- The order in which the loop sees the groups. -/
  groups : Iteration PairKey
  /-- The clock readings of the operations of a group. -/
  clock : PairKey → Nat → Clock

def applyOps (env : BatchEnv) (st : TrieStore H) (ops : List TrieOp) : TrieStore H :=
  let st := (env.groups.entries (groupOps ops).1).foldl
    (fun st e => applyGroup th (env.clock e.1) st e.1.1 e.1.2 e.2) st
  { st with pubkeysState := st.pubkeysState.retain fun pubkey _ => pubkey ∉ (groupOps ops).2 }

/-! ## Cleaning -/

/-- The root is the current one of some pubkey and pair. -/
def Live (root : H) : Prop :=
  ∃ pubkey ∈ st.pubkeysState.keys, ∃ ps ∈ st.pubkeysState.lookup pubkey,
    ∃ albPair ∈ ps.trieRoots.keys, ps.trieRoots.lookup albPair = some root

instance (st : TrieStore H) (root : H) : Decidable (st.Live root) := by
  unfold Live
  infer_instance

/-- A turn of `clean_memory_loop`. The database counts references and drops what no trie refers to;
`keep` says which of the other roots it still has. -/
def purge (keep : H → Bool) : TrieStore H :=
  { st with memoryDb := st.memoryDb.retain fun root _ => st.Live root ∨ keep root }

end TrieStore

end CheetahDex.Ordermatch
