import CheetahDex.Ordermatch.Sync
import CheetahDex.Proof.TrieBatches
import Mathlib.Data.Prod.Lex
import Mathlib.Data.String.Basic

/-!
# Runs of the trie store

Three callers lock the store for writing: the worker that applies the order book's batches, a
keep-alive that is compared with the roots, and the loop that cleans the database. The last two
leave every set of orders as it is.
-/

namespace CheetahDex.Proof

open Lib Common Ordermatch Orderbook TrieStore

variable {H : Type} [DecidableEq H] {th : PairHash H}

/-! ## Keep-alives -/

variable (th) in
/-- What comparing a keep-alive with the state of a pubkey leaves of it. -/
structure Compared (ps ps' : OrderbookPubkeyState H) : Prop where
  roots : ∀ pair, pairRoot th ps' pair = pairRoot th ps pair
  history : ps'.orderPairsTrieStateHistory = ps.orderPairsTrieStateHistory
  uuids : ps'.ordersUuids = ps.ordersUuids

variable {iAmRelay : Bool} {isSubscribed : String → Bool}
  {acc : OrderbookPubkeyState H × HashMap AlbOrderedOrderbookPair H} {ps : OrderbookPubkeyState H}

/-- A turn of the loop writes a root only where it is already. -/
theorem Compared.requestPair (h : Compared th ps acc.1) (entry : AlbOrderedOrderbookPair × H) :
    Compared th ps (requestPair th iAmRelay isSubscribed acc entry).1 := by
  have hwr : Compared th ps { acc.1 with
      trieRoots := acc.1.trieRoots.insert entry.1 (pairRoot th acc.1 entry.1) } := by
    refine ⟨fun pair => ?_, h.history, h.uuids⟩
    rw [pairRoot_insert acc.1 entry.1 pair _ rfl, ← h.roots pair]
    split
    · rename_i hpr
      rw [hpr]
    · rfl
  unfold TrieStore.requestPair
  dsimp only
  split
  · exact h
  · split
    · exact h
    · split
      · exact hwr
      · exact hwr

variable (iAmRelay isSubscribed acc) in
theorem Compared.foldl (h : Compared th ps acc.1) (entries : List (AlbOrderedOrderbookPair × H)) :
    Compared th ps (entries.foldl (TrieStore.requestPair th iAmRelay isSubscribed) acc).1 := by
  induction entries generalizing acc with
  | nil => exact h
  | cons entry entries ih => exact ih _ (h.requestPair entry)

variable {st : TrieStore H}

/-- **Comparing a keep-alive with the roots changes no set of orders.** -/
theorem StoreInv.prepareSyncRequestForKeepAlive (h : StoreInv th st)
    (iter : Iteration AlbOrderedOrderbookPair) (clock : Clock) (fromPubkey : String)
    (message : PubkeyKeepAlive H) (iAmRelay : Bool) (isSubscribed : String → Bool) :
    StoreInv th (prepareSyncRequestForKeepAlive th iter clock st fromPubkey message iAmRelay
      isSubscribed).1 ∧
    ∀ pubkey pair, contents th (prepareSyncRequestForKeepAlive th iter clock st fromPubkey message
      iAmRelay isSubscribed).1 pubkey pair = contents th st pubkey pair := by
  have hps := h.pubkeyState clock.nowMs fromPubkey
  have hsta : Compared th (st.pubkeyState clock.nowMs fromPubkey)
      { st.pubkeyState clock.nowMs fromPubkey with lastKeepAlive := message.timestamp } :=
    ⟨fun _ => rfl, rfl, rfl⟩
  have hcm := hsta.foldl iAmRelay isSubscribed (_, ∅) (iter.entries message.trieRoots)
  have he := fun pair =>
    (hcm.roots pair).trans (pairRoot_pubkeyState st clock.nowMs fromPubkey pair)
  have hinv : StoreInv th ⟨st.pubkeysState.insert fromPubkey _, st.memoryDb⟩ := h.put h.sound id
    ⟨fun pair => he pair ▸ h.rootOk fromPubkey pair, by
      rw [hcm.history]
      exact hps.history⟩
  refine ⟨hinv, fun pubkey pair => h.contents_congr hinv ((rootOf_insert ..).trans ?_)⟩
  rw [he]
  split
  · rename_i hp
    rw [hp]
  · rfl

/-! ## Cleaning -/

omit [DecidableEq H] in
theorem live_of_pairRoot {pubkey : String} {ps : OrderbookPubkeyState H}
    (hps : st.pubkeysState.lookup pubkey = some ps) (pair : AlbOrderedOrderbookPair) :
    pairRoot th ps pair = th.zero ∨ st.Live (pairRoot th ps pair) := by
  unfold pairRoot HashMap.getD
  cases hr : ps.trieRoots.lookup pair with
  | none => exact .inl rfl
  | some root =>
    refine .inr ⟨pubkey, ?_, ps, hps, pair, ?_, hr⟩
    · exact Finmap.mem_keys.2 (Finmap.mem_of_lookup_eq_some hps)
    · exact Finmap.mem_keys.2 (Finmap.mem_of_lookup_eq_some hr)

/-- **Cleaning the database changes no set of orders.** -/
theorem StoreInv.purge (h : StoreInv th st) (keep : H → Bool) :
    StoreInv th (st.purge keep) ∧
    ∀ pubkey pair, contents th (st.purge keep) pubkey pair = contents th st pubkey pair := by
  have hinv : StoreInv th (st.purge keep) := by
    refine ⟨fun r c hl => ?_, fun pubkey ps hps =>
      ⟨fun pair => ?_, (h.pubkeys pubkey ps hps).history⟩⟩
    · rw [TrieStore.purge, HashMap.lookup_retain, Option.filter_eq_some_iff] at hl
      exact h.sound r c hl.1
    · rcases (h.pubkeys pubkey ps hps).roots pair with hz | ⟨c, hc, hrec⟩
      · exact .inl hz
      · -- cleaning does not disturb a trie that a current root stands for
        have hlv : st.Live (pairRoot th ps pair) :=
          (live_of_pairRoot hps pair).resolve_left hc.ne_zero
        refine .inr ⟨c, ⟨hc.1, ?_⟩, hrec⟩
        rw [← hc.2, TrieHash.openTrie, TrieHash.openTrie, TrieStore.purge, HashMap.lookup_retain]
        cases st.memoryDb.lookup (pairRoot th ps pair) <;> simp [hlv, Option.filter_some]
  refine ⟨hinv, fun pubkey pair => h.contents_congr hinv rfl⟩

/-! ## Runs -/

/-- What happens to a store. A batch carries the fact that its operations are such as the order book
sends, see `handlerOp_processMsg`. -/
inductive StoreEvent (H : Type) where
  | batch (env : BatchEnv) (ops : List TrieOp) (wellFormed : ∀ op ∈ ops, WellFormedOp op)
  | keepAlive (iter : Iteration AlbOrderedOrderbookPair) (clock : Clock) (fromPubkey : String)
      (message : PubkeyKeepAlive H) (iAmRelay : Bool) (isSubscribed : String → Bool)
  | purge (keep : H → Bool)

/-- The store after an event. -/
def StoreEvent.apply (th : PairHash H) (st : TrieStore H) : StoreEvent H → TrieStore H
  | .batch env ops _ => applyOps th env st ops
  | .keepAlive iter clock fromPubkey message iAmRelay isSubscribed =>
    (prepareSyncRequestForKeepAlive th iter clock st fromPubkey message iAmRelay isSubscribed).1
  | .purge keep => st.purge keep

theorem storeInv_step (h : StoreInv th st) (e : StoreEvent H) : StoreInv th (e.apply th st) := by
  cases e with
  | batch env ops wellFormed => exact (h.applyOps env wellFormed).1
  | keepAlive iter clock fromPubkey message iAmRelay isSubscribed =>
    exact (h.prepareSyncRequestForKeepAlive iter clock fromPubkey message iAmRelay isSubscribed).1
  | purge keep => exact (h.purge keep).1

/-- **Every reachable store is in order.** -/
theorem storeInv_run (events : List (StoreEvent H)) :
    StoreInv th (events.foldl (StoreEvent.apply th) TrieStore.default) :=
  List.foldlRecOn events _ storeInv_default fun _ h e _ => storeInv_step h e

/-- **In every reachable store each root can be opened and has orders of its pubkey and pair alone,
and in any two stores the same root stands for the same orders.** -/
theorem orders_of_root (events events' : List (StoreEvent H)) (pubkey pair : String) :
    let st := events.foldl (StoreEvent.apply th) .default
    let st' := events'.foldl (StoreEvent.apply th) .default
    getTrieMut th st.memoryDb (rootOf th st pubkey pair) = contents th st pubkey pair ∧
      Records pubkey pair (contents th st pubkey pair) ∧
      (rootOf th st' pubkey pair = rootOf th st pubkey pair →
        contents th st' pubkey pair = contents th st pubkey pair) := by
  have h : StoreInv th _ := storeInv_run events
  exact ⟨h.getTrieMut_rootOf .., h.records _ _, h.contents_congr (storeInv_run events')⟩

/-! ## Concrete runs

What the environment decides, decided once, and an order to try things with. -/

def sortedPairs : Iteration AlbOrderedOrderbookPair := .sortedBy id Function.injective_id

def stoppedClock : Clock := ⟨fun _ => 0, 0⟩

def plainBatch : BatchEnv := ⟨.sortedBy toLex toLex.injective, fun _ _ => stoppedClock⟩

/-- An order under the given uuid. -/
def smallOrder (uuid : Uuid) : MakerOrderCreated :=
  { uuid, base := "KMD", rel := "BTC", price := 1, maxVolume := 1, minVolume := 0, createdAt := 0,
    confSettings := ⟨1, false, 1, false⟩, baseProtocolInfo := [], relProtocolInfo := [] }

/-- An order of another pair. -/
def otherOrder (uuid : Uuid) : MakerOrderCreated := { smallOrder uuid with rel := "LTC" }

end CheetahDex.Proof
