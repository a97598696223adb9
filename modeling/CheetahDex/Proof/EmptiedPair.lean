import CheetahDex.Proof.Converge

/-!
# Keep-alives for a pair without orders

A maker that has cancelled its last order of a pair goes on listing the pair in its keep-alives,
with the root of the empty trie. A node that missed the cancellation asks for nothing:
`prepareSyncRequestForKeepAlive` passes over the roots of empty tries.
-/

namespace CheetahDex.Proof

open Lib Common Ordermatch Orderbook TrieStore Option TrieHash HashMap

variable {H : Type} [DecidableEq H] (th : PairHash H)

/-! ## What the maker sends -/

variable {pubkey pair : String} {st : TrieStore H}
  {request : SyncPubkeyOrderbookState H} {ob : Orderbook}

/-- The two conditions of the sender's filter exclude each other: every root is listed. -/
theorem lookup_broadcastKeepAliveForPub {nowMs : Nat} {topics : Finset String}
    {keepAlive : PubkeyKeepAlive H}
    (h : broadcastKeepAliveForPub th nowMs st pubkey = some (topics, keepAlive)) {root : H}
    (hrt : keepAlive.trieRoots.lookup pair = some root) : rootOf th st pubkey pair = root := by
  unfold broadcastKeepAliveForPub at h
  unfold rootOf
  cases hps : st.pubkeysState.lookup pubkey with
  | none => simp [hps] at h
  | some ps =>
    rw [hps] at h
    obtain ⟨-, rfl⟩ := Prod.mk.inj (some.inj h)
    rw [lookup_retain] at hrt
    obtain ⟨hlk, -⟩ := filter_eq_some_iff.1 hrt
    simp only [pairRoot, HashMap.getD, hlk, getD_some]

/-! ## What the receiver asks for -/

/-- **A pair listed with the root of an empty trie is not asked for.** -/
theorem not_requested {env : KeepAliveEnv} {keepAlive : PubkeyKeepAlive H} {root : H}
    (hlists : keepAlive.trieRoots.lookup pair = some root)
    (hrt : root = th.zero ∨ root = th.nullNode)
    (hreq : (st.prepareSyncRequestForKeepAlive th env.roots env.clock pubkey keepAlive
      env.iAmRelay env.isSubscribed).2 = some request) : request.trieRoots.lookup pair = none := by
  -- no turn of the loop adds the pair: its one entry has the root of an empty trie
  have hfl := List.foldlRecOn (motive := fun acc => acc.2.lookup pair = none)
    (env.roots.entries keepAlive.trieRoots) (requestPair th env.iAmRelay env.isSubscribed)
    (b := ({ st.pubkeyState env.clock.nowMs pubkey with lastKeepAlive := keepAlive.timestamp }, ∅))
    (Finmap.lookup_empty pair) fun acc h entry hin => by
      obtain ⟨p, r⟩ := entry
      rw [Iteration.mem_entries] at hin
      unfold requestPair
      dsimp only
      split
      · exact h
      · split
        · exact h
        · rename_i hnn
          split
          · rw [lookup_insert_ite, if_neg, h]
            rintro rfl
            rw [hlists] at hin
            exact hnn (some.inj hin ▸ hrt)
          · exact h
  unfold prepareSyncRequestForKeepAlive at hreq
  dsimp only at hreq
  split at hreq
  · simp at hreq
  · rw [← some.inj hreq]
    exact hfl

/-! ## What the exchange brings -/

/-- No order of the pubkey in the pair is in the book. -/
def HoldsNone (ob : Orderbook) (pubkey pair : String) : Prop :=
  ∀ uuid order, ob.orderSet.lookup uuid = some order → order.pubkey = pubkey →
    albOrderedPair order.base order.rel ≠ pair

/-- An answer to a request that is true of a pubkey without orders in the pair: it lists no order of
the pubkey in the pair, and when asked for the pair it lists the whole of it. -/
structure Truthful (pubkey pair : String)
    (request : SyncPubkeyOrderbookState H) (res : SyncPubkeyOrderbookStateRes) : Prop where
  answers : res.pairOrdersDiff.keys = request.trieRoots.keys
  unlisted : ∀ uuid order, res.Lists uuid order → order.pubkey = pubkey →
    albOrderedPair order.base order.rel ≠ pair
  emptied : ∀ root, request.trieRoots.lookup pair = some root →
    res.pairOrdersDiff.lookup pair = some (.fullTrie [])

variable {th} {pubkey pair : String}

omit [DecidableEq H] in
/-- A truthful answer brings no order of the pair. -/
theorem HoldsNone.processSyncResponse (h : HoldsNone ob pubkey pair)
    {res : SyncPubkeyOrderbookStateRes} (hres : Truthful pubkey pair request res)
    (iter : SyncIteration) : HoldsNone (processSyncResponse iter ob pubkey res).1 pubkey pair :=
  processSyncResponse_induction (P := fun ob => HoldsNone ob pubkey pair)
    (fun _ uuid h => forall_indexRemove h uuid)
    (fun _ uuid order hlists h =>
      forall_indexInsertOrUpdate h fun _ _ => hres.unlisted uuid order hlists) h iter pubkey

/-- The answer that nothing has changed. -/
def unchangedAnswer (request : SyncPubkeyOrderbookState H) : SyncPubkeyOrderbookStateRes where
  pairOrdersDiff := request.trieRoots.mapValues fun _ => .delta ∅
  protocolInfos := ∅
  confInfos := ∅

omit [DecidableEq H] in
theorem truthful_unchangedAnswer (hpr : request.trieRoots.lookup pair = none) :
    Truthful pubkey pair request (unchangedAnswer request) where
  answers := by
    ext p
    simp only [unchangedAnswer, Finmap.mem_keys, ← Finmap.lookup_isSome, lookup_mapValues,
      isSome_map]
  unlisted := by
    intro uuid order hlists
    obtain ⟨p, ⟨orders, hdf, hord⟩ | ⟨orders, hdf, -⟩⟩ := hlists
    all_goals
      rw [unchangedAnswer, lookup_mapValues] at hdf
      obtain ⟨_, -, hdel⟩ := map_eq_some_iff.1 hdf
      cases hdel
    simp at hord
  emptied := by
    intro root hrt
    simp [hpr] at hrt

omit [DecidableEq H] in
theorem processSyncResponse_unchangedAnswer (iter : SyncIteration) (ob : Orderbook)
    (request : SyncPubkeyOrderbookState H) :
    (processSyncResponse iter ob pubkey (unchangedAnswer request)).1 = ob := by
  refine foldEmit_induction (P := (· = ob)) rfl fun ob' entry hin h => ?_
  obtain ⟨p, diff⟩ := entry
  rw [Iteration.mem_entries, unchangedAnswer, lookup_mapValues] at hin
  obtain ⟨_, -, rfl⟩ := map_eq_some_iff.1 hin
  have hen : ((iter.delta p).entries (∅ : HashMap Uuid (Option OrderbookP2PItem))) = [] := by
    simp [Iteration.entries]
  rw [processPairDiff, hen]
  exact h

/-! ## The whole exchange -/

/-- What the handler leaves in the book: the old one, or the old one with the answer. -/
theorem orderbook_processOrdersKeepAlive (env : KeepAliveEnv) (ob : Orderbook) (st : TrieStore H)
    (keepAlive : PubkeyKeepAlive H)
    (ask : SyncPubkeyOrderbookState H → SyncPubkeyOrderbookStateRes) :
    (processOrdersKeepAlive th env ob st pubkey keepAlive fun r => some (ask r)).orderbook =
      match (st.prepareSyncRequestForKeepAlive th env.roots env.clock pubkey keepAlive env.iAmRelay
        env.isSubscribed).2 with
      | none => ob
      | some request => (processSyncResponse env.answer ob pubkey (ask request)).1 := by
  unfold processOrdersKeepAlive
  split <;> rename_i hreq <;> rw [hreq]

/-- **A keep-alive of a maker without orders in the pair leaves none with the receiver, whatever
the exchange brings, exactly if the receiver has none.** -/
theorem emptiedPair_cleared_iff (th : PairHash H) (maker : NodeRun H)
    (nowMs : Nat) (pubkey pair : String) (topics : Finset String)
    (keepAlive : PubkeyKeepAlive H)
    (hempty : contents th (maker.trieStore th) pubkey pair = ∅)
    (hsent : broadcastKeepAliveForPub th nowMs (maker.trieStore th) pubkey =
      some (topics, keepAlive))
    (hlists : pair ∈ keepAlive.trieRoots) (env : KeepAliveEnv) (ob : Orderbook)
    (st : TrieStore H) :
    (∀ ask : SyncPubkeyOrderbookState H → SyncPubkeyOrderbookStateRes,
      (∀ request, (st.prepareSyncRequestForKeepAlive th env.roots env.clock pubkey keepAlive
        env.iAmRelay env.isSubscribed).2 = some request →
          Truthful pubkey pair request (ask request)) →
      HoldsNone (processOrdersKeepAlive th env ob st pubkey keepAlive
        fun r => some (ask r)).orderbook pubkey pair) ↔
      HoldsNone ob pubkey pair := by
  obtain ⟨root, hrt⟩ := Finmap.mem_iff.1 hlists
  have hinv : StoreInv th (maker.trieStore th) := storeInv_run maker.storeEvents
  -- a pair without orders is listed with one of the roots that the receiver passes over
  have hnl : root = th.zero ∨ root = th.nullNode := by
    rw [← lookup_broadcastKeepAliveForPub th hsent hrt, or_iff_not_imp_left]
    intro hz
    rw [hinv.rootOf_eq hz, hempty, nullNode]
  constructor
  · -- the pair is not asked for, so an answer may change nothing
    intro h
    have hun := h unchangedAnswer fun request hreq =>
      truthful_unchangedAnswer (not_requested th hrt hnl hreq)
    rw [orderbook_processOrdersKeepAlive] at hun
    split at hun
    · exact hun
    · rwa [processSyncResponse_unchangedAnswer] at hun
  · intro h ask hask
    rw [orderbook_processOrdersKeepAlive]
    split
    · exact h
    · rename_i request hreq
      exact h.processSyncResponse (hask request hreq) env.answer

/-! ## A lost cancellation -/

/-- The run of a maker that creates an order and cancels it. -/
def createsAndCancels (uuid : Uuid) : NodeRun (Option PairOrders) where
  bookOps := (hears [smallOrder uuid]).bookOps ++
    [.rememberCancelled 0 uuid "P", .index (.remove uuid)]
  storeEvents := (hears [smallOrder uuid]).storeEvents ++ [.batch plainBatch
    (processMsg (hears [smallOrder uuid]).orderbook false "P" (.makerOrderCancelled 0 uuid)).2
    fun op hop => (handlerOp_processMsg _ _ _ _ op hop).wellFormed]

/-- The keep-alive of that maker. -/
def emptiedKeepAlive : PubkeyKeepAlive (Option PairOrders) where
  trieRoots := Finmap.insert "BTC:KMD" (some ∅) ∅
  timestamp := 0

/-- A node that has heard of an order of another pair alone. -/
theorem emptiedPair_cleared_new :
    let node := hears [otherOrder 2]
    node.orderbook.orderSet.keys = {2} ∧
      HoldsNone (processOrdersKeepAlive plain plainKeepAlive node.orderbook
        (node.trieStore plain) "P" emptiedKeepAlive
        fun r => some (unchangedAnswer r)).orderbook "P" "BTC:KMD" := by
  refine ⟨by decide +kernel, (emptiedPair_cleared_iff plain (createsAndCancels 1) 0 "P"
    "BTC:KMD" {"orbk/BTC:KMD"} emptiedKeepAlive (by decide +kernel) (by decide +kernel)
    (by decide +kernel) plainKeepAlive _ _).2 ?_ unchangedAnswer ?_⟩
  · intro uuid order hlk
    have hsto : (hears [otherOrder 2]).orderbook.orderSet =
        Finmap.insert 2 ((otherOrder 2).toItem "P") ∅ := by decide +kernel
    rw [hsto, lookup_insert_ite] at hlk
    split at hlk
    · cases hlk
      decide +kernel
    · cases hlk
  · intro request hreq
    have hlists : emptiedKeepAlive.trieRoots.lookup "BTC:KMD" = some (some ∅) := by decide +kernel
    exact truthful_unchangedAnswer (not_requested plain hlists (.inr rfl) hreq)

/-- The receiver still has the order the maker has cancelled, after a keep-alive that is handled to
the end with the maker itself to ask. -/
theorem lostCancel_not_cleared :
    let maker := createsAndCancels 1
    let receiver := hears [smallOrder 1]
    let outcome := processOrdersKeepAlive plain plainKeepAlive receiver.orderbook
      (receiver.trieStore plain) "P" emptiedKeepAlive
      (askPeer plain plainAnswer maker.orderbook (maker.trieStore plain))
    contents plain (maker.trieStore plain) "P" "BTC:KMD" = ∅ ∧
      maker.orderbook.orderSet = ∅ ∧
      broadcastKeepAliveForPub plain 0 (maker.trieStore plain) "P" =
        some ({"orbk/BTC:KMD"}, emptiedKeepAlive) ∧
      "BTC:KMD" ∈ emptiedKeepAlive.trieRoots ∧ outcome.processed = true ∧
      ¬HoldsNone outcome.orderbook "P" "BTC:KMD" := by
  refine ⟨?_, ?_, ?_, ?_, ?_, fun h => ?_⟩
  case refine_6 => exact h 1 ((smallOrder 1).toItem "P") (by decide +kernel) rfl (by decide +kernel)
  all_goals decide +kernel

end CheetahDex.Proof
