import CheetahDex.Ordermatch.Node
import CheetahDex.Proof.Tracked

/-!
# The book and the store agree when nothing is on its way

What the store tracks, after all batches on their way have been applied in the order in which the
book changed, is what the book has. This is an invariant as long as two things do not happen. A
batch must not overtake a batch that says something else about the same order. And when the sweep
removes the orders of a stale pubkey from the book, there must be no order of that pubkey which the
sweep has not seen; for the worker will forget all of them.

The program prevents neither. It is assumed that a uuid is only ever used by one pubkey for one
pair.
-/

namespace CheetahDex.Proof

open Lib Common Ordermatch Orderbook TrieStore List Node Finmap

variable {H : Type} [DecidableEq H]

/-- The book has the order. -/
def indexed (ob : Orderbook) (key : OrderKey) : Bool :=
  match ob.orderSet.lookup key.2 with
  | some o => o.pubkey = key.1.1 ∧ albOrderedPair o.base o.rel = key.1.2
  | none => false

/-- Who uses a uuid: the pubkey, the base and the rel. -/
abbrev Owner := Uuid → String × String × String

variable (owner : Owner) (ob : Orderbook)

/-- Every order is the owner's, and stands under its own uuid. -/
def OneOwner : Prop :=
  ∀ u o, ob.orderSet.lookup u = some o → o.uuid = u ∧ owner u = (o.pubkey, o.base, o.rel)

/-- A change of the book that says in its batch what it does. -/
structure Tells (result : Orderbook × List TrieOp) : Prop where
  oneOwner : OneOwner owner result.1
  indexed_eq : indexed result.1 = overwrite (indexed ob) (batchWrites result.2)

variable {ob : Orderbook} {owner : Owner} {node : Node H}

theorem indexed_of_lookup {u : Uuid} {o : OrderbookItem} (ho : ob.orderSet.lookup u = some o)
    (key : PairKey) :
    indexed ob (key, u) = decide ((o.pubkey, albOrderedPair o.base o.rel) = key) := by
  rw [indexed, ho]
  simp [Prod.ext_iff]

theorem exists_of_indexed {pubkey pair : String} {u : Uuid}
    (h : indexed ob ((pubkey, pair), u)) :
    ∃ o, ob.orderSet.lookup u = some o ∧ o.pubkey = pubkey ∧
      albOrderedPair o.base o.rel = pair := by
  cases ho : ob.orderSet.lookup u with
  | none =>
    rw [indexed, ho] at h
    cases h
  | some o =>
    rw [indexed_of_lookup ho, decide_eq_true_iff] at h
    exact ⟨o, rfl, (Prod.mk.inj h).1, (Prod.mk.inj h).2⟩

/-! ## The sweep -/

/-- The loop of the sweep: the uuids are gone, and for each one that was there the loop says so. -/
theorem foldEmit_indexRemove {f : Orderbook → Uuid → Orderbook × List TrieOp}
    (hf : ∀ ob uuid, f ob uuid =
      ((indexRemove ob uuid).1, ((indexRemove ob uuid).2.map (·.2)).toList))
    (ob : Orderbook) (uuids : List Uuid) :
    (∀ u, (foldEmit f ob uuids).1.orderSet.lookup u =
      if u ∈ uuids then none else ob.orderSet.lookup u) ∧
    ∀ op, op ∈ (foldEmit f ob uuids).2 ↔ ∃ u ∈ uuids, ∃ o, ob.orderSet.lookup u = some o ∧
      op = .remove o.pubkey (albOrderedPair o.base o.rel) u := by
  induction uuids generalizing ob with
  | nil => exact ⟨fun u => rfl, fun op => by simp [foldEmit]⟩
  | cons uuid uuids ih =>
    -- first the head of the list alone, then the loop over the rest
    obtain ⟨hbk, hops⟩ := ih (f ob uuid).1
    have hre : ∀ u, (f ob uuid).1.orderSet.lookup u =
        if u = uuid then none else ob.orderSet.lookup u := by
      intro u
      rw [hf, indexRemove_orderSet_lookup]
    have hhe : ∀ op, op ∈ (f ob uuid).2 ↔ ∃ o, ob.orderSet.lookup uuid = some o ∧
        op = .remove o.pubkey (albOrderedPair o.base o.rel) uuid := by
      intro op
      rw [hf]
      cases ho : ob.orderSet.lookup uuid with
      | none =>
        rw [indexRemove_of_absent ho]
        simp
      | some o =>
        rw [indexRemove_of_lookup ho]
        simp
    constructor
    · intro u
      rw [foldEmit, hbk, hre]
      by_cases hu : u = uuid
      · simp [hu]
      · simp [hu]
    · intro op
      rw [foldEmit, mem_append, hhe, hops]
      constructor
      · rintro (⟨o, ho, rfl⟩ | ⟨u, hu, o, ho, rfl⟩)
        · exact ⟨uuid, mem_cons_self, o, ho, rfl⟩
        · rw [hre] at ho
          split at ho
          · cases ho
          · exact ⟨u, mem_cons_of_mem _ hu, o, ho, rfl⟩
      · rintro ⟨u, hu, o, ho, rfl⟩
        -- a uuid that is listed twice is there only for its first turn
        by_cases hhd : u = uuid
        · subst hhd
          exact .inl ⟨o, ho, rfl⟩
        · refine .inr ⟨u, (mem_cons.1 hu).resolve_left hhd, o, ?_, rfl⟩
          rw [hre, if_neg hhd]
          exact ho

theorem lookup_removeStale (ob : Orderbook) (stale : StaleOrders) (u : Uuid) :
    (removeStale ob stale).1.orderSet.lookup u =
      if u ∈ stale.uuids then none else ob.orderSet.lookup u :=
  (foldEmit_indexRemove (fun _ _ => rfl) ob stale.uuids).1 u

/-- The batch of the sweep. -/
theorem mem_removeStale {stale : StaleOrders} {op : TrieOp} :
    op ∈ (removeStale ob stale).2 ↔
      (∃ u ∈ stale.uuids, ∃ o, ob.orderSet.lookup u = some o ∧
        op = .remove o.pubkey (albOrderedPair o.base o.rel) u) ∨
      ∃ pubkey ∈ stale.pubkeys, .removePubkey pubkey = op := by
  rw [← (foldEmit_indexRemove (fun _ _ => rfl) ob stale.uuids).2, ← List.mem_map, ← mem_append]
  rfl

/-- The batch removes from a trie what the sweep has removed, and nothing else happens to it. -/
theorem groupFor_removeStale (ob : Orderbook) (stale : StaleOrders) (pubkey pair : String) :
    (∀ u, u ∈ (groupFor (pubkey, pair) (removeStale ob stale).2).removes ↔
      u ∈ stale.uuids ∧ indexed ob ((pubkey, pair), u)) ∧
    (groupFor (pubkey, pair) (removeStale ob stale).2).inserts = [] ∧
    (groupFor (pubkey, pair) (removeStale ob stale).2).clear = false := by
  refine ⟨?_, ?_, ?_⟩
  · intro u
    refine mem_removesFor.trans (mem_removeStale.trans ?_)
    constructor
    · rintro (⟨u', hu, o, ho, he⟩ | ⟨_, _, he⟩)
      · injection he with hp ha hu'
        subst hu'
        rw [indexed_of_lookup ho, hp, ha]
        exact ⟨hu, decide_eq_true rfl⟩
      · cases he
    · rintro ⟨hu, hi⟩
      obtain ⟨o, ho, rfl, rfl⟩ := exists_of_indexed hi
      exact .inl ⟨u, hu, o, ho, rfl⟩
  -- the sweep has no other kinds of changes
  · refine eq_nil_iff_forall_not_mem.2 ?_
    rintro ⟨u', o⟩ hin
    rcases mem_removeStale.1 (mem_insertsFor.1 hin) with ⟨_, _, _, _, he⟩ | ⟨_, _, he⟩
    · cases he
    · cases he
  · refine decide_eq_false fun hin => ?_
    rcases mem_removeStale.1 hin with ⟨_, _, _, _, he⟩ | ⟨_, _, he⟩
    · cases he
    · cases he

/-- The sweep says in its batch what it does, if it has seen all orders of the pubkeys it removes.
-/
theorem tells_removeStale (h : OneOwner owner ob) (stale : StaleOrders)
    (hsn : ∀ u o, ob.orderSet.lookup u = some o → o.pubkey ∈ stale.pubkeys → u ∈ stale.uuids) :
    Tells owner ob (removeStale ob stale) := by
  constructor
  · intro u o ho
    rw [lookup_removeStale] at ho
    split at ho
    · cases ho
    · exact h u o ho
  · funext ⟨⟨pubkey, pair⟩, u⟩
    obtain ⟨hrm, hins, hclr⟩ := groupFor_removeStale ob stale pubkey pair
    have hpk : .removePubkey pubkey ∈ (removeStale ob stale).2 ↔ pubkey ∈ stale.pubkeys := by
      simp [mem_removeStale]
    have haft : indexed (removeStale ob stale).1 ((pubkey, pair), u) =
        if u ∈ stale.uuids then false else indexed ob ((pubkey, pair), u) := by
      rw [indexed, lookup_removeStale]
      by_cases hu : u ∈ stale.uuids
      · simp [hu]
      · simp [hu, indexed]
    rw [haft, overwrite, batchWrites]
    rw [hins, hclr]
    by_cases hst : pubkey ∈ stale.pubkeys
    · -- all orders of a removed pubkey were seen
      have hall : u ∉ stale.uuids → indexed ob ((pubkey, pair), u) = false := by
        intro hu
        by_contra hi
        obtain ⟨o, ho, rfl, -⟩ := exists_of_indexed (Bool.not_eq_false _ ▸ hi)
        exact hu (hsn u o ho hst)
      rw [if_pos (hpk.2 hst)]
      split
      · rfl
      · rename_i hu
        exact hall hu
    · rw [if_neg (hpk.not.2 hst)]
      by_cases hu : u ∈ stale.uuids
      · cases hi : indexed ob ((pubkey, pair), u) with
        | true | false => simp [hrm, hu, hi]
      · simp [hrm, hu]

/-! ## The changes of the book -/

/-- Fields the book's orders do not depend on. -/
theorem Tells.of_orderSet_eq {ob ob' : Orderbook} {ops : List TrieOp}
    (h : Tells owner ob (ob', ops)) {ob'' : Orderbook} (hsa : ob''.orderSet = ob'.orderSet) :
    Tells owner ob (ob'', ops) where
  oneOwner := by
    unfold OneOwner
    rw [hsa]
    exact h.oneOwner
  indexed_eq := by
    rw [← h.indexed_eq]
    funext key
    rw [indexed, indexed, hsa]

theorem tells_nothing (h : OneOwner owner ob) {ob' : Orderbook}
    (hsa : ob'.orderSet = ob.orderSet) : Tells owner ob (ob', []) :=
  (tells_removeStale h ⟨[], []⟩ (by simp)).of_orderSet_eq hsa

/-- One order is removed as the sweep removes many. -/
theorem tells_indexRemove (h : OneOwner owner ob) (uuid : Uuid) :
    Tells owner ob ((ob.indexRemove uuid).1, ((ob.indexRemove uuid).2.map (·.2)).toList) := by
  have htl := tells_removeStale h ⟨[uuid], []⟩ (by simp)
  simp only [removeStale, foldEmit, map_nil, append_nil] at htl
  exact htl

theorem batchWrites_insert (pubkey pair : String) (uuid : Uuid)
    (order : OrderbookItem) (key : OrderKey) :
    batchWrites [.insert pubkey pair uuid order] key =
      if key = ((pubkey, pair), uuid) then some true else none := by
  obtain ⟨key, u⟩ := key
  by_cases hkey : (pubkey, pair) = key
  · subst hkey
    simp [batchWrites, groupFor, insertsFor, removesFor, insertAt, removeAt]
  · have hne : ¬(key = (pubkey, pair) ∧ u = uuid) := fun h => hkey h.1.symm
    simp [batchWrites, groupFor, insertsFor, removesFor, insertAt, removeAt, hkey, hne]

theorem tells_indexInsertOrUpdate (h : OneOwner owner ob) {order : OrderbookItem}
    (hown : owner order.uuid = (order.pubkey, order.base, order.rel)) :
    Tells owner ob (ob.indexInsertOrUpdate order) := by
  refine ⟨forall_indexInsertOrUpdate h fun _ _ => ⟨rfl, hown⟩, ?_⟩
  -- the order was cancelled lately, is inserted, or is refused and removed
  rcases indexInsertOrUpdate_cases ob order with ⟨-, he⟩ | ⟨-, -, he⟩ | ⟨-, -, he⟩
  · rw [he]
    exact (tells_nothing h rfl).indexed_eq
  · rw [he]
    have hset := indexInsertOrUpdateInner_orderSet ob order
    funext ⟨key, u⟩
    rw [overwrite, batchWrites_insert]
    by_cases hu : u = order.uuid
    · subst hu
      have hnew : (indexInsertOrUpdateInner ob order).orderSet.lookup order.uuid = some order := by
        rw [hset, lookup_insert]
      rw [indexed_of_lookup hnew]
      by_cases hkey : (order.pubkey, albOrderedPair order.base order.rel) = key
      · simp [hkey]
      · -- an order replaced by this one is under the same key
        have hold : indexed ob (key, order.uuid) = false := by
          cases ho : ob.orderSet.lookup order.uuid with
          | none => rw [indexed, ho]
          | some o =>
            have hsa := (h order.uuid o ho).2.symm.trans hown
            rw [indexed_of_lookup ho, decide_eq_false_iff_not]
            obtain ⟨hp, hbr⟩ := Prod.mk.inj hsa
            obtain ⟨hb, hr⟩ := Prod.mk.inj hbr
            rw [hp, hb, hr]
            exact hkey
        simp [hkey, Ne.symm hkey, hold]
    · simp [hu, indexed, lookup_insert_of_ne _ hu]
  · rw [he]
    exact (tells_indexRemove h order.uuid).indexed_eq

/-! ## Runs -/

/-- A uuid is used by its owner. -/
def UsedByOwner (owner : Owner) : NodeEvent H → Prop
  | .created fromPubkey msg => owner msg.uuid = (fromPubkey, msg.base, msg.rel)
  | .insertMy item _ => owner item.uuid = (item.pubkey, item.base, item.rel)
  | _ => True

/-- What has to hold for an event, in the state it meets. -/
def InOrder (node : Node H) : NodeEvent H → Prop
  /- The batch says nothing else about an order than the batches it overtakes. -/
  | .send i => ∀ batch, node.unsent[i]? = some batch →
      ∀ overtaken ∈ node.unsent.take i, Compatible (batchWrites overtaken) (batchWrites batch)
  /- The sweep has seen all orders of the pubkeys it removes. -/
  | .sweep => ∀ stale, node.stale = some stale → ∀ u o, node.orderbook.orderSet.lookup u = some o →
      o.pubkey ∈ stale.pubkeys → u ∈ stale.uuids
  | _ => True

/-- The store tracks exactly the orders of the book, and has a state for everyone who has one. -/
structure Agree (node : Node H) : Prop where
  ordersUuids : ∀ pubkey u pair, (u, pair) ∈ ordersUuidsOf node.trieStore pubkey ↔
    ∃ o, node.orderbook.orderSet.lookup u = some o ∧ o.pubkey = pubkey ∧
      albOrderedPair o.base o.rel = pair
  pubkeyState : ∀ u o, node.orderbook.orderSet.lookup u = some o →
    o.pubkey ∈ node.trieStore.pubkeysState

/-- The invariant: after all batches on their way, the store tracks what the book has. -/
structure OnTheWay (owner : Owner) (node : Node H) : Prop where
  oneOwner : OneOwner owner node.orderbook
  caughtUp : replay (tracked node.trieStore) ((node.channel ++ node.unsent).map batchWrites) =
    indexed node.orderbook

omit [DecidableEq H] in
theorem OnTheWay.change (h : OnTheWay owner node) {result : Orderbook × List TrieOp}
    (htl : Tells owner node.orderbook result) : OnTheWay owner (node.change result) := by
  refine ⟨htl.oneOwner, ?_⟩
  have heq := htl.indexed_eq
  rw [← h.caughtUp] at heq
  unfold Node.change
  rw [heq]
  cases hops : result.2 with
  | nil =>
    have hnil : batchWrites [] = fun _ => none := funext batchWrites_nil
    rw [hnil]
    rfl
  | cons op ops =>
    simp only [isEmpty_cons, Bool.false_eq_true, ↓reduceIte]
    rw [← append_assoc, map_append, replay_append]
    rfl

/-- A batch that reaches the channel out of turn. -/
theorem replay_send (s : OrderKey → Bool) (channel unsent : List (List TrieOp)) {i : Nat}
    {batch : List TrieOp} (hbat : unsent[i]? = some batch)
    (hok : ∀ overtaken ∈ unsent.take i, Compatible (batchWrites overtaken) (batchWrites batch)) :
    replay s (((channel ++ [batch]) ++ unsent.eraseIdx i).map batchWrites) =
      replay s ((channel ++ unsent).map batchWrites) := by
  obtain ⟨hi, hget⟩ := List.getElem?_eq_some_iff.1 hbat
  have hsp : unsent = unsent.take i ++ batch :: unsent.drop (i + 1) := by
    rw [← hget, getElem_cons_drop, take_append_drop]
  have hcm : ∀ w ∈ (unsent.take i).map batchWrites, Compatible w (batchWrites batch) := by
    intro w hw
    obtain ⟨overtaken, hmem, rfl⟩ := List.mem_map.1 hw
    exact hok overtaken hmem
  -- batches that write different orders can change places
  have hovr := replay_overtake (replay s (channel.map batchWrites)) hcm
  calc replay s (((channel ++ [batch]) ++ unsent.eraseIdx i).map batchWrites)
      = replay (replay (overwrite (replay s (channel.map batchWrites)) (batchWrites batch))
          ((unsent.take i).map batchWrites)) ((unsent.drop (i + 1)).map batchWrites) := by
        rw [eraseIdx_eq_take_drop_succ]
        simp only [map_append, replay_append]
        rfl
    _ = replay (overwrite (replay (replay s (channel.map batchWrites))
          ((unsent.take i).map batchWrites)) (batchWrites batch))
          ((unsent.drop (i + 1)).map batchWrites) := by
        rw [hovr]
    _ = replay s ((channel ++ unsent).map batchWrites) := by
        conv_rhs => rw [hsp]
        simp only [map_append, map_cons, replay_append]
        rfl

/-- **Every event keeps the store up to date but for what is on its way.** -/
theorem onTheWay_step (th : PairHash H) (h : OnTheWay owner node)
    {event : NodeEvent H} (howner : UsedByOwner owner event) (hok : InOrder node event) :
    OnTheWay owner (node.step th event) := by
  cases event with
  | created fromPubkey msg => exact h.change (tells_indexInsertOrUpdate h.oneOwner howner)
  | updated fromPubkey msg =>
    -- the pubkey and the pair of an updated order stay those of its owner
    refine h.change ?_
    unfold processMakerOrderUpdated
    split
    · rename_i order ho
      obtain ⟨hu, hown⟩ := h.oneOwner msg.uuid order (Option.filter_eq_some_iff.1 ho).1
      exact tells_indexInsertOrUpdate h.oneOwner (hu ▸ hown : owner order.uuid = _)
    · exact tells_nothing h.oneOwner rfl
  | cancelled now fromPubkey uuid =>
    refine h.change ?_
    -- an order is removed for its owner; the cache of cancelled orders is not in the store
    unfold deleteOrder
    dsimp only
    split
    · split
      · have h' : OneOwner owner { node.orderbook with recentlyCancelled :=
          (node.orderbook.recentlyCancelled.insert now uuid fromPubkey).1 } := h.oneOwner
        obtain ⟨howner, heq⟩ := tells_indexRemove h' uuid
        exact ⟨howner, heq⟩
      · exact tells_nothing h.oneOwner rfl
    · exact tells_nothing h.oneOwner rfl
  | insertMy item p2pPubkey =>
    have htl := tells_indexInsertOrUpdate h.oneOwner howner
    refine h.change ?_
    -- the keys of this node are noted in the book beside the orders
    unfold insertOrUpdateMyOrder
    dsimp only
    split
    · exact htl.of_orderSet_eq rfl
    · exact htl
  | updatedMy msg =>
    refine h.change ?_
    unfold processMyMakerOrderUpdated findOrderByUuid
    split
    · rename_i order ho
      obtain ⟨hu, hown⟩ := h.oneOwner msg.uuid order ho
      exact tells_indexInsertOrUpdate h.oneOwner (hu ▸ hown : owner order.uuid = _)
    · exact tells_nothing h.oneOwner rfl
  | deleteMy uuid p2pPubkey =>
    have htl := tells_indexRemove h.oneOwner uuid
    refine h.change ?_
    unfold deleteMyOrder
    split
    · exact htl.of_orderSet_eq rfl
    · exact htl
  | keepAlive iter clock fromPubkey message iAmRelay isSubscribed =>
    refine ⟨h.oneOwner, ?_⟩
    -- comparing roots changes no trie
    have htr := tracked_prepareSyncRequestForKeepAlive th iter clock node.trieStore fromPubkey
      message iAmRelay isSubscribed
    simp only [step, htr]
    exact h.caughtUp
  | send i =>
    -- a batch may overtake another if they agree on the orders of both
    simp only [step]
    split
    · rename_i batch hbat
      exact ⟨h.oneOwner, (replay_send _ _ _ hbat (hok batch hbat)).trans h.caughtUp⟩
    · exact h
  | work env =>
    simp only [step]
    split
    · exact h
    · rename_i batch rest hch
      -- the first batch of the channel moves on into the tries
      refine ⟨h.oneOwner, ?_⟩
      have hcg := h.caughtUp
      rw [hch] at hcg
      rw [tracked_applyOps]
      exact hcg
  | scan env =>
    -- what was scanned is only remembered
    simp only [step]
    split
    · exact ⟨h.oneOwner, h.caughtUp⟩
    · exact h
  | sweep =>
    simp only [step]
    split
    · rename_i stale hst
      obtain ⟨how', hcg⟩ := h.change (tells_removeStale h.oneOwner stale (hok stale hst))
      exact ⟨how', hcg⟩
    · exact h

omit [DecidableEq H] in
theorem onTheWay_start (owner : Owner) : OnTheWay owner (start : Node H) where
  oneOwner := by
    intro u o ho
    simp [start, Orderbook.default] at ho
  caughtUp := by
    funext key
    simp [start, replay, tracked, ordersUuidsOf, TrieStore.default, indexed, Orderbook.default]

omit [DecidableEq H] in
/-- With nothing on its way the store agrees with the book. -/
theorem OnTheWay.agree (h : OnTheWay owner node) (hqs : node.Quiescent) : Agree node := by
  have hsa : tracked node.trieStore = indexed node.orderbook := by
    have hcg := h.caughtUp
    rw [hqs.1, hqs.2] at hcg
    exact hcg
  have hmem : ∀ pubkey u pair, (u, pair) ∈ ordersUuidsOf node.trieStore pubkey ↔
      ∃ o, node.orderbook.orderSet.lookup u = some o ∧ o.pubkey = pubkey ∧
        albOrderedPair o.base o.rel = pair := by
    intro pubkey u pair
    have hkey := congrFun hsa ((pubkey, pair), u)
    rw [tracked, Bool.eq_iff_iff, decide_eq_true_iff] at hkey
    refine hkey.trans ⟨exists_of_indexed, ?_⟩
    rintro ⟨o, ho, rfl, rfl⟩
    rw [indexed_of_lookup ho]
    exact decide_eq_true rfl
  refine ⟨hmem, fun u o ho => ?_⟩
  have hin := (hmem o.pubkey u (albOrderedPair o.base o.rel)).2 ⟨o, ho, rfl, rfl⟩
  by_contra hno
  rw [ordersUuidsOf, lookup_eq_none.2 hno] at hin
  cases hin

/-- **In every run whose steps are in order, the book and the store agree whenever nothing is on its
way.** -/
theorem agree_always_of_inOrder (th : PairHash H) (owner : Owner)
    (events : List (NodeEvent H)) (howner : ∀ event ∈ events, UsedByOwner owner event)
    (hok : Guarded (step th) InOrder start events) :
    Always (step th) (fun node => node.Quiescent → Agree node) start events := by
  have hbt : Guarded (step th)
    (fun node event => UsedByOwner owner event ∧ InOrder node event)
      start events := hok.imp fun node event hev hin => ⟨howner event hev, hin⟩
  have hal : Always (step th) (OnTheWay owner) start events :=
    Always.of_guarded (fun _ _ h hgr => onTheWay_step th h hgr.1 hgr.2) (onTheWay_start owner) hbt
  exact hal.mono fun node h => h.agree

/-- A sweep at a time when pubkeys not heard of for two minutes are stale. -/
def lateScan : ScanEnv :=
  { pubkeys := .sortedBy id Function.injective_id
    uuids := fun _ => .sortedBy (fun e => toLex (e.2, e.1.toNat)) fun a b h => by
      obtain ⟨hpr, hud⟩ := Prod.mk.inj (toLex.injective h)
      exact Prod.ext (BitVec.eq_of_toNat_eq hud) hpr
    myPubkey := "M"
    makerOrderTimeout := 120
    nowMs := 200000 }

/-- `P` has an order, is not heard of for a while, and is swept away. -/
def sweptRun : List (NodeEvent (Option PairOrders)) :=
  [.created "P" (smallOrder 1), .send 0, .work plainBatch, .scan lateScan, .sweep, .send 0,
    .work plainBatch]

theorem agree_always_sweptRun :
    Always (step TrieHash.plain) (fun node => node.Quiescent → Agree node)
      start sweptRun := by
  refine agree_always_of_inOrder TrieHash.plain (fun _ => ("P", "KMD", "BTC")) sweptRun ?_ ?_
  · simp [sweptRun, UsedByOwner, smallOrder]
  · refine ⟨trivial, ?_, trivial, trivial, ?_, ?_, trivial, trivial⟩
    · intro batch _ overtaken hov
      cases hov
    · -- the one order in the book is the one the sweep has read
      rintro stale hst u o ho -
      cases hst
      by_cases hu : u = 1
      · subst hu
        decide +kernel
      · have hone : lookup u (insert (1 : Uuid) ((smallOrder 1).toItem "P")
            (∅ : HashMap Uuid OrderbookItem)) = some o := ho
        rw [lookup_insert_of_ne _ hu] at hone
        cases hone
    · intro batch _ overtaken hov
      cases hov

/-- The same, but `P` announces another order while the sweep is between its two halves. -/
def staleSweepRun : List (NodeEvent (Option PairOrders)) :=
  [.created "P" (smallOrder 1), .send 0, .work plainBatch, .scan lateScan,
    .created "P" (smallOrder 2), .send 0, .work plainBatch, .sweep, .send 0, .work plainBatch]

theorem staleSweepRun_disagrees :
    let node := staleSweepRun.foldl (step TrieHash.plain) start
    (∀ event ∈ staleSweepRun, UsedByOwner (fun _ => ("P", "KMD", "BTC")) event) ∧
      node.Quiescent ∧ node.orderbook.orderSet.lookup 2 = some ((smallOrder 2).toItem "P") ∧
      node.trieStore.pubkeysState.lookup "P" = none ∧
      ¬Always (step TrieHash.plain) (fun node => node.Quiescent → Agree node)
        start staleSweepRun := by
  intro node
  have hqs : node.Quiescent := by
    have h : node.channel.isEmpty ∧ node.unsent.isEmpty := by decide +kernel
    exact ⟨List.isEmpty_iff.1 h.1, List.isEmpty_iff.1 h.2⟩
  have hsto : node.orderbook.orderSet.lookup 2 = some ((smallOrder 2).toItem "P") := by
    decide +kernel
  have hgn : "P" ∉ node.trieStore.pubkeysState := by decide +kernel
  refine ⟨by simp [staleSweepRun, UsedByOwner, smallOrder], hqs, hsto,
    lookup_eq_none.2 hgn, fun hal => ?_⟩
  exact hgn ((hal.last hqs).pubkeyState 2 _ hsto)

end CheetahDex.Proof
