import CheetahDex.Proof.StoredOrders
import CheetahDex.Proof.StoreRuns
import CheetahDex.Proof.SyncAnswer

/-!
# When keep-alive synchronisation converges

The request for the orders of a keep-alive names the root of the *keep-alive*, and the asked node
reads it as the state the asking node is in. If its history reaches back to that root, it answers
with the changes since then, and these are applied to whatever the asking node has. So the two nodes
agree afterwards only if they agreed on everything the changes do not mention to begin with.

More gets in the way. A remembered cancellation makes the asking node skip an order. The orders of a
full answer come from the book of the asked node, not from its trie. And a request is for several
pairs: a uuid that the changes of one pair remove is removed from the pair where the asking node's
book has it, and what a full answer lists goes to the pair of the order in the book.
-/

namespace CheetahDex.Proof

open Lib Common Ordermatch Orderbook TrieStore List Option Finmap TrieHash OrderbookItem Prod

variable {H : Type} [DecidableEq H]

/-! ## What a batch leaves in the trie -/

variable {key : PairKey} {ops : List TrieOp} {u : Uuid} {x : OrderbookP2PItem}
  {y : Option OrderbookP2PItem} {root : H} {st : TrieStore H}

theorem lookup_foldl_erase (uuids : List Uuid) (c : PairOrders) :
    (uuids.foldl (fun c uuid => c.erase uuid) c).lookup u =
      if u ∈ uuids then none else c.lookup u := by
  induction uuids generalizing c with
  | nil => simp
  | cons uuid uuids ih =>
    rw [foldl_cons, ih, HashMap.lookup_erase_ite]
    by_cases hu : u = uuid <;> simp [hu]

/-- The record the last insertion of a uuid leaves there. -/
def inserted (key : PairKey) (ops : List TrieOp) (u : Uuid) : Option OrderbookP2PItem :=
  ((insertsFor key ops).reverse.lookup u).map toP2P

theorem inserted_append (ops ops' : List TrieOp) :
    inserted key (ops ++ ops') u = (inserted key ops' u).or (inserted key ops u) := by
  simp only [inserted, insertsFor, filterMap_append, reverse_append, lookup_append, map_or]

theorem mem_of_inserted (h : inserted key ops u = some x) :
    ∃ item, (u, item) ∈ insertsFor key ops ∧ item.toP2P = x := by
  obtain ⟨item, hit, rfl⟩ := map_eq_some_iff.1 h
  obtain ⟨l, l', hl, -⟩ := lookup_eq_some_iff.1 hit
  exact ⟨item, mem_reverse.1 (hl ▸ by simp), rfl⟩

theorem inserted_ne_none {item : OrderbookItem} (h : (u, item) ∈ insertsFor key ops) :
    inserted key ops u ≠ none := by
  rw [inserted, Ne, map_eq_none_iff, lookup_eq_none_iff]
  exact fun hall => by simpa using hall _ (mem_reverse.2 h)

theorem lookup_foldl_insertP2P (entries : List (Uuid × OrderbookItem)) (c : PairOrders) :
    (entries.foldl (fun c e => c.insert e.1 e.2.toP2P) c).lookup u =
      ((entries.reverse.lookup u).map toP2P).or (c.lookup u) := by
  induction entries generalizing c with
  | nil => simp
  | cons e entries ih =>
    obtain ⟨w, item⟩ := e
    rw [foldl_cons, ih, reverse_cons, lookup_append, HashMap.lookup_insert_ite, map_or,
      Option.or_assoc]
    by_cases hu : u = w
    · simp [hu]
    · simp [hu, lookup_cons, beq_false_of_ne hu]

/-- What a batch makes of the orders of a pair. -/
def batched (key : PairKey) (ops : List TrieOp) (c : PairOrders) : PairOrders :=
  groupResult (groupFor key ops) c

/-- A batch leaves nothing under a uuid it removes, and otherwise the last record it inserts, or the
old one unless the pair is reset. -/
theorem lookup_batched (ops : List TrieOp) (c : PairOrders) :
    (batched key ops c).lookup u = if u ∈ removesFor key ops then none
      else (inserted key ops u).or (if .clearPair key.1 key.2 ∈ ops then none else c.lookup u) := by
  rw [batched, groupResult, lookup_foldl_erase, lookup_foldl_insertP2P]
  by_cases hclr : .clearPair key.1 key.2 ∈ ops <;> simp [groupFor, inserted, hclr]

theorem eq_iff_lookup {c c' : PairOrders} : c = c' ↔ ∀ u, c.lookup u = c'.lookup u :=
  ⟨fun h _ => by rw [h], ext_lookup⟩

/-! ## The operations a synchronisation answer produces -/

variable (res : SyncPubkeyOrderbookStateRes)

abbrev Changes := List (Uuid × Option OrderbookP2PItem)

/-- The changes name the uuids of their own orders, and the book accepts these. -/
def GoodChanges (changes : Changes) : Prop :=
  ∀ u x, (u, some x) ∈ changes → x.uuid = u ∧ Accepts (res.item u x)

variable (ob : Orderbook)

/-- The operation of a change: a removal if the book knows the order, an insertion if it does not
remember the order as cancelled. -/
def changeOp : Uuid × Option OrderbookP2PItem → Option TrieOp
  | (u, none) =>
    (ob.orderSet.lookup u).map fun o => .remove o.pubkey (albOrderedPair o.base o.rel) u
  | (u, some x) =>
    if ob.recentlyCancelled.get u = some x.pubkey then none
    else some (.insert x.pubkey (albOrderedPair x.base x.rel) u (res.item u x))

section entry

variable {w : Uuid} (hgd : ∀ x, y = some x → x.uuid = w ∧ Accepts (res.item w x))

include hgd

theorem processDeltaEntry_ops :
    (processDeltaEntry res ob (w, y)).2 = (changeOp res ob (w, y)).toList := by
  cases y with
  | none =>
    simp only [processDeltaEntry, changeOp]
    cases ho : ob.orderSet.lookup w with
    | none => simp [indexRemove_of_absent ho]
    | some order => simp [indexRemove_of_lookup ho]
  | some x =>
    obtain ⟨rfl, hacc⟩ := hgd x rfl
    -- skipped as recently cancelled, or stored; an order that is listed is always acceptable
    rcases indexInsertOrUpdate_cases ob (res.item x.uuid x) with ⟨hc, he⟩ | ⟨hc, -, he⟩ | ⟨-, ha, -⟩
    · have hop : changeOp res ob (x.uuid, some x) = none := if_pos hc
      rw [processDeltaEntry, he, hop]
      rfl
    · have hop : changeOp res ob (x.uuid, some x) = some _ := if_neg hc
      rw [processDeltaEntry, he, hop]
      rfl
    · exact absurd hacc ha

/-- A change leaves the operations of changes with other uuids alone. -/
theorem changeOp_processDeltaEntry {e : Uuid × Option OrderbookP2PItem} (hne : e.1 ≠ w) :
    changeOp res (processDeltaEntry res ob (w, y)).1 e = changeOp res ob e := by
  obtain ⟨hcan, hlk⟩ :
      (processDeltaEntry res ob (w, y)).1.recentlyCancelled = ob.recentlyCancelled ∧
      (processDeltaEntry res ob (w, y)).1.orderSet.lookup e.1 = ob.orderSet.lookup e.1 := by
    cases y with
    | none =>
      refine ⟨indexRemove_recentlyCancelled ob w, ?_⟩
      exact (indexRemove_orderSet_lookup ob w e.1).trans (if_neg hne)
    | some x =>
      obtain ⟨hud, hacc⟩ := hgd x rfl
      refine ⟨indexInsertOrUpdate_recentlyCancelled ob _, ?_⟩
      simp only [processDeltaEntry]
      rcases indexInsertOrUpdate_cases ob (res.item w x) with ⟨-, he⟩ | ⟨-, -, he⟩ | ⟨-, ha, -⟩
      · rw [he]
      · rw [he]
        exact lookup_insert_of_ne _ fun h => hne (h.trans hud)
      · exact absurd hacc ha
  obtain ⟨u, _ | x⟩ := e
  · exact congrArg (Option.map _) hlk
  · simp only [changeOp, hcan]

end entry

variable {changes : Changes}

/-- Each uuid has one change, so the changes do not see each other. -/
theorem processTrieDelta_ops (hnd : (changes.map fst).Nodup)
    (hgd : GoodChanges res changes) :
    (processTrieDelta res ob changes).2 = changes.filterMap (changeOp res ob) := by
  induction changes generalizing ob with
  | nil => rfl
  | cons e changes ih =>
    obtain ⟨w, y⟩ := e
    rw [map_cons, nodup_cons] at hnd
    have hfst : ∀ x, y = some x → x.uuid = w ∧ Accepts (res.item w x) := by
      rintro x rfl
      exact hgd w x mem_cons_self
    have hr := ih (processDeltaEntry res ob (w, y)).1 hnd.2
      fun u x hmem => hgd u x (mem_cons_of_mem _ hmem)
    have he : changes.filterMap (changeOp res (processDeltaEntry res ob (w, y)).1) =
        changes.filterMap (changeOp res ob) := by
      refine filterMap_congr fun e he => changeOp_processDeltaEntry res ob hfst ?_
      exact fun hw => hnd.1 (List.mem_map.2 ⟨e, he, hw⟩)
    have hops := processDeltaEntry_ops res ob hfst
    change (processDeltaEntry res ob (w, y)).2 ++ (processTrieDelta res _ changes).2 = _
    rw [hr, he, hops, filterMap_cons]
    cases changeOp res ob (w, y) <;> rfl

/-! ## What the operations leave in the trie -/

section Outcome

/-- The change is made to the orders of this pubkey and pair: a removal if the book knows the order
as one of them, an insertion if it is one of them and not remembered as cancelled. -/
def Applies (ob : Orderbook) (key : PairKey) (u : Uuid) : Option OrderbookP2PItem → Prop
  | none => ∃ o, ob.orderSet.lookup u = some o ∧ key = (o.pubkey, albOrderedPair o.base o.rel)
  | some x => key = (x.pubkey, albOrderedPair x.base x.rel) ∧
      ob.recentlyCancelled.get u ≠ some x.pubkey

variable {res ob}

theorem removesFor_changes : u ∈ removesFor key (changes.filterMap (changeOp res ob)) ↔
    (u, none) ∈ changes ∧ Applies ob key u none := by
  obtain ⟨pubkey, pair⟩ := key
  rw [mem_removesFor, mem_filterMap]
  constructor
  · rintro ⟨⟨w, _ | x⟩, hin, he⟩
    · obtain ⟨o, ho, ⟨⟩⟩ := map_eq_some_iff.1 he
      exact ⟨hin, o, ho, rfl⟩
    · simp [changeOp] at he
  · rintro ⟨hin, o, ho, ⟨⟩⟩
    exact ⟨_, hin, by simp [changeOp, ho]⟩

theorem insertsFor_changes {item : OrderbookItem} :
    (u, item) ∈ insertsFor key (changes.filterMap (changeOp res ob)) ↔
      ∃ x, (u, some x) ∈ changes ∧ item = res.item u x ∧ Applies ob key u (some x) := by
  obtain ⟨pubkey, pair⟩ := key
  rw [mem_insertsFor, mem_filterMap]
  constructor
  · rintro ⟨⟨w, _ | x⟩, hin, he⟩
    · simp [changeOp] at he
    · obtain ⟨hnot, ⟨⟩⟩ := ite_none_left_eq_some.1 he
      exact ⟨x, hin, rfl, rfl, hnot⟩
  · rintro ⟨x, hin, rfl, ⟨⟩, hnot⟩
    exact ⟨_, hin, if_neg hnot⟩

theorem clearPair_not_mem_changes {pubkey pair : String} :
    .clearPair pubkey pair ∉ changes.filterMap (changeOp res ob) := by
  rw [mem_filterMap]
  rintro ⟨⟨w, _ | x⟩, -, he⟩
  · simp [changeOp] at he
  · simp [changeOp] at he

theorem inserted_changes (h : inserted key (changes.filterMap (changeOp res ob)) u = some x) :
    (u, some x) ∈ changes ∧ Applies ob key u (some x) := by
  obtain ⟨item, hit, rfl⟩ := mem_of_inserted h
  obtain ⟨x, hx, rfl, hap⟩ := insertsFor_changes.1 hit
  exact ⟨hx, hap⟩

theorem inserted_eq_none_of_remove (hnd : (changes.map fst).Nodup) (u : Uuid)
    (hr : u ∈ removesFor key (changes.filterMap (changeOp res ob))) :
    inserted key (changes.filterMap (changeOp res ob)) u = none :=
  eq_none_iff_forall_ne_some.2 fun _ hx => nomatch congrArg snd (inj_on_of_nodup_map
    hnd (inserted_changes hx).1 (removesFor_changes.1 hr).1 rfl)

variable (res ob) (c : PairOrders)

/-- A uuid the changes do not mention. -/
theorem lookup_changes_of_not_mem (hu : u ∉ changes.map fst) :
    (batched key (changes.filterMap (changeOp res ob)) c).lookup u = c.lookup u := by
  have hnot {y : Option OrderbookP2PItem} (hy : (u, y) ∈ changes) : False :=
    hu (List.mem_map_of_mem hy)
  have hn : inserted key (changes.filterMap (changeOp res ob)) u = none :=
    eq_none_iff_forall_ne_some.2 fun _ h => hnot (inserted_changes h).1
  rw [lookup_batched, if_neg fun hr => hnot (removesFor_changes.1 hr).1,
    if_neg clearPair_not_mem_changes, hn, none_or]

open Classical in
/-- A uuid the changes mention ends as the change says, if it is made. -/
theorem lookup_changes_of_mem (hnd : (changes.map fst).Nodup) (hu : (u, y) ∈ changes) :
    (batched key (changes.filterMap (changeOp res ob)) c).lookup u =
      if Applies ob key u y then y else c.lookup u := by
  have he {y' : Option OrderbookP2PItem} (hy' : (u, y') ∈ changes) : y' = y :=
    congrArg snd (inj_on_of_nodup_map hnd hy' hu rfl)
  have hrm : u ∈ removesFor key (changes.filterMap (changeOp res ob)) ↔
      y = none ∧ Applies ob key u none := by
    rw [removesFor_changes]
    exact and_congr_left' ⟨fun hn => (he hn).symm, fun hn => hn ▸ hu⟩
  rw [lookup_batched, if_neg clearPair_not_mem_changes, if_congr hrm rfl rfl]
  cases hi : inserted key (changes.filterMap (changeOp res ob)) u with
  | some x =>
    obtain ⟨hx, hap⟩ := inserted_changes hi
    obtain rfl := he hx
    simp [hap]
  | none =>
    cases y with
    | none => simp
    | some x =>
      have hnot : ¬Applies ob key u (some x) := fun hap =>
        inserted_ne_none (insertsFor_changes.2 ⟨x, hu, rfl, hap⟩) hi
      simp [hnot]

/-- **When changes lead to the orders `theirs`**: these are there already where nothing is said or a
change is not made, and every change that is made leads there. -/
theorem changes_converge_iff (hnd : (changes.map fst).Nodup) {theirs : PairOrders} :
    batched key (changes.filterMap (changeOp res ob)) c = theirs ↔
      (∀ u, u ∉ changes.map fst → c.lookup u = theirs.lookup u) ∧
      ∀ u y, (u, y) ∈ changes → (Applies ob key u y → y = theirs.lookup u) ∧
        (¬Applies ob key u y → c.lookup u = theirs.lookup u) := by
  rw [eq_iff_lookup]
  constructor
  · refine fun h => ⟨fun u hu => ?_, fun u y hy => ?_⟩
    · rw [← h u, lookup_changes_of_not_mem res ob c hu]
    · rw [← h u, lookup_changes_of_mem res ob c hnd hy]
      exact ⟨fun hap => (if_pos hap).symm, fun hap => (if_neg hap).symm⟩
  · rintro ⟨hout, hin⟩ u
    by_cases hu : u ∈ changes.map fst
    · obtain ⟨⟨u, y⟩, hy, rfl⟩ := List.mem_map.1 hu
      rw [lookup_changes_of_mem res ob c hnd hy]
      split
      · exact (hin u y hy).1 ‹_›
      · exact (hin u y hy).2 ‹_›
    · rw [lookup_changes_of_not_mem res ob c hu, hout u hu]

end Outcome

/-! ## The condition -/

/-- When the changes `delta` bring a node with the orders `own` to the orders `theirs`. -/
structure DeltaSuffices (ob : Orderbook) (key : PairKey) (own theirs : PairOrders)
    (delta : OrdersDelta) : Prop where
  /-- The nodes agree where the changes say nothing. -/
  unmentioned : ∀ u, u ∉ delta.map fst → own.lookup u = theirs.lookup u
  /-- A removed order is not there, or the book knows it as what it is. -/
  removed : ∀ u ∈ delta.map fst, theirs.lookup u = none → own.lookup u = none ∨
    ∃ o, ob.orderSet.lookup u = some o ∧ key = (o.pubkey, albOrderedPair o.base o.rel)
  /-- An order remembered as cancelled is there already. -/
  cancelled : ∀ u ∈ delta.map fst, ∀ x, theirs.lookup u = some x →
    ob.recentlyCancelled.get u = some key.1 → own.lookup u = some x

/-- The book of the asked node has the record, and it is not remembered as cancelled. -/
def Offered (asked : Orderbook) (cancelled : TimeCache Uuid String) (pubkey : String) (u : Uuid)
    (x : OrderbookP2PItem) : Prop :=
  (asked.orderSet.lookup u).map toP2P = some x ∧ cancelled.get u ≠ some pubkey

variable {th : PairHash H} {pubkey albPair : String} {delta : OrdersDelta}

/-- What the history of the asked node says about its orders. -/
theorem StoreInv.historyLeads (h : StoreInv th st)
    (hld : HistoryLeads th st pubkey albPair root delta) :
    (∀ u z, (extendDelta ∅ delta).lookup u = some z →
      (contents th st pubkey albPair).lookup u = z.map toP2P) ∧
    ∀ u order, (u, some order) ∈ delta → OrderOf pubkey albPair u order := by
  obtain ⟨ps, history, hps, hget, hld⟩ := hld
  have hok := (h.pubkeys pubkey ps hps).history _ _ hget
  obtain ⟨c, -, hl⟩ := hld.adds_up fun root diff hdf => (hok root diff hdf).1
  refine ⟨fun u z hz => ?_, fun u order hmem => ?_⟩
  swap
  · exact hld.forall_mem (Q := fun e => ∀ order ∈ e.2, OrderOf pubkey albPair e.1 order)
      (fun root diff hdf _ he order ho => (hok root diff hdf).2 _ order (by rwa [← ho]))
      _ hmem order rfl
  have hroot := h.rootOf_eq (hl ▸ th.root_ne_zero _)
  rw [th.root_injective (hroot.symm.trans hl),
    lookup_applyDelta c c ∅ delta (fun v => by simp [saysOrElse]) u, hz]
  cases z <;> rfl

variable (iter : Iteration Uuid)

/-- The changes a delta stands for, in the order they are gone through. -/
def deltaChanges (delta : OrdersDelta) : Changes :=
  iter.entries ((extendDelta ∅ delta).mapValues (Option.map toP2P))

theorem mem_deltaChanges : (u, y) ∈ deltaChanges iter delta ↔
    ∃ z, (extendDelta ∅ delta).lookup u = some z ∧ y = z.map toP2P := by
  rw [deltaChanges, Iteration.mem_entries, HashMap.lookup_mapValues, map_eq_some_iff]
  simp only [eq_comm]

theorem nodup_keys_deltaChanges : ((deltaChanges iter delta).map fst).Nodup :=
  iter.nodup_keys_entries _

theorem mem_of_lookup_extendDelta {z : Option OrderbookItem}
    (hz : (extendDelta ∅ delta).lookup u = some z) : (u, z) ∈ delta := by
  rcases lookup_extendDelta ∅ delta u with ⟨-, hn⟩ | ⟨-, x, hx, hs⟩
  · cases hz.symm.trans hn
  · rw [hz] at hs
    exact some.inj hs ▸ hx

theorem goodChanges_deltaChanges
    (hor : ∀ u order, (u, some order) ∈ delta → OrderOf pubkey albPair u order) :
    GoodChanges res (deltaChanges iter delta) := by
  intro u x hx
  obtain ⟨z, hz, hxz⟩ := (mem_deltaChanges iter).1 hx
  obtain ⟨order, rfl, rfl⟩ := map_eq_some_iff.1 hxz.symm
  have hord := hor u order (mem_of_lookup_extendDelta hz)
  exact ⟨hord.uuid_eq, hord.accepted⟩

variable {theirs : PairOrders}

theorem Records.of_pair (h : Records pubkey albPair theirs) (hx : theirs.lookup u = some x) :
    (pubkey, albPair) = (x.pubkey, albOrderedPair x.base x.rel) := by
  obtain ⟨order, hord, rfl⟩ := h u x hx
  exact Prod.ext hord.pubkey_eq.symm hord.albPair_eq.symm

/-- **Applying the changes since a root.** -/
theorem delta_converges_iff (h : StoreInv th st)
    (hld : HistoryLeads th st pubkey albPair root delta) (own : PairOrders) :
    batched (pubkey, albPair) ((deltaChanges iter delta).filterMap (changeOp res ob)) own =
        contents th st pubkey albPair ↔
      DeltaSuffices ob (pubkey, albPair) own (contents th st pubkey albPair) delta := by
  obtain ⟨hl, -⟩ := h.historyLeads hld
  have hrc := h.records pubkey albPair
  generalize contents th st pubkey albPair = theirs at hl hrc ⊢
  have hch {u : Uuid} {y : Option OrderbookP2PItem} : (u, y) ∈ deltaChanges iter delta ↔
      u ∈ delta.map fst ∧ y = theirs.lookup u := by
    rw [mem_deltaChanges]
    constructor
    · rintro ⟨z, hz, rfl⟩
      exact ⟨List.mem_map.2 ⟨_, mem_of_lookup_extendDelta hz, rfl⟩, (hl u z hz).symm⟩
    · rintro ⟨hu, rfl⟩
      rcases lookup_extendDelta ∅ delta u with ⟨hnot, -⟩ | ⟨-, z, -, hlo⟩
      · exact absurd hu hnot
      · exact ⟨z, hlo, hl u z hlo⟩
  have hky (u : Uuid) : u ∈ (deltaChanges iter delta).map fst ↔ u ∈ delta.map fst := by simp [hch]
  rw [changes_converge_iff res ob own (nodup_keys_deltaChanges iter)]
  simp only [hky, hch]
  constructor
  · rintro ⟨hout, hin⟩
    -- one case for the uuids the changes do not name, one for removals, one for insertions
    refine ⟨hout, fun u hu hn => ?_, fun u hu x hx hcan => ?_⟩
    · by_cases hap : Applies ob (pubkey, albPair) u none
      · exact .inr hap
      · exact .inl (((hin u _ ⟨hu, rfl⟩).2 (hn ▸ hap)).trans hn)
    · refine ((hin u _ ⟨hu, rfl⟩).2 fun hap => ?_).trans hx
      rw [hx] at hap
      exact hap.2 (hcan.trans (congrArg (some ·.1) hap.1))
  · rintro hsf
    refine ⟨hsf.unmentioned, fun u y ⟨hu, hy⟩ => ⟨fun _ => hy, fun hap => ?_⟩⟩
    cases hx : theirs.lookup u with rw [hy, hx] at hap
    | none => exact (hsf.removed u hu hx).resolve_right hap
    | some x =>
      have hpr := hrc.of_pair hx
      refine hsf.cancelled u hu x hx ?_
      by_contra hne
      exact hap ⟨hpr, fun hcan => hne (hcan.trans (congrArg (some ·.1) hpr.symm))⟩

variable (unordered : String × String → Iteration Uuid)

/-- A full answer is processed like changes that only insert, after the book has forgotten the
orders of the pair. -/
theorem processPubkeyFullTrie_ops (pubkey albPair : String)
    (orders : List (Uuid × OrderbookP2PItem)) :
    (processPubkeyFullTrie unordered res ob pubkey albPair orders).2 = .clearPair pubkey albPair ::
      (processTrieDelta res (ob.indexRemovePubkeyPairOrders unordered pubkey albPair)
        (orders.map fun e => (e.1, some e.2))).2 := by
  have hfl : ∀ ob : Orderbook,
      foldEmit (fun ob (e : Uuid × OrderbookP2PItem) => ob.indexInsertOrUpdate (res.item e.1 e.2))
        ob orders = foldEmit (processDeltaEntry res) ob (orders.map fun e => (e.1, some e.2)) := by
    induction orders with
    | nil => exact fun ob => rfl
    | cons e orders ih =>
      intro ob
      simp only [foldEmit, map_cons, processDeltaEntry, ih]
  simp only [processPubkeyFullTrie, processTrieDelta]
  rw [← hfl]

theorem indexRemovePubkeyPairOrders_recentlyCancelled (pubkey albPair : String) :
    (ob.indexRemovePubkeyPairOrders unordered pubkey albPair).recentlyCancelled =
      ob.recentlyCancelled :=
  removePairOrders_induction
    (P := fun ob' => ob'.recentlyCancelled = ob.recentlyCancelled)
    (fun ob' uuid _ h _ _ => (indexRemove_recentlyCancelled ob' uuid).trans h) unordered albPair rfl

/-- No answer makes the book forget a cancellation. -/
theorem processPairDiff_recentlyCancelled {res : SyncPubkeyOrderbookStateRes} (ob : Orderbook)
    (iter : SyncIteration) (pubkey : String) (turn : AlbOrderedOrderbookPair × PairAnswer)
    (htr : res.pairOrdersDiff.lookup turn.1 = some turn.2) :
    (processPairDiff iter res pubkey ob turn).1.recentlyCancelled = ob.recentlyCancelled :=
  processPairDiff_induction (P := fun ob' => ob'.recentlyCancelled = ob.recentlyCancelled)
    (fun ob' uuid h => (indexRemove_recentlyCancelled ob' uuid).trans h)
    (fun ob' _ _ _ h => (indexInsertOrUpdate_recentlyCancelled ob' _).trans h) rfl iter pubkey turn
    htr

variable {orders : List (Uuid × OrderbookItem)} {asked : Orderbook}

/-- The orders of a listing, as changes. -/
def fullChanges (orders : List (Uuid × OrderbookItem)) : Changes :=
  orders.map fun e => (e.1, some e.2.toP2P)

theorem mem_fullChanges :
    (u, y) ∈ fullChanges orders ↔ ∃ order, (u, order) ∈ orders ∧ y = some order.toP2P := by
  simp [fullChanges, eq_comm]

theorem keys_fullChanges : (fullChanges orders).map fst = orders.map fst := by
  rw [fullChanges, List.map_map]
  rfl

section FullListing

variable (h : FullListing asked theirs orders)

include h

theorem nodup_keys_fullChanges : ((fullChanges orders).map fst).Nodup :=
  keys_fullChanges.symm ▸ h.nodup

theorem FullListing.goodChanges (hsto : StoredOk asked) : GoodChanges res (fullChanges orders) := by
  intro u x hx
  obtain ⟨order, hin, he⟩ := mem_fullChanges.1 hx
  cases he
  exact hsto u order (h.stored u order hin)

variable {ob}

/-- **Listing the orders of the book of the asked node**, where nothing is there but such orders. -/
theorem full_converges_iff (hrc : Records pubkey albPair theirs) {rest : PairOrders}
    (hre : ∀ u x, rest.lookup u = some x → Offered asked ob.recentlyCancelled pubkey u x) :
    batched (pubkey, albPair) ((fullChanges orders).filterMap (changeOp res ob)) rest = theirs ↔
      (∀ u x, theirs.lookup u = some x → Offered asked ob.recentlyCancelled pubkey u x) ∧
        ∀ u, theirs.lookup u = none → rest.lookup u = none := by
  rw [changes_converge_iff res ob rest (nodup_keys_fullChanges h), keys_fullChanges]
  constructor
  · rintro ⟨hout, hin⟩
    refine ⟨fun u x hx => ?_, fun u hn => ?_⟩
    · obtain ⟨⟨u, order⟩, hor, rfl⟩ := List.mem_map.1 ((h.mem_uuid u).2 (mem_of_lookup_eq_some hx))
      obtain ⟨hmade, hsk⟩ := hin u _ (mem_fullChanges.2 ⟨order, hor, rfl⟩)
      by_cases hap : Applies ob (pubkey, albPair) u (some order.toP2P)
      · refine ⟨by rw [h.stored u order hor, map_some, hmade hap, hx], fun hcan => hap.2 ?_⟩
        exact hcan.trans (congrArg (some ·.1) hap.1)
      · exact hre u x ((hsk hap).trans hx)
    · exact (hout u (mt (h.mem_uuid u).1 (lookup_eq_none.1 hn))).trans hn
  · rintro ⟨hsf, hgn⟩
    refine ⟨fun u hu => ?_, fun u y hy => ?_⟩
    · have hn := lookup_eq_none.2 (mt (h.mem_uuid u).2 hu)
      rw [hn, hgn u hn]
    · obtain ⟨order, hor, rfl⟩ := mem_fullChanges.1 hy
      obtain ⟨x, hx⟩ := mem_iff.1 ((h.mem_uuid u).1 (mem_map_of_mem hor))
      obtain ⟨he, hnot⟩ := hsf u x hx
      rw [h.stored u order hor, map_some] at he
      have hpr := hrc.of_pair hx
      refine ⟨fun _ => he.trans hx.symm, fun hap => absurd ?_ hap⟩
      rw [he]
      exact ⟨hpr, fun hcan => hnot (hcan.trans (congrArg (some ·.1) hpr.symm))⟩

end FullListing

/-! ## The answers for other pairs -/

variable {cancelled : TimeCache Uuid String}

/-- What is inserted for the pair is what the book of the asked node has, and is not remembered as
cancelled. -/
def InsertsStored (asked : Orderbook) (cancelled : TimeCache Uuid String) (key : PairKey)
    (ops : List TrieOp) : Prop :=
  ∀ u item, (u, item) ∈ insertsFor key ops → Offered asked cancelled key.1 u item.toP2P

theorem InsertsStored.append {ops' : List TrieOp} (h : InsertsStored asked cancelled key ops)
    (h' : InsertsStored asked cancelled key ops') :
    InsertsStored asked cancelled key (ops ++ ops') := by
  intro u item hin
  rw [insertsFor, filterMap_append, mem_append] at hin
  exact hin.elim (h u item) (h' u item)

theorem InsertsStored.inserted (h : InsertsStored asked cancelled key ops)
    (hx : inserted key ops u = some x) : Offered asked cancelled key.1 u x := by
  obtain ⟨item, hit, rfl⟩ := mem_of_inserted hx
  exact h u item hit

/-- A value under a uuid: what is inserted last stays, unless it is removed. -/
theorem lookup_turns_iff {α : Type*} {later own earlier book theirs : Option α}
    {lost removed : Prop} [Decidable lost] [Decidable removed] (hown : removed → own = none)
    (hlt : ∀ x, later = some x → book = some x)
    (hch : ∀ x, own = some x → theirs = some x ∨ theirs ≠ none ∧ book = some x) :
    (if lost ∨ removed then none else later.or (own.or earlier)) = theirs ↔
      (if removed then none else own.or (if lost then none else later.or earlier)) = theirs ∧
        ∀ x, theirs = some x → ¬lost ∧ ∀ x', later = some x' → x' = x := by
  cases own with
  | none => by_cases hl : lost <;> by_cases hr : removed <;> cases later <;> simp [hl, hr] <;> grind
  | some x =>
    have hnot : ¬removed := fun hr => nomatch hown hr
    by_cases hl : lost <;> cases later <;> simp [hl, hnot] <;> grind

/-- **The answers for several pairs leave a pair with the orders `theirs` exactly if its own answer
does with what the others make of the pair, and the others leave alone what is to be there.** -/
theorem turns_converge_iff {before named after : List TrieOp} {c : PairOrders}
    {book : Uuid → Option OrderbookP2PItem} (hsl : .clearPair key.1 key.2 ∉ named)
    (haft : ∀ u x, inserted key after u = some x → book u = some x)
    (hrmd : ∀ u, u ∈ removesFor key named → inserted key named u = none)
    (hnm : ∀ u x, inserted key named u = some x →
      theirs.lookup u = some x ∨ theirs.lookup u ≠ none ∧ book u = some x) :
    batched key (before ++ named ++ after) c = theirs ↔
      batched key named (batched key (before ++ after) c) = theirs ∧
        ∀ u x, theirs.lookup u = some x → u ∉ removesFor key (before ++ after) ∧
          ∀ x', inserted key after u = some x' → x' = x := by
  rw [eq_iff_lookup, eq_iff_lookup, ← forall_and]
  refine forall_congr' fun u => ?_
  have hls : u ∈ removesFor key (before ++ named ++ after) ↔
      u ∈ removesFor key (before ++ after) ∨ u ∈ removesFor key named := by
    simp only [removesFor, filterMap_append, mem_append]
    grind
  have hrs : .clearPair key.1 key.2 ∈ before ++ named ++ after ↔
      .clearPair key.1 key.2 ∈ before ++ after := by
    simp only [mem_append, hsl, or_false]
  rw [lookup_batched, if_congr hls rfl rfl, if_congr hrs rfl rfl, inserted_append,
    inserted_append, Option.or_assoc, Option.or_assoc, lookup_batched named, if_neg hsl,
    lookup_batched, inserted_append, Option.or_assoc]
  exact lookup_turns_iff (hrmd u) (haft u) (hnm u)

section turn

variable {pair : AlbOrderedOrderbookPair} {diff : PairAnswer} (h : StoreInv th st)
  (hsto : StoredOk asked) (iter : SyncIteration)

include h in
theorem processPairDiff_delta_ops (hld : HistoryLeads th st pubkey pair root delta) :
    (processPairDiff iter res pubkey ob (pair,
        .delta ((extendDelta ∅ delta).mapValues (Option.map toP2P)))).2 =
      (deltaChanges (iter.delta pair) delta).filterMap (changeOp res ob) :=
  processTrieDelta_ops res ob (nodup_keys_deltaChanges _)
    (goodChanges_deltaChanges res _ (h.historyLeads hld).2)

include hsto in
/-- A full answer only inserts, so it makes no difference that the book has forgotten the pair. -/
theorem processPairDiff_full_ops (hlst : FullListing asked theirs orders) :
    (processPairDiff iter res pubkey ob (pair,
        .fullTrie (orders.map fun e => (e.1, e.2.toP2P)))).2 =
      .clearPair pubkey pair :: (fullChanges orders).filterMap (changeOp res ob) := by
  rw [processPairDiff, processPubkeyFullTrie_ops, List.map_map]
  refine congrArg (cons _) ((processTrieDelta_ops res _ (nodup_keys_fullChanges hlst)
    (hlst.goodChanges res hsto)).trans (filterMap_congr fun e he => ?_))
  obtain ⟨order, -, hs⟩ := mem_fullChanges.1 he
  rw [← mk.eta (p := e), hs]
  simp only [changeOp, indexRemovePubkeyPairOrders_recentlyCancelled]

include h hsto in
/-- The answer for another pair. A delta inserts orders of its own pair only. -/
theorem insertsStored_turn (han : Answers th asked st pubkey pair root diff)
    (hne : pair ≠ albPair) : InsertsStored asked ob.recentlyCancelled (pubkey, albPair)
      (processPairDiff iter res pubkey ob (pair, diff)).2 := by
  intro u item hop
  rcases han with ⟨delta, hld, rfl⟩ | ⟨-, orders, hlst, rfl⟩
  · rw [processPairDiff_delta_ops res ob h iter hld] at hop
    obtain ⟨x, hx, -, hpr, -⟩ := insertsFor_changes.1 hop
    obtain ⟨z, hz, hxz⟩ := (mem_deltaChanges _).1 hx
    obtain ⟨order, rfl, rfl⟩ := map_eq_some_iff.1 hxz.symm
    have hord := (h.historyLeads hld).2 u order (mem_of_lookup_extendDelta hz)
    exact absurd (hord.albPair_eq.symm.trans (congrArg snd hpr).symm) hne
  · rw [processPairDiff_full_ops res ob hsto iter hlst] at hop
    obtain ⟨x, hx, rfl, hpr, hnot⟩ := insertsFor_changes.1 hop
    obtain ⟨order, hin, hs⟩ := mem_fullChanges.1 hx
    cases hs
    refine ⟨congrArg (Option.map _) (hlst.stored u order hin), fun hcan => hnot ?_⟩
    exact hcan.trans (congrArg (some ·.1) hpr)

include h hsto in
theorem insertsStored_turns {turns : List (AlbOrderedOrderbookPair × PairAnswer)}
    (htu : ∀ turn ∈ turns, res.pairOrdersDiff.lookup turn.1 = some turn.2 ∧
      turn.1 ≠ albPair ∧ ∃ root, Answers th asked st pubkey turn.1 root turn.2) :
    let out := foldEmit (processPairDiff iter res pubkey) ob turns
    out.1.recentlyCancelled = ob.recentlyCancelled ∧
      InsertsStored asked ob.recentlyCancelled (pubkey, albPair) out.2 := by
  induction turns generalizing ob with
  | nil => exact ⟨rfl, nofun⟩
  | cons turn turns ih =>
    obtain ⟨⟨hlo, hne, root, han⟩, hr⟩ := forall_mem_cons.1 htu
    have hcan := processPairDiff_recentlyCancelled ob iter pubkey turn hlo
    obtain ⟨hl, hops⟩ := ih (processPairDiff iter res pubkey ob turn).1 hr
    rw [hcan] at hl hops
    exact ⟨hl, (insertsStored_turn res ob h hsto iter han hne).append hops⟩

end turn

/-- What an answer for several pairs does before and after it comes to one of them. -/
structure Turns where
  before : List TrieOp
  /-- The book when the turn of the pair comes. -/
  book : Orderbook
  after : List TrieOp

def turnsAround (iter : SyncIteration) (res : SyncPubkeyOrderbookStateRes) (pubkey : String)
    (ob : Orderbook) (albPair : AlbOrderedOrderbookPair) : Turns :=
  let entries := iter.pairs.entries res.pairOrdersDiff
  let first := foldEmit (processPairDiff iter res pubkey) ob (entries.takeWhile (·.1 ≠ albPair))
  let rest := entries.dropWhile (·.1 ≠ albPair)
  let own := foldEmit (processPairDiff iter res pubkey) first.1 (rest.take 1)
  ⟨first.2, first.1, (foldEmit (processPairDiff iter res pubkey) own.1 (rest.drop 1)).2⟩

/-- What the answers for the other pairs make of the orders of the pair. -/
def Turns.others (turns : Turns) (pubkey albPair : String) (c : PairOrders) : PairOrders :=
  batched (pubkey, albPair) (turns.before ++ turns.after) c

theorem removesFor_reset {before after : List TrieOp} {pubkey pair : String} :
    removesFor key (before ++ [.clearPair pubkey pair] ++ after) =
      removesFor key (before ++ after) := by
  simp [removesFor, filterMap_cons, removeAt]

/-- A pair that is reset. -/
theorem Turns.others_reset (turns : Turns) (c : PairOrders) :
    batched (pubkey, albPair) (turns.before ++ [.clearPair pubkey albPair] ++ turns.after) c =
      turns.others pubkey albPair ∅ := by
  refine ext_lookup fun u => ?_
  rw [Turns.others, lookup_batched, lookup_batched, removesFor_reset]
  simp [inserted, insertsFor, filterMap_cons, insertAt]

/-- The answers of a responder, gone through pair by pair. -/
theorem turnsAround_spec {asked : Orderbook} (ob : Orderbook) (iter : SyncIteration)
    {res : SyncPubkeyOrderbookStateRes} {diff : PairAnswer} (h : StoreInv th st)
    (hsto : StoredOk asked) (han : ∀ pair diff, res.pairOrdersDiff.lookup pair = some diff →
      ∃ root, Answers th asked st pubkey pair root diff)
    (hdf : res.pairOrdersDiff.lookup albPair = some diff) :
    let turns := turnsAround iter res pubkey ob albPair
    (processSyncResponse iter ob pubkey res).2 = turns.before ++
        (processPairDiff iter res pubkey turns.book (albPair, diff)).2 ++ turns.after ∧
      turns.book.recentlyCancelled = ob.recentlyCancelled ∧
      InsertsStored asked ob.recentlyCancelled (pubkey, albPair) turns.before ∧
      InsertsStored asked ob.recentlyCancelled (pubkey, albPair) turns.after := by
  have hky := iter.pairs.nodup_keys_entries res.pairOrdersDiff
  have hmem (turn : AlbOrderedOrderbookPair × PairAnswer)
      (htr : turn ∈ iter.pairs.entries res.pairOrdersDiff) :=
    (Iteration.mem_entries ..).1 htr
  rw [turnsAround, processSyncResponse]
  obtain ⟨first, rest, hen⟩ := append_of_mem ((Iteration.mem_entries iter.pairs ..).2 hdf)
  rw [hen] at hky hmem ⊢
  rw [map_append, map_cons, nodup_append, nodup_cons] at hky
  obtain ⟨-, ⟨hre, -⟩, hds⟩ := hky
  have hfst : ∀ turn ∈ first, turn.1 ≠ albPair :=
    fun turn htr => hds _ (mem_map_of_mem htr) _ mem_cons_self
  have htu {turns : List (AlbOrderedOrderbookPair × PairAnswer)}
      (hsub : turns ⊆ first ++ (albPair, diff) :: rest) (hne : ∀ turn ∈ turns, turn.1 ≠ albPair)
      (turn) (htr : turn ∈ turns) :=
    And.intro (hmem turn (hsub htr)) (And.intro (hne turn htr) (han _ _ (hmem turn (hsub htr))))
  obtain ⟨hcan, hbef⟩ := insertsStored_turns res ob h hsto iter (htu (subset_append_left _ _) hfst)
  rw [takeWhile_append_of_pos (by simpa using hfst), dropWhile_append_of_pos
    (by simpa using hfst), takeWhile_cons_of_neg (by simp), dropWhile_cons_of_neg (by simp),
    append_nil, foldEmit_append]
  have hown := processPairDiff_recentlyCancelled
    (foldEmit (processPairDiff iter res pubkey) ob first).1 iter pubkey (albPair, diff) hdf
  have haft := (insertsStored_turns res (processPairDiff iter res pubkey
    (foldEmit (processPairDiff iter res pubkey) ob first).1 (albPair, diff)).1 h hsto iter
    (htu (fun turn htr => mem_append_right _ (mem_cons_of_mem _ htr))
      fun turn htr heq => hre (List.mem_map.2 ⟨turn, htr, heq⟩))).2
  rw [hown, hcan] at haft
  exact ⟨(append_assoc ..).symm, hcan, hbef, haft⟩

/-- The condition under which an answer to a request for the orders since `root` makes the nodes
agree on a pair. -/
structure SyncCondition (th : PairHash H) (turns : Turns) (asked : Orderbook)
    (st answeringSt : TrieStore H) (pubkey albPair : String) (root : H) : Prop where
  /-- The answers for other pairs take away nothing that is to be there, and those that come later
  insert nothing else in its place. -/
  kept : ∀ u x, (contents th answeringSt pubkey albPair).lookup u = some x →
    u ∉ removesFor (pubkey, albPair) (turns.before ++ turns.after) ∧
      ∀ x', inserted (pubkey, albPair) turns.after u = some x' → x' = x
  /-- The asked node remembers the way from the requested root to its current one. -/
  delta : ∀ delta, HistoryLeads th answeringSt pubkey albPair root delta →
    DeltaSuffices turns.book (pubkey, albPair)
      (turns.others pubkey albPair (contents th st pubkey albPair))
      (contents th answeringSt pubkey albPair) delta
  /-- It does not, and the answers for other pairs insert nothing that is not to be there. -/
  full : (¬∃ delta, HistoryLeads th answeringSt pubkey albPair root delta) →
    (∀ u x, (contents th answeringSt pubkey albPair).lookup u = some x →
      Offered asked turns.book.recentlyCancelled pubkey u x) ∧
      ∀ u, (contents th answeringSt pubkey albPair).lookup u = none →
        (turns.others pubkey albPair ∅).lookup u = none

theorem HistoryLeads.unique {delta' : OrdersDelta}
    (h : HistoryLeads th st pubkey albPair root delta)
    (h' : HistoryLeads th st pubkey albPair root delta') : delta = delta' := by
  obtain ⟨ps, history, hps, hget, hld⟩ := h
  obtain ⟨ps', history', hps', hget', hld'⟩ := h'
  cases hps.symm.trans hps'
  cases hget.symm.trans hget'
  exact (hld.unique hld').1

/-- What `process_orders_keep_alive` does to the set of orders of a pair, when the answer comes and
its operations have been applied. -/
theorem contents_processOrdersKeepAlive (h : StoreInv th st) (ob : Orderbook) {env : KeepAliveEnv}
    (batch : BatchEnv) {keepAlive : PubkeyKeepAlive H}
    {ask : SyncPubkeyOrderbookState H → Option SyncPubkeyOrderbookStateRes}
    {res : SyncPubkeyOrderbookStateRes}
    (hrequest : (st.prepareSyncRequestForKeepAlive th env.roots env.clock pubkey keepAlive
      env.iAmRelay env.isSubscribed).2 = some request) (hask : ask request = some res)
    (albPair : AlbOrderedOrderbookPair) :
    contents th (applyOps th batch
        (processOrdersKeepAlive th env ob st pubkey keepAlive ask).trieStore
        (processOrdersKeepAlive th env ob st pubkey keepAlive ask).ops) pubkey albPair =
      batched (pubkey, albPair) (processSyncResponse env.answer ob pubkey res).2
        (contents th st pubkey albPair) := by
  obtain ⟨hinv, hco⟩ := h.prepareSyncRequestForKeepAlive env.roots env.clock pubkey keepAlive
    env.iAmRelay env.isSubscribed
  have hout : processOrdersKeepAlive th env ob st pubkey keepAlive ask =
      ⟨(processSyncResponse env.answer ob pubkey res).1,
        (st.prepareSyncRequestForKeepAlive th env.roots env.clock pubkey keepAlive env.iAmRelay
          env.isSubscribed).1, (processSyncResponse env.answer ob pubkey res).2, true⟩ := by
    unfold processOrdersKeepAlive
    split
    · rename_i hp
      rw [hp] at hrequest
      exact absurd hrequest (by simp)
    · rename_i st' request' hp
      rw [hp] at hrequest ⊢
      cases hrequest
      rw [hask]
  have hsn : ∀ op ∈ (processSyncResponse env.answer ob pubkey res).2, HandlerOp op :=
    handlerOp_processMsg ob false pubkey (.syncResponse env.answer res)
  rw [hout, batched]
  rw [(hinv.applyOps batch fun op hop => (hsn op hop).wellFormed).2, if_neg (hsn _), hco]

/-- A node, by what happened to its book and its store. -/
structure NodeRun (H : Type) where
  bookOps : List BookOp
  storeEvents : List (StoreEvent H)

def NodeRun.orderbook (node : NodeRun H) : Orderbook :=
  node.bookOps.foldl BookOp.apply Orderbook.default

variable (th : PairHash H)

def NodeRun.trieStore (node : NodeRun H) : TrieStore H :=
  node.storeEvents.foldl (StoreEvent.apply th) TrieStore.default

variable (requester responder : NodeRun H) (env : KeepAliveEnv) (answers : AnswerIteration)
  (batch : BatchEnv) (pubkey : String) (keepAlive : PubkeyKeepAlive H)

/-- The store of the requester after it has handled a keep-alive, with the responder as the peer it
asks. -/
def synchronised : TrieStore H :=
  let outcome := processOrdersKeepAlive th env requester.orderbook (requester.trieStore th) pubkey
    keepAlive (askPeer th answers responder.orderbook (responder.trieStore th))
  applyOps th batch outcome.trieStore outcome.ops

/-- **A requester that gets an answer ends with the orders of the responder for a pair it has asked
for exactly when `SyncCondition` holds.** -/
theorem keepAlive_converges_iff (roots : HashMap AlbOrderedOrderbookPair H)
    (res : SyncPubkeyOrderbookStateRes) (albPair : AlbOrderedOrderbookPair) (root : H)
    (hrequest : ((requester.trieStore th).prepareSyncRequestForKeepAlive th env.roots env.clock
      pubkey keepAlive env.iAmRelay env.isSubscribed).2 = some ⟨pubkey, roots⟩)
    (hroot : roots.lookup albPair = some root)
    (hask : askPeer th answers responder.orderbook (responder.trieStore th) ⟨pubkey, roots⟩ =
      some res) :
    contents th (synchronised th requester responder env answers batch pubkey keepAlive) pubkey
        albPair = contents th (responder.trieStore th) pubkey albPair ↔
      SyncCondition th (turnsAround env.answer res pubkey requester.orderbook albPair)
        responder.orderbook (requester.trieStore th) (responder.trieStore th) pubkey albPair
        root := by
  have hinv : StoreInv th (requester.trieStore th) := storeInv_run requester.storeEvents
  have hinv' : StoreInv th (responder.trieStore th) := storeInv_run responder.storeEvents
  have hsto : StoredOk responder.orderbook := storedOk_run responder.bookOps
  have hres : processSyncPubkeyOrderbookState th answers responder.orderbook
      (responder.trieStore th) ⟨pubkey, roots⟩ = some (.ok (some res)) := by
    unfold askPeer at hask
    split at hask
    · rename_i answer he
      rw [he, hask]
    · cases hask
    · cases hask
  obtain ⟨hasked, han⟩ := answers_of_process hinv' hres
  obtain ⟨diff, hdf⟩ := isSome_iff_exists.1 (hasked albPair root hroot)
  obtain ⟨root', hrt', hown⟩ := han albPair diff hdf
  cases hrt'.symm.trans hroot
  obtain ⟨hops, hcan, hbef, haft⟩ := turnsAround_spec requester.orderbook
    env.answer hinv' hsto (fun pair diff hdf => (han pair diff hdf).imp fun _ hans => hans.2) hdf
  have hco := contents_processOrdersKeepAlive hinv requester.orderbook batch hrequest hask albPair
  have hrc := hinv'.records pubkey albPair
  unfold synchronised
  rw [hco, hops]
  generalize turnsAround env.answer res pubkey requester.orderbook albPair = turns at *
  -- the answer is the changes since the root, or the whole of the pair
  rcases hown with ⟨delta, hld, rfl⟩ | ⟨hno, orders, hlst, rfl⟩
  · rw [processPairDiff_delta_ops res turns.book hinv' env.answer hld]
    refine (turns_converge_iff clearPair_not_mem_changes (fun _ _ hx => (haft.inserted hx).1)
      (inserted_eq_none_of_remove (nodup_keys_deltaChanges _)) fun u x hx => .inl ?_).trans ?_
    · obtain ⟨z, hz, hxz⟩ := (mem_deltaChanges _).1 (inserted_changes hx).1
      exact ((hinv'.historyLeads hld).1 u z hz).trans hxz.symm
    · refine (and_congr_left' (delta_converges_iff res turns.book _ hinv' hld _)).trans ?_
      exact ⟨fun ⟨hsf, hkp⟩ => ⟨hkp, fun delta' hld' => hld.unique hld' ▸ hsf,
        fun hno => absurd ⟨delta, hld⟩ hno⟩, fun hcn => ⟨hcn.delta delta hld, hcn.kept⟩⟩
  · rw [processPairDiff_full_ops res turns.book hsto env.answer hlst, append_cons]
    refine (turns_converge_iff clearPair_not_mem_changes (fun _ _ hx => (haft.inserted hx).1)
      (inserted_eq_none_of_remove (nodup_keys_fullChanges hlst)) fun u x hx => .inr ?_).trans ?_
    · obtain ⟨order, hin, hs⟩ := mem_fullChanges.1 (inserted_changes hx).1
      refine ⟨fun hn => lookup_eq_none.1 hn ?_,
        hs ▸ congrArg (Option.map _) (hlst.stored u order hin)⟩
      exact (hlst.mem_uuid u).1 (mem_map_of_mem hin)
    · have hre (u : Uuid) (x : OrderbookP2PItem)
          (hx : (turns.others pubkey albPair ∅).lookup u = some x) :
          Offered responder.orderbook turns.book.recentlyCancelled pubkey u x := by
        rw [Turns.others, lookup_batched] at hx
        obtain ⟨-, hx⟩ := ite_none_left_eq_some.1 hx
        simp only [lookup_empty, ite_self, or_none] at hx
        exact hcan ▸ (hbef.append haft).inserted hx
      rw [turns.others_reset]
      refine (and_congr_left' (full_converges_iff res hlst hrc hre)).trans ?_
      rw [removesFor_reset]
      exact ⟨fun ⟨hsf, hkp⟩ => ⟨hkp, fun delta hld => absurd ⟨delta, hld⟩ hno,
        fun _ => hsf⟩, fun hcn => ⟨hcn.full hno, hcn.kept⟩⟩

/-! ## A stale keep-alive -/

def plainKeepAlive : KeepAliveEnv :=
  { roots := sortedPairs, clock := stoppedClock, iAmRelay := true, isSubscribed := fun _ => false
    answer := ⟨sortedPairs, fun _ => sortedUuids, fun _ _ => sortedUuids⟩ }

def plainAnswer : AnswerIteration :=
  ⟨sortedPairs, sortedPairs, fun _ => sortedUuids, fun _ => sortedUuids⟩

variable (orders : List MakerOrderCreated)

/-- The run of a node that hears of orders of `P`, one after the other. -/
def hears : NodeRun (Option PairOrders) where
  bookOps := orders.map fun o => .index (.insertOrUpdate (o.toItem "P"))
  storeEvents := orders.map fun o => .batch plainBatch
    (processMsg Orderbook.default false "P" (.makerOrderCreated o)).2
    fun op hop => (handlerOp_processMsg _ _ _ _ op hop).wellFormed

/-- The keep-alive of `P` at the time when it had only the given orders. -/
def keepAliveAt : PubkeyKeepAlive (Option PairOrders) where
  trieRoots := (((hears orders).trieStore plain).pubkeyState 0 "P").trieRoots
  timestamp := 0

/-- The request that keep-alive makes a new node send. -/
def requestAt : SyncPubkeyOrderbookState (Option PairOrders) :=
  ⟨"P", (keepAliveAt orders).trieRoots⟩

/-- The store of a new node that handles the keep-alive, with a peer that has heard of `heard`. -/
def syncedNode (heard : List MakerOrderCreated) : TrieStore (Option PairOrders) :=
  synchronised plain (hears []) (hears heard) plainKeepAlive plainAnswer plainBatch "P"
    (keepAliveAt orders)

/-- A keep-alive that is up to date brings a new node the orders of both pairs. -/
theorem keepAlive_converges_twoPairs :
    let heard := [smallOrder 1, otherOrder 2]
    let theirs := contents plain ((hears heard).trieStore plain) "P"
    (keepAliveAt heard).trieRoots.keys = {"BTC:KMD", "KMD:LTC"} ∧
      contents plain (syncedNode heard heard) "P" "BTC:KMD" = theirs "BTC:KMD" ∧
      contents plain (syncedNode heard heard) "P" "KMD:LTC" = theirs "KMD:LTC" ∧
      ∃ res, SyncCondition plain
        (turnsAround plainKeepAlive.answer res "P" (hears []).orderbook "BTC:KMD")
        (hears heard).orderbook ((hears []).trieStore plain)
        ((hears heard).trieStore plain) "P" "BTC:KMD" (some (theirs "BTC:KMD")) := by
  obtain ⟨res, hask⟩ := isSome_iff_exists.1 (show (askPeer plain plainAnswer
    (hears [smallOrder 1, otherOrder 2]).orderbook
    ((hears [smallOrder 1, otherOrder 2]).trieStore plain)
    (requestAt [smallOrder 1, otherOrder 2])).isSome by decide +kernel)
  refine ⟨by decide +kernel, by decide +kernel, by decide +kernel, res, ?_⟩
  exact (keepAlive_converges_iff plain (hears []) (hears [smallOrder 1, otherOrder 2])
    plainKeepAlive plainAnswer plainBatch "P" (keepAliveAt [smallOrder 1, otherOrder 2]) _ res
    "BTC:KMD" _ (by decide +kernel) (by decide +kernel) hask).1 (by decide +kernel)

/-- The keep-alive is from the time of the first order, the responder has heard of a second one, and
the new node ends with the second one alone. -/
theorem stale_keepAlive_diverges :
    let heard := [smallOrder 1, smallOrder 2]
    let theirs := contents plain ((hears heard).trieStore plain) "P" "BTC:KMD"
    let synced := contents plain (syncedNode [smallOrder 1] heard) "P" "BTC:KMD"
    (((hears []).trieStore plain).prepareSyncRequestForKeepAlive plain
        plainKeepAlive.roots plainKeepAlive.clock "P" (keepAliveAt [smallOrder 1])
        plainKeepAlive.iAmRelay plainKeepAlive.isSubscribed).2 = some (requestAt [smallOrder 1]) ∧
      (askPeer plain plainAnswer (hears heard).orderbook
        ((hears heard).trieStore plain) (requestAt [smallOrder 1])).isSome ∧
      synced.keys = {2} ∧ theirs.keys = {1, 2} ∧ synced ≠ theirs := by
  refine ⟨?_, ?_, ?_, ?_, ?_⟩ <;> decide +kernel

end CheetahDex.Proof
