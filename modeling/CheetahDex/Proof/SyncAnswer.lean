import CheetahDex.Lib.Checks
import CheetahDex.Ordermatch.Sync
import CheetahDex.Proof.TrieBatches

/-!
# What the answer to a synchronisation request says

The asked node either adds up the diffs its history has from the requested root on, or sends all its
orders. When the diffs lead to the current root, the summed delta names the final state of every
uuid it mentions (`lookup_delta`). The full answer lists the uuids of the trie, with the orders the
*book* has under these uuids.
-/

namespace CheetahDex.Proof

open Lib Common Ordermatch Orderbook TrieStore List Option HashMap Prod

variable {H : Type} [DecidableEq H]

/-! ## Adding up diffs -/

/-- What the summed delta says about a uuid, where it says something. -/
def saysOrElse (said : Option (Option OrderbookItem)) (x : Option OrderbookP2PItem) :
    Option OrderbookP2PItem :=
  match said with
  | some (some order) => some order.toP2P
  | some none => none
  | none => x

theorem lookup_applyDelta (c c₀ : PairOrders) (total : HashMap Uuid (Option OrderbookItem))
    (delta : OrdersDelta)
    (h : ∀ u, c.lookup u = saysOrElse (total.lookup u) (c₀.lookup u)) (u : Uuid) :
    (applyDelta c delta).lookup u =
      saysOrElse ((extendDelta total delta).lookup u) (c₀.lookup u) := by
  induction delta generalizing c total with
  | nil => exact h u
  | cons e delta ih =>
    refine ih (applyChange c e) (total.insert e.1 e.2) fun v => ?_
    obtain ⟨w, order | _⟩ := e
    · rw [applyChange, lookup_erase_ite, lookup_insert_ite, h]
      by_cases hv : v = w
      · simp [hv, saysOrElse]
      · simp [hv]
    · rw [applyChange, lookup_insert_ite, lookup_insert_ite, h]
      by_cases hv : v = w
      · simp [hv, saysOrElse]
      · simp [hv]

/-- The delta mentions exactly the uuids of its changes, and says of each what one of the changes
says. -/
theorem lookup_extendDelta (total : HashMap Uuid (Option OrderbookItem))
    (delta : OrdersDelta) (u : Uuid) :
    (u ∉ delta.map fst ∧ (extendDelta total delta).lookup u = total.lookup u) ∨
    (u ∈ delta.map fst ∧ ∃ x, (u, x) ∈ delta ∧ (extendDelta total delta).lookup u = some x) := by
  induction delta generalizing total with
  | nil => exact .inl ⟨by simp, rfl⟩
  | cons e delta ih =>
    obtain ⟨w, x⟩ := e
    rcases ih (total.insert w x) with ⟨hu, hl⟩ | ⟨hu, y, hy, hl⟩
    · rw [lookup_insert_ite] at hl
      by_cases hw : u = w
      · subst hw
        rw [if_pos rfl] at hl
        exact .inr ⟨by simp, x, mem_cons_self, hl⟩
      · rw [if_neg hw] at hl
        exact .inl ⟨by simp only [map_cons, mem_cons, not_or]; exact ⟨hw, hu⟩, hl⟩
    · exact .inr ⟨mem_cons_of_mem _ hu, y, mem_cons_of_mem _ hy, hl⟩

/-- The diffs of a history lead from one root to another, where the history ends. -/
inductive Leads (history : TrieOrderHistory H) : H → OrdersDelta → H → Prop
  | last {root : H} {diff : TrieDiff H} : history.get root = some diff →
      history.get diff.nextRoot = none → Leads history root diff.delta diff.nextRoot
  | step {root last : H} {diff : TrieDiff H} {delta : OrdersDelta} :
      history.get root = some diff → Leads history diff.nextRoot delta last →
      Leads history root (diff.delta ++ delta) last

variable {delta : OrdersDelta} {history : TrieOrderHistory H}
  {pubkey albPair : String} {ob : Orderbook} {root last : H}

theorem Leads.exists_first (h : Leads history root delta last) : history.get root ≠ none := by
  cases h with
  | last hget _ => simp [hget]
  | step hget _ => simp [hget]

/-- A history leads from a root to one place only. -/
theorem Leads.unique {last' : H} {delta delta' : OrdersDelta}
    (h : Leads history root delta last) (h' : Leads history root delta' last') :
    delta = delta' ∧ last = last' := by
  induction h generalizing delta' with
  | last hget hend =>
    cases h' with
    | last hget' hend' =>
      cases hget.symm.trans hget'
      exact ⟨rfl, rfl⟩
    | step hget' hre =>
      cases hget.symm.trans hget'
      exact absurd hend hre.exists_first
  | step hget hre ih =>
    cases h' with
    | last hget' hend' =>
      cases hget.symm.trans hget'
      exact absurd hend' hre.exists_first
    | step hget' hrs' =>
      cases hget.symm.trans hget'
      obtain ⟨rfl, rfl⟩ := ih hrs'
      exact ⟨rfl, rfl⟩

/-- Following a history that starts with `diff` adds up the diffs along `Leads`. -/
theorem leads_of_followHistory {fuel : Nat} {diff : TrieDiff H}
    {total total' : HashMap Uuid (Option OrderbookItem)} (hget : history.get root = some diff)
    (h : followHistory history fuel diff total = some (total', last)) :
    ∃ delta, Leads history root (diff.delta ++ delta) last ∧ total' = extendDelta total delta := by
  induction fuel generalizing root diff total with
  | zero => simp [followHistory] at h
  | succ fuel ih =>
    simp only [followHistory] at h
    split at h
    · rename_i cur hcur
      obtain ⟨delta, hld, htt⟩ := ih hcur h
      refine ⟨cur.delta ++ delta, .step hget hld, ?_⟩
      rw [htt, extendDelta, extendDelta, extendDelta, foldl_append]
    · rename_i hend
      obtain ⟨rfl, rfl⟩ := h
      exact ⟨[], by rw [append_nil]; exact .last hget hend, rfl⟩

/-- **Correct diffs add up**: along a history of correct diffs, the orders of the last root are
those of the first one with all changes applied. -/
theorem Leads.adds_up {th : PairHash H}
    (h : Leads history root delta last) (hok : history.All fun root diff =>
      ∃ c, root = th.root c ∧ diff.nextRoot = th.root (applyDelta c diff.delta)) :
    ∃ c, root = th.root c ∧ last = th.root (applyDelta c delta) := by
  induction h with
  | last hget _ => exact hok _ _ hget
  | step hget _ ih =>
    obtain ⟨c, hrt, hnx⟩ := hok _ _ hget
    obtain ⟨c', hrt', hla⟩ := ih
    have hc : c' = applyDelta c _ := th.root_injective (hrt'.symm.trans hnx)
    refine ⟨c, hrt, ?_⟩
    rw [hla, hc, applyDelta, applyDelta, applyDelta, foldl_append]

theorem Leads.forall_mem {Q : Uuid × Option OrderbookItem → Prop}
    (h : Leads history root delta last) (hQ : history.All fun _ diff => ∀ e ∈ diff.delta, Q e) :
    ∀ e ∈ delta, Q e := by
  induction h with
  | last hget _ => exact hQ _ _ hget
  | step hget _ ih => exact forall_mem_append.2 ⟨hQ _ _ hget, ih⟩

/-! ## The two kinds of answers -/

variable {orders : List (Uuid × OrderbookItem)}

theorem getOrders_ok {uuids : List Uuid} (h : getOrders ob.findOrderByUuid uuids = .ok orders) :
    orders.map fst = uuids ∧
      ∀ u order, (u, order) ∈ orders → ob.orderSet.lookup u = some order := by
  induction uuids generalizing orders with
  | nil =>
    obtain rfl : [] = orders := by simpa [getOrders] using h
    exact ⟨rfl, by simp⟩
  | cons uuid uuids ih =>
    simp only [getOrders] at h
    split at h
    · rename_i order hord
      obtain ⟨rest, hre, rfl⟩ := of_map_ok h
      obtain ⟨hfst, hsto⟩ := ih hre
      refine ⟨by rw [map_cons, hfst], fun u o hmem => ?_⟩
      cases hmem with
      | head => exact hord
      | tail _ hmem => exact hsto u o hmem
    · cases h

section Answer

variable (th : PairHash H)

/-- The store's history of the pair leads from `root` to the pair's current root. -/
def HistoryLeads (st : TrieStore H) (pubkey albPair : String) (root : H)
    (delta : OrdersDelta) : Prop :=
  ∃ ps history, st.pubkeysState.lookup pubkey = some ps ∧
    ps.orderPairsTrieStateHistory.get albPair = some history ∧
    Leads history root delta (rootOf th st pubkey albPair)

/-- All uuids of a set of orders, each once, with the orders the book has under them. -/
structure FullListing (ob : Orderbook) (c : PairOrders) (orders : List (Uuid × OrderbookItem)) :
    Prop where
  mem_uuid : ∀ u, u ∈ orders.map fst ↔ u ∈ c
  nodup : (orders.map fst).Nodup
  stored : ∀ u order, (u, order) ∈ orders → ob.orderSet.lookup u = some order

variable {th}

variable {iter : Iteration Uuid} {st : TrieStore H} {diff : DeltaOrFullTrie Uuid OrderbookItem}
  {root : H}

theorem fullListing_of_getFullTrie (h : StoreInv th st)
    (hget : getFullTrie th iter (rootOf th st pubkey albPair) st.memoryDb ob.findOrderByUuid =
      .ok orders) : FullListing ob (contents th st pubkey albPair) orders := by
  have hop := h.getTrieMut_rootOf pubkey albPair
  unfold getFullTrie at hget
  split at hget
  · cases hget
  · rename_i trie htr
    have hz : rootOf th st pubkey albPair ≠ th.zero := (h.sound.holds_of_open htr).ne_zero
    rw [getTrieMut, if_neg hz, htr] at hop
    obtain ⟨hfst, hsto⟩ := getOrders_ok hget
    rw [← some.inj hop]
    refine ⟨fun u => ?_, ?_, hsto⟩
    · rw [hfst, Iteration.mem_toList, Finmap.mem_keys]
    · rw [hfst]
      exact iter.nodup _

omit [DecidableEq H] in
theorem ok_of_map_mapError {α ε ε' : Type} {f : ε → ε'} {r : Option (Except ε α)} {a : α}
    (h : r.map (Except.mapError f) = some (.ok a)) : r = some (.ok a) := by
  obtain ⟨x, hr, hx⟩ := Option.map_eq_some_iff.mp h
  rw [hr, of_mapError_ok hx]

/-- A full answer is a full listing, whichever branch sends it. -/
theorem fullListing_of_map (h : StoreInv th st)
    (hdf : (getFullTrie th iter (rootOf th st pubkey albPair) st.memoryDb ob.findOrderByUuid).map
      DeltaOrFullTrie.fullTrie = .ok diff) :
    ∃ orders, diff = .fullTrie orders ∧ FullListing ob (contents th st pubkey albPair) orders := by
  obtain ⟨orders, hget, rfl⟩ := of_map_ok hdf
  exact ⟨orders, rfl, fullListing_of_getFullTrie h hget⟩

variable {ps : OrderbookPubkeyState H}

/-- What `fromHistory` answers: the changes if the history leads to the current root, or else what
the trie lists. -/
theorem fromHistory_ok {root actual : H} {db : PairTries H}
    {getter : Uuid → Option OrderbookItem}
    (hdf : fromHistory th iter history root actual db getter = some (.ok diff)) :
    (∃ delta, Leads history root delta actual ∧ diff = .delta (extendDelta ∅ delta)) ∨
    ((¬∃ delta, Leads history root delta actual) ∧
      (getFullTrie th iter actual db getter).map .fullTrie = .ok diff) := by
  unfold fromHistory at hdf
  split at hdf
  · rename_i first hfr
    split at hdf
    · cases hdf
    · rename_i total last hfl
      obtain ⟨delta, hdel, rfl⟩ := leads_of_followHistory hfr hfl
      split at hdf
      · rename_i hla
        subst hla
        simp only [some.injEq, Except.ok.injEq] at hdf
        refine .inl ⟨first.delta ++ delta, hdel, ?_⟩
        rw [← hdf, extendDelta, extendDelta, extendDelta, foldl_append]
      · -- the history ends at another root, so it does not lead to the current one
        rename_i hla
        refine .inr ⟨?_, some.inj hdf⟩
        rintro ⟨delta', hdel'⟩
        exact hla (hdel.unique hdel').2
  · rename_i hn
    refine .inr ⟨?_, some.inj hdf⟩
    rintro ⟨delta', hdel'⟩
    exact hdel'.exists_first hn

/-- The answer for one pair, when there is one. -/
theorem pairDiff_ok (h : StoreInv th st) (hps : st.pubkeysState.lookup pubkey = some ps)
    (hdf : pairDiff th iter ob st ps albPair root = some (.ok diff)) :
    (∃ delta, HistoryLeads th st pubkey albPair root delta ∧ diff = .delta (extendDelta ∅ delta)) ∨
    ((¬∃ delta, HistoryLeads th st pubkey albPair root delta) ∧ ∃ orders, diff = .fullTrie orders ∧
      FullListing ob (contents th st pubkey albPair) orders) := by
  unfold pairDiff at hdf
  split at hdf
  · cases hdf
  · rename_i actual hac
    obtain rfl : actual = rootOf th st pubkey albPair := by
      rw [rootOf, hps]
      simp [pairRoot, HashMap.getD, hac]
    have hrs := ok_of_map_mapError hdf
    split at hrs
    · rename_i history hhis
      rcases fromHistory_ok hrs with ⟨delta, hld, rfl⟩ | ⟨hnot, hfu⟩
      · exact .inl ⟨delta, ⟨ps, history, hps, hhis, hld⟩, rfl⟩
      · refine .inr ⟨?_, fullListing_of_map h hfu⟩
        rintro ⟨delta, ps', history', hps', hhis', hld⟩
        cases hps.symm.trans hps'
        cases hhis.symm.trans hhis'
        exact hnot ⟨delta, hld⟩
    · rename_i hn
      refine .inr ⟨?_, fullListing_of_map h (some.inj hrs)⟩
      rintro ⟨delta, ps', history, hps', hhis, -⟩
      cases hps.symm.trans hps'
      cases hn.symm.trans hhis

/-- Each requested pair has an answer, and no other. -/
theorem pairDiffs_ok {iter : AlbOrderedOrderbookPair → Iteration Uuid}
    {entries : List (AlbOrderedOrderbookPair × H)}
    {diffs : List (AlbOrderedOrderbookPair × DeltaOrFullTrie Uuid OrderbookItem)}
    (hdi : pairDiffs th iter ob st ps entries = some (.ok diffs)) :
    diffs.map fst = entries.map fst ∧ ∀ pair diff, (pair, diff) ∈ diffs →
      ∃ root, (pair, root) ∈ entries ∧
        pairDiff th (iter pair) ob st ps pair root = some (.ok diff) := by
  induction entries generalizing diffs with
  | nil =>
    cases hdi
    exact ⟨rfl, by simp⟩
  | cons e entries ih =>
    obtain ⟨pair, root⟩ := e
    simp only [pairDiffs] at hdi
    split at hdi
    · cases hdi
    · cases hdi
    · rename_i diff hdf
      obtain ⟨_, hre, hmap⟩ := map_eq_some_iff.1 hdi
      obtain ⟨rest, rfl, rfl⟩ := of_map_ok hmap
      obtain ⟨hky, hall⟩ := ih hre
      refine ⟨by rw [map_cons, map_cons, hky], fun pair' diff' hmem => ?_⟩
      cases hmem with
      | head => exact ⟨root, mem_cons_self, hdf⟩
      | tail _ hmem =>
        obtain ⟨root', hrt', hdf'⟩ := hall pair' diff' hmem
        exact ⟨root', mem_cons_of_mem _ hrt', hdf'⟩

/-- What a pair is answered with: the sum of the changes, if the history of the pair leads from the
requested root to the current one, and otherwise all orders. -/
def Answers (th : PairHash H) (ob : Orderbook) (st : TrieStore H)
    (pubkey albPair : String) (root : H)
    (diff : PairAnswer) : Prop :=
  (∃ delta, HistoryLeads th st pubkey albPair root delta ∧
    diff = .delta ((extendDelta ∅ delta).mapValues (Option.map OrderbookItem.toP2P))) ∨
  ((¬∃ delta, HistoryLeads th st pubkey albPair root delta) ∧
    ∃ orders, FullListing ob (contents th st pubkey albPair) orders ∧
      diff = .fullTrie (orders.map fun e => (e.1, e.2.toP2P)))

/-- **The answer to a request.** -/
theorem answers_of_process (h : StoreInv th st) {iter : AnswerIteration}
    {res : SyncPubkeyOrderbookStateRes} {roots : HashMap AlbOrderedOrderbookPair H}
    (hres : processSyncPubkeyOrderbookState th iter ob st ⟨pubkey, roots⟩ = some (.ok (some res))) :
    (∀ pair root, roots.lookup pair = some root → (res.pairOrdersDiff.lookup pair).isSome) ∧
    ∀ pair diff, res.pairOrdersDiff.lookup pair = some diff →
      ∃ root, roots.lookup pair = some root ∧ Answers th ob st pubkey pair root diff := by
  unfold processSyncPubkeyOrderbookState at hres
  dsimp only at hres
  split at hres
  · cases hres
  · rename_i ps hps
    obtain ⟨_, hdi, hmap⟩ := map_eq_some_iff.1 hres
    obtain ⟨diffs, rfl, hout⟩ := of_map_ok hmap
    obtain ⟨hky, hall⟩ := pairDiffs_ok hdi
    cases hout
    have hnd : (diffs.map fst).Nodup := hky ▸ iter.requested.nodup_keys_entries roots
    simp only [lookup_mapValues, lookup_foldl_insert _ _ _ hnd,
      Finmap.lookup_empty, or_none, isSome_map]
    refine ⟨fun pair root hrt => ?_, fun pair diff hdf => ?_⟩
    · have hmem : pair ∈ diffs.map fst :=
        hky ▸ mem_map_of_mem ((iter.requested.mem_entries roots pair root).2 hrt)
      obtain ⟨e, he, rfl⟩ := List.mem_map.1 hmem
      exact lookup_isSome_iff.2 ⟨e, he, beq_self_eq_true _⟩
    · obtain ⟨found, hfnd, rfl⟩ := map_eq_some_iff.1 hdf
      obtain ⟨_, _, rfl, -⟩ := List.lookup_eq_some_iff.1 hfnd
      obtain ⟨root, hrt, hpr⟩ := hall pair found (mem_append_right _ mem_cons_self)
      refine ⟨root, (iter.requested.mem_entries roots pair root).1 hrt, ?_⟩
      rcases pairDiff_ok h hps hpr with ⟨delta, hdel, rfl⟩ | ⟨hno, orders, rfl, hlst⟩
      · exact .inl ⟨delta, hdel, rfl⟩
      · exact .inr ⟨hno, orders, hlst, rfl⟩

end Answer

end CheetahDex.Proof
