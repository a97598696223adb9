import CheetahDex.Ordermatch.BestOrders
import CheetahDex.Proof.CancelRaces
import CheetahDex.Proof.IndexConsistency
import CheetahDex.Proof.StoreRuns

/-!
# The best orders, and what is made of them

A relay answers with the cheapest orders that are enough for a volume, for every pair of the coin
that has orders: a pair stays among those of its coins once an order was stored for it. Whoever asks
divides by the prices it is told, and a taker that compares reservations by the amounts it is told,
without a look at whether they are zero.
-/

namespace CheetahDex.Proof

open Lib Ordermatch List Option Orderbook SetIndex OrderbookItem

/-! ## The cheapest orders -/

section cheapest

variable (ob : Orderbook) (action : BestOrdersAction) (required : MmNumber)

/-- The orders of a list that may be matched with the volume. -/
def eligible (l : List OrderedByPriceOrder) : List OrderbookItem :=
  l.filterMap fun e => (ob.orderSet.lookup e.uuid).filter fun o =>
    action.volume o o.minVolume ≤ required

def totalVolume (l : List OrderbookItem) : MmNumber :=
  (l.map fun o => action.volume o o.maxVolume).sum

/-- The shortest beginning of the orders that is enough with what is there, or all of them. -/
def Cheapest (collected : MmNumber) (l best : List OrderbookItem) : Prop :=
  ∃ n, best = l.take n ∧ (∀ m < n, collected + totalVolume action (l.take m) < required) ∧
    (required ≤ collected + totalVolume action best ∨ best = l)

variable {ob action required}

theorem Cheapest.cons {o : OrderbookItem} {l best : List OrderbookItem} {collected : MmNumber}
    (hlt : collected < required)
    (h : Cheapest action required (collected + action.volume o o.maxVolume) l best) :
    Cheapest action required collected (o :: l) (o :: best) := by
  have htt (l : List OrderbookItem) : collected + totalVolume action (o :: l) =
      collected + action.volume o o.maxVolume + totalVolume action l := by
    rw [totalVolume, map_cons, sum_cons, ← add_assoc]
    rfl
  obtain ⟨n, rfl, hbef, hend⟩ := h
  refine ⟨n + 1, rfl, fun m hm => ?_, ?_⟩
  · cases m with
    | zero => simpa [totalVolume] using hlt
    | succ m =>
      rw [take_succ_cons, htt]
      exact hbef m (Nat.lt_of_succ_lt_succ hm)
  · rw [htt]
    exact hend.imp id (congrArg (o :: ·))

/-- The loop takes the cheapest orders until it has the volume. -/
theorem cheapest_bestOrders (l : List OrderedByPriceOrder) {collected : MmNumber}
    (hlt : collected < required) :
    Cheapest action required collected (eligible ob action required l)
      (bestOrders ob action required collected l) := by
  induction l generalizing collected with
  | nil => exact ⟨0, rfl, by simp, .inr rfl⟩
  | cons e rest ih =>
    rw [bestOrders, eligible, filterMap_cons]
    cases ob.orderSet.lookup e.uuid with
    | none => exact ih hlt
    | some o =>
      by_cases hmin : action.volume o o.minVolume ≤ required
      · simp only [filter_some, hmin, decide_true, if_true, gt_iff_lt, not_lt.2 hmin, if_false]
        refine .cons hlt ?_
        split
        · rename_i hen
          exact ⟨0, rfl, by simp, .inl (by simpa [totalVolume] using hen)⟩
        · rename_i hlss
          exact ih (not_le.1 hlss)
      · simp only [filter_some, hmin, decide_false, gt_iff_lt, not_le.1 hmin, if_true]
        exact ih hlt

variable (ob action required) in
/-- What is sent for a pair. -/
def bestOfPair (coin ticker : String) : Option (List OrderbookP2PItem) :=
  (ob.ordered.lookup (action.pair coin ticker)).map fun orders =>
    (bestOrders ob action required 0 (byPrice.toList orders)).map toP2P

variable {coin ticker : String}

theorem lookup_foldl_addPair (tickers : List String) (res : BestOrdersP2PRes) :
    (tickers.foldl (.addPair ob action required coin) res).orders.lookup ticker =
      if ticker ∈ tickers then (bestOfPair ob action required coin ticker).or
        (res.orders.lookup ticker)
      else res.orders.lookup ticker := by
  induction tickers generalizing res with
  | nil => simp
  | cons other tickers ih =>
    rw [foldl_cons, ih, BestOrdersP2PRes.addPair, bestOfPair]
    by_cases heq : ticker = other
    · subst heq
      cases ob.ordered.lookup (action.pair coin ticker) <;> simp
    · cases ob.ordered.lookup (action.pair coin other) <;> simp [heq, Finmap.lookup_insert_of_ne]

/-- The orders of a pair, from the book itself. -/
theorem mem_eligible (h : Consistent ob) {base rel : String} {o : OrderbookItem} :
    o ∈ eligible ob action required (byPrice.toList (ob.ordered.members (base, rel))) ↔
      (∃ uuid, ob.orderSet.lookup uuid = some o) ∧ o.base = base ∧ o.rel = rel ∧
        action.volume o o.minVolume ≤ required := by
  simp only [eligible, mem_filterMap, Iteration.mem_toList, filter_eq_some_iff, decide_eq_true_eq]
  constructor
  · rintro ⟨⟨price, uuid⟩, he, ho, hmin⟩
    obtain ⟨o', ho', hbs, hrel, -⟩ := (h.mem_ordered base rel price uuid).1 he
    cases ho.symm.trans ho'
    exact ⟨⟨uuid, ho⟩, hbs, hrel, hmin⟩
  · rintro ⟨⟨uuid, ho⟩, hbs, hrel, hmin⟩
    exact ⟨⟨o.price, uuid⟩, (h.mem_ordered base rel o.price uuid).2 ⟨o, ho, hbs, hrel, rfl⟩, ho,
      hmin⟩

theorem pairwise_eligible (h : Consistent ob) (pair : String × String) :
    (eligible ob action required (byPrice.toList (ob.ordered.members pair))).Pairwise
      fun o o' => o.price ≤ o'.price := by
  have hpr {e : OrderedByPriceOrder} {o : OrderbookItem}
      (he : e ∈ byPrice.toList (ob.ordered.members pair))
      (ho : ob.orderSet.lookup e.uuid = some o) : o.price = e.price := by
    obtain ⟨o', ho', -, -, hpr⟩ :=
      (h.mem_ordered pair.1 pair.2 e.price e.uuid).1 ((byPrice.mem_toList _ _).1 he)
    rw [← hpr, some.inj (ho.symm.trans ho')]
  rw [eligible, pairwise_filterMap]
  refine (Iteration.pairwise_sortedBy _ (ob.ordered.members pair)).imp_of_mem
    fun he he' hle o ho o' ho' => ?_
  rw [hpr he (filter_eq_some_iff.1 ho).1, hpr he' (filter_eq_some_iff.1 ho').1]
  exact Prod.Lex.monotone_fst _ _ hle

/-! ### Every pair with orders is gone through -/

/-- A pair that has an entry is among the pairs of both of its coins. -/
def PairsIndexed (ob : Orderbook) : Prop :=
  ∀ b r e, e ∈ ob.ordered.members (b, r) →
    r ∈ ob.pairsExistingForBase.members b ∧ b ∈ ob.pairsExistingForRel.members r

theorem PairsIndexed.indexRemove (h : PairsIndexed ob) (uuid : Uuid) :
    PairsIndexed (ob.indexRemove uuid).1 := by
  cases ho : ob.orderSet.lookup uuid with
  | none => rwa [indexRemove_of_absent ho]
  | some order =>
    -- the entry goes, the pairs stay
    rw [indexRemove_of_lookup ho]
    intro b r e he
    simp only [dropOrder, members_remove] at he
    split at he
    · rename_i hpa
      exact h b r e (hpa ▸ Finset.mem_of_mem_erase he)
    · exact h b r e he

/-- Every index operation keeps the index of the pairs. -/
theorem PairsIndexed.apply (h : PairsIndexed ob) (op : IndexOp) : PairsIndexed (op.apply ob) := by
  cases op with
  | insertOrUpdate order =>
    rcases indexInsertOrUpdate_cases ob order with ⟨-, he⟩ | ⟨-, -, he⟩ | ⟨-, -, he⟩
    · rwa [IndexOp.apply, he]
    · intro b r e hmem
      simp only [IndexOp.apply, he, indexInsertOrUpdateInner, members_insert, members_add] at hmem ⊢
      by_cases hpa : (b, r) = order.baseRel
      · cases hpa
        simp
      · rw [if_neg hpa] at hmem
        obtain ⟨hr, hb⟩ := h b r e hmem
        constructor <;> split <;> simp_all
    · rw [IndexOp.apply, he]
      exact h.indexRemove order.uuid
  | remove uuid => exact h.indexRemove uuid
  | removePubkeyPairOrders iter pubkey albPair =>
    exact removePairOrders_induction (fun _ uuid _ h _ _ => h.indexRemove uuid) iter albPair h

theorem pairsIndexed_run (ops : List IndexOp) :
    PairsIndexed (ops.foldl IndexOp.apply Orderbook.default) :=
  foldlRecOn ops _ (by simp [PairsIndexed, Orderbook.default]) fun _ h op _ => h.apply op

theorem PairsIndexed.mem_searchPairsIn (h : PairsIndexed ob) {e : OrderedByPriceOrder}
    (he : e ∈ ob.ordered.members (action.pair coin ticker)) :
    ticker ∈ (action.searchPairsIn ob).members coin := by
  cases action with
  | buy => exact (h _ _ e he).1
  | sell => exact (h _ _ e he).2

/-- What is found in the answer for a pair, if there is one. -/
theorem lookup_processBestOrdersP2pRequest (hob : Consistent ob) (hin : PairsIndexed ob)
    (iter : Iteration String) (listed : List OrderbookP2PItem) :
    ((processBestOrdersP2pRequest iter ob coin action required).bind fun res =>
        res.orders.lookup ticker) = some listed ↔
      (∃ uuid o, ob.orderSet.lookup uuid = some o ∧ o.base = (action.pair coin ticker).1 ∧
        o.rel = (action.pair coin ticker).2) ∧
      listed = (bestOrders ob action required 0 (byPrice.toList
        (ob.ordered.members (action.pair coin ticker)))).map toP2P := by
  have hlk (tickers : Finset String) : Finmap.lookup ticker ((iter.toList tickers).foldl
      (BestOrdersP2PRes.addPair ob action required coin) ⟨∅, ∅, ∅⟩).orders =
        if ticker ∈ tickers then bestOfPair ob action required coin ticker else none := by
    simp [lookup_foldl_addPair]
  simp only [processBestOrdersP2pRequest, Option.bind_map, Function.comp_def, hlk]
  cases hpa : ob.ordered.lookup (action.pair coin ticker) with
  | none =>
    -- without an entry there is no order, and nothing is found for the pair
    refine iff_of_false ?_ ?_
    · rw [bestOfPair, hpa]
      cases (action.searchPairsIn ob).lookup coin <;> simp
    · rintro ⟨⟨uuid, o, ho, hbs, hrel⟩, -⟩
      have hmem := (hob.mem_ordered _ _ o.price uuid).2 ⟨o, ho, hbs, hrel, rfl⟩
      simp [members, HashMap.getD, hpa] at hmem
  | some s =>
    have hs := members_eq_of_lookup hpa
    obtain ⟨e, he⟩ := hob.ordered_noEmpty _ s hpa
    obtain ⟨o, ho, hbs, hrel, -⟩ := (hob.mem_ordered _ _ e.price e.uuid).1 (hs ▸ he)
    have htc := hin.mem_searchPairsIn (hs ▸ he)
    cases hti : (action.searchPairsIn ob).lookup coin with
    | none => simp [members, HashMap.getD, hti] at htc
    | some tickers =>
      rw [members_eq_of_lookup hti] at htc
      rw [Option.bind_some, if_pos htc, bestOfPair, hpa, Option.map_some, some.injEq, hs, eq_comm]
      exact (and_iff_right ⟨_, o, ho, hbs, hrel⟩).symm

/-- **After every run that leaves the indices consistent, the answer has something for a pair
exactly if the book has orders for it, and these are the cheapest ones that are enough.** -/
theorem best_orders_cheapest (iter : Iteration String) (ops : List IndexOp) (ticker : String)
    (hob : Consistent (ops.foldl IndexOp.apply Orderbook.default)) (hrequired : 0 < required) :
    let ob := ops.foldl IndexOp.apply Orderbook.default
    let pair := action.pair coin ticker
    let orders := eligible ob action required (byPrice.toList (ob.ordered.members pair))
    (∀ o, o ∈ orders ↔ (∃ uuid, ob.orderSet.lookup uuid = some o) ∧ o.base = pair.1 ∧
      o.rel = pair.2 ∧ action.volume o o.minVolume ≤ required) ∧
    orders.Pairwise (fun o o' => o.price ≤ o'.price) ∧
    ∃ best, Cheapest action required 0 orders best ∧ ∀ listed,
      ((processBestOrdersP2pRequest iter ob coin action required).bind fun res =>
          res.orders.lookup ticker) = some listed ↔
        (∃ uuid o, ob.orderSet.lookup uuid = some o ∧ o.base = pair.1 ∧ o.rel = pair.2) ∧
          listed = best.map toP2P :=
  ⟨fun _ => mem_eligible hob, pairwise_eligible hob _, _, cheapest_bestOrders _ hrequired,
    lookup_processBestOrdersP2pRequest hob (pairsIndexed_run ops) iter⟩

end cheapest

/-- An order for two coins. -/
def twoCoins : OrderbookItem :=
  { pubkey := "P", base := "KMD", rel := "BTC", price := 2, maxVolume := 1, minVolume := 0
    uuid := 7, createdAt := 0, baseProtocolInfo := [], relProtocolInfo := [], confSettings := none }

/-- The book that has this order. -/
def twoCoinsBook : Orderbook := IndexOp.apply .default (.insertOrUpdate twoCoins)

theorem twoCoins_cheapest : ∃ best,
    ((processBestOrdersP2pRequest sortedPairs twoCoinsBook "BTC" .sell 1).bind fun res =>
        res.orders.lookup "KMD") = some (best.map toP2P) ∧
      Cheapest .sell 1 0 [twoCoins] best := by
  have hob : Consistent twoCoinsBook :=
    (consistent_default.apply_iff _).2 (by simp [KeepsPair, Orderbook.default])
  obtain ⟨-, -, best, hbe, hls⟩ :=
    best_orders_cheapest sortedPairs [.insertOrUpdate twoCoins] "KMD" hob one_pos
  have hor : eligible twoCoinsBook .sell 1 (byPrice.toList
      (twoCoinsBook.ordered.members (BestOrdersAction.sell.pair "BTC" "KMD"))) = [twoCoins] := by
    decide +kernel
  exact ⟨best, (hls _).2 ⟨⟨7, twoCoins, by decide +kernel, rfl, rfl⟩, rfl⟩, hor ▸ hbe⟩

/-! ## Divisors -/

theorem isSome_divide {a b : MmNumber} : (divide a b).isSome ↔ b ≠ 0 := by
  by_cases hb : b = 0 <;> simp [divide, hb]

theorem isSome_mapM {α β : Type} {f : α → Option β} {l : List α} :
    (l.mapM f).isSome ↔ ∀ a ∈ l, (f a).isSome := by
  induction l with
  | nil => simp
  | cons a l ih =>
    rw [mapM_cons, forall_mem_cons, ← ih]
    cases f a <;> cases l.mapM f <;> simp

section divisors

variable {A : Type} (env : BestOrdersEnv A) (action : BestOrdersAction) (excludeMine : Bool)
  (res : BestOrdersP2PRes)

/-- The order is one that is shown to a seller. -/
def ShownToSeller (coin : String) (o : OrderbookP2PItem) : Prop :=
  env.tradable coin ∧ ¬(excludeMine ∧ env.isMine o.pubkey) ∧
    (env.address coin o.pubkey (HashMap.getD res.protocolInfos o.uuid {}).base).isSome

theorem isSome_rpcEntry {coin : String} (hcn : env.tradable coin) (o : OrderbookP2PItem) :
    (rpcEntry env action excludeMine res coin o).isSome ↔
      action = .buy ∨ (ShownToSeller env excludeMine res coin o → o.price ≠ 0) := by
  have hsl (address : A) (confSettings : Option OrderConfirmationsSettings) (isMine : Bool) :
      (o.asRpcBestOrdersSell address confSettings isMine).isSome ↔ o.price ≠ 0 := by
    by_cases hpr : o.price = 0 <;> simp [OrderbookP2PItem.asRpcBestOrdersSell, divide, hpr]
  simp only [rpcEntry, ShownToSeller, hcn, true_and]
  split
  · rename_i hsk
    simp [Bool.and_eq_true_iff.1 hsk]
  · rename_i hsh
    rw [Bool.and_eq_true_iff] at hsh
    cases action with
    | buy => cases env.address coin o.pubkey _ <;> simp
    | sell => cases env.address coin o.pubkey _ <;> simp [hsh, hsl]

theorem isSome_bestOrdersRpcV2 (iter : Iteration String) :
    (bestOrdersRpcV2 env action excludeMine res iter).isSome ↔ action = .buy ∨
      ∀ coin orders, res.orders.lookup coin = some orders → ∀ o ∈ orders,
        ShownToSeller env excludeMine res coin o → o.price ≠ 0 := by
  simp only [bestOrdersRpcV2, bind_pure_comp, Option.map_eq_map, isSome_mapM, isSome_map,
    mem_filter, Iteration.mem_entries, Prod.forall]
  constructor
  · intro h
    refine or_iff_not_imp_left.2 fun hsl coin orders hlk o ho hsh => ?_
    have hent := (isSome_rpcEntry env action excludeMine res hsh.1 o).1
      (h coin orders ⟨hlk, hsh.1⟩ o ho)
    exact hent.resolve_left hsl hsh
  · intro h coin orders hlk o ho
    refine (isSome_rpcEntry env action excludeMine res hlk.2 o).2 (h.imp id fun hps => ?_)
    exact hps coin orders hlk.1 o ho

/-- **No divisor is zero exactly if no reservation has a base amount of zero, unless it is the only
one, and no order that is shown to a seller has a price of zero.** -/
theorem no_zero_divisor_iff (messages : List MakerReserved) (iter : Iteration String) :
    ((sortByPrice messages).isSome ↔ messages.length < 2 ∨ ∀ r ∈ messages, r.baseAmount ≠ 0) ∧
    ((bestOrdersRpcV2 env action excludeMine res iter).isSome ↔ action = .buy ∨
      ∀ coin orders, res.orders.lookup coin = some orders → ∀ o ∈ orders,
        ShownToSeller env excludeMine res coin o → o.price ≠ 0) ∧
    ((bestOrdersRpc env action res iter).isSome ↔ action = .buy ∨
      ∀ coin orders, res.orders.lookup coin = some orders → ∀ o ∈ orders,
        ShownToSeller env false res coin o → o.price ≠ 0) := by
  refine ⟨?_, isSome_bestOrdersRpcV2 env action excludeMine res iter,
    isSome_bestOrdersRpcV2 env action false res iter⟩
  rw [sortByPrice]
  split
  · rename_i hst
    exact iff_of_true rfl (.inl hst)
  · rename_i hln
    simp [isSome_mapM, MakerReserved.price, isSome_divide, hln]

end divisors

/-- A reservation and an order that give something for nothing. -/
theorem zeroAmounts_panic :
    sortByPrice [{ sixReserved with baseAmount := 0 }, sixReserved] = none ∧
      bestOrdersRpc ⟨fun _ => true, fun _ pubkey _ => some pubkey, fun _ => false⟩ .sell
        ⟨Finmap.singleton "KMD" [{ twoCoins.toP2P with price := 0 }], ∅, ∅⟩ sortedPairs = none ∧
      bestOrdersRpcV2 ⟨fun _ => true, fun _ pubkey _ => some pubkey, fun _ => false⟩ .sell true
        ⟨Finmap.singleton "KMD" [{ twoCoins.toP2P with price := 0 }], ∅, ∅⟩ sortedPairs = none := by
  refine ⟨?_, rfl, rfl⟩
  rfl

end CheetahDex.Proof
