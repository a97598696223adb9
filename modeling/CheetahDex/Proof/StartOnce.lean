import CheetahDex.Proof.MatchAgreement

/-!
# A swap is started once

The uuid of a taker's request is the uuid of the swap. An order starts the swap of a match only when
the taker connects for the first time. What is not looked at is the other own orders: a request that
is sent again and does not fit the first order any more falls through to the next one, which
reserves for the same uuid, and a second connect that names that order starts the swap again.

The table of all matches, by order and request uuid, is what the proofs are about (`matchOf`).
-/

namespace CheetahDex.Proof

open Lib Common Ordermatch Option MakerState

/-- The match of an own order for a request uuid. -/
def matchOf (orders : MakerOrders) (uuid takerOrderUuid : Uuid) : Option MakerMatch :=
  (orders.lookup uuid).bind fun order => order.matches.lookup takerOrderUuid

variable {orders : MakerOrders} {order : MakerOrder}

variable {uuid : Uuid} {key : Uuid} {order' : MakerOrder} {orderMatch : MakerMatch}
  {ourPublicId : H256} {s : MakerState}

/-- Changing one match of one order changes one place of the table. -/
theorem matchOf_insert (h : orders.lookup uuid = some order)
    (hma : order'.matches = order.matches.insert key orderMatch) (a u : Uuid) :
    matchOf (orders.insert uuid order') a u =
      if a = uuid ∧ u = key then some orderMatch else matchOf orders a u := by
  unfold matchOf
  rw [HashMap.lookup_insert_ite]
  by_cases ha : a = uuid
  · subst ha
    simp only [true_and, if_true, h, Option.bind_some, hma]
    exact HashMap.lookup_insert_ite ..
  · simp [ha]

/-- A match is kept under the uuid of its request, and every uuid is held by one order. -/
structure TableInv (orders : MakerOrders) : Prop where
  keyed : ∀ a u m, matchOf orders a u = some m → m.request.uuid = u
  single : ∀ a b u m m', matchOf orders a u = some m → matchOf orders b u = some m' → a = b

theorem TableInv.insert (h : TableInv orders) (hlk : orders.lookup uuid = some order)
    (hma : order'.matches = order.matches.insert key orderMatch)
    (hkey : orderMatch.request.uuid = key)
    (hhl : ∀ a m, matchOf orders a key = some m → a = uuid) :
    TableInv (orders.insert uuid order') := by
  -- the new match is the only one under its key, and no other match moves
  have hat : ∀ a m, matchOf (orders.insert uuid order') a key = some m → a = uuid := by
    intro a m hm
    rw [matchOf_insert hlk hma] at hm
    split at hm
    · rename_i hpl
      exact hpl.1
    · exact hhl a m hm
  have hoth : ∀ a u m, u ≠ key → matchOf (orders.insert uuid order') a u = some m →
      matchOf orders a u = some m := by
    intro a u m hu hm
    rwa [matchOf_insert hlk hma, if_neg fun hpl => hu hpl.2] at hm
  refine ⟨fun a u m hm => ?_, fun a b u m m' hm hm' => ?_⟩
  · rw [matchOf_insert hlk hma] at hm
    split at hm
    · rename_i hpl
      rw [← some.inj hm, hpl.2, hkey]
    · exact h.keyed a u m hm
  · by_cases hu : u = key
    · subst hu
      rw [hat a m hm, hat b m' hm']
    · exact h.single a b u m m' (hoth a u m hu hm) (hoth b u m' hu hm')

/-! ## The messages -/

/-- The invariant: a swap that was started is held as connected. -/
structure StartInv (s : MakerState) : Prop where
  table : TableInv s.orders
  held : ∀ u ∈ s.started, ∃ a m, matchOf s.orders a u = some m ∧ m.connect ≠ none
  nodup : s.started.Nodup

/-- A request of somebody else, for this maker, that one own order holds a match for fits no other
own order. -/
def FitsOneOnly (ourPublicId : H256) (s : MakerState) : MakerEvent → Prop
  | .takerRequest _ fromPubkey request =>
    ourPublicId ≠ fromPubkey → request.canMatchWithMakerPubkey ourPublicId →
      ∀ a order, s.orders.lookup a = some order → request.uuid ∈ order.matches →
      ∀ b order', s.orders.lookup b = some order' → request.canMatchWithUuid b → b ≠ a →
        order'.matchWithRequest request = .notMatched
  | .takerConnect _ _ => True

theorem startInv_init (h : ∀ a order, orders.lookup a = some order → order.matches = ∅) :
    StartInv ⟨orders, []⟩ := by
  have hn : ∀ a u m, matchOf orders a u ≠ some m := by
    intro a u m hm
    obtain ⟨order, hord, hlk⟩ := Option.bind_eq_some_iff.1 hm
    rw [h a order hord] at hlk
    cases hlk
  exact ⟨⟨fun a u m hm => absurd hm (hn a u m), fun a b u m m' hm => absurd hm (hn a u m)⟩,
    by simp, List.nodup_nil⟩

/-- A request adds a match under a uuid that no other order has one for. -/
theorem startInv_takerRequest (h : StartInv s) {env : RequestEnv} {fromPubkey : H256}
    {request : TakerRequest}
    (hok : FitsOneOnly ourPublicId s (.takerRequest env fromPubkey request)) :
    StartInv (s.step ourPublicId (.takerRequest env fromPubkey request)) := by
  dsimp only [step]
  rcases processTakerRequest_cases env ourPublicId s.orders fromPubkey request with he | hnew
  · rw [he]
    exact h
  · obtain ⟨uuid, order, order', msg, hpk, hud, han, heq⟩ := hnew
    have hok := hok (by rintro rfl; simp [processTakerRequest] at heq) hpk
    obtain ⟨baseAmount, relAmount, baseCoin, relCoin, hmt, hfresh, -, rfl⟩ :=
      requestTurn_reserved han.turn
    rw [heq]
    -- no order holds the uuid: this one does not, and another one would have kept it from fitting
    have hnw : ∀ a m, matchOf s.orders a request.uuid ≠ some m := by
      intro a m hm
      obtain ⟨holder, hhl, hlk⟩ := Option.bind_eq_some_iff.1 hm
      have hmem : request.uuid ∈ holder.matches := Finmap.mem_of_lookup_eq_some hlk
      by_cases ha : uuid = a
      · subst ha
        cases hhl.symm.trans han.lookup
        exact hfresh hmem
      · have hnot := hok a holder hhl hmem uuid order han.lookup hud ha
        exact absurd (hmt.symm.trans hnot) (by simp)
    refine ⟨?_, fun u hu => ?_, h.nodup⟩
    · exact h.table.insert han.lookup rfl rfl fun a m hm => absurd hm (hnw a m)
    · obtain ⟨a, m, hm, hcon⟩ := h.held u hu
      refine ⟨a, m, ?_, hcon⟩
      rw [matchOf_insert han.lookup rfl, if_neg]
      · exact hm
      · rintro ⟨-, rfl⟩
        exact hnw a m hm

/-- A connection starts the swap of one match, which was not started before. -/
theorem startInv_takerConnect (h : StartInv s) (senderPubkey : H256) (connectMsg : TakerConnect) :
    StartInv (s.step ourPublicId (.takerConnect senderPubkey connectMsg)) := by
  dsimp only [step]
  unfold processTakerConnect
  split
  · simpa using h
  · split
    · simpa using h
    · rename_i order hlk
      rcases processConnect_cases ourPublicId order senderPubkey connectMsg with
        heq | ⟨orderMatch, hmt, hn, -, heq⟩
      · rw [heq]
        dsimp only
        rw [HashMap.insert_self hlk]
        simpa using h
      · rw [heq]
        have hhr : matchOf s.orders connectMsg.makerOrderUuid connectMsg.takerOrderUuid =
            some orderMatch := by
          rw [matchOf, hlk]
          exact hmt
        have hud : orderMatch.request.uuid = connectMsg.takerOrderUuid := h.table.keyed _ _ _ hhr
        -- had the swap been started, the one match for it would be connected
        have hfresh : connectMsg.takerOrderUuid ∉ s.started := by
          intro hmem
          obtain ⟨a, m, hm, hcon⟩ := h.held _ hmem
          obtain rfl := h.table.single _ _ _ _ _ hm hhr
          cases hm.symm.trans hhr
          exact hcon hn
        change StartInv ⟨s.orders.insert connectMsg.makerOrderUuid (order.startSwap
          connectMsg.takerOrderUuid (orderMatch.connectedBy ourPublicId connectMsg)),
          s.started ++ [orderMatch.request.uuid]⟩
        rw [hud]
        have htb := matchOf_insert hlk
          (rfl : (order.startSwap connectMsg.takerOrderUuid
            (orderMatch.connectedBy ourPublicId connectMsg)).matches = _)
        refine ⟨?_, fun u hu => ?_, ?_⟩
        · exact h.table.insert hlk rfl hud fun a m hm => h.table.single a _ _ _ _ hm hhr
        -- the swaps of before are held by the matches of before, the new one by the new match
        · rcases List.mem_append.1 hu with hu | hu
          · obtain ⟨a, m, hm, hcon⟩ := h.held u hu
            refine ⟨a, m, ?_, hcon⟩
            rw [htb, if_neg]
            · exact hm
            · rintro ⟨-, rfl⟩
              exact hfresh hu
          · refine ⟨connectMsg.makerOrderUuid, orderMatch.connectedBy ourPublicId connectMsg,
              ?_, ?_⟩
            · rw [htb, if_pos ⟨rfl, List.mem_singleton.1 hu⟩]
            · simp [MakerMatch.connectedBy]
        · refine List.nodup_append.2 ⟨h.nodup, List.nodup_singleton _, ?_⟩
          intro u hu v hv heq'
          rw [List.mem_singleton.1 hv] at heq'
          exact hfresh (heq' ▸ hu)

/-! ## Runs -/

/-- **Along every run in which a request that one own order holds a match for fits no other, every
swap is started at most once.** -/
theorem started_once_always (ourPublicId : H256) (orders : MakerOrders)
    (hfresh : ∀ a order, orders.lookup a = some order → order.matches = ∅)
    (events : List MakerEvent)
    (hfits : Guarded (step ourPublicId) (FitsOneOnly ourPublicId) ⟨orders, []⟩ events) :
    Always (step ourPublicId) (fun s => ∀ uuid, s.started.count uuid ≤ 1) ⟨orders, []⟩ events := by
  have hrun : Always (step ourPublicId) StartInv ⟨orders, []⟩ events := by
    refine Always.of_guarded (fun s event h hok => ?_) (startInv_init hfresh) hfits
    cases event with
    | takerRequest env fromPubkey request => exact startInv_takerRequest h hok
    | takerConnect senderPubkey connectMsg => exact startInv_takerConnect h senderPubkey connectMsg
  exact hrun.mono fun s h => List.nodup_iff_count_le_one.1 h.nodup

/-- Two orders alike, and a taker that asks for 6 of the 10 the first one has. -/
def twoOrders : MakerOrders := (oneOrder plainOrder).insert 2 { plainOrder with uuid := 2 }

def connectTo (uuid : Uuid) : MakerEvent :=
  .takerConnect 7
    { takerOrderUuid := 11, makerOrderUuid := uuid, senderPubkey := 0, destPubKey := 0 }

def plainTakerEvents : List MakerEvent :=
  [.takerRequest plainEnv 7 (plainRequest 11 6), connectTo 1, connectTo 1]

theorem twoOrders_fresh {a : Uuid} (h : twoOrders.lookup a = some order) : order.matches = ∅ := by
  unfold twoOrders oneOrder at h
  rw [HashMap.lookup_insert_ite, HashMap.lookup_insert_ite] at h
  split at h
  · rw [← some.inj h]
    rfl
  · split at h
    · rw [← some.inj h]
      rfl
    · cases h

theorem started_once_always_plain :
    Always (step 3) (fun s => ∀ uuid, s.started.count uuid ≤ 1) ⟨twoOrders, []⟩ plainTakerEvents ∧
    (plainTakerEvents.foldl (step 3) ⟨twoOrders, []⟩).started = [11] := by
  refine ⟨started_once_always 3 twoOrders (fun a order h => twoOrders_fresh h) plainTakerEvents ?_,
    by decide +kernel⟩
  refine ⟨fun _ _ a order hord hmem => ?_, trivial, trivial, trivial⟩
  rw [twoOrders_fresh hord] at hmem
  exact absurd hmem Finmap.notMem_empty

/-- The request is sent a second time. -/
def replayedEvents : List MakerEvent :=
  [.takerRequest plainEnv 7 (plainRequest 11 6), connectTo 1,
   .takerRequest plainEnv 7 (plainRequest 11 6), connectTo 2]

/-- **A request sent twice and a connect to each of two orders start the swap twice.** -/
theorem replayed_request_starts_twice :
    (∀ a order, twoOrders.lookup a = some order → order.matches = ∅) ∧
    (replayedEvents.foldl (step 3) ⟨twoOrders, []⟩).started = [11, 11] :=
  ⟨fun _ _ h => twoOrders_fresh h, by decide +kernel⟩

end CheetahDex.Proof
