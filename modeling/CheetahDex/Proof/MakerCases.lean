import CheetahDex.Ordermatch.Maker
import Mathlib.Algebra.Order.Field.Basic

/-!
# What a message does to the own orders

A taker request leaves all own orders as they are, or reserves in one of them. A taker connect
leaves them as they are, or starts the swap of a match that was waiting for it. The proofs about
matching go through these case lemmas and not through the loops.
-/

namespace CheetahDex.Proof

open Lib Common Ordermatch

/-! ## Amounts -/

/-- What a request and an order that match have agreed on. -/
structure Fits (order : MakerOrder) (taker : TakerRequest) (baseAmount relAmount : MmNumber) :
    Prop where
  base_pos : 0 < taker.baseAmount
  rel_pos : 0 < taker.relAmount
  available : baseAmount ≤ order.availableAmount
  minimum : order.minBaseVol ≤ baseAmount
  buy : taker.action = .buy →
    tickerMatches order.base order.baseOrderbookTicker taker.base ∧
    tickerMatches order.rel order.relOrderbookTicker taker.rel ∧
    baseAmount = taker.baseAmount ∧ relAmount = taker.baseAmount * order.price ∧
    order.price ≤ taker.relAmount / taker.baseAmount
  sell : taker.action = .sell →
    tickerMatches order.base order.baseOrderbookTicker taker.rel ∧
    tickerMatches order.rel order.relOrderbookTicker taker.base ∧
    baseAmount = taker.baseAmount / order.price ∧ relAmount = taker.baseAmount ∧
    order.price ≤ taker.baseAmount / taker.relAmount

theorem fits_of_matchWithRequest {order : MakerOrder} {taker : TakerRequest}
    {baseAmount relAmount : MmNumber}
    (h : order.matchWithRequest taker = .matched baseAmount relAmount) :
    Fits order taker baseAmount relAmount := by
  unfold MakerOrder.matchWithRequest at h
  split at h
  · cases h
  · rename_i hpos
    rw [not_or, not_le, not_le] at hpos
    split at h <;> rename_i hact <;> dsimp only at h <;> split at h
    · rename_i hcn
      obtain ⟨htc, hav, hmin, hpr⟩ := hcn
      rw [Bool.and_eq_true] at htc
      obtain ⟨rfl, rfl⟩ := OrderMatchResult.matched.inj h
      refine ⟨hpos.1, hpos.2, hav, hmin, fun _ => ?_, fun hsl => ?_⟩
      · exact ⟨htc.1, htc.2, rfl, rfl, hpr⟩
      · exact absurd (hact.symm.trans hsl) (by simp)
    · cases h
    · rename_i hcn
      obtain ⟨htc, hav, hmin, hpr⟩ := hcn
      rw [Bool.and_eq_true] at htc
      obtain ⟨rfl, rfl⟩ := OrderMatchResult.matched.inj h
      refine ⟨hpos.1, hpos.2, hav, hmin, fun hbuy => ?_, fun _ => ?_⟩
      · exact absurd (hact.symm.trans hbuy) (by simp)
      · exact ⟨htc.1, htc.2, rfl, rfl, hpr⟩
    · cases h

section fits

variable {order : MakerOrder} {taker : TakerRequest} {baseAmount relAmount : MmNumber}
  (h : Fits order taker baseAmount relAmount) (hpr : 0 < order.price)

include h hpr

theorem Fits.baseAmount_pos : 0 < baseAmount := by
  cases hact : taker.action with
  | buy =>
    obtain ⟨-, -, rfl, -⟩ := h.buy hact
    exact h.base_pos
  | sell =>
    obtain ⟨-, -, rfl, -⟩ := h.sell hact
    exact div_pos h.base_pos hpr

/-- What is agreed on is at the price of the order. -/
theorem Fits.relAmount_eq : relAmount = baseAmount * order.price := by
  cases hact : taker.action with
  | buy =>
    obtain ⟨-, -, rfl, rfl, -⟩ := h.buy hact
    rfl
  | sell =>
    obtain ⟨-, -, rfl, rfl, -⟩ := h.sell hact
    rw [div_mul_cancel₀ _ hpr.ne']

end fits

/-! ## One order -/

theorem requestTurn_reserved {coins : Coins} {nowMs : Nat} {ourPublicId : H256} {uuid : Uuid}
    {order order' : MakerOrder} {takerRequest : TakerRequest} {msg : MakerReserved}
    (h : order.requestTurn coins nowMs ourPublicId uuid takerRequest = .reserved msg order') :
    ∃ baseAmount relAmount baseCoin relCoin,
      order.matchWithRequest takerRequest = .matched baseAmount relAmount ∧
      takerRequest.uuid ∉ order.matches ∧
      msg = order.reservedMsg ourPublicId uuid baseCoin relCoin baseAmount relAmount takerRequest ∧
      order' = order.reserve nowMs takerRequest msg := by
  unfold MakerOrder.requestTurn at h
  split at h
  · cases h
  · rename_i baseAmount relAmount hmt
    split at h
    · cases h
    · rename_i baseCoin relCoin _
      split at h
      · rename_i hnew
        obtain ⟨rfl, rfl⟩ := RequestTurn.reserved.inj h
        exact ⟨baseAmount, relAmount, baseCoin, relCoin, hmt, hnew.1, rfl, rfl⟩
      · cases h

/-- A connection is ignored or starts the swap of the match it names. -/
theorem processConnect_cases (ourPublicId : H256) (order : MakerOrder) (senderPubkey : H256)
    (connectMsg : TakerConnect) :
    order.processConnect ourPublicId senderPubkey connectMsg = (order, none) ∨
    ∃ orderMatch, order.matches.lookup connectMsg.takerOrderUuid = some orderMatch ∧
      orderMatch.connect = none ∧ orderMatch.connected = none ∧
      let connected := orderMatch.connectedBy ourPublicId connectMsg
      let started := order.startSwap connectMsg.takerOrderUuid connected
      order.processConnect ourPublicId senderPubkey connectMsg =
        (started, some (connected, started)) := by
  unfold MakerOrder.processConnect
  split
  · exact .inl rfl
  · rename_i orderMatch hlk
    split
    · exact .inl rfl
    · split
      · rename_i hn
        rw [Bool.and_eq_true, Option.isNone_iff_eq_none, Option.isNone_iff_eq_none] at hn
        exact .inr ⟨orderMatch, hlk, hn.2, hn.1, rfl⟩
      · exact .inl rfl

/-- A match that waits for its taker is ongoing. -/
theorem hasOngoingMatches_of_lookup {order : MakerOrder} {u : Uuid} {m : MakerMatch}
    (hm : order.matches.lookup u = some m) (hcon : m.connect = none)
    (hco : m.connected = none) : order.hasOngoingMatches :=
  HashMap.any_of_lookup hm (by rw [hco, hcon]; rfl)

/-! ## All orders -/

variable (env : RequestEnv) (ourPublicId : H256)

/-- What a request that is answered has found. -/
structure Answered (orders : MakerOrders)
    (takerRequest : TakerRequest) (uuid : Uuid) (order order' : MakerOrder) (msg : MakerReserved) :
    Prop where
  lookup : orders.lookup uuid = some order
  turn : order.requestTurn env.coins env.nowMs ourPublicId uuid takerRequest = .reserved msg order'

/-- The loop stops at the first order that fits, and changes no other. -/
theorem requestLoop_cases (takerRequest : TakerRequest)
    (orders : MakerOrders) (uuids : List Uuid) :
    requestLoop env.coins env.nowMs ourPublicId takerRequest orders uuids = (orders, none) ∨
    ∃ uuid ∈ uuids, ∃ order order' msg,
      Answered env ourPublicId orders takerRequest uuid order order' msg ∧
      requestLoop env.coins env.nowMs ourPublicId takerRequest orders uuids =
        (orders.insert uuid order', some msg) := by
  induction uuids with
  | nil => exact .inl rfl
  | cons uuid rest ih =>
    unfold requestLoop
    split
    · exact ih.imp_right fun ⟨u, hu, h⟩ => ⟨u, List.mem_cons_of_mem uuid hu, h⟩
    · rename_i order hlk
      split
      · exact ih.imp_right fun ⟨u, hu, h⟩ => ⟨u, List.mem_cons_of_mem uuid hu, h⟩
      · exact .inl rfl
      · rename_i msg order' htr
        exact .inr ⟨uuid, List.mem_cons_self, order, order', msg, ⟨hlk, htr⟩, rfl⟩

theorem processTakerRequest_cases (orders : MakerOrders)
    (fromPubkey : H256) (takerRequest : TakerRequest) :
    processTakerRequest env ourPublicId orders fromPubkey takerRequest = (orders, none) ∨
    ∃ uuid order order' msg, takerRequest.canMatchWithMakerPubkey ourPublicId ∧
      takerRequest.canMatchWithUuid uuid ∧
      Answered env ourPublicId orders takerRequest uuid order order' msg ∧
      processTakerRequest env ourPublicId orders fromPubkey takerRequest =
        (orders.insert uuid order', some msg) := by
  unfold processTakerRequest
  split
  · exact .inl rfl
  · split
    · exact .inl rfl
    · rename_i hpk
      rw [Bool.not_eq_true, Bool.not_eq_false'] at hpk
      refine (requestLoop_cases env ourPublicId takerRequest orders _).imp_right ?_
      rintro ⟨uuid, hmem, order, order', msg, han, heq⟩
      exact ⟨uuid, order, order', msg, hpk, (List.mem_filter.1 hmem).2, han, heq⟩

end CheetahDex.Proof
