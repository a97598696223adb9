import CheetahDex.Ordermatch.TakerOrder
import CheetahDex.Proof.OrderMoves
import Mathlib.Tactic.Linarith
import Mathlib.Tactic.Positivity

/-!
# Maker orders are not over-committed

A match adds to what is reserved only as much as is available; a timeout takes away; the balance
handler and the kickstart set the volume to what is reserved and something more. The delicate one is
an update: it is checked against a copy of the order, and goes through only if the order is still
equal to the copy when it is locked again.
-/

namespace CheetahDex.Proof

open Lib Common Ordermatch Option HashMap

/-- The invariant of an order. -/
structure Committed (order : MakerOrder) : Prop where
  price_pos : 0 < order.price
  match_pos : ∀ u m, order.matches.lookup u = some m → 0 < m.reserved.baseAmount
  reserved_le : order.reservedAmount ≤ order.maxBaseVol

/-- What the matching relies on. -/
structure NotOverCommitted (order : MakerOrder) : Prop where
  reserved_nonneg : 0 ≤ order.reservedAmount
  reserved_le : order.reservedAmount ≤ order.maxBaseVol
  available_nonneg : 0 ≤ order.availableAmount
  match_pos : ∀ u m, order.matches.lookup u = some m → 0 < m.reserved.baseAmount

variable {order : MakerOrder} {newUuid : Uuid} {random : H256}

theorem Committed.reserved_nonneg (h : Committed order) : 0 ≤ order.reservedAmount :=
  sum_nonneg fun u m hm => (h.match_pos u m hm).le

/-! ## Building -/

theorem validateMaxVol_ok {minBaseAmount minRelAmount maxBaseVol price : MmNumber}
    {minBaseVol : Option MmNumber} {u : Unit}
    (h : validateMaxVol minBaseAmount minRelAmount maxBaseVol minBaseVol price = .ok u) :
    (∀ min, minBaseVol = some min → min ≤ maxBaseVol) ∧ minBaseAmount ≤ maxBaseVol ∧
      minRelAmount ≤ maxBaseVol * price := by
  obtain ⟨_, hgv, _, hmin, hrel⟩ := of_bind₂_ok h
  refine ⟨?_, not_lt.1 (not_of_check hmin), not_lt.1 (not_of_check hrel)⟩
  rintro min rfl
  exact not_lt.1 (not_of_check hgv)

theorem committed_of_build {b : MakerOrderBuilder} {nowMs : Nat}
    (h : b.build newUuid nowMs random = .ok order) : Committed order := by
  obtain ⟨-, -, -, -, _, hpr, h⟩ := of_bind₃_ok h
  obtain ⟨minVol, -, _, hmax, h⟩ := of_bind₂_ok h
  cases h
  refine ⟨minPrice_pos.trans_le (le_of_validatePrice hpr), fun u m hm => ?_, ?_⟩
  · cases hm
  · exact b.baseCoin.minTradingVol_nonneg.trans (validateMaxVol_ok hmax).2.1

/-- What the builder of a taker order has checked. -/
structure TakerTerms (b : TakerOrderBuilder) (order : TakerOrder) : Prop where
  action : b.action = order.request.action
  base_pos : 0 < order.request.baseAmount
  rel_pos : 0 < order.request.relAmount
  base_le : b.baseCoin.minTradingVol ≤ order.minVolume
  rel_le : b.relCoin.minTradingVol ≤
    order.minVolume * (order.request.relAmount / order.request.baseAmount)
  min_le : order.minVolume ≤ order.request.baseAmount

section

variable {b : TakerOrderBuilder} {order : TakerOrder} (h : b.build newUuid random = .ok order)

include h

theorem takerTerms_of_build : TakerTerms b order := by
  obtain ⟨-, -, _, hbs, _, hrel, h⟩ := of_bind₃_ok h
  obtain ⟨-, -, -, -, _, hbs', h⟩ := of_bind₃_ok h
  obtain ⟨_, hpr, _, hmin, _, hmax, h⟩ := of_bind₃_ok h
  cases h
  have hbase_nonneg := b.baseCoin.minTradingVol_nonneg.trans (not_lt.1 (not_of_check hbs))
  have hrel_nonneg := b.relCoin.minTradingVol_nonneg.trans (not_lt.1 (not_of_check hrel))
  -- the amounts are positive, or dividing by them has panicked
  have hrel_ne : b.relAmount ≠ 0 := fun hz => not_of_check hpr (by rw [hz, zero_div])
  have hbase_pos := lt_of_le_of_ne hbase_nonneg (Ne.symm (not_of_check hbs'))
  have hrel_pos := lt_of_le_of_ne hrel_nonneg hrel_ne.symm
  have hle := not_lt.1 (not_of_check hmin)
  exact ⟨rfl, hbase_pos, hrel_pos, (le_max_left _ _).trans hle,
    (div_le_iff₀ (div_pos hrel_pos hbase_pos)).1 ((le_max_right _ _).trans hle),
    not_lt.1 (not_of_check hmax)⟩

/-- A taker order that becomes a maker order has nothing reserved. -/
theorem committed_toMakerOrder (nowMs : Nat) : Committed (order.toMakerOrder nowMs) := by
  obtain ⟨-, hbs, hrel, -, -, -⟩ := takerTerms_of_build h
  unfold TakerOrder.toMakerOrder
  dsimp only
  cases order.request.action with
  | buy => exact ⟨div_pos hbs hrel, fun u m hm => absurd hm (by simp), hrel.le⟩
  | sell => exact ⟨div_pos hrel hbs, fun u m hm => absurd hm (by simp), hbs.le⟩

end

/-! ## Matches -/

section

variable (h : Committed order)

include h

theorem Committed.reserve {nowMs : Nat} {takerRequest : TakerRequest}
    {reserved : MakerReserved} (hpos : 0 < reserved.baseAmount)
    (hav : reserved.baseAmount ≤ order.availableAmount)
    (hnew : takerRequest.uuid ∉ order.matches) :
    Committed (order.reserve nowMs takerRequest reserved) where
  price_pos := h.price_pos
  match_pos := by
    intro u m hm
    unfold MakerOrder.reserve at hm
    rw [lookup_insert_ite] at hm
    split at hm
    · cases hm
      exact hpos
    · exact h.match_pos u m hm
  reserved_le := by
    unfold MakerOrder.reservedAmount MakerOrder.reserve
    rw [sum_insert_of_not_mem _ _ hnew]
    rw [MakerOrder.availableAmount, MakerOrder.reservedAmount] at hav
    linarith

/-- The match that is started keeps its reservation. -/
theorem Committed.startSwap {key : Uuid} {m m' : MakerMatch}
    (hlk : order.matches.lookup key = some m) (hrsv : m'.reserved = m.reserved) :
    Committed (order.startSwap key m') where
  price_pos := h.price_pos
  match_pos := by
    intro u found hfnd
    unfold MakerOrder.startSwap at hfnd
    rw [lookup_insert_ite] at hfnd
    split at hfnd
    · rw [← some.inj hfnd, hrsv]
      exact h.match_pos key m hlk
    · exact h.match_pos u found hfnd
  reserved_le := by
    refine le_of_eq_of_le (sum_congr fun u => ?_) h.reserved_le
    unfold MakerOrder.startSwap
    rw [lookup_insert_ite]
    split
    · rename_i hu
      rw [hu, hlk, Option.map_some, Option.map_some, hrsv]
    · rfl

theorem Committed.dropTimedOut (now : Nat) : Committed (order.dropTimedOut now) where
  price_pos := h.price_pos
  match_pos := by
    intro u m hm
    unfold MakerOrder.dropTimedOut at hm
    rw [lookup_retain, Option.filter_eq_some_iff] at hm
    exact h.match_pos u m hm.1
  reserved_le := by
    have hle : (order.dropTimedOut now).reservedAmount ≤ order.reservedAmount :=
      sum_retain_le (fun u m hm => (h.match_pos u m hm).le) _
    exact hle.trans h.reserved_le

/-! ## Volumes and updates -/

/-- The volume becomes what is reserved and something more. -/
theorem Committed.setVolume {volume : MmNumber} (hvol : 0 ≤ volume) :
    Committed { order with maxBaseVol := order.reservedAmount + volume } where
  price_pos := h.price_pos
  match_pos := h.match_pos
  reserved_le := le_add_of_nonneg_right hvol

/-- The update has been checked against this order. -/
theorem Committed.applyUpdated {update : PendingUpdate}
    (hpp : Prepared order update) (nowMs : Nat) :
    Committed (order.applyUpdated nowMs update.updateMsg) where
  price_pos := by
    unfold MakerOrder.applyUpdated
    cases hpr : update.updateMsg.newPrice with
    | none => exact h.price_pos
    | some price => exact hpp.price_pos price hpr
  match_pos := h.match_pos
  reserved_le := by
    unfold MakerOrder.applyUpdated
    cases hvol : update.updateMsg.newMaxVolume with
    | none => exact h.reserved_le
    | some volume => exact (hpp.reserved_lt volume hvol).le

end

/-! ## Runs -/

/-- The invariant of an order with its pending updates. -/
structure OrderInv (s : OrderState) : Prop where
  order : Committed s.order
  updates : UpdatesPrepared s

/-- **No move commits more than the order offers.** -/
theorem OrderInv.move {s s' : OrderState} {event : OrderEvent} (h : OrderInv s)
    (hmv : OrderMove event s s') : OrderInv s' := by
  refine ⟨?_, h.updates.move hmv⟩
  cases hmv with
  | stay => exact h.order
  | reserve hft hnew _ =>
    exact h.order.reserve (hft.baseAmount_pos h.order.price_pos) hft.available hnew
  | start hlk => exact h.order.startSwap hlk rfl
  | timeout now => exact h.order.dropTimedOut now
  | prepare _ => exact h.order
  | commit hmem he _ _ =>
    have hpp := h.updates _ hmem
    rw [← he] at hpp
    exact h.order.applyUpdated hpp _
  | forget _ => exact h.order
  | setVolume hvol _ => exact h.order.setVolume hvol

/-- **An order that was built is never over-committed, whatever happens to it and in whatever
order.** -/
theorem notOverCommitted_always (b : MakerOrderBuilder) (newUuid : Uuid) (nowMs : Nat)
    (random : H256)
    (order : MakerOrder) (hbuild : b.build newUuid nowMs random = .ok order)
    (events : List OrderEvent) :
    Always OrderState.step (fun s => NotOverCommitted s.order) ⟨order, []⟩ events := by
  have hsta : OrderInv ⟨order, []⟩ := ⟨committed_of_build hbuild, by simp [UpdatesPrepared]⟩
  have hrun : Always OrderState.step OrderInv ⟨order, []⟩ events :=
    Always.of_step (P := OrderInv) (fun s event h => h.move (orderMove_step s event)) hsta events
  exact hrun.mono fun s ⟨h, _⟩ =>
    ⟨h.reserved_nonneg, h.reserved_le, sub_nonneg.2 h.reserved_le, h.match_pos⟩

/-- A coin with a minimum volume of 1/1000. -/
def plainCoin (ticker : String) : Coin where
  ticker := ticker
  minTradingVol := 1 / 1000
  minTxAmount := 1 / 1000
  requiredConfirmations := 1
  requiresNotarization := false
  coinProtocolInfo := []
  isCoinProtocolSupported := fun _ => true
  isPrivacy := false
  minTradingVol_nonneg := by decide +kernel
  minTxAmount_nonneg := by decide +kernel

/-- Every ticker is activated. -/
def plainCoins : Coins where
  find := fun ticker => some (plainCoin ticker)
  ticker_of_find := by
    intro ticker coin h
    rw [← some.inj h]
    rfl

def plainBuilder : MakerOrderBuilder where
  maxBaseVol := 10
  minBaseVol := none
  price := 2
  baseCoin := plainCoin "KMD"
  relCoin := plainCoin "DOC"
  baseOrderbookTicker := none
  relOrderbookTicker := none
  confSettings := some { baseConfs := 1, baseNota := false, relConfs := 1, relNota := false }
  swapVersion := {}

/-- What `plainBuilder` builds. -/
def plainOrder : MakerOrder where
  maxBaseVol := 10
  minBaseVol := 1 / 1000
  price := 2
  createdAt := 0
  updatedAt := some 0
  base := "KMD"
  rel := "DOC"
  «matches» := ∅
  startedSwaps := []
  uuid := 1
  confSettings := some { baseConfs := 1, baseNota := false, relConfs := 1, relNota := false }
  baseOrderbookTicker := none
  relOrderbookTicker := none
  p2pPrivkey := none
  swapVersion := {}

def plainRequest (uuid : Uuid) (baseAmount : MmNumber) : TakerRequest where
  base := "KMD"
  rel := "DOC"
  baseAmount := baseAmount
  relAmount := 2 * baseAmount
  action := .buy
  uuid := uuid
  senderPubkey := 7
  matchBy := .any
  confSettings := none
  baseProtocolInfo := some []
  relProtocolInfo := some []
  swapVersion := {}

/-- Two takers and a balance that has become small. -/
def plainEvents : List OrderEvent :=
  [.request plainCoins 0 3 1 (plainRequest 11 6),
   .request plainCoins 0 3 1 (plainRequest 12 4),
   .connect 3 7 { takerOrderUuid := 11, makerOrderUuid := 1, senderPubkey := 7, destPubKey := 3 },
   .timeout 60000,
   .balanceUpdated { balance := 1, locked := 0, tradeFee := .ok ("KMD", 1 / 10)
                     baseCoinBalance := .ok () } (plainCoin "KMD") false]

theorem notOverCommitted_always_plain :
    plainBuilder.build 1 0 0 = .ok plainOrder ∧
    Always OrderState.step (fun s => NotOverCommitted s.order) ⟨plainOrder, []⟩ plainEvents ∧
    (plainEvents.foldl OrderState.step ⟨plainOrder, []⟩).order.reservedAmount = 6 := by
  have hbuild : plainBuilder.build 1 0 0 = .ok plainOrder := by decide +kernel
  exact ⟨hbuild, notOverCommitted_always plainBuilder 1 0 0 plainOrder hbuild plainEvents,
    by decide +kernel⟩

end CheetahDex.Proof
