import CheetahDex.Lib.Checks
import CheetahDex.Ordermatch.ProcessMsg
import Mathlib.Data.Rat.Lemmas
import Mathlib.Algebra.Order.Field.Rat

/-!
# Maker orders and the messages of a match

A maker order sells up to `maxBaseVol` of its base coin at its price. A taker request that fits
reserves a part of that volume (`MakerMatch`); when the taker connects, a swap starts.

Public keys of the matching protocol are the 32 bytes of the key without its prefix.
-/

namespace CheetahDex.Ordermatch

open Lib Common

/-- `H256Json`. -/
abbrev H256 := BitVec 256

structure SwapVersion where
  version : UInt8 := 1
  deriving DecidableEq

/-- A coin, as far as matching asks it something. The two minima are zero, a constant, or a multiple
of the coin's dust amount. -/
structure Coin where
  ticker : String
  minTradingVol : MmNumber
  minTxAmount : MmNumber
  requiredConfirmations : Nat
  requiresNotarization : Bool
  coinProtocolInfo : List UInt8
  isCoinProtocolSupported : Option (List UInt8) → Bool
  isPrivacy : Bool
  minTradingVol_nonneg : 0 ≤ minTradingVol
  minTxAmount_nonneg : 0 ≤ minTxAmount

/-- The settings of a pair of coins. -/
def OrderConfirmationsSettings.ofCoins (base rel : Coin) : OrderConfirmationsSettings :=
  { baseConfs := base.requiredConfirmations
    baseNota := base.requiresNotarization
    relConfs := rel.requiredConfirmations
    relNota := rel.requiresNotarization }

/-! ## Messages -/

inductive TakerAction where
  | buy
  | sell
  deriving DecidableEq

inductive MatchBy where
  | any
  | orders (uuids : Finset Uuid)
  | pubkeys (pubkeys : Finset H256)
  deriving DecidableEq

structure TakerRequest where
  base : String
  rel : String
  baseAmount : MmNumber
  relAmount : MmNumber
  action : TakerAction
  uuid : Uuid
  senderPubkey : H256
  destPubKey : H256 := 0
  matchBy : MatchBy
  confSettings : Option OrderConfirmationsSettings
  baseProtocolInfo : Option (List UInt8)
  relProtocolInfo : Option (List UInt8)
  swapVersion : SwapVersion
  deriving DecidableEq

namespace TakerRequest

variable (request : TakerRequest)

def canMatchWithMakerPubkey (makerPubkey : H256) : Bool :=
  match request.matchBy with
  | .pubkeys pubkeys => makerPubkey ∈ pubkeys
  | .any => true
  | .orders _ => true

def canMatchWithUuid (uuid : Uuid) : Bool :=
  match request.matchBy with
  | .orders uuids => uuid ∈ uuids
  | .any => true
  | .pubkeys _ => true

def baseProtocolInfoForMaker : Option (List UInt8) :=
  match request.action with
  | .buy => request.baseProtocolInfo
  | .sell => request.relProtocolInfo

def relProtocolInfoForMaker : Option (List UInt8) :=
  match request.action with
  | .buy => request.relProtocolInfo
  | .sell => request.baseProtocolInfo

end TakerRequest

structure MakerReserved where
  base : String
  rel : String
  baseAmount : MmNumber
  relAmount : MmNumber
  takerOrderUuid : Uuid
  makerOrderUuid : Uuid
  senderPubkey : H256
  destPubKey : H256
  confSettings : Option OrderConfirmationsSettings
  baseProtocolInfo : Option (List UInt8)
  relProtocolInfo : Option (List UInt8)
  swapVersion : SwapVersion
  deriving DecidableEq

structure TakerConnect where
  takerOrderUuid : Uuid
  makerOrderUuid : Uuid
  senderPubkey : H256
  destPubKey : H256
  deriving DecidableEq

structure MakerConnected where
  takerOrderUuid : Uuid
  makerOrderUuid : Uuid
  method : String
  senderPubkey : H256
  destPubKey : H256
  deriving DecidableEq

structure MakerMatch where
  request : TakerRequest
  reserved : MakerReserved
  connect : Option TakerConnect
  connected : Option MakerConnected
  lastUpdated : Nat
  deriving DecidableEq

/-! ## The order -/

/-- `MakerOrder`. The key pair of an order is represented by its public key. -/
structure MakerOrder where
  maxBaseVol : MmNumber
  minBaseVol : MmNumber
  price : MmNumber
  createdAt : Nat
  updatedAt : Option Nat
  base : String
  rel : String
  «matches» : HashMap Uuid MakerMatch
  startedSwaps : List Uuid
  uuid : Uuid
  confSettings : Option OrderConfirmationsSettings
  baseOrderbookTicker : Option String
  relOrderbookTicker : Option String
  p2pPrivkey : Option H256
  swapVersion : SwapVersion
  deriving DecidableEq

inductive OrderMatchResult where
  | matched (baseAmount relAmount : MmNumber)
  | notMatched
  deriving DecidableEq

/-- An own ticker, or the ticker it goes by in the order book, is the one of the other side. -/
def tickerMatches (ticker : String) (orderbookTicker : Option String) (other : String) : Bool :=
  ticker = other ∨ orderbookTicker = some other

namespace MakerOrder

variable (order : MakerOrder)

def reservedAmount : MmNumber := order.matches.sum fun orderMatch => orderMatch.reserved.baseAmount

def availableAmount : MmNumber := order.maxBaseVol - order.reservedAmount

def hasOngoingMatches : Bool :=
  order.matches.any fun orderMatch => orderMatch.connected.isNone && orderMatch.connect.isNone

/-- `match_with_request`. Prices are never zero. -/
def matchWithRequest (taker : TakerRequest) : OrderMatchResult :=
  if taker.baseAmount ≤ 0 ∨ taker.relAmount ≤ 0 then .notMatched
  else
    match taker.action with
    | .buy =>
      let tickerMatch := tickerMatches order.base order.baseOrderbookTicker taker.base &&
        tickerMatches order.rel order.relOrderbookTicker taker.rel
      let takerPrice := taker.relAmount / taker.baseAmount
      if tickerMatch ∧ taker.baseAmount ≤ order.availableAmount ∧
          taker.baseAmount ≥ order.minBaseVol ∧ takerPrice ≥ order.price then
        .matched taker.baseAmount (taker.baseAmount * order.price)
      else .notMatched
    | .sell =>
      -- the taker sells its base for ours, so the coins are crossed over
      let tickerMatch := tickerMatches order.base order.baseOrderbookTicker taker.rel &&
        tickerMatches order.rel order.relOrderbookTicker taker.base
      let takerPrice := taker.baseAmount / taker.relAmount
      let matchedBaseAmount := taker.baseAmount / order.price
      let matchedRelAmount := taker.baseAmount
      if tickerMatch ∧ matchedBaseAmount ≤ order.availableAmount ∧
          matchedBaseAmount ≥ order.minBaseVol ∧ takerPrice ≥ order.price then
        .matched matchedBaseAmount matchedRelAmount
      else .notMatched

def applyUpdated (nowMs : Nat) (msg : MakerOrderUpdated) : MakerOrder :=
  { order with
    price := msg.newPrice.getD order.price
    maxBaseVol := msg.newMaxVolume.getD order.maxBaseVol
    minBaseVol := msg.newMinVolume.getD order.minBaseVol
    confSettings := msg.newConfSettings <|> order.confSettings
    updatedAt := some nowMs }

/-- `base_orderbook_ticker`. -/
def baseTicker : String := order.baseOrderbookTicker.getD order.base

/-- `rel_orderbook_ticker`. -/
def relTicker : String := order.relOrderbookTicker.getD order.rel

end MakerOrder

/-! ## Building an order -/

inductive MakerOrderBuildError where
  | baseEqualRel
  | maxBaseVolTooLow (actual threshold : MmNumber)
  | minBaseVolTooLow (actual threshold : MmNumber)
  | priceTooLow (actual threshold : MmNumber)
  | relVolTooLow (actual threshold : MmNumber)
  | confSettingsNotSet
  | maxBaseVolBelowMinBaseVol (min max : MmNumber)
  deriving DecidableEq

/-- The smallest price. -/
def minPrice : MmNumber := 1 / 100000000

def validatePrice (price : MmNumber) : Except MakerOrderBuildError Unit :=
  check (price < minPrice) (.priceTooLow price minPrice)

def validateAndGetMinVol (minBaseAmount minRelAmount : MmNumber) (minBaseVol : Option MmNumber)
    (price : MmNumber) : Except MakerOrderBuildError MmNumber := do
  let baseMinByRel := minRelAmount / price
  let baseMinVolThreshold := max minBaseAmount baseMinByRel
  let actualMinBaseVol := minBaseVol.getD baseMinVolThreshold
  check (actualMinBaseVol < baseMinVolThreshold)
    (.minBaseVolTooLow actualMinBaseVol baseMinVolThreshold)
  return actualMinBaseVol

def validateMaxVol (minBaseAmount minRelAmount maxBaseVol : MmNumber) (minBaseVol : Option MmNumber)
    (price : MmNumber) : Except MakerOrderBuildError Unit := do
  minBaseVol.forM fun min => check (maxBaseVol < min) (.maxBaseVolBelowMinBaseVol min maxBaseVol)
  check (maxBaseVol < minBaseAmount) (.maxBaseVolTooLow maxBaseVol minBaseAmount)
  let relVol := maxBaseVol * price
  check (relVol < minRelAmount) (.relVolTooLow relVol minRelAmount)

structure MakerOrderBuilder where
  maxBaseVol : MmNumber
  minBaseVol : Option MmNumber
  price : MmNumber
  baseCoin : Coin
  relCoin : Coin
  baseOrderbookTicker : Option String
  relOrderbookTicker : Option String
  confSettings : Option OrderConfirmationsSettings
  swapVersion : SwapVersion

/-- `MakerOrderBuilder::build`, with the uuid, the time and the key pair it draws. -/
def MakerOrderBuilder.build (b : MakerOrderBuilder) (newUuid : Uuid) (nowMs : Nat)
    (random : H256) : Except MakerOrderBuildError MakerOrder := do
  check (b.baseCoin.ticker = b.relCoin.ticker) .baseEqualRel
  check b.confSettings.isNone .confSettingsNotSet
  let minBaseAmount := b.baseCoin.minTradingVol
  let minRelAmount := b.relCoin.minTradingVol
  validatePrice b.price
  let actualMinBaseVol ← validateAndGetMinVol minBaseAmount minRelAmount b.minBaseVol b.price
  validateMaxVol minBaseAmount minRelAmount b.maxBaseVol b.minBaseVol b.price
  return {
    base := b.baseCoin.ticker
    rel := b.relCoin.ticker
    createdAt := nowMs
    updatedAt := some nowMs
    maxBaseVol := b.maxBaseVol
    minBaseVol := actualMinBaseVol
    price := b.price
    «matches» := ∅
    startedSwaps := []
    uuid := newUuid
    confSettings := b.confSettings
    baseOrderbookTicker := b.baseOrderbookTicker
    relOrderbookTicker := b.relOrderbookTicker
    p2pPrivkey := if b.baseCoin.isPrivacy then some random else none
    swapVersion := b.swapVersion }

end CheetahDex.Ordermatch
