import CheetahDex.Ordermatch.Maker

/-!
# Taker orders and the messages on the wire

A taker order is sent as a request under the tickers the order book knows its coins by, signed with
the key of the order if it has one and with the key of the node otherwise. The receiver takes the
sender from the signature and not from the message.
-/

namespace CheetahDex.Ordermatch

open Lib Common

/-! ## The order -/

structure TakerMatch where
  reserved : MakerReserved
  connect : TakerConnect
  connected : Option MakerConnected
  lastUpdated : Nat
  deriving DecidableEq

/-- `TakerOrder`. The key pair of an order is represented by its public key. -/
structure TakerOrder where
  request : TakerRequest
  «matches» : HashMap Uuid TakerMatch
  minVolume : MmNumber
  baseOrderbookTicker : Option String
  relOrderbookTicker : Option String
  p2pPrivkey : Option H256
  deriving DecidableEq

inductive MatchReservedResult where
  | matched
  | notMatched
  deriving DecidableEq

namespace TakerOrder

variable (order : TakerOrder) (reserved : MakerReserved)

/-- What `match_reserved` asks of `match_by`. -/
def canMatchWith : Bool :=
  match order.request.matchBy with
  | .any => true
  | .orders uuids => reserved.makerOrderUuid ∈ uuids
  | .pubkeys pubkeys => reserved.senderPubkey ∈ pubkeys

def matchReserved : MatchReservedResult :=
  if !order.canMatchWith reserved then .notMatched
  else
    let myBaseAmount := order.request.baseAmount
    let myRelAmount := order.request.relAmount
    let otherBaseAmount := reserved.baseAmount
    let otherRelAmount := reserved.relAmount
    match order.request.action with
    | .buy =>
      let matchTicker :=
        tickerMatches order.request.base order.baseOrderbookTicker reserved.base &&
        tickerMatches order.request.rel order.relOrderbookTicker reserved.rel
      if matchTicker ∧ myBaseAmount = otherBaseAmount ∧ otherRelAmount ≤ myRelAmount then .matched
      else .notMatched
    | .sell =>
      let matchTicker :=
        tickerMatches order.request.base order.baseOrderbookTicker reserved.rel &&
        tickerMatches order.request.rel order.relOrderbookTicker reserved.base
      if matchTicker ∧ myBaseAmount = otherRelAmount ∧ myRelAmount ≤ otherBaseAmount then .matched
      else .notMatched

def takerCoinTicker : String :=
  match order.request.action with
  | .buy => order.request.rel
  | .sell => order.request.base

def makerCoinTicker : String :=
  match order.request.action with
  | .buy => order.request.base
  | .sell => order.request.rel

/-- `base_orderbook_ticker`. -/
def baseTicker : String := order.baseOrderbookTicker.getD order.request.base

/-- `rel_orderbook_ticker`. -/
def relTicker : String := order.relOrderbookTicker.getD order.request.rel

end TakerOrder

/-! ## Building an order, and turning it into a maker order -/

inductive TakerOrderBuildError where
  | baseEqualRel
  | baseAmountTooLow (actual threshold : MmNumber)
  | relAmountTooLow (actual threshold : MmNumber)
  | minVolumeTooLow (actual threshold : MmNumber)
  | maxBaseVolBelowMinBaseVol (max min : MmNumber)
  | senderPubkeyIsZero
  | confsSettingsNotSet
  /-- A division by zero. -/
  | panicked
  deriving DecidableEq

structure TakerOrderBuilder where
  baseCoin : Coin
  relCoin : Coin
  baseOrderbookTicker : Option String
  relOrderbookTicker : Option String
  baseAmount : MmNumber
  relAmount : MmNumber
  senderPubkey : H256
  action : TakerAction
  matchBy : MatchBy
  confSettings : Option OrderConfirmationsSettings
  minVolume : Option MmNumber
  swapVersion : SwapVersion

/-- The coin the taker pays with. -/
def TakerOrderBuilder.myCoin (b : TakerOrderBuilder) : Coin :=
  match b.action with
  | .buy => b.relCoin
  | .sell => b.baseCoin

/-- `TakerOrderBuilder::build`, with the uuid and the key pair it draws. -/
def TakerOrderBuilder.build (b : TakerOrderBuilder) (newUuid : Uuid) (random : H256) :
    Except TakerOrderBuildError TakerOrder := do
  let minBaseAmount := b.baseCoin.minTradingVol
  let minRelAmount := b.relCoin.minTradingVol
  check (b.baseCoin.ticker = b.relCoin.ticker) .baseEqualRel
  check (b.baseAmount < minBaseAmount) (.baseAmountTooLow b.baseAmount minBaseAmount)
  check (b.relAmount < minRelAmount) (.relAmountTooLow b.relAmount minRelAmount)
  check (b.senderPubkey = 0) .senderPubkeyIsZero
  check b.confSettings.isNone .confsSettingsNotSet
  check (b.baseAmount = 0) .panicked
  let price := b.relAmount / b.baseAmount
  check (price = 0) .panicked
  let baseMinByRel := minRelAmount / price
  let baseMinVolThreshold := max minBaseAmount baseMinByRel
  let minVolume := b.minVolume.getD baseMinVolThreshold
  check (minVolume < baseMinVolThreshold) (.minVolumeTooLow minVolume baseMinVolThreshold)
  check (b.baseAmount < minVolume) (.maxBaseVolBelowMinBaseVol b.baseAmount minVolume)
  return {
    request :=
      { base := b.baseCoin.ticker
        rel := b.relCoin.ticker
        baseAmount := b.baseAmount
        relAmount := b.relAmount
        action := b.action
        uuid := newUuid
        senderPubkey := b.senderPubkey
        matchBy := b.matchBy
        confSettings := b.confSettings
        baseProtocolInfo := some b.baseCoin.coinProtocolInfo
        relProtocolInfo := some b.relCoin.coinProtocolInfo
        swapVersion := b.swapVersion }
    «matches» := ∅
    minVolume
    baseOrderbookTicker := b.baseOrderbookTicker
    relOrderbookTicker := b.relOrderbookTicker
    p2pPrivkey := if b.myCoin.isPrivacy then some random else none }

variable (order : TakerOrder)

/-- `From<TakerOrder> for MakerOrder`: what becomes of a taker order that nobody has taken. -/
def TakerOrder.toMakerOrder (nowMs : Nat) : MakerOrder :=
  let request := order.request
  match request.action with
  | .sell =>
    { price := request.relAmount / request.baseAmount
      maxBaseVol := request.baseAmount
      minBaseVol := order.minVolume
      createdAt := nowMs
      updatedAt := some nowMs
      base := request.base
      rel := request.rel
      «matches» := ∅
      startedSwaps := []
      uuid := request.uuid
      confSettings := request.confSettings
      baseOrderbookTicker := order.baseOrderbookTicker
      relOrderbookTicker := order.relOrderbookTicker
      p2pPrivkey := order.p2pPrivkey
      swapVersion := request.swapVersion }
  | .buy =>
    let price := request.baseAmount / request.relAmount
    { price
      maxBaseVol := request.relAmount
      minBaseVol := order.minVolume / price
      createdAt := nowMs
      updatedAt := some nowMs
      base := request.rel
      rel := request.base
      «matches» := ∅
      startedSwaps := []
      uuid := request.uuid
      confSettings := request.confSettings.map OrderConfirmationsSettings.reversed
      baseOrderbookTicker := order.relOrderbookTicker
      relOrderbookTicker := order.baseOrderbookTicker
      p2pPrivkey := order.p2pPrivkey
      swapVersion := request.swapVersion }

/-! ## The wire -/

namespace NewProtocol

structure TakerRequest where
  base : String
  rel : String
  baseAmount : MmNumber
  relAmount : MmNumber
  action : TakerAction
  uuid : Uuid
  matchBy : MatchBy
  confSettings : OrderConfirmationsSettings
  baseProtocolInfo : Option (List UInt8)
  relProtocolInfo : Option (List UInt8)
  swapVersion : SwapVersion
  deriving DecidableEq

structure MakerReserved where
  base : String
  rel : String
  baseAmount : MmNumber
  relAmount : MmNumber
  takerOrderUuid : Uuid
  makerOrderUuid : Uuid
  confSettings : OrderConfirmationsSettings
  baseProtocolInfo : Option (List UInt8)
  relProtocolInfo : Option (List UInt8)
  swapVersion : SwapVersion
  deriving DecidableEq

end NewProtocol

/-- The message a taker order is sent as; `none` where the conversion panics. -/
def TakerOrder.toMessage : Option NewProtocol.TakerRequest :=
  order.request.confSettings.map fun confSettings =>
    { baseAmount := order.request.baseAmount
      relAmount := order.request.relAmount
      base := order.baseTicker
      rel := order.relTicker
      action := order.request.action
      uuid := order.request.uuid
      matchBy := order.request.matchBy
      confSettings
      baseProtocolInfo := order.request.baseProtocolInfo
      relProtocolInfo := order.request.relProtocolInfo
      swapVersion := order.request.swapVersion }

def TakerRequest.fromNewProtoAndPubkey (message : NewProtocol.TakerRequest) (senderPubkey : H256) :
    TakerRequest :=
  { base := message.base
    rel := message.rel
    baseAmount := message.baseAmount
    relAmount := message.relAmount
    action := message.action
    uuid := message.uuid
    senderPubkey
    matchBy := message.matchBy
    confSettings := some message.confSettings
    baseProtocolInfo := message.baseProtocolInfo
    relProtocolInfo := message.relProtocolInfo
    swapVersion := message.swapVersion }

/-- The message a reservation is sent as; `none` where the conversion panics. -/
def MakerReserved.toMessage (reserved : MakerReserved) : Option NewProtocol.MakerReserved :=
  reserved.confSettings.map fun confSettings =>
    { baseAmount := reserved.baseAmount
      relAmount := reserved.relAmount
      base := reserved.base
      rel := reserved.rel
      takerOrderUuid := reserved.takerOrderUuid
      makerOrderUuid := reserved.makerOrderUuid
      confSettings
      baseProtocolInfo := reserved.baseProtocolInfo
      relProtocolInfo := reserved.relProtocolInfo
      swapVersion := reserved.swapVersion }

def MakerReserved.fromNewProtoAndPubkey (message : NewProtocol.MakerReserved)
    (senderPubkey : H256) :
    MakerReserved :=
  { base := message.base
    rel := message.rel
    baseAmount := message.baseAmount
    relAmount := message.relAmount
    takerOrderUuid := message.takerOrderUuid
    makerOrderUuid := message.makerOrderUuid
    senderPubkey
    destPubKey := 0
    confSettings := some message.confSettings
    baseProtocolInfo := message.baseProtocolInfo
    relProtocolInfo := message.relProtocolInfo
    swapVersion := message.swapVersion }

/-- `broadcast_ordermatch_message`: the key it signs with. -/
def signingKey (p2pPrivkey : Option H256) (nodeKey : H256) : H256 := p2pPrivkey.getD nodeKey

/-- The request of a taker order as a maker receives it. -/
def TakerOrder.received (nodeKey : H256) : Option TakerRequest :=
  order.toMessage.map fun message =>
    .fromNewProtoAndPubkey message (signingKey order.p2pPrivkey nodeKey)

/-- The reservation of a maker order as a taker receives it. -/
def MakerReserved.received (reserved : MakerReserved) (order : MakerOrder) (nodeKey : H256) :
    Option MakerReserved :=
  reserved.toMessage.map fun message =>
    .fromNewProtoAndPubkey message (signingKey order.p2pPrivkey nodeKey)

/-! ## Reservations that arrive -/

/-- The loop of `process_maker_reserved` over the reservations for an order, the cheapest first: the
match the order gets, if it has none and one of them fits. -/
def TakerOrder.acceptReserved (coins : Coins) (ourPublicId : H256) (nowMs : Nat)
    (order : TakerOrder) (messages : List MakerReserved) : Option TakerMatch :=
  match coins.findPair order.makerCoinTicker order.takerCoinTicker with
  | none => none
  | some (baseCoin, relCoin) =>
    (messages.find? fun reserved =>
      order.matchReserved reserved = .matched ∧ order.matches = ∅ ∧
      baseCoin.isCoinProtocolSupported reserved.baseProtocolInfo ∧
      relCoin.isCoinProtocolSupported reserved.relProtocolInfo).map fun reserved =>
    { reserved
      connect :=
        { senderPubkey := ourPublicId
          destPubKey := reserved.senderPubkey
          takerOrderUuid := reserved.takerOrderUuid
          makerOrderUuid := reserved.makerOrderUuid }
      connected := none
      lastUpdated := nowMs }

end CheetahDex.Ordermatch
