import CheetahDex.Ordermatch.MakerOrder

/-!
# The maker's side of matching

Everything that changes an own order does so while it holds the mutex of the order. The functions
here are what happens to one order under its lock: `process_taker_request`, `process_taker_connect`,
`handle_timed_out_maker_matches`, the balance handler, the volume adjustment of the kickstart, and
the two locked parts of `update_maker_order`, between which the order may change.
`process_taker_request` over all orders takes the locks one after the other.
-/

namespace CheetahDex.Ordermatch

open Lib Common

/-- The coins that are activated: `lp_coinfind`. A coin is found under its own ticker. -/
structure Coins where
  find : String → Option Coin
  ticker_of_find : ∀ {ticker coin}, find ticker = some coin → coin.ticker = ticker

def Coins.findPair (coins : Coins) (base rel : String) : Option (Coin × Coin) :=
  match coins.find base, coins.find rel with
  | some b, some r => some (b, r)
  | some _, none => none
  | none, _ => none

/-! ## Taker requests -/

/-- How the loop of `process_taker_request` leaves an order. -/
inductive RequestTurn where
  /-- Go on to the next order. -/
  | notMatched
  /-- Return without a reservation. -/
  | returned
  /-- Send the message and return; the order has the new match. -/
  | reserved (msg : MakerReserved) (order : MakerOrder)

variable (order : MakerOrder)

/-- The settings of an order, or those of the coins. -/
def confSettingsOf (baseCoin relCoin : Coin) :
    Option OrderConfirmationsSettings :=
  order.confSettings <|> some (.ofCoins baseCoin relCoin)

variable (ourPublicId : H256)

/-- The answer to a request that matches. -/
def MakerOrder.reservedMsg (uuid : Uuid)
    (baseCoin relCoin : Coin) (baseAmount relAmount : MmNumber) (takerRequest : TakerRequest) :
    MakerReserved :=
  { destPubKey := takerRequest.senderPubkey
    senderPubkey := ourPublicId
    base := order.baseTicker
    baseAmount
    relAmount
    rel := order.relTicker
    takerOrderUuid := takerRequest.uuid
    makerOrderUuid := uuid
    confSettings := confSettingsOf order baseCoin relCoin
    baseProtocolInfo := some baseCoin.coinProtocolInfo
    relProtocolInfo := some relCoin.coinProtocolInfo
    swapVersion := order.swapVersion }

/-- The order with a match for the request. -/
def MakerOrder.reserve (nowMs : Nat) (takerRequest : TakerRequest)
    (reserved : MakerReserved) : MakerOrder :=
  let makerMatch : MakerMatch :=
    { request := takerRequest, reserved, connect := none, connected := none, lastUpdated := nowMs }
  { order with «matches» := order.matches.insert takerRequest.uuid makerMatch }

/-- The body of the loop of `process_taker_request`. -/
def MakerOrder.requestTurn (coins : Coins) (nowMs : Nat) (ourPublicId : H256) (uuid : Uuid)
    (order : MakerOrder) (takerRequest : TakerRequest) : RequestTurn :=
  match order.matchWithRequest takerRequest with
  | .notMatched => .notMatched
  | .matched baseAmount relAmount =>
    match coins.findPair order.base order.rel with
    | none => .returned
    | some (baseCoin, relCoin) =>
      if takerRequest.uuid ∉ order.matches ∧
          baseCoin.isCoinProtocolSupported takerRequest.baseProtocolInfoForMaker ∧
          relCoin.isCoinProtocolSupported takerRequest.relProtocolInfoForMaker then
        let reserved :=
          order.reservedMsg ourPublicId uuid baseCoin relCoin baseAmount relAmount takerRequest
        .reserved reserved (order.reserve nowMs takerRequest reserved)
      else .returned

/-- The own orders. -/
abbrev MakerOrders := HashMap Uuid MakerOrder

/-- The loop of `process_taker_request` over the orders it has cloned. -/
def requestLoop (coins : Coins) (nowMs : Nat) (ourPublicId : H256) (takerRequest : TakerRequest)
    (orders : MakerOrders) : List Uuid → MakerOrders × Option MakerReserved
  | [] => (orders, none)
  | uuid :: rest =>
    match orders.lookup uuid with
    | none => requestLoop coins nowMs ourPublicId takerRequest orders rest
    | some order =>
      match order.requestTurn coins nowMs ourPublicId uuid takerRequest with
      | .notMatched => requestLoop coins nowMs ourPublicId takerRequest orders rest
      | .returned => (orders, none)
      | .reserved msg order => (orders.insert uuid order, some msg)

/-- What the environment decides while a request is handled. -/
structure RequestEnv where
  coins : Coins
  nowMs : Nat
  orders : Iteration Uuid

def processTakerRequest (env : RequestEnv) (ourPublicId : H256) (orders : MakerOrders)
    (fromPubkey : H256) (takerRequest : TakerRequest) : MakerOrders × Option MakerReserved :=
  if ourPublicId = fromPubkey then (orders, none)
  else if !takerRequest.canMatchWithMakerPubkey ourPublicId then (orders, none)
  else
    requestLoop env.coins env.nowMs ourPublicId takerRequest orders
      ((env.orders.toList orders.keys).filter takerRequest.canMatchWithUuid)

/-! ## Taker connects -/

/-- A match once its taker has connected. -/
def MakerMatch.connectedBy (orderMatch : MakerMatch) (ourPublicId : H256)
    (connectMsg : TakerConnect) : MakerMatch :=
  let connected : MakerConnected :=
    { senderPubkey := ourPublicId
      destPubKey := connectMsg.senderPubkey
      takerOrderUuid := connectMsg.takerOrderUuid
      makerOrderUuid := connectMsg.makerOrderUuid
      method := "connected" }
  { orderMatch with connect := some connectMsg, connected := some connected }

/-- The order with a match that has started its swap. -/
def MakerOrder.startSwap (takerOrderUuid : Uuid) (orderMatch : MakerMatch) :
    MakerOrder :=
  { order with
    «matches» := order.matches.insert takerOrderUuid orderMatch
    startedSwaps := order.startedSwaps ++ [orderMatch.request.uuid] }

/-- `process_taker_connect` on the order it names. The match and the order are those
`lp_connect_start_bob` is called with, if it is. -/
def MakerOrder.processConnect (order : MakerOrder) (senderPubkey : H256)
    (connectMsg : TakerConnect) : MakerOrder × Option (MakerMatch × MakerOrder) :=
  match order.matches.lookup connectMsg.takerOrderUuid with
  | none => (order, none)
  | some orderMatch =>
    if orderMatch.request.senderPubkey ≠ senderPubkey then (order, none)
    else if orderMatch.connected.isNone && orderMatch.connect.isNone then
      let orderMatch := orderMatch.connectedBy ourPublicId connectMsg
      let order := order.startSwap connectMsg.takerOrderUuid orderMatch
      (order, some (orderMatch, order))
    else (order, none)

def processTakerConnect (orders : MakerOrders) (senderPubkey : H256)
    (connectMsg : TakerConnect) : MakerOrders × Option (MakerMatch × MakerOrder) :=
  if ourPublicId = senderPubkey then (orders, none)
  else
    match orders.lookup connectMsg.makerOrderUuid with
    | none => (orders, none)
    | some order =>
      let (order, started) := order.processConnect ourPublicId senderPubkey connectMsg
      (orders.insert connectMsg.makerOrderUuid order, started)

/-! ## The messages of takers -/

/-- The own orders, and the uuids of the requests `lp_connect_start_bob` was called for. -/
structure MakerState where
  orders : MakerOrders
  started : List Uuid

/-- A message of a taker, with what the environment decides about its handling. -/
inductive MakerEvent where
  | takerRequest (env : RequestEnv) (fromPubkey : H256) (takerRequest : TakerRequest)
  | takerConnect (senderPubkey : H256) (connectMsg : TakerConnect)

/-- The node after a message. -/
def MakerState.step (s : MakerState) : MakerEvent → MakerState
  | .takerRequest env fromPubkey takerRequest =>
    { s with orders := (processTakerRequest env ourPublicId s.orders fromPubkey takerRequest).1 }
  | .takerConnect senderPubkey connectMsg =>
    let (orders, start) := processTakerConnect ourPublicId s.orders senderPubkey connectMsg
    { orders
      started := s.started ++ start.toList.map fun (orderMatch, _) => orderMatch.request.uuid }

/-! ## Timeouts -/

/-- `ORDER_MATCH_TIMEOUT`, in seconds. -/
def orderMatchTimeout : Nat := 30

/-- `handle_timed_out_maker_matches` on one order. -/
def MakerOrder.dropTimedOut (now : Nat) : MakerOrder :=
  { order with
    «matches» := order.matches.retain fun _ orderMatch =>
      orderMatch.lastUpdated + orderMatchTimeout * 1000 > now ∨ orderMatch.connected.isSome }

/-! ## Balances -/

/-- `CheckBalanceError`, as far as the balance handler looks at it. -/
inductive CheckBalanceError where
  | notSufficientBalance
  | notSufficientBaseCoinBalance
  | other

/-- `CheckBalanceError::not_sufficient_balance`. -/
def CheckBalanceError.isNotSufficient : CheckBalanceError → Bool
  | .notSufficientBalance => true
  | .notSufficientBaseCoinBalance => true
  | .other => false

/-- What `calc_max_maker_vol` learns from the swaps, the coin and the coin that pays the fee. -/
structure BalanceEnv where
  balance : MmNumber
  locked : MmNumber
  tradeFee : Except CheckBalanceError (String × MmNumber)
  baseCoinBalance : Except CheckBalanceError Unit

variable (env : BalanceEnv) (coin : Coin)

/-- What is left of the balance for the volume, the trade fee paid. -/
def BalanceEnv.volAfterFee (fee : String × MmNumber) :
    Except CheckBalanceError MmNumber :=
  let available := env.balance - env.locked
  if fee.1 = coin.ticker then .ok (available - fee.2)
  else env.baseCoinBalance.map fun _ => available

/-- `calc_max_maker_vol`, the volume. -/
def calcMaxMakerVol : Except CheckBalanceError MmNumber := do
  let tradeFee ← env.tradeFee
  let vol ← env.volAfterFee coin tradeFee
  check (vol < coin.minTxAmount) .notSufficientBalance
  return vol

/-- What `balance_updated` takes as the new volume; `none` when it gives up. -/
def balanceVolume : Option MmNumber :=
  match calcMaxMakerVol env coin with
  | .ok volume => some volume
  | .error e => if e.isNotSufficient then some 0 else none

/-- The body of the loop of `balance_updated`. `removed` is whether the order was still there to be
removed, in the branch that tries to. -/
def MakerOrder.balanceUpdated (ticker : String) (newVolume : MmNumber)
    (removed : Bool) : MakerOrder :=
  if order.base ≠ ticker then order
  else if newVolume < order.minBaseVol ∧ removed then order
  else if newVolume < order.availableAmount then
    { order with maxBaseVol := order.reservedAmount + newVolume }
  else order

/-- The volume adjustment of the kickstart in `lp_ordermatch_loop`. -/
def MakerOrder.kickstart (maxVol : MmNumber) : MakerOrder :=
  if maxVol < order.availableAmount then { order with maxBaseVol := order.reservedAmount + maxVol }
  else order

/-! ## Updates -/

/-- `MakerOrderUpdateReq`, without the uuid that finds the order. -/
structure MakerOrderUpdateReq where
  newPrice : Option MmNumber
  max : Option Bool
  volumeDelta : Option MmNumber
  minVolume : Option MmNumber
  baseConfs : Option Nat
  baseNota : Option Bool
  relConfs : Option Nat
  relNota : Option Bool

/-- Why `update_maker_order` refuses. -/
inductive UpdateError where
  | ongoingMatches
  | coinsNotActivated (base rel : String)
  /-- `conf_settings.unwrap()` on an order without settings. -/
  | panicked
  | invalid (error : MakerOrderBuildError)
  | maxVolume (error : CheckBalanceError)
  | volumeNotPositive (volume : MmNumber)
  | balance (error : CheckBalanceError)
  | notMoreThanReserved (newVolume reservedAmount : MmNumber)
  | stateHasChanged
  | notSaved

/-- What the environment answers while an update is prepared. -/
structure UpdateEnv where
  coins : Coins
  getMaxVolume : Except CheckBalanceError MmNumber
  checkBalance : MmNumber → Except CheckBalanceError Unit

/-- An update that has passed its checks: the order it was made for, and the message. -/
structure PendingUpdate where
  orderBeforeUpdate : MakerOrder
  updateMsg : MakerOrderUpdated

variable (req : MakerOrderUpdateReq)

/-- The price after an update; a new one is validated. -/
def MakerOrderUpdateReq.price (originalPrice : MmNumber) :
    Except UpdateError MmNumber :=
  match req.newPrice with
  | some newPrice => ((validatePrice newPrice).mapError .invalid).map fun _ => newPrice
  | none => .ok originalPrice

/-- The minimum volume an update asks for, if it does. -/
def MakerOrderUpdateReq.minVol (minBaseAmount minRelAmount : MmNumber)
    (price : MmNumber) : Except UpdateError (Option MmNumber) :=
  match req.minVolume with
  | some minVolume =>
    ((validateAndGetMinVol minBaseAmount minRelAmount (some minVolume) price).mapError .invalid).map
      some
  | none => .ok none

/-- The volume an update asks for; `none` in the second place when the message has none. -/
def MakerOrderUpdateReq.volume (env : UpdateEnv)
    (originalVolume reservedAmount : MmNumber) :
    Except UpdateError (MmNumber × Option MmNumber) :=
  if req.max.getD false then do
    let maxVolume := (← env.getMaxVolume.mapError .maxVolume) + reservedAmount
    return (maxVolume, some maxVolume)
  else
    match req.volumeDelta with
    | some delta => do
      let volume := originalVolume + delta
      check (volume ≤ 0) (.volumeNotPositive volume)
      (env.checkBalance volume).mapError .balance
      return (volume, some volume)
    | none => return (originalVolume, none)

/-- `update_maker_order` up to the second lock: the checks, all made on a copy of the order. -/
def MakerOrder.prepareUpdate (env : UpdateEnv) (order : MakerOrder) (req : MakerOrderUpdateReq) :
    Except UpdateError PendingUpdate := do
  check order.hasOngoingMatches .ongoingMatches
  let (baseCoin, relCoin) ← orError (env.coins.findPair order.base order.rel)
    (.coinsNotActivated order.base order.rel)
  let original ← orError order.confSettings .panicked
  let confSettings : OrderConfirmationsSettings :=
    { baseConfs := req.baseConfs.getD original.baseConfs
      baseNota := req.baseNota.getD original.baseNota
      relConfs := req.relConfs.getD original.relConfs
      relNota := req.relNota.getD original.relNota }
  let reservedAmount := order.reservedAmount
  let newPrice ← req.price order.price
  let minBaseAmount := baseCoin.minTradingVol
  let minRelAmount := relCoin.minTradingVol
  let newMinVolume ← req.minVol minBaseAmount minRelAmount newPrice
  let (newVolume, newMaxVolume) ← req.volume env order.maxBaseVol reservedAmount
  check (newVolume ≤ reservedAmount) (.notMoreThanReserved newVolume reservedAmount)
  (validateMaxVol minBaseAmount minRelAmount (newVolume - reservedAmount) req.minVolume
    newPrice).mapError .invalid
  return {
    orderBeforeUpdate := order
    updateMsg := .v2 order.uuid req.newPrice newMaxVolume newMinVolume (some confSettings) }

/-- `update_maker_order` from the second lock on; `saved` is whether the storage accepts the order.
-/
def MakerOrder.commitUpdate (nowMs : Nat) (saved : Bool)
    (update : PendingUpdate) : Except UpdateError MakerOrder :=
  if order ≠ update.orderBeforeUpdate then .error .stateHasChanged
  else if saved then .ok (order.applyUpdated nowMs update.updateMsg)
  else .error .notSaved

/-! ## One order and everything that locks it -/

/-- An order, and the updates that are between their two locks. -/
structure OrderState where
  order : MakerOrder
  updates : List PendingUpdate

/-- What can happen to an order. -/
inductive OrderEvent where
  | request (coins : Coins) (nowMs : Nat) (ourPublicId : H256) (uuid : Uuid)
      (takerRequest : TakerRequest)
  | connect (ourPublicId senderPubkey : H256) (connectMsg : TakerConnect)
  | timeout (nowMs : Nat)
  | prepareUpdate (env : UpdateEnv) (req : MakerOrderUpdateReq)
  | commitUpdate (i : Nat) (nowMs : Nat) (saved : Bool)
  | balanceUpdated (env : BalanceEnv) (coin : Coin) (removed : Bool)
  | kickstart (env : BalanceEnv) (coin : Coin)

/-- The order after an event. -/
def OrderState.step (s : OrderState) : OrderEvent → OrderState
  | .request coins nowMs ourPublicId uuid takerRequest =>
    match s.order.requestTurn coins nowMs ourPublicId uuid takerRequest with
    | .reserved _ order => { s with order }
    | .notMatched => s
    | .returned => s
  | .connect ourPublicId senderPubkey connectMsg =>
    { s with order := (s.order.processConnect ourPublicId senderPubkey connectMsg).1 }
  | .timeout nowMs => { s with order := s.order.dropTimedOut nowMs }
  | .prepareUpdate env req =>
    match s.order.prepareUpdate env req with
    | .ok update => { s with updates := s.updates ++ [update] }
    | .error _ => s
  | .commitUpdate i nowMs saved =>
    match s.updates[i]? with
    | some update =>
      -- fails if the order is no longer the one the update was checked on
      match s.order.commitUpdate nowMs saved update with
      | .ok order => { order, updates := s.updates.eraseIdx i }
      | .error _ => { s with updates := s.updates.eraseIdx i }
    | none => s
  | .balanceUpdated env coin removed =>
    match balanceVolume env coin with
    | some newVolume => { s with order := s.order.balanceUpdated coin.ticker newVolume removed }
    | none => s
  | .kickstart env coin =>
    match calcMaxMakerVol env coin with
    | .ok maxVol => { s with order := s.order.kickstart maxVol }
    | .error _ => s

end CheetahDex.Ordermatch
