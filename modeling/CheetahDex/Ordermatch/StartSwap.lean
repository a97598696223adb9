import CheetahDex.Ordermatch.TakerOrder

/-!
# Starting a swap

Once a match is connected, each side starts the swap on its own. Each derives the confirmation
settings of both sides from its own order and the message it has from the other, and from these and
the tickers of its coins the duration for which payments are locked.
-/

namespace CheetahDex.Ordermatch

open Lib Common

/-! ## Lock durations -/

structure SwapConfirmationsSettings where
  makerCoinConfs : Nat
  makerCoinNota : Bool
  takerCoinConfs : Nat
  takerCoinNota : Bool
  deriving DecidableEq

def SwapConfirmationsSettings.requiresNotarization (s : SwapConfirmationsSettings) : Bool :=
  s.makerCoinNota || s.takerCoinNota

/-- `PAYMENT_LOCKTIME`, in seconds. -/
def paymentLocktime : Nat := 3600 * 2 + 300 * 2

def coinWith4xLocktime (ticker : String) : Bool := ticker = "BCH" ∨ ticker = "BTG" ∨ ticker = "SBTC"

inductive AtomicLocktimeVersion where
  | v1
  | v2 (myConfSettings otherConfSettings : SwapConfirmationsSettings)

variable (makerCoin takerCoin : String)

def lpAtomicLocktimeV1 : Nat :=
  if makerCoin = "BTC" ∨ takerCoin = "BTC" then paymentLocktime * 10
  else if coinWith4xLocktime makerCoin ∨ coinWith4xLocktime takerCoin then paymentLocktime * 4
  else paymentLocktime

def lpAtomicLocktimeV2 (myConfSettings otherConfSettings : SwapConfirmationsSettings) : Nat :=
  if makerCoin = "BTC" ∨ takerCoin = "BTC" ∨ coinWith4xLocktime makerCoin ∨
      coinWith4xLocktime takerCoin ∨ myConfSettings.requiresNotarization ∨
      otherConfSettings.requiresNotarization then
    paymentLocktime * 4
  else paymentLocktime

def lpAtomicLocktime : AtomicLocktimeVersion → Nat
  | .v1 => lpAtomicLocktimeV1 makerCoin takerCoin
  | .v2 myConfSettings otherConfSettings =>
    lpAtomicLocktimeV2 makerCoin takerCoin myConfSettings otherConfSettings

/-! ## Confirmation settings -/

def chooseMakerConfsAndNotas (makerConfs : Option OrderConfirmationsSettings)
    (takerReq : TakerRequest) (makerCoin takerCoin : Coin) : SwapConfirmationsSettings :=
  let makerSettings := makerConfs.getD (.ofCoins makerCoin takerCoin)
  match takerReq.confSettings with
  | some takerSettings =>
    match takerReq.action with
    | .sell =>
      { makerCoinConfs :=
          if takerSettings.relConfs < makerSettings.baseConfs then takerSettings.relConfs
          else makerSettings.baseConfs
        makerCoinNota :=
          if !takerSettings.relNota then takerSettings.relNota else makerSettings.baseNota
        takerCoinConfs := makerSettings.relConfs
        takerCoinNota := makerSettings.relNota }
    | .buy =>
      { makerCoinConfs :=
          if takerSettings.baseConfs < makerSettings.baseConfs then takerSettings.baseConfs
          else makerSettings.baseConfs
        makerCoinNota :=
          if !takerSettings.baseNota then takerSettings.baseNota else makerSettings.baseNota
        takerCoinConfs := makerSettings.relConfs
        takerCoinNota := makerSettings.relNota }
  | none =>
    { makerCoinConfs := makerSettings.baseConfs
      makerCoinNota := makerSettings.baseNota
      takerCoinConfs := makerSettings.relConfs
      takerCoinNota := makerSettings.relNota }

/-- The taker's own settings, by the side of the swap. -/
def takerConfsAndNotas (takerReq : TakerRequest) (makerCoin takerCoin : Coin) :
    SwapConfirmationsSettings :=
  match takerReq.confSettings with
  | some s =>
    match takerReq.action with
    | .buy =>
      { takerCoinConfs := s.relConfs, takerCoinNota := s.relNota
        makerCoinConfs := s.baseConfs, makerCoinNota := s.baseNota }
    | .sell =>
      { takerCoinConfs := s.baseConfs, takerCoinNota := s.baseNota
        makerCoinConfs := s.relConfs, makerCoinNota := s.relNota }
  | none =>
    { takerCoinConfs := takerCoin.requiredConfirmations
      takerCoinNota := takerCoin.requiresNotarization
      makerCoinConfs := makerCoin.requiredConfirmations
      makerCoinNota := makerCoin.requiresNotarization }

def chooseTakerConfsAndNotas (takerReq : TakerRequest) (makerReserved : MakerReserved)
    (makerCoin takerCoin : Coin) : SwapConfirmationsSettings :=
  let settings := takerConfsAndNotas takerReq makerCoin takerCoin
  match makerReserved.confSettings with
  | some settingsFromMaker =>
    { settings with
      takerCoinConfs :=
        if settingsFromMaker.relConfs < settings.takerCoinConfs then settingsFromMaker.relConfs
        else settings.takerCoinConfs
      takerCoinNota :=
        if !settingsFromMaker.relNota then settingsFromMaker.relNota else settings.takerCoinNota }
  | none => settings

/-! ## The two starts -/

/-- What a swap is started with, as far as it is decided here. -/
structure SwapStart where
  uuid : Uuid
  confSettings : SwapConfirmationsSettings
  makerCoin : String
  takerCoin : String
  lockTime : Nat
  deriving DecidableEq

/-- `lp_connect_start_bob`; `none` when a coin is not activated. -/
def lpConnectStartBob (coins : Coins) (makerMatch : MakerMatch) (makerOrder : MakerOrder) :
    Option SwapStart := do
  let takerCoin ← coins.find makerOrder.rel
  let makerCoin ← coins.find makerOrder.base
  let myConfSettings :=
    chooseMakerConfsAndNotas makerOrder.confSettings makerMatch.request makerCoin takerCoin
  let version : AtomicLocktimeVersion :=
    match makerMatch.request.confSettings with
    | some _ => .v2 myConfSettings
        (chooseTakerConfsAndNotas makerMatch.request makerMatch.reserved makerCoin takerCoin)
    | none => .v1
  return {
    uuid := makerMatch.request.uuid
    confSettings := myConfSettings
    makerCoin := makerCoin.ticker
    takerCoin := takerCoin.ticker
    lockTime := lpAtomicLocktime makerCoin.ticker takerCoin.ticker version }

/-- `lp_connected_alice`; `none` when a coin is not activated. -/
def lpConnectedAlice (coins : Coins) (takerOrder : TakerOrder) (takerMatch : TakerMatch) :
    Option SwapStart := do
  let takerCoin ← coins.find takerOrder.takerCoinTicker
  let makerCoin ← coins.find takerOrder.makerCoinTicker
  let myConfSettings :=
    chooseTakerConfsAndNotas takerOrder.request takerMatch.reserved makerCoin takerCoin
  let version : AtomicLocktimeVersion :=
    match takerMatch.reserved.confSettings with
    | some _ => .v2 myConfSettings (chooseMakerConfsAndNotas takerMatch.reserved.confSettings
        takerOrder.request makerCoin takerCoin)
    | none => .v1
  return {
    uuid := takerMatch.reserved.takerOrderUuid
    confSettings := myConfSettings
    makerCoin := makerCoin.ticker
    takerCoin := takerCoin.ticker
    lockTime := lpAtomicLocktime makerCoin.ticker takerCoin.ticker version }

end CheetahDex.Ordermatch
