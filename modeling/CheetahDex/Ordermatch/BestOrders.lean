import CheetahDex.Ordermatch.Reserved
import Mathlib.Data.Prod.Lex

/-!
# Best orders

A relay is asked for the cheapest orders of every pair of a coin. The answer is not checked: what is
in it is shown, after a division for the orders that sell.
-/

namespace CheetahDex.Ordermatch

open Lib

inductive BestOrdersAction where
  | buy
  | sell

/-- The orders without the empty proofs that are sent with them. -/
structure BestOrdersP2PRes where
  orders : HashMap String (List OrderbookP2PItem)
  protocolInfos : HashMap Uuid BaseRelProtocolInfo
  confInfos : HashMap Uuid OrderConfirmationsSettings

/-! ## The relay -/

/-- The ascending order of the B-tree set. -/
def byPrice : Iteration OrderedByPriceOrder :=
  .sortedBy (fun o => toLex (o.price, o.uuid.toNat)) fun a b h => by
    simpa [Prod.ext_iff, BitVec.toNat_inj, ← OrderedByPriceOrder.mk.injEq] using h

namespace BestOrdersAction

variable (action : BestOrdersAction)

/-- A volume of an order, in the coin of the request. -/
def volume (o : OrderbookItem) (volume : MmNumber) : MmNumber :=
  match action with
  | .buy => volume
  | .sell => volume * o.price

def pair (coin ticker : String) : String × String :=
  match action with
  | .buy => (coin, ticker)
  | .sell => (ticker, coin)

def searchPairsIn (ob : Orderbook) : SetIndex String String :=
  match action with
  | .buy => ob.pairsExistingForBase
  | .sell => ob.pairsExistingForRel

end BestOrdersAction

/-- The loop of `process_best_orders_p2p_request` over the orders of a pair. -/
def bestOrders (ob : Orderbook) (action : BestOrdersAction) (required : MmNumber) :
    MmNumber → List OrderedByPriceOrder → List OrderbookItem
  | _, [] => []
  | collected, ordered :: rest =>
    match ob.orderSet.lookup ordered.uuid with
    | none => bestOrders ob action required collected rest
    | some o =>
      if action.volume o o.minVolume > required then bestOrders ob action required collected rest
      else
        let collected := collected + action.volume o o.maxVolume
        o :: if collected ≥ required then [] else bestOrders ob action required collected rest

/-- What one pair adds to the answer. -/
def BestOrdersP2PRes.addPair (ob : Orderbook) (action : BestOrdersAction) (required : MmNumber)
    (coin : String) (res : BestOrdersP2PRes) (ticker : String) : BestOrdersP2PRes :=
  match ob.ordered.lookup (action.pair coin ticker) with
  | none => res
  | some orders =>
    let best := bestOrders ob action required 0 (byPrice.toList orders)
    { orders := res.orders.insert ticker (best.map OrderbookItem.toP2P)
      protocolInfos := best.foldl
        (fun infos o => infos.insert o.uuid ⟨o.baseProtocolInfo, o.relProtocolInfo⟩)
        res.protocolInfos
      confInfos := best.foldl
        (fun infos o => o.confSettings.elim infos (infos.insert o.uuid)) res.confInfos }

def processBestOrdersP2pRequest (iter : Iteration String) (ob : Orderbook) (coin : String)
    (action : BestOrdersAction) (required : MmNumber) : Option BestOrdersP2PRes :=
  ((action.searchPairsIn ob).lookup coin).map fun tickers =>
    (iter.toList tickers).foldl (.addPair ob action required coin) ⟨∅, ∅, ∅⟩

/-! ## The asking node -/

/-- `RpcOrderbookEntryV2`, and what `RpcOrderbookEntry` has of it. -/
structure RpcOrderbookEntry (A : Type) where
  coin : String
  address : A
  price : MmNumber
  pubkey : String
  uuid : Uuid
  isMine : Bool
  baseMaxVolume : MmNumber
  baseMinVolume : MmNumber
  relMaxVolume : MmNumber
  relMinVolume : MmNumber
  confSettings : Option OrderConfirmationsSettings

namespace OrderbookP2PItem

variable {A : Type} (o : OrderbookP2PItem) (address : A)
  (confSettings : Option OrderConfirmationsSettings) (isMine : Bool)

/-- `as_rpc_best_orders_buy` and `as_rpc_best_orders_buy_v2`. -/
def asRpcBestOrdersBuy : RpcOrderbookEntry A :=
  { coin := o.rel, address, price := o.price, pubkey := o.pubkey, uuid := o.uuid, isMine
    baseMaxVolume := o.maxVolume, baseMinVolume := o.minVolume
    relMaxVolume := o.maxVolume * o.price, relMinVolume := o.minVolume * o.price, confSettings }

/-- `as_rpc_best_orders_sell` and `as_rpc_best_orders_sell_v2`, or a panic. -/
def asRpcBestOrdersSell : Option (RpcOrderbookEntry A) := do
  let price ← divide 1 o.price
  let baseMaxVolume ← divide o.maxVolume price
  let baseMinVolume ← divide o.minVolume price
  return { coin := o.base, address, price, pubkey := o.pubkey, uuid := o.uuid, isMine, baseMaxVolume
           baseMinVolume, relMaxVolume := o.maxVolume, relMinVolume := o.minVolume
           confSettings := confSettings.map .reversed }

end OrderbookP2PItem

/-- What the node knows: the coins of its configuration that can be traded, the address of a public
key in a coin, and its own keys. -/
structure BestOrdersEnv (A : Type) where
  tradable : String → Bool
  address : String → String → List UInt8 → Option A
  isMine : String → Bool

section rpc

variable {A : Type} (env : BestOrdersEnv A) (action : BestOrdersAction) (excludeMine : Bool)
  (res : BestOrdersP2PRes)

/-- One turn of the inner loop of `best_orders_rpc_v2`: nothing if the order is skipped. -/
def rpcEntry (coin : String) (o : OrderbookP2PItem) : Option (Option (RpcOrderbookEntry A)) :=
  let isMine := env.isMine o.pubkey
  if excludeMine && isMine then some none
  else
    let protoInfos := HashMap.getD res.protocolInfos o.uuid {}
    let info := match action with
      | .buy => protoInfos.rel
      | .sell => protoInfos.base
    match env.address coin o.pubkey info with
    | none => some none
    | some address =>
      let confSettings := res.confInfos.lookup o.uuid
      match action with
      | .buy => some (o.asRpcBestOrdersBuy address confSettings isMine)
      | .sell => (o.asRpcBestOrdersSell address confSettings isMine).map some

/-- What `best_orders_rpc_v2` shows of an answer, or a panic. -/
def bestOrdersRpcV2 (iter : Iteration String) :
    Option (List (String × List (RpcOrderbookEntry A))) :=
  ((iter.entries res.orders).filter fun e => env.tradable e.1).mapM fun (coin, orders) => do
    let entries ← orders.mapM (rpcEntry env action excludeMine res coin)
    return (coin, entries.reduceOption)

/-- `best_orders_rpc` shows own orders too. -/
def bestOrdersRpc (iter : Iteration String) : Option (List (String × List (RpcOrderbookEntry A))) :=
  bestOrdersRpcV2 env action false res iter

end rpc

end CheetahDex.Ordermatch
