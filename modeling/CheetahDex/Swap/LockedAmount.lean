import CheetahDex.Swap.DexFee
import CheetahDex.Swap.MakerSwap
import CheetahDex.Swap.TakerSwap

/-!
# What running swaps lock

An amount that a running swap is going to spend is locked. Swaps of the first protocol are asked for
what they lock, those of the second write it to a table by ticker when they start and remove it when
they have paid. Two functions add up what is locked, one for all swaps and one for all but a given
one.
-/

namespace CheetahDex.Swap

open Lib Ordermatch

structure LockedAmount where
  coin : String
  amount : MmNumber
  tradeFee : Option SavedTradeFee

/-! ## The first protocol -/

/-- `AtomicSwap`: a swap of the first protocol. A taker's dex fee depends on the network and on the
coin it pays with. -/
inductive AtomicSwap where
  | maker (swap : MakerSwap)
  | taker (swap : TakerSwap) (netCfg : NetConfig) (takerCoin : FeeCoin)

/-- `locked_amount` of a maker. -/
def MakerSwap.lockedAmount (swap : MakerSwap) : List LockedAmount :=
  (if swap.mutable.makerPayment.isNone then
    [{ coin := swap.makerCoin.ticker
       amount := swap.makerAmount
       tradeFee := swap.mutable.data.makerPaymentTradeFee }]
  else []) ++
  (if swap.mutable.takerPaymentSpend.isNone then
    [{ coin := swap.takerCoin.ticker
       amount := 0
       tradeFee := swap.mutable.data.takerPaymentSpendTradeFee }]
  else [])

variable (digits : Nat)

/-- `locked_amount` of a taker. -/
def TakerSwap.lockedAmount (netCfg : NetConfig) (takerCoin : FeeCoin)
    (swap : TakerSwap) : List LockedAmount :=
  let takerFeeAmount := dexFeeAmountFromTakerCoin digits netCfg
    { takerCoin with ticker := swap.takerCoin.ticker } swap.mutable.data.makerCoin swap.takerAmount
  (if swap.mutable.takerFee.isNone then
    [{ coin := swap.takerCoin.ticker
       amount := takerFeeAmount
       tradeFee := swap.mutable.data.feeToSendTakerFee }]
  else []) ++
  (if swap.mutable.takerPayment.isNone then
    [{ coin := swap.takerCoin.ticker
       amount := swap.takerAmount
       tradeFee := swap.mutable.data.takerPaymentTradeFee }]
  else []) ++
  (if swap.mutable.makerPaymentSpend.isNone then
    [{ coin := swap.makerCoin.ticker
       amount := 0
       tradeFee := swap.mutable.data.makerPaymentSpendTradeFee }]
  else [])

namespace AtomicSwap

def lockedAmount : AtomicSwap → List LockedAmount
  | maker swap => swap.lockedAmount
  | taker swap netCfg takerCoin => swap.lockedAmount digits netCfg takerCoin

def uuid : AtomicSwap → Uuid
  | maker swap => swap.uuid
  | taker swap _ _ => swap.uuid

/-- A swap applies one of its events. -/
def applyEvent (now : UInt64) : AtomicSwap → MakerSwapEvent ⊕ TakerSwapEvent → AtomicSwap
  | maker swap, .inl event => maker (swap.applyEvent now event)
  | taker swap netCfg takerCoin, .inr event => taker (swap.applyEvent now event) netCfg takerCoin
  | swap, _ => swap

end AtomicSwap

/-! ## The second protocol -/

structure LockedAmountV2Info where
  swapUuid : Uuid
  lockedAmount : LockedAmount

/-- `locked_amounts_v2`, by ticker. -/
abbrev LockedAmountsV2 := HashMap String (List LockedAmountV2Info)

namespace LockedAmountsV2

variable (locked : LockedAmountsV2)

/-- `entry(ticker).or_default().push(info)`. -/
def push (ticker : String) (info : LockedAmountV2Info) : LockedAmountsV2 :=
  locked.insert ticker (locked.getD ticker [] ++ [info])

/-- `retain` of the entries of other swaps, if there are entries. -/
def release (ticker : String) (uuid : Uuid) : LockedAmountsV2 :=
  locked.modify ticker fun infos => infos.filter (·.swapUuid ≠ uuid)

/-- The volume and the fee of a payment are locked under the ticker of the coin, which becomes the
coin of the fee as well. -/
def lock (uuid : Uuid) (ticker : String) (amount fee : MmNumber) : LockedAmountsV2 :=
  locked.push ticker
    { swapUuid := uuid
      lockedAmount := { coin := ticker, amount, tradeFee := some ⟨ticker, fee, false⟩ } }

end LockedAmountsV2

/-- The events of a maker in the second protocol. The first three carry the amount of the fee that
`Initialize` was told. -/
inductive MakerSwapEventV2 where
  | initialized
  | waitingForTakerFunding
  | takerFundingReceived
  | makerPaymentSentFundingSpendGenerated
  | makerPaymentRefundRequired
  | makerPaymentRefunded
  | takerPaymentReceived
  | takerPaymentReceivedPreimageSkipped
  | takerPaymentSpent
  | aborted
  | completed

/-- The events of a taker in the second protocol. The first two carry the amount of the fee that
`Initialize` was told. -/
inductive TakerSwapEventV2 where
  | initialized
  | negotiated
  | takerFundingSent
  | takerFundingRefundRequired
  | makerPaymentAndFundingSpendPreimgReceived
  | makerPaymentConfirmed
  | takerPaymentSent
  | takerPaymentSentPreimageSendingSkipped
  | takerPaymentRefundRequired
  | takerPaymentSpent
  | makerPaymentSpent
  | takerFundingRefunded
  | takerPaymentRefunded
  | aborted
  | completed

/-- `MakerSwapStateMachine`, as far as it is about what is locked, with what `get_sender_trade_fee`
of the maker coin answered in `Initialize`. The fee of a token is in the coin of its platform. Only
the amount of the fee is handed on to `Initialized`. -/
structure MakerSwapV2 where
  uuid : Uuid
  makerCoin : String
  takerCoin : String
  makerVolume : MmNumber
  makerPaymentTradeFee : SavedTradeFee

namespace MakerSwapV2

variable (swap : MakerSwapV2) (locked : LockedAmountsV2)

/-- An event with the fee locks the volume and the amount of the fee. -/
def lock : LockedAmountsV2 :=
  locked.lock swap.uuid swap.makerCoin swap.makerVolume swap.makerPaymentTradeFee.amount

def onEvent : MakerSwapEventV2 → LockedAmountsV2
  | .initialized => swap.lock locked
  | .makerPaymentSentFundingSpendGenerated => locked.release swap.makerCoin swap.uuid
  | _ => locked

def onKickstartEvent : MakerSwapEventV2 → LockedAmountsV2
  | .initialized | .waitingForTakerFunding | .takerFundingReceived => swap.lock locked
  | _ => locked

def cleanUpContext : LockedAmountsV2 :=
  (locked.release swap.makerCoin swap.uuid).release swap.takerCoin swap.uuid

end MakerSwapV2

/-- `TakerSwapStateMachine`, as far as it is about what is locked, with what `get_sender_trade_fee`
of the taker coin answered in `Initialize`. -/
structure TakerSwapV2 where
  uuid : Uuid
  makerCoin : String
  takerCoin : String
  takerVolume : MmNumber
  takerPremium : MmNumber
  takerPaymentTradeFee : SavedTradeFee

namespace TakerSwapV2

variable (swap : TakerSwapV2) (locked : LockedAmountsV2)

/-- An event with the fee locks the volume, the premium and the amount of the fee. -/
def lock : LockedAmountsV2 :=
  locked.lock swap.uuid swap.takerCoin (swap.takerVolume + swap.takerPremium)
    swap.takerPaymentTradeFee.amount

def onEvent : TakerSwapEventV2 → LockedAmountsV2
  | .initialized => swap.lock locked
  | .takerFundingSent => locked.release swap.takerCoin swap.uuid
  | _ => locked

def onKickstartEvent : TakerSwapEventV2 → LockedAmountsV2
  | .initialized | .negotiated => swap.lock locked
  | _ => locked

def cleanUpContext : LockedAmountsV2 :=
  (locked.release swap.makerCoin swap.uuid).release swap.takerCoin swap.uuid

end TakerSwapV2

/-! ## All swaps -/

/-- `SwapsContext`. A swap of the first protocol is held weakly: it is `none` when it was dropped.
-/
structure SwapsContext where
  runningSwaps : List (Option AtomicSwap)
  lockedAmountsV2 : LockedAmountsV2

/-- What happens to the swaps of a node. -/
inductive SwapsMove where
  | run (swap : AtomicSwap)
  | event (index : Nat) (now : UInt64) (event : MakerSwapEvent ⊕ TakerSwapEvent)
  | drop (index : Nat)
  | makerV2Event (swap : MakerSwapV2) (event : MakerSwapEventV2)
  | makerV2Kickstart (swap : MakerSwapV2) (event : MakerSwapEventV2)
  | makerV2CleanUp (swap : MakerSwapV2)
  | takerV2Event (swap : TakerSwapV2) (event : TakerSwapEventV2)
  | takerV2Kickstart (swap : TakerSwapV2) (event : TakerSwapEventV2)
  | takerV2CleanUp (swap : TakerSwapV2)

namespace SwapsContext

/-- No swap has run yet. -/
def init : SwapsContext := ⟨[], ∅⟩

def step (ctx : SwapsContext) : SwapsMove → SwapsContext
  | .run swap => { ctx with runningSwaps := ctx.runningSwaps ++ [some swap] }
  | .event index now event =>
    { ctx with runningSwaps := ctx.runningSwaps.modify index (Option.map (·.applyEvent now event)) }
  | .drop index => { ctx with runningSwaps := ctx.runningSwaps.set index none }
  | .makerV2Event swap event =>
    { ctx with lockedAmountsV2 := swap.onEvent ctx.lockedAmountsV2 event }
  | .makerV2Kickstart swap event =>
    { ctx with lockedAmountsV2 := swap.onKickstartEvent ctx.lockedAmountsV2 event }
  | .makerV2CleanUp swap => { ctx with lockedAmountsV2 := swap.cleanUpContext ctx.lockedAmountsV2 }
  | .takerV2Event swap event =>
    { ctx with lockedAmountsV2 := swap.onEvent ctx.lockedAmountsV2 event }
  | .takerV2Kickstart swap event =>
    { ctx with lockedAmountsV2 := swap.onKickstartEvent ctx.lockedAmountsV2 event }
  | .takerV2CleanUp swap => { ctx with lockedAmountsV2 := swap.cleanUpContext ctx.lockedAmountsV2 }

end SwapsContext

variable (coin : String) (total : MmNumber)

/-- The fee of an amount that is locked is added, if it is in the coin and not paid from the volume.
-/
def addTradeFee : Option SavedTradeFee → MmNumber
  | some fee => if fee.coin = coin ∧ !fee.paidFromTradingVol then total + fee.amount else total
  | none => total

/-- One turn of the loop over what swaps of the first protocol lock. -/
def addLocked (locked : LockedAmount) : MmNumber :=
  addTradeFee coin (if locked.coin = coin then total + locked.amount else total) locked.tradeFee

def getLockedAmount (digits : Nat) (ctx : SwapsContext) (coin : String) : MmNumber :=
  let v1Total := ((ctx.runningSwaps.filterMap id).flatMap (·.lockedAmount digits)).foldl
    (addLocked coin) 0
  let v2Total := ((ctx.lockedAmountsV2.lookup coin).map fun infos =>
    infos.foldl (fun total info =>
      addTradeFee coin (total + info.lockedAmount.amount) info.lockedAmount.tradeFee) 0).getD 0
  v1Total + v2Total

def getLockedAmountByOtherSwaps (ctx : SwapsContext) (exceptUuid : Uuid)
    (coin : String) : MmNumber :=
  (((ctx.runningSwaps.filterMap id).filter (·.uuid ≠ exceptUuid)).flatMap
    (·.lockedAmount digits)).foldl (addLocked coin) 0

end CheetahDex.Swap
