import CheetahDex.SwapV2.Maker
import CheetahDex.SwapV2.Taker

/-!
# What is stored of a swap of the second version

The events, the row of a swap, and how a machine and its state are recreated from both. Numbers are
stored as decimals and times as signed numbers. The dex fee of the row is never set nor read: a
machine computes it again from the volume. Of a row that is read the parts are named as the columns.
-/

namespace CheetahDex.SwapV2

open Lib
open Ordermatch (MmNumber SwapConfirmationsSettings Uuid)
open Swap (Bytes Hash)
open Utxo (SecretHashAlgo)

variable {MC TC : CoinTypes}

/-- `SwapRecreateError`, as far as it depends on what is stored. -/
inductive SwapRecreateError where
  | noEvents
  | internal (text : String)

/-- A row of the swaps. -/
structure Row where
  startedAt : Int64
  makerVolume : MmNumber
  takerVolume : MmNumber
  premium : MmNumber
  secret : Bytes
  secretHash : Bytes
  secretHashAlgo : ℕ
  lockDuration : Int64
  confSettings : SwapConfirmationsSettings
  swapVersion : ℕ

def secretHashAlgoToI64 : SecretHashAlgo → ℕ
  | .dhash160 => 0
  | .sha256 => 1

/-- The algorithm of a row. -/
def secretHashAlgoOfRow : ℕ → SecretHashAlgo
  | 1 => .sha256
  | _ => .dhash160

/-- The secret of a row: what is missing is zero, what is too much is cut off. -/
def secretOfRow (bytes : Bytes) : Hash 32 := .ofFn fun i => bytes.getD i 0

/-! ## The maker -/

namespace Maker

/-- `MakerSwapEvent`. -/
inductive Event where
  | initialized (makerCoinStartBlock takerCoinStartBlock : UInt64)
      (makerPaymentTradeFee takerPaymentSpendTradeFee : MmNumber)
  | waitingForTakerFunding (makerCoinStartBlock takerCoinStartBlock : UInt64)
      (negotiationData : StoredMakerNegotiationData) (makerPaymentTradeFee : MmNumber)
  | takerFundingReceived (makerCoinStartBlock takerCoinStartBlock : UInt64)
      (negotiationData : StoredMakerNegotiationData) (takerFunding : Bytes)
      (makerPaymentTradeFee : MmNumber)
  | makerPaymentSentFundingSpendGenerated (makerCoinStartBlock takerCoinStartBlock : UInt64)
      (negotiationData : StoredMakerNegotiationData) (makerPayment takerFunding : Bytes)
      (fundingSpendPreimage : StoredTxPreimage)
  | makerPaymentRefundRequired (makerCoinStartBlock takerCoinStartBlock : UInt64)
      (negotiationData : StoredMakerNegotiationData) (makerPayment : Bytes) (reason : AbortReason)
  | makerPaymentRefunded (makerPayment makerPaymentRefund : Bytes) (reason : AbortReason)
  | takerPaymentReceived (makerCoinStartBlock takerCoinStartBlock : UInt64)
      (negotiationData : StoredMakerNegotiationData) (makerPayment takerPayment : Bytes)
  | takerPaymentReceivedPreimageSkipped (makerCoinStartBlock takerCoinStartBlock : UInt64)
      (negotiationData : StoredMakerNegotiationData) (makerPayment takerPayment : Bytes)
  | takerPaymentSpent (makerCoinStartBlock takerCoinStartBlock : UInt64)
      (makerPayment takerPayment takerPaymentSpend : Bytes)
      (negotiationData : StoredMakerNegotiationData)
  | aborted (reason : AbortReason)
  | completed

def State.getEvent : State → Event
  | .initialized mb tb fee spendFee => .initialized mb tb fee spendFee
  | .waitingForTakerFunding mb tb data fee => .waitingForTakerFunding mb tb data fee
  | .takerFundingReceived mb tb data takerFunding fee =>
    .takerFundingReceived mb tb data takerFunding fee
  | .makerPaymentSentFundingSpendGenerated mb tb data makerPayment takerFunding preimage =>
    .makerPaymentSentFundingSpendGenerated mb tb data makerPayment takerFunding preimage
  | .takerPaymentReceived mb tb data makerPayment takerPayment =>
    .takerPaymentReceived mb tb data makerPayment takerPayment
  | .takerPaymentReceivedPreimageSkipped mb tb data makerPayment takerPayment =>
    .takerPaymentReceivedPreimageSkipped mb tb data makerPayment takerPayment
  | .takerPaymentSpent mb tb makerPayment takerPayment takerPaymentSpend data =>
    .takerPaymentSpent mb tb makerPayment takerPayment takerPaymentSpend data
  | .makerPaymentRefundRequired mb tb data makerPayment reason =>
    .makerPaymentRefundRequired mb tb data makerPayment reason
  | .makerPaymentRefunded makerPayment refund reason =>
    .makerPaymentRefunded makerPayment refund reason
  | .completed => .completed
  | .aborted reason => .aborted reason

/-- The state that `recreate_machine` makes of the last event. -/
def recreateState : Event → Except SwapRecreateError State
  | .initialized mb tb fee spendFee => .ok (.initialized mb tb fee spendFee)
  | .waitingForTakerFunding mb tb data fee => .ok (.waitingForTakerFunding mb tb data fee)
  | .takerFundingReceived mb tb data takerFunding fee =>
    .ok (.takerFundingReceived mb tb data takerFunding fee)
  | .makerPaymentSentFundingSpendGenerated mb tb data makerPayment takerFunding preimage =>
    .ok (.makerPaymentSentFundingSpendGenerated mb tb data makerPayment takerFunding preimage)
  | .makerPaymentRefundRequired mb tb data makerPayment reason =>
    .ok (.makerPaymentRefundRequired mb tb data makerPayment reason)
  | .makerPaymentRefunded makerPayment refund reason =>
    .ok (.makerPaymentRefunded makerPayment refund reason)
  | .takerPaymentReceived mb tb data makerPayment takerPayment =>
    .ok (.takerPaymentReceived mb tb data makerPayment takerPayment)
  | .takerPaymentReceivedPreimageSkipped mb tb data makerPayment takerPayment =>
    .ok (.takerPaymentReceivedPreimageSkipped mb tb data makerPayment takerPayment)
  | .takerPaymentSpent mb tb makerPayment takerPayment takerPaymentSpend data =>
    .ok (.takerPaymentSpent mb tb makerPayment takerPayment takerPaymentSpend data)
  | .aborted _ => .error (.internal "Cannot recreate from Aborted")
  | .completed => .error (.internal "Cannot recreate from Completed")

/-- `to_db_repr` and `insert_swap_v2_maker`. -/
def Machine.toRow (sm : Machine MC TC) : Row where
  startedAt := sm.startedAt.toInt64
  makerVolume := sm.ctx.toDecimal sm.makerVolume
  takerVolume := sm.ctx.toDecimal sm.takerVolume
  premium := sm.ctx.toDecimal sm.takerPremium
  secret := sm.secret.toList
  secretHash := sm.secretHash
  secretHashAlgo := secretHashAlgoToI64 sm.secretHashAlgo
  lockDuration := sm.lockDuration.toInt64
  confSettings := sm.confSettings
  swapVersion := sm.swapVersion.toNat

variable (ctx : Ctx) (makerCoin : Coin MC) (takerCoin : Coin TC) (uuid : Uuid) (row : Row)

/-- `get_swap_repr` and the machine that `recreate_machine` makes of it, with the coins it is
given. -/
def Machine.ofRow : Machine MC TC where
  ctx
  makerCoin
  makerVolume := row.makerVolume
  secret := secretOfRow row.secret
  secretHashAlgo := secretHashAlgoOfRow row.secretHashAlgo
  startedAt := row.startedAt.toUInt64
  lockDuration := row.lockDuration.toUInt64
  takerCoin
  takerVolume := row.takerVolume
  takerPremium := row.premium
  confSettings := row.confSettings
  uuid
  requireTakerFundingConfirm := false
  requireTakerPaymentSpendConfirm := true
  swapVersion := .ofNat row.swapVersion

def recreateMachine (events : List Event) : Except SwapRecreateError (Machine MC TC × State) := do
  let lastEvent ← orError events.getLast? .noEvents
  let state ← recreateState lastEvent
  return (.ofRow ctx makerCoin takerCoin uuid row, state)

theorem recreateState_getEvent {state state' : State}
    (h : (recreateState state.getEvent).toOption = some state') : state' = state := by
  cases state <;> cases h <;> rfl

/-- The maker's machine, whose swap is kick-started with the given coins. -/
def storable : Storable (Machine MC TC) State Event Row (Env MC TC) (Action MC TC) where
  initial := init
  onChanged := onChanged
  isLast := State.isLast
  getEvent := State.getEvent
  toRepr := Machine.toRow
  recreate := Machine.ofRow ctx makerCoin takerCoin uuid
  restore := fun e => (recreateState e).toOption
  restore_getEvent := recreateState_getEvent

end Maker

/-! ## The taker -/

namespace Taker

/-- `TakerSwapEvent`. -/
inductive Event where
  | initialized (makerCoinStartBlock takerCoinStartBlock : UInt64)
      (takerPaymentFee makerPaymentSpendFee : MmNumber)
  | negotiated (makerCoinStartBlock takerCoinStartBlock : UInt64)
      (negotiationData : StoredTakerNegotiationData)
      (takerPaymentFee makerPaymentSpendFee : MmNumber)
  | takerFundingSent (makerCoinStartBlock takerCoinStartBlock : UInt64)
      (negotiationData : StoredTakerNegotiationData) (takerFunding : Bytes)
  | takerFundingRefundRequired (makerCoinStartBlock takerCoinStartBlock : UInt64)
      (negotiationData : StoredTakerNegotiationData) (takerFunding : Bytes) (reason : AbortReason)
  | makerPaymentAndFundingSpendPreimgReceived (makerCoinStartBlock takerCoinStartBlock : UInt64)
      (negotiationData : StoredTakerNegotiationData) (takerFunding : Bytes)
      (fundingSpendPreimage : StoredTxPreimage) (makerPayment : Bytes)
  | makerPaymentConfirmed (makerCoinStartBlock takerCoinStartBlock : UInt64)
      (negotiationData : StoredTakerNegotiationData) (takerFunding : Bytes)
      (fundingSpendPreimage : StoredTxPreimage) (makerPayment : Bytes)
  | takerPaymentSent (makerCoinStartBlock takerCoinStartBlock : UInt64)
      (negotiationData : StoredTakerNegotiationData) (takerPayment makerPayment : Bytes)
  | takerPaymentSentPreimageSendingSkipped (makerCoinStartBlock takerCoinStartBlock : UInt64)
      (negotiationData : StoredTakerNegotiationData) (takerPayment makerPayment : Bytes)
  | takerPaymentRefundRequired (takerPayment : Bytes)
      (negotiationData : StoredTakerNegotiationData) (reason : AbortReason)
  | takerPaymentSpent (makerCoinStartBlock takerCoinStartBlock : UInt64)
      (takerPaymentSpend makerPayment : Bytes) (negotiationData : StoredTakerNegotiationData)
  | makerPaymentSpent (makerCoinStartBlock takerCoinStartBlock : UInt64)
      (makerPaymentSpend : Bytes) (negotiationData : StoredTakerNegotiationData)
  | takerFundingRefunded (fundingTx fundingTxRefund : Bytes) (reason : AbortReason)
  | takerPaymentRefunded (takerPayment takerPaymentRefund : Bytes) (reason : AbortReason)
  | aborted (reason : AbortReason)
  | completed

def State.getEvent : State → Event
  | .initialized mb tb fee spendFee => .initialized mb tb fee spendFee
  | .negotiated mb tb data fee spendFee => .negotiated mb tb data fee spendFee
  | .takerFundingSent mb tb data takerFunding => .takerFundingSent mb tb data takerFunding
  | .makerPaymentAndFundingSpendPreimgReceived mb tb data takerFunding preimage makerPayment =>
    .makerPaymentAndFundingSpendPreimgReceived mb tb data takerFunding preimage makerPayment
  | .makerPaymentConfirmed mb tb data takerFunding preimage makerPayment =>
    .makerPaymentConfirmed mb tb data takerFunding preimage makerPayment
  | .takerPaymentSent mb tb data takerPayment makerPayment =>
    .takerPaymentSent mb tb data takerPayment makerPayment
  | .takerPaymentSentPreimageSendingSkipped mb tb data takerPayment makerPayment =>
    .takerPaymentSentPreimageSendingSkipped mb tb data takerPayment makerPayment
  | .takerPaymentSpent mb tb takerPaymentSpend makerPayment data =>
    .takerPaymentSpent mb tb takerPaymentSpend makerPayment data
  | .makerPaymentSpent mb tb makerPaymentSpend data =>
    .makerPaymentSpent mb tb makerPaymentSpend data
  | .takerFundingRefundRequired mb tb data takerFunding reason =>
    .takerFundingRefundRequired mb tb data takerFunding reason
  | .takerPaymentRefundRequired takerPayment data reason =>
    .takerPaymentRefundRequired takerPayment data reason
  | .takerFundingRefunded fundingTx refund reason => .takerFundingRefunded fundingTx refund reason
  | .takerPaymentRefunded takerPayment refund reason =>
    .takerPaymentRefunded takerPayment refund reason
  | .completed => .completed
  | .aborted reason => .aborted reason

@[inherit_doc Maker.recreateState]
def recreateState : Event → Except SwapRecreateError State
  | .initialized mb tb fee spendFee => .ok (.initialized mb tb fee spendFee)
  | .negotiated mb tb data fee spendFee => .ok (.negotiated mb tb data fee spendFee)
  | .takerFundingSent mb tb data takerFunding => .ok (.takerFundingSent mb tb data takerFunding)
  | .takerFundingRefundRequired mb tb data takerFunding reason =>
    .ok (.takerFundingRefundRequired mb tb data takerFunding reason)
  | .makerPaymentAndFundingSpendPreimgReceived mb tb data takerFunding preimage makerPayment =>
    .ok (.makerPaymentAndFundingSpendPreimgReceived mb tb data takerFunding preimage makerPayment)
  | .makerPaymentConfirmed mb tb data takerFunding preimage makerPayment =>
    .ok (.makerPaymentConfirmed mb tb data takerFunding preimage makerPayment)
  | .takerPaymentSent mb tb data takerPayment makerPayment =>
    .ok (.takerPaymentSent mb tb data takerPayment makerPayment)
  | .takerPaymentSentPreimageSendingSkipped mb tb data takerPayment makerPayment =>
    .ok (.takerPaymentSentPreimageSendingSkipped mb tb data takerPayment makerPayment)
  | .takerPaymentRefundRequired takerPayment data reason =>
    .ok (.takerPaymentRefundRequired takerPayment data reason)
  | .takerPaymentSpent mb tb takerPaymentSpend makerPayment data =>
    .ok (.takerPaymentSpent mb tb takerPaymentSpend makerPayment data)
  | .makerPaymentSpent mb tb makerPaymentSpend data =>
    .ok (.makerPaymentSpent mb tb makerPaymentSpend data)
  | .takerFundingRefunded .. => .error (.internal "Cannot recreate from TakerFundingRefunded")
  | .takerPaymentRefunded .. => .error (.internal "Cannot recreate from TakerPaymentRefunded")
  | .aborted _ => .error (.internal "Cannot recreate from Aborted")
  | .completed => .error (.internal "Cannot recreate from Completed")

/-- `to_db_repr` and `insert_swap_v2_taker`. -/
def Machine.toRow (sm : Machine MC TC) : Row where
  startedAt := sm.startedAt.toInt64
  makerVolume := sm.ctx.toDecimal sm.makerVolume
  takerVolume := sm.ctx.toDecimal sm.takerVolume
  premium := sm.ctx.toDecimal sm.takerPremium
  secret := sm.takerSecret.toList
  secretHash := sm.takerSecretHash
  secretHashAlgo := secretHashAlgoToI64 sm.secretHashAlgo
  lockDuration := sm.lockDuration.toInt64
  confSettings := sm.confSettings
  swapVersion := sm.swapVersion.toNat

variable (ctx : Ctx) (makerCoin : Coin MC) (takerCoin : Coin TC) (uuid : Uuid) (row : Row)

@[inherit_doc Maker.Machine.ofRow]
def Machine.ofRow : Machine MC TC where
  ctx
  startedAt := row.startedAt.toUInt64
  lockDuration := row.lockDuration.toUInt64
  makerCoin
  makerVolume := row.makerVolume
  takerCoin
  takerVolume := row.takerVolume
  takerPremium := row.premium
  secretHashAlgo := secretHashAlgoOfRow row.secretHashAlgo
  confSettings := row.confSettings
  uuid
  takerSecret := secretOfRow row.secret
  requireMakerPaymentConfirm := true
  requireMakerPaymentSpendConfirm := true
  swapVersion := .ofNat row.swapVersion

def recreateMachine (events : List Event) : Except SwapRecreateError (Machine MC TC × State) := do
  let lastEvent ← orError events.getLast? .noEvents
  let state ← recreateState lastEvent
  return (.ofRow ctx makerCoin takerCoin uuid row, state)

theorem recreateState_getEvent {state state' : State}
    (h : (recreateState state.getEvent).toOption = some state') : state' = state := by
  cases state <;> cases h <;> rfl

/-- The taker's machine, whose swap is kick-started with the given coins. -/
def storable : Storable (Machine MC TC) State Event Row (Env MC TC) (Action MC TC) where
  initial := init
  onChanged := onChanged
  isLast := State.isLast
  getEvent := State.getEvent
  toRepr := Machine.toRow
  recreate := Machine.ofRow ctx makerCoin takerCoin uuid
  restore := fun e => (recreateState e).toOption
  restore_getEvent := recreateState_getEvent

end Taker

end CheetahDex.SwapV2
