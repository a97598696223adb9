import CheetahDex.Swap.Types

/-!
# The maker's swap

The maker starts, negotiates, waits for the taker's fee, sends its payment, waits for the taker's,
validates and spends it, or gets its own payment back. Every command returns events and the command
to go on with; the state is changed by `applyEvent` only. After a restart `loadFromSaved` rebuilds
the swap from the events that were saved.
-/

namespace CheetahDex.Swap

open Lib Ordermatch

/-! ## Events and commands -/

structure TakerNegotiationData where
  takerPaymentLocktime : UInt64
  takerPubkey : Hash 33
  makerCoinSwapContractAddr : Option Bytes
  takerCoinSwapContractAddr : Option Bytes
  makerCoinHtlcPubkey : Option (Hash 33)
  takerCoinHtlcPubkey : Option (Hash 33)
  deriving DecidableEq

namespace TakerNegotiationData

variable (data : TakerNegotiationData)

def otherMakerCoinHtlcPub : Hash 33 := data.makerCoinHtlcPubkey.getD data.takerPubkey

def otherTakerCoinHtlcPub : Hash 33 := data.takerCoinHtlcPubkey.getD data.takerPubkey

end TakerNegotiationData

structure MakerSwapData where
  takerCoin : String
  makerCoin : String
  taker : Hash 32
  secret : Hash 32
  secretHash : Option (Hash 20)
  myPersistentPub : Hash 33
  lockDuration : UInt64
  makerAmount : MmNumber
  takerAmount : MmNumber
  makerPaymentConfirmations : Nat
  makerPaymentRequiresNota : Option Bool
  takerPaymentConfirmations : Nat
  takerPaymentRequiresNota : Option Bool
  makerPaymentLock : UInt64
  uuid : Uuid
  startedAt : UInt64
  makerCoinStartBlock : UInt64
  takerCoinStartBlock : UInt64
  makerPaymentTradeFee : Option SavedTradeFee
  takerPaymentSpendTradeFee : Option SavedTradeFee
  makerCoinSwapContractAddress : Option Bytes
  takerCoinSwapContractAddress : Option Bytes
  makerCoinHtlcPrivkey : Option KeyPair
  makerCoinHtlcPubkey : Option (Hash 33)
  takerCoinHtlcPrivkey : Option KeyPair
  takerCoinHtlcPubkey : Option (Hash 33)
  p2pPrivkey : Option KeyPair
  deriving DecidableEq, Inhabited

/-- `MakerSwapEvent`. The payload of `MakerPaymentInstructionsReceived`, which nothing reads, is
left out. -/
inductive MakerSwapEvent where
  | started (data : MakerSwapData)
  | startFailed (error : SwapError)
  | negotiated (data : TakerNegotiationData)
  | negotiateFailed (error : SwapError)
  | makerPaymentInstructionsReceived
  | takerFeeValidated (tx : TransactionIdentifier)
  | takerFeeValidateFailed (error : SwapError)
  | makerPaymentSent (tx : TransactionIdentifier)
  | makerPaymentTransactionFailed (error : SwapError)
  | makerPaymentDataSendFailed (error : SwapError)
  | makerPaymentWaitConfirmFailed (error : SwapError)
  | takerPaymentReceived (tx : TransactionIdentifier)
  | takerPaymentWaitConfirmStarted
  | takerPaymentValidatedAndConfirmed
  | takerPaymentValidateFailed (error : SwapError)
  | takerPaymentWaitConfirmFailed (error : SwapError)
  | takerPaymentSpent (tx : TransactionIdentifier)
  | takerPaymentSpendFailed (error : SwapError)
  | takerPaymentSpendConfirmStarted
  | takerPaymentSpendConfirmed
  | takerPaymentSpendConfirmFailed (error : SwapError)
  | makerPaymentWaitRefundStarted (waitUntil : UInt64)
  | makerPaymentRefunded (tx : TransactionIdentifier)
  | makerPaymentRefundFailed (error : SwapError)
  | finished
  deriving DecidableEq

inductive MakerSwapCommand where
  | start
  | negotiate
  | waitForTakerFee
  | sendPayment
  | waitForTakerPayment
  | validateTakerPayment
  | spendTakerPayment
  | confirmTakerPaymentSpend
  | refundMakerPayment
  | finish
  deriving DecidableEq

def MakerSwapEvent.getCommand : MakerSwapEvent → Option MakerSwapCommand
  | started _ => some .negotiate
  | startFailed _ => some .finish
  | negotiated _ => some .waitForTakerFee
  | negotiateFailed _ => some .finish
  | makerPaymentInstructionsReceived => some .waitForTakerFee
  | takerFeeValidated _ => some .sendPayment
  | takerFeeValidateFailed _ => some .finish
  | makerPaymentSent _ => some .waitForTakerPayment
  | makerPaymentTransactionFailed _ => some .finish
  | makerPaymentDataSendFailed _ => some .refundMakerPayment
  | makerPaymentWaitConfirmFailed _ => some .refundMakerPayment
  | takerPaymentReceived _ => some .validateTakerPayment
  | takerPaymentWaitConfirmStarted => some .validateTakerPayment
  | takerPaymentValidatedAndConfirmed => some .spendTakerPayment
  | takerPaymentValidateFailed _ => some .refundMakerPayment
  | takerPaymentWaitConfirmFailed _ => some .refundMakerPayment
  | takerPaymentSpent _ => some .confirmTakerPaymentSpend
  | takerPaymentSpendFailed _ => some .refundMakerPayment
  | takerPaymentSpendConfirmStarted => some .confirmTakerPaymentSpend
  | takerPaymentSpendConfirmed => some .finish
  | takerPaymentSpendConfirmFailed _ => some .refundMakerPayment
  | makerPaymentWaitRefundStarted _ => some .refundMakerPayment
  | makerPaymentRefunded _ => some .finish
  | makerPaymentRefundFailed _ => some .finish
  | finished => none

/-! ## The state -/

structure MakerSwapMut where
  data : MakerSwapData
  otherMakerCoinHtlcPub : Hash 33
  otherTakerCoinHtlcPub : Hash 33
  takerFee : Option TransactionIdentifier
  makerPayment : Option TransactionIdentifier
  takerPayment : Option TransactionIdentifier
  takerPaymentSpend : Option TransactionIdentifier
  takerPaymentSpendConfirmed : Bool
  makerPaymentRefund : Option TransactionIdentifier
  myMakerCoinHtlcKeypair : KeyPair
  myTakerCoinHtlcKeypair : KeyPair

structure MakerSwap where
  ctx : SwapCtx
  makerCoin : SwapCoin
  takerCoin : SwapCoin
  makerAmount : MmNumber
  takerAmount : MmNumber
  myPersistentPub : Hash 33
  taker : Hash 32
  uuid : Uuid
  myOrderUuid : Option Uuid
  takerPaymentLock : UInt64
  takerPaymentConfirmed : Bool
  errors : List SwapError
  finishedAt : UInt64
  mutable : MakerSwapMut
  confSettings : SwapConfirmationsSettings
  paymentLocktime : UInt64
  p2pPrivkey : Option KeyPair

namespace MakerSwap

def new (ctx : SwapCtx) (taker : Hash 32) (makerAmount takerAmount : MmNumber)
    (myPersistentPub : Hash 33) (uuid : Uuid) (myOrderUuid : Option Uuid)
    (confSettings : SwapConfirmationsSettings) (makerCoin takerCoin : SwapCoin)
    (paymentLocktime : UInt64) (p2pPrivkey : Option KeyPair) : MakerSwap :=
  { ctx, makerCoin, takerCoin, makerAmount, takerAmount, myPersistentPub, taker, uuid, myOrderUuid
    takerPaymentLock := 0
    takerPaymentConfirmed := false
    errors := []
    finishedAt := 0
    mutable :=
      { data := default
        otherMakerCoinHtlcPub := default
        otherTakerCoinHtlcPub := default
        takerFee := none
        makerPayment := none
        takerPayment := none
        takerPaymentSpend := none
        takerPaymentSpendConfirmed := false
        makerPaymentRefund := none
        myMakerCoinHtlcKeypair := ctx.keyPair
        myTakerCoinHtlcKeypair := ctx.keyPair }
    confSettings, paymentLocktime, p2pPrivkey }

/-- An error event. -/
def pushError (swap : MakerSwap) (error : SwapError) : MakerSwap :=
  { swap with errors := swap.errors ++ [error] }

/-- `apply_event`; `now` is read for the last event. -/
def applyEvent (now : UInt64) (swap : MakerSwap) : MakerSwapEvent → MakerSwap
  | .started data =>
    { swap with mutable := { swap.mutable with
        data
        myMakerCoinHtlcKeypair := data.makerCoinHtlcPrivkey.getD swap.mutable.myMakerCoinHtlcKeypair
        myTakerCoinHtlcKeypair :=
          data.takerCoinHtlcPrivkey.getD swap.mutable.myTakerCoinHtlcKeypair } }
  | .startFailed error => swap.pushError error
  | .negotiated data =>
    -- a contract the other side did not name stays the one of the start
    { swap with
      takerPaymentLock := data.takerPaymentLocktime
      mutable := { swap.mutable with
        otherMakerCoinHtlcPub := data.otherMakerCoinHtlcPub
        otherTakerCoinHtlcPub := data.otherTakerCoinHtlcPub
        data := { swap.mutable.data with
          makerCoinSwapContractAddress :=
            data.makerCoinSwapContractAddr <|> swap.mutable.data.makerCoinSwapContractAddress
          takerCoinSwapContractAddress :=
            data.takerCoinSwapContractAddr <|> swap.mutable.data.takerCoinSwapContractAddress } } }
  | .negotiateFailed error => swap.pushError error
  | .makerPaymentInstructionsReceived => swap
  | .takerFeeValidated tx => { swap with mutable := { swap.mutable with takerFee := some tx } }
  | .takerFeeValidateFailed error => swap.pushError error
  | .makerPaymentSent tx => { swap with mutable := { swap.mutable with makerPayment := some tx } }
  | .makerPaymentTransactionFailed error => swap.pushError error
  | .makerPaymentDataSendFailed error => swap.pushError error
  | .makerPaymentWaitConfirmFailed error => swap.pushError error
  | .takerPaymentReceived tx =>
    { swap with mutable := { swap.mutable with takerPayment := some tx } }
  | .takerPaymentWaitConfirmStarted => swap
  | .takerPaymentValidatedAndConfirmed => { swap with takerPaymentConfirmed := true }
  | .takerPaymentValidateFailed error => swap.pushError error
  | .takerPaymentWaitConfirmFailed error => swap.pushError error
  | .takerPaymentSpent tx =>
    { swap with mutable := { swap.mutable with takerPaymentSpend := some tx } }
  | .takerPaymentSpendFailed error => swap.pushError error
  | .takerPaymentSpendConfirmStarted => swap
  | .takerPaymentSpendConfirmed =>
    { swap with mutable := { swap.mutable with takerPaymentSpendConfirmed := true } }
  | .takerPaymentSpendConfirmFailed error => swap.pushError error
  | .makerPaymentWaitRefundStarted _ => swap
  | .makerPaymentRefunded tx =>
    { swap with mutable := { swap.mutable with makerPaymentRefund := some tx } }
  | .makerPaymentRefundFailed error => swap.pushError error
  | .finished => { swap with finishedAt := now }

def waitRefundUntil (swap : MakerSwap) : UInt64 := swap.mutable.data.makerPaymentLock + 3700

end MakerSwap

/-! ## Commands -/

/-- What a command finds: the clock, the answers of the coins, and the messages of the taker. -/
structure MakerEnv where
  now : UInt64
  senderTradeFee : MmNumber → Except String SavedTradeFee
  receiverTradeFee : Except String SavedTradeFee
  checkBalance : MmNumber → SavedTradeFee → SavedTradeFee → Except String Unit
  secret : Hash 32
  makerCoinBlock : Except String UInt64
  takerCoinBlock : Except String UInt64
  negotiationReply : Except String NegotiationDataMsg
  makerNegotiateContract : Option Bytes → Except String (Option Bytes)
  takerNegotiateContract : Option Bytes → Except String (Option Bytes)
  takerFee : Except String Bytes
  takerTx : Bytes → Except String TransactionIdentifier
  /-- `compute_dex_fee_with_taker_pubkey`. -/
  dexFee : (makerCoin : String) → (takerAmount : MmNumber) → (takerPub : Hash 33) → DexFee
  /-- The attempts to validate a fee are numbered. -/
  validateFee : Nat → ValidateFeeArgs → Except String Unit
  checkIfMyPaymentSent : PaymentArgs → (searchFrom : UInt64) →
    Except String (Option TransactionIdentifier)
  sendMakerPayment : PaymentArgs → MmNumber → Except String TransactionIdentifier
  /-- Where the sending of the payment fails, the payment is with the network all the same. -/
  sentUnnoticed : Bool := false
  makerConfirmations : ConfirmationsArgs → Except String Unit
  takerPayment : Except String Bytes
  takerConfirmations : ConfirmationsArgs → Except String Unit
  validateTakerPayment : ValidatePaymentInput → Except String Unit
  sendMakerSpendsTakerPayment : SpendArgs → Except String TransactionIdentifier
  canRefundHtlc : UInt64 → List (Except String CanRefundHtlc)
  sendMakerRefundsPayment : SpendArgs → Except String TransactionIdentifier

abbrev MakerOutcome := Outcome MakerSwapEvent MakerSwapCommand

/-- A failure before the maker has paid. -/
def MakerOutcome.finish (event : SwapError → MakerSwapEvent) (error : String) : MakerOutcome :=
  .returned (some .finish) [event ⟨error⟩]

/-- A failure after the maker has paid. -/
def MakerOutcome.refund (swap : MakerSwap) (event : SwapError → MakerSwapEvent) (error : String) :
    MakerOutcome :=
  .returned (some .refundMakerPayment)
    [event ⟨error⟩, .makerPaymentWaitRefundStarted swap.waitRefundUntil]

namespace MakerSwap

variable (env : MakerEnv) (swap : MakerSwap)

def start : MakerOutcome := collapse do
  let makerPaymentTradeFee ← (env.senderTradeFee swap.makerAmount).mapError fun e =>
    .finish .startFailed s!"!maker_coin.get_sender_trade_fee {e}"
  let takerPaymentSpendTradeFee ← env.receiverTradeFee.mapError fun e =>
    .finish .startFailed s!"!taker_coin.get_receiver_trade_fee {e}"
  (env.checkBalance swap.makerAmount makerPaymentTradeFee takerPaymentSpendTradeFee).mapError
    fun e => .finish .startFailed s!"!check_balance_for_maker_swap {e}"
  let secret := env.secret
  let startedAt := env.now
  let makerCoinStartBlock ← env.makerCoinBlock.mapError fun e =>
    .finish .startFailed s!"!maker_coin.current_block {e}"
  let takerCoinStartBlock ← env.takerCoinBlock.mapError fun e =>
    .finish .startFailed s!"!taker_coin.current_block {e}"
  let data : MakerSwapData :=
    { takerCoin := swap.takerCoin.ticker
      makerCoin := swap.makerCoin.ticker
      taker := swap.taker
      secretHash := some (swap.ctx.dhash160 secret)
      secret
      startedAt
      lockDuration := swap.paymentLocktime
      makerAmount := swap.makerAmount
      takerAmount := swap.takerAmount
      makerPaymentConfirmations := swap.confSettings.makerCoinConfs
      makerPaymentRequiresNota := some swap.confSettings.makerCoinNota
      takerPaymentConfirmations := swap.confSettings.takerCoinConfs
      takerPaymentRequiresNota := some swap.confSettings.takerCoinNota
      makerPaymentLock := startedAt + swap.paymentLocktime * 2
      myPersistentPub := swap.myPersistentPub
      uuid := swap.uuid
      makerCoinStartBlock
      takerCoinStartBlock
      makerPaymentTradeFee := some makerPaymentTradeFee
      takerPaymentSpendTradeFee := some takerPaymentSpendTradeFee
      makerCoinSwapContractAddress := swap.makerCoin.swapContractAddress
      takerCoinSwapContractAddress := swap.takerCoin.swapContractAddress
      makerCoinHtlcPrivkey := swap.makerCoin.htlcKeyPair
      makerCoinHtlcPubkey := some (swap.makerCoin.htlcKeyPair.getD swap.ctx.keyPair).publicKey
      takerCoinHtlcPrivkey := swap.takerCoin.htlcKeyPair
      takerCoinHtlcPubkey := some (swap.takerCoin.htlcKeyPair.getD swap.ctx.keyPair).publicKey
      p2pPrivkey := swap.p2pPrivkey }
  return .returned (some .negotiate) [.started data]

def negotiate : MakerOutcome := collapse do
  let takerData ← env.negotiationReply.mapError fun e => .finish .negotiateFailed e.quote
  let dif := timeDif swap.mutable.data.startedAt takerData.startedAt
  check (dif > 60) (.finish .negotiateFailed s!"Started_at time_dif over 60 {dif}")
  let expected := takerData.startedAt + swap.mutable.data.lockDuration
  let actual := takerData.paymentLocktime
  check (actual ≠ expected) (.finish .negotiateFailed
    s!"taker_data.payment_locktime {actual} not equal to expected {expected}")
  let makerCoinSwapContractAddr ←
    (env.makerNegotiateContract takerData.makerCoinSwapContract).mapError fun e =>
      .finish .negotiateFailed s!"!maker_coin.negotiate_swap_contract_addr {e}"
  let takerCoinSwapContractAddr ←
    (env.takerNegotiateContract takerData.takerCoinSwapContract).mapError fun e =>
      .finish .negotiateFailed s!"!taker_coin.negotiate_swap_contract_addr {e}"
  -- the conversion of a slice of another length panics
  let makerCoinHtlcPubkey ← orError (hashOfBytes 33 takerData.makerCoinHtlcPub) .panicked
  let takerCoinHtlcPubkey ← orError (hashOfBytes 33 takerData.takerCoinHtlcPub) .panicked
  return .returned (some .waitForTakerFee) [.negotiated
    { takerPaymentLocktime := takerData.paymentLocktime
      takerPubkey := default
      makerCoinSwapContractAddr
      takerCoinSwapContractAddr
      makerCoinHtlcPubkey := some makerCoinHtlcPubkey
      takerCoinHtlcPubkey := some takerCoinHtlcPubkey }]

/-- The loop of `wait_taker_fee`: the fee is validated up to four times. -/
def validateFeeLoop (validate : Nat → Except String Unit) : Nat → Except String Unit
  | 0 => validate 3
  | left + 1 =>
    match validate (3 - (left + 1)) with
    | .ok () => .ok ()
    | .error _ => validateFeeLoop validate left

def waitTakerFee : MakerOutcome := collapse do
  let payload ← env.takerFee.mapError fun e => .finish .takerFeeValidateFailed e
  let takerFee ← (env.takerTx payload).mapError fun e => .finish .takerFeeValidateFailed e
  let otherTakerCoinHtlcPub := swap.mutable.otherTakerCoinHtlcPub
  let args : ValidateFeeArgs :=
    { feeTx := takerFee.txHex
      expectedSender := otherTakerCoinHtlcPub
      feeAddr := swap.ctx.dexFeeAddr
      dexFee := env.dexFee swap.mutable.data.makerCoin swap.takerAmount otherTakerCoinHtlcPub
      minBlockNumber := swap.mutable.data.takerCoinStartBlock
      uuid := swap.uuid }
  (validateFeeLoop (fun attempts => env.validateFee attempts args) 3).mapError fun e =>
    .finish .takerFeeValidateFailed e
  return .returned (some .sendPayment) [.takerFeeValidated takerFee]

/-- The arguments the maker's payment is looked for and sent with. -/
def paymentArgs : PaymentArgs where
  timeLock := swap.mutable.data.makerPaymentLock.toUInt32
  myPub := swap.mutable.myMakerCoinHtlcKeypair.publicKey
  otherPub := swap.mutable.otherMakerCoinHtlcPub
  secretHash := swap.ctx.dhash160 swap.mutable.data.secret
  swapContractAddress := swap.mutable.data.makerCoinSwapContractAddress

def makerPayment : MakerOutcome := collapse do
  let now := env.now
  let timeout := swap.mutable.data.startedAt + swap.mutable.data.lockDuration / 3
  check (now > timeout) (.finish .makerPaymentTransactionFailed s!"Timeout {now} > {timeout}")
  let transaction ← (sentOrSend
    (env.checkIfMyPaymentSent swap.paymentArgs swap.mutable.data.makerCoinStartBlock)
    (env.sendMakerPayment swap.paymentArgs swap.makerAmount)).mapError fun e =>
      .finish .makerPaymentTransactionFailed e
  return .returned (some .waitForTakerPayment) [.makerPaymentSent transaction]

def waitForTakerPayment : MakerOutcome := collapse do
  let data := swap.mutable.data
  let makerPayment ← orError swap.mutable.makerPayment .panicked
  (env.makerConfirmations
    { tx := makerPayment.txHex
      confirmations := data.makerPaymentConfirmations
      requiresNota := data.makerPaymentRequiresNota.getD false
      waitUntil := data.startedAt + (data.lockDuration * 2) / 5
      checkEvery := waitConfirmInterval }).mapError fun e =>
    .refund swap .makerPaymentWaitConfirmFailed s!"!wait for maker payment confirmations: {e}"
  let payload ← env.takerPayment.mapError fun e => .refund swap .takerPaymentValidateFailed e
  let takerPayment ← (env.takerTx payload).mapError fun e =>
    .refund swap .takerPaymentValidateFailed s!"!taker_coin.tx_enum_from_bytes: {e}"
  return .returned (some .validateTakerPayment)
    [.takerPaymentReceived takerPayment, .takerPaymentWaitConfirmStarted]

def validateTakerPayment : MakerOutcome := collapse do
  let data := swap.mutable.data
  let waitTakerPayment := data.startedAt + (data.lockDuration * 4) / 5
  let takerPayment ← orError swap.mutable.takerPayment .panicked
  (env.takerConfirmations
    { tx := takerPayment.txHex
      confirmations := data.takerPaymentConfirmations
      requiresNota := data.takerPaymentRequiresNota.getD false
      waitUntil := waitTakerPayment
      checkEvery := waitConfirmInterval }).mapError fun e =>
    .refund swap .takerPaymentWaitConfirmFailed s!"!taker_coin.wait_for_confirmations: {e}"
  (env.validateTakerPayment
    { paymentTx := takerPayment.txHex
      timeLock := swap.takerPaymentLock.toUInt32
      takerPub := swap.mutable.otherTakerCoinHtlcPub
      makerPub := swap.mutable.myTakerCoinHtlcKeypair.publicKey
      secretHash := swap.ctx.dhash160 data.secret
      amount := swap.takerAmount
      swapContractAddress := data.takerCoinSwapContractAddress
      trySpvProofUntil := waitTakerPayment
      confirmations := data.takerPaymentConfirmations }).mapError fun e =>
    .refund swap .takerPaymentValidateFailed s!"!taker_coin.validate_taker_payment: {e}"
  return .returned (some .spendTakerPayment) [.takerPaymentValidatedAndConfirmed]

def spendTakerPayment : MakerOutcome := collapse do
  let data := swap.mutable.data
  let now := env.now
  let timeout := data.startedAt + (data.lockDuration * 4) / 5
  check (now > timeout) (.refund swap .takerPaymentSpendFailed s!"Timeout {now} > {timeout}")
  let takerPayment ← orError swap.mutable.takerPayment .panicked
  let transaction ← (env.sendMakerSpendsTakerPayment
    { paymentTx := takerPayment.txHex
      timeLock := swap.takerPaymentLock.toUInt32
      otherPub := swap.mutable.otherTakerCoinHtlcPub
      secret := data.secret.toList
      htlcPrivkey := swap.mutable.myTakerCoinHtlcKeypair.secret
      swapContractAddress := data.takerCoinSwapContractAddress }).mapError fun e =>
    .refund swap .takerPaymentSpendFailed s!"!taker_coin.send_maker_spends_taker_payment: {e}"
  return .returned (some .confirmTakerPaymentSpend)
    [.takerPaymentSpent transaction, .takerPaymentSpendConfirmStarted]

def confirmTakerPaymentSpend : MakerOutcome := collapse do
  let takerPaymentSpend ← orError swap.mutable.takerPaymentSpend .panicked
  (env.takerConfirmations
    { tx := takerPaymentSpend.txHex
      confirmations := min 1 swap.mutable.data.takerPaymentConfirmations
      requiresNota := false
      waitUntil := swap.waitRefundUntil
      checkEvery := waitConfirmInterval }).mapError fun e =>
    .refund swap .takerPaymentSpendConfirmFailed
      s!"!wait for taker payment spend confirmations: {e}"
  return .returned (some .finish) [.takerPaymentSpendConfirmed]

def refundMakerPayment : MakerOutcome := collapse do
  let data := swap.mutable.data
  check (!canRefund (env.canRefundHtlc data.makerPaymentLock)) .waiting
  let makerPayment ← orError swap.mutable.makerPayment .panicked
  let transaction ← (env.sendMakerRefundsPayment
    { paymentTx := makerPayment.txHex
      timeLock := data.makerPaymentLock.toUInt32
      otherPub := swap.mutable.otherMakerCoinHtlcPub
      secret := (swap.ctx.dhash160 data.secret).toList
      htlcPrivkey := swap.mutable.myMakerCoinHtlcKeypair.secret
      swapContractAddress := data.makerCoinSwapContractAddress }).mapError fun e =>
    .finish .makerPaymentRefundFailed s!"!maker_coin.send_maker_refunds_payment: {e}"
  return .returned (some .finish) [.makerPaymentRefunded transaction]

def handleCommand : MakerSwapCommand → MakerOutcome
  | .start => swap.start env
  | .negotiate => swap.negotiate env
  | .waitForTakerFee => swap.waitTakerFee env
  | .sendPayment => swap.makerPayment env
  | .waitForTakerPayment => swap.waitForTakerPayment env
  | .validateTakerPayment => swap.validateTakerPayment env
  | .spendTakerPayment => swap.spendTakerPayment env
  | .confirmTakerPaymentSpend => swap.confirmTakerPaymentSpend env
  | .refundMakerPayment => swap.refundMakerPayment env
  | .finish => .returned none [.finished]

/-- `run_maker_swap`: the loop over the commands. -/
def process : Process MakerSwap MakerSwapEvent MakerSwapCommand MakerEnv where
  handle := handleCommand
  apply := fun env => applyEvent env.now

end MakerSwap

/-! ## Restarting -/

/-- `MakerSavedSwap`, as far as a restart reads it. -/
structure MakerSavedSwap where
  uuid : Uuid
  myOrderUuid : Option Uuid
  events : List MakerSwapEvent

/-- The contract addresses of the coins, for a file that does not have them. -/
def MakerSwapData.refreshContracts (data : MakerSwapData) (makerCoin takerCoin : SwapCoin) :
    MakerSwapData :=
  { data with
    makerCoinSwapContractAddress :=
      data.makerCoinSwapContractAddress <|> makerCoin.swapContractAddress
    takerCoinSwapContractAddress :=
      data.takerCoinSwapContractAddress <|> takerCoin.swapContractAddress }

/-- The swap before its events are applied, as the data of its start describes it. -/
def MakerSwap.ofData (ctx : SwapCtx) (makerCoin takerCoin : SwapCoin) (saved : MakerSavedSwap)
    (data : MakerSwapData) : MakerSwap :=
  let confSettings : SwapConfirmationsSettings :=
    { makerCoinConfs := data.makerPaymentConfirmations
      makerCoinNota := data.makerPaymentRequiresNota.getD makerCoin.requiresNotarization
      takerCoinConfs := data.takerPaymentConfirmations
      takerCoinNota := data.takerPaymentRequiresNota.getD takerCoin.requiresNotarization }
  .new ctx data.taker data.makerAmount data.takerAmount ctx.keyPair.publicKey saved.uuid
    saved.myOrderUuid confSettings makerCoin takerCoin data.lockDuration data.p2pPrivkey

def MakerSwap.loadFromSaved (now : UInt64) (ctx : SwapCtx) (makerCoin takerCoin : SwapCoin)
    (saved : MakerSavedSwap) : Except String (MakerSwap × Option MakerSwapCommand) :=
  match saved.events with
  | [] => .error "Can't restore swap from empty events set"
  | .started data :: rest =>
    let data := data.refreshContracts makerCoin takerCoin
    let events := .started data :: rest
    let swap := MakerSwap.ofData ctx makerCoin takerCoin saved data
    let command := (events.getLast?).bind MakerSwapEvent.getCommand
    .ok (events.foldl (applyEvent now) swap, command)
  | _ :: _ => .error "First swap event must be Started"

end CheetahDex.Swap
