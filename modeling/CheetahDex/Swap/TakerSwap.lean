import CheetahDex.Swap.Types

/-!
# The taker's swap

The taker starts, negotiates, pays the fee, waits for the maker's payment, validates it, sends its
own, waits for the maker to spend it, and spends the maker's with the secret that is then known, or
gets its own payment back.
-/

namespace CheetahDex.Swap

open Lib Ordermatch

/-! ## Events and commands -/

structure MakerNegotiationData where
  makerPaymentLocktime : UInt64
  makerPubkey : Hash 33
  secretHash : Hash 20
  makerCoinSwapContractAddr : Option Bytes
  takerCoinSwapContractAddr : Option Bytes
  makerCoinHtlcPubkey : Option (Hash 33)
  takerCoinHtlcPubkey : Option (Hash 33)
  deriving DecidableEq

namespace MakerNegotiationData

variable (data : MakerNegotiationData)

def otherMakerCoinHtlcPub : Hash 33 := data.makerCoinHtlcPubkey.getD data.makerPubkey

def otherTakerCoinHtlcPub : Hash 33 := data.takerCoinHtlcPubkey.getD data.makerPubkey

end MakerNegotiationData

structure TakerPaymentSpentData where
  transaction : TransactionIdentifier
  secret : Hash 32
  deriving DecidableEq

structure TakerSwapData where
  takerCoin : String
  makerCoin : String
  maker : Hash 32
  myPersistentPub : Hash 33
  lockDuration : UInt64
  makerAmount : MmNumber
  takerAmount : MmNumber
  makerPaymentConfirmations : Nat
  makerPaymentRequiresNota : Option Bool
  takerPaymentConfirmations : Nat
  takerPaymentRequiresNota : Option Bool
  takerPaymentLock : UInt64
  uuid : Uuid
  startedAt : UInt64
  makerPaymentWait : UInt64
  makerCoinStartBlock : UInt64
  takerCoinStartBlock : UInt64
  feeToSendTakerFee : Option SavedTradeFee
  takerPaymentTradeFee : Option SavedTradeFee
  makerPaymentSpendTradeFee : Option SavedTradeFee
  makerCoinSwapContractAddress : Option Bytes
  takerCoinSwapContractAddress : Option Bytes
  makerCoinHtlcPrivkey : Option KeyPair
  makerCoinHtlcPubkey : Option (Hash 33)
  takerCoinHtlcPrivkey : Option KeyPair
  takerCoinHtlcPubkey : Option (Hash 33)
  p2pPrivkey : Option KeyPair
  deriving DecidableEq, Inhabited

/-- `TakerSwapEvent`. The payload of `TakerPaymentInstructionsReceived`, which nothing reads, is
left out. -/
inductive TakerSwapEvent where
  | started (data : TakerSwapData)
  | startFailed (error : SwapError)
  | negotiated (data : MakerNegotiationData)
  | negotiateFailed (error : SwapError)
  | takerFeeSent (tx : TransactionIdentifier)
  | takerFeeSendFailed (error : SwapError)
  | takerPaymentInstructionsReceived
  | makerPaymentReceived (tx : TransactionIdentifier)
  | makerPaymentWaitConfirmStarted
  | makerPaymentValidatedAndConfirmed
  | makerPaymentValidateFailed (error : SwapError)
  | makerPaymentWaitConfirmFailed (error : SwapError)
  | takerPaymentSent (tx : TransactionIdentifier)
  | watcherMessageSent
  | takerPaymentTransactionFailed (error : SwapError)
  | takerPaymentDataSendFailed (error : SwapError)
  | takerPaymentWaitConfirmFailed (error : SwapError)
  | takerPaymentSpent (data : TakerPaymentSpentData)
  | takerPaymentWaitForSpendFailed (error : SwapError)
  | makerPaymentSpent (tx : TransactionIdentifier)
  | makerPaymentSpendConfirmed
  | makerPaymentSpendConfirmFailed (error : SwapError)
  | makerPaymentSpentByWatcher (tx : TransactionIdentifier)
  | makerPaymentSpendFailed (error : SwapError)
  | takerPaymentWaitRefundStarted (waitUntil : UInt64)
  | takerPaymentRefundStarted
  | takerPaymentRefunded (tx : TransactionIdentifier)
  | takerPaymentRefundFinished
  | takerPaymentRefundedByWatcher (tx : TransactionIdentifier)
  | takerPaymentRefundFailed (error : SwapError)
  | finished
  deriving DecidableEq

inductive TakerSwapCommand where
  | start
  | negotiate
  | sendTakerFee
  | waitForMakerPayment
  | validateMakerPayment
  | sendTakerPayment
  | waitForTakerPaymentSpend
  | spendMakerPayment
  | refundTakerPayment
  | finish
  deriving DecidableEq

def TakerSwapEvent.getCommand : TakerSwapEvent → Option TakerSwapCommand
  | started _ => some .negotiate
  | startFailed _ => some .finish
  | negotiated _ => some .sendTakerFee
  | negotiateFailed _ => some .finish
  | takerFeeSent _ => some .waitForMakerPayment
  | takerFeeSendFailed _ => some .finish
  | takerPaymentInstructionsReceived => some .validateMakerPayment
  | makerPaymentReceived _ => some .validateMakerPayment
  | makerPaymentWaitConfirmStarted => some .validateMakerPayment
  | makerPaymentValidatedAndConfirmed => some .sendTakerPayment
  | makerPaymentValidateFailed _ => some .finish
  | makerPaymentWaitConfirmFailed _ => some .finish
  | takerPaymentSent _ => some .waitForTakerPaymentSpend
  | watcherMessageSent => some .waitForTakerPaymentSpend
  | takerPaymentTransactionFailed _ => some .finish
  | takerPaymentDataSendFailed _ => some .refundTakerPayment
  | takerPaymentSpent _ => some .spendMakerPayment
  | takerPaymentWaitForSpendFailed _ => some .refundTakerPayment
  | takerPaymentWaitConfirmFailed _ => some .refundTakerPayment
  | makerPaymentSpent _ => some .finish
  | makerPaymentSpendConfirmed => some .finish
  | makerPaymentSpendConfirmFailed _ => some .finish
  | makerPaymentSpentByWatcher _ => some .finish
  | makerPaymentSpendFailed _ => some .refundTakerPayment
  | takerPaymentWaitRefundStarted _ => some .refundTakerPayment
  | takerPaymentRefundStarted => some .refundTakerPayment
  | takerPaymentRefunded _ => some .finish
  | takerPaymentRefundFinished => some .finish
  | takerPaymentRefundedByWatcher _ => some .finish
  | takerPaymentRefundFailed _ => some .finish
  | finished => none

/-! ## The state -/

structure TakerSwapMut where
  data : TakerSwapData
  otherMakerCoinHtlcPub : Hash 33
  otherTakerCoinHtlcPub : Hash 33
  takerFee : Option TransactionIdentifier
  makerPayment : Option TransactionIdentifier
  takerPayment : Option TransactionIdentifier
  makerPaymentSpend : Option TransactionIdentifier
  takerPaymentSpend : Option TransactionIdentifier
  takerPaymentRefund : Option TransactionIdentifier
  secretHash : Hash 20
  secret : Hash 32
  myMakerCoinHtlcKeypair : KeyPair
  myTakerCoinHtlcKeypair : KeyPair

structure TakerSwap where
  ctx : SwapCtx
  makerCoin : SwapCoin
  takerCoin : SwapCoin
  makerAmount : MmNumber
  takerAmount : MmNumber
  myPersistentPub : Hash 33
  maker : Hash 32
  uuid : Uuid
  myOrderUuid : Option Uuid
  makerPaymentLock : UInt64
  makerPaymentConfirmed : Bool
  errors : List SwapError
  finishedAt : UInt64
  mutable : TakerSwapMut
  confSettings : SwapConfirmationsSettings
  paymentLocktime : UInt64
  p2pPrivkey : Option KeyPair

namespace TakerSwap

def new (ctx : SwapCtx) (maker : Hash 32) (makerAmount takerAmount : MmNumber)
    (myPersistentPub : Hash 33) (uuid : Uuid) (myOrderUuid : Option Uuid)
    (confSettings : SwapConfirmationsSettings) (makerCoin takerCoin : SwapCoin)
    (paymentLocktime : UInt64) (p2pPrivkey : Option KeyPair) : TakerSwap :=
  { ctx, makerCoin, takerCoin, makerAmount, takerAmount, myPersistentPub, maker, uuid, myOrderUuid
    makerPaymentLock := 0
    makerPaymentConfirmed := false
    errors := []
    finishedAt := 0
    mutable :=
      { data := default
        otherMakerCoinHtlcPub := default
        otherTakerCoinHtlcPub := default
        takerFee := none
        makerPayment := none
        takerPayment := none
        makerPaymentSpend := none
        takerPaymentSpend := none
        takerPaymentRefund := none
        secretHash := default
        secret := default
        myMakerCoinHtlcKeypair := ctx.keyPair
        myTakerCoinHtlcKeypair := ctx.keyPair }
    confSettings, paymentLocktime, p2pPrivkey }

/-- An error event. -/
def pushError (swap : TakerSwap) (error : SwapError) : TakerSwap :=
  { swap with errors := swap.errors ++ [error] }

/-- `apply_event`; `now` is read for the last event. -/
def applyEvent (now : UInt64) (swap : TakerSwap) : TakerSwapEvent → TakerSwap
  | .started data =>
    { swap with mutable := { swap.mutable with
        data
        myMakerCoinHtlcKeypair := data.makerCoinHtlcPrivkey.getD swap.mutable.myMakerCoinHtlcKeypair
        myTakerCoinHtlcKeypair :=
          data.takerCoinHtlcPrivkey.getD swap.mutable.myTakerCoinHtlcKeypair } }
  | .startFailed error => swap.pushError error
  | .negotiated data =>
    -- a contract the other side did not name stays the one of the start
    { swap with
      makerPaymentLock := data.makerPaymentLocktime
      mutable := { swap.mutable with
        otherMakerCoinHtlcPub := data.otherMakerCoinHtlcPub
        otherTakerCoinHtlcPub := data.otherTakerCoinHtlcPub
        secretHash := data.secretHash
        data := { swap.mutable.data with
          makerCoinSwapContractAddress :=
            data.makerCoinSwapContractAddr <|> swap.mutable.data.makerCoinSwapContractAddress
          takerCoinSwapContractAddress :=
            data.takerCoinSwapContractAddr <|> swap.mutable.data.takerCoinSwapContractAddress } } }
  | .negotiateFailed error => swap.pushError error
  | .takerFeeSent tx => { swap with mutable := { swap.mutable with takerFee := some tx } }
  | .takerFeeSendFailed error => swap.pushError error
  | .takerPaymentInstructionsReceived => swap
  | .makerPaymentReceived tx =>
    { swap with mutable := { swap.mutable with makerPayment := some tx } }
  | .makerPaymentWaitConfirmStarted => swap
  | .makerPaymentValidatedAndConfirmed => { swap with makerPaymentConfirmed := true }
  | .makerPaymentValidateFailed error => swap.pushError error
  | .makerPaymentWaitConfirmFailed error => swap.pushError error
  | .takerPaymentSent tx => { swap with mutable := { swap.mutable with takerPayment := some tx } }
  | .watcherMessageSent => swap
  | .takerPaymentTransactionFailed error => swap.pushError error
  | .takerPaymentDataSendFailed error => swap.pushError error
  | .takerPaymentWaitConfirmFailed error => swap.pushError error
  | .takerPaymentSpent data =>
    { swap with mutable := { swap.mutable with
        takerPaymentSpend := some data.transaction
        secret := data.secret } }
  | .takerPaymentWaitForSpendFailed error => swap.pushError error
  | .makerPaymentSpent tx =>
    { swap with mutable := { swap.mutable with makerPaymentSpend := some tx } }
  | .makerPaymentSpendConfirmed => swap
  | .makerPaymentSpendConfirmFailed error => swap.pushError error
  | .makerPaymentSpentByWatcher tx =>
    { swap with mutable := { swap.mutable with makerPaymentSpend := some tx } }
  | .makerPaymentSpendFailed error => swap.pushError error
  | .takerPaymentWaitRefundStarted _ => swap
  | .takerPaymentRefundStarted => swap
  | .takerPaymentRefunded tx =>
    { swap with mutable := { swap.mutable with takerPaymentRefund := some tx } }
  | .takerPaymentRefundFinished => swap
  | .takerPaymentRefundedByWatcher tx =>
    { swap with mutable := { swap.mutable with takerPaymentRefund := some tx } }
  | .takerPaymentRefundFailed error => swap.pushError error
  | .finished => { swap with finishedAt := now }

def waitRefundUntil (swap : TakerSwap) : UInt64 := swap.mutable.data.takerPaymentLock + 3700

end TakerSwap

/-! ## Commands -/

/-- What a command finds: the clock, the answers of the coins, and the messages of the maker. -/
structure TakerEnv where
  now : UInt64
  /-- `compute_dex_fee_with_taker_pubkey`. -/
  dexFee : (makerCoin : String) → (takerAmount : MmNumber) → (takerPub : Hash 33) → DexFee
  feeToSendTakerFee : MmNumber → Except String SavedTradeFee
  senderTradeFee : MmNumber → Except String SavedTradeFee
  receiverTradeFee : Except String SavedTradeFee
  checkBalance : (takerAmount dexFee : MmNumber) →
    (feeToSendDexFee takerPaymentTradeFee makerPaymentSpendTradeFee : SavedTradeFee) →
    Except String Unit
  makerCoinBlock : Except String UInt64
  takerCoinBlock : Except String UInt64
  negotiation : Except String NegotiationDataMsg
  makerNegotiateContract : Option Bytes → Except String (Option Bytes)
  takerNegotiateContract : Option Bytes → Except String (Option Bytes)
  negotiated : Except String Bool
  sendTakerFee : DexFee → (feeAddr : Bytes) → Uuid → Except String TransactionIdentifier
  makerPayment : Except String Bytes
  makerTx : Bytes → Except String TransactionIdentifier
  makerConfirmations : ConfirmationsArgs → Except String Unit
  validateMakerPayment : ValidatePaymentInput → Except String Unit
  checkIfMyPaymentSent : PaymentArgs → (searchFrom : UInt64) →
    Except String (Option TransactionIdentifier)
  sendTakerPayment : PaymentArgs → MmNumber → Except String TransactionIdentifier
  /-- Where the sending of the fee or the payment fails, it is with the network all the same. -/
  sentUnnoticed : Bool := false
  takerConfirmations : ConfirmationsArgs → Except String Unit
  waitForTxSpend : (tx : Bytes) → (waitUntil fromBlock : UInt64) →
    (swapContractAddress : Option Bytes) → Except String TransactionIdentifier
  extractSecret : (secretHash : Hash 20) → (spendTx : Bytes) → Except String Bytes
  sendTakerSpendsMakerPayment : SpendArgs → Except String TransactionIdentifier
  canRefundHtlc : UInt64 → List (Except String CanRefundHtlc)
  sendTakerRefundsPayment : SpendArgs → Except String TransactionIdentifier

abbrev TakerOutcome := Outcome TakerSwapEvent TakerSwapCommand

/-- A failure after which there is nothing to get back, or nothing is tried. -/
def TakerOutcome.finish (event : SwapError → TakerSwapEvent) (error : String) : TakerOutcome :=
  .returned (some .finish) [event ⟨error⟩]

/-- A failure after which the taker's payment is refunded. -/
def TakerOutcome.refund (swap : TakerSwap) (event : SwapError → TakerSwapEvent) (error : String) :
    TakerOutcome :=
  .returned (some .refundTakerPayment)
    [event ⟨error⟩, .takerPaymentWaitRefundStarted swap.waitRefundUntil]

def makerPaymentWait (swapStartedAt paymentLocktime : UInt64) : UInt64 :=
  swapStartedAt + (paymentLocktime * 2) / 5

namespace TakerSwap

variable (env : TakerEnv) (swap : TakerSwap)

def start : TakerOutcome := collapse do
  let dexFee := env.dexFee swap.makerCoin.ticker swap.takerAmount
    swap.mutable.myTakerCoinHtlcKeypair.publicKey
  let feeToSendDexFee ← (env.feeToSendTakerFee
    (swap.ctx.toDecimal dexFee.totalSpendAmount)).mapError fun e =>
      .finish .startFailed s!"!taker_coin.get_fee_to_send_taker_fee {e}"
  let takerPaymentTradeFee ← (env.senderTradeFee (swap.ctx.toDecimal swap.takerAmount)).mapError
    fun e => .finish .startFailed s!"!taker_coin.get_sender_trade_fee {e}"
  let makerPaymentSpendTradeFee ← env.receiverTradeFee.mapError fun e =>
    .finish .startFailed s!"!maker_coin.get_receiver_trade_fee {e}"
  (env.checkBalance swap.takerAmount dexFee.totalSpendAmount feeToSendDexFee takerPaymentTradeFee
    makerPaymentSpendTradeFee).mapError fun e =>
      .finish .startFailed s!"!check_balance_for_taker_swap {e}"
  let startedAt := env.now
  let makerCoinStartBlock ← env.makerCoinBlock.mapError fun e =>
    .finish .startFailed s!"!maker_coin.current_block {e}"
  let takerCoinStartBlock ← env.takerCoinBlock.mapError fun e =>
    .finish .startFailed s!"!taker_coin.current_block {e}"
  let data : TakerSwapData :=
    { takerCoin := swap.takerCoin.ticker
      makerCoin := swap.makerCoin.ticker
      maker := swap.maker
      startedAt
      lockDuration := swap.paymentLocktime
      -- the saved amounts are decimals; the exact ones are in the swap alone
      makerAmount := swap.ctx.toDecimal swap.makerAmount
      takerAmount := swap.ctx.toDecimal swap.takerAmount
      makerPaymentConfirmations := swap.confSettings.makerCoinConfs
      makerPaymentRequiresNota := some swap.confSettings.makerCoinNota
      takerPaymentConfirmations := swap.confSettings.takerCoinConfs
      takerPaymentRequiresNota := some swap.confSettings.takerCoinNota
      takerPaymentLock := startedAt + swap.paymentLocktime
      myPersistentPub := swap.myPersistentPub
      uuid := swap.uuid
      makerPaymentWait := Swap.makerPaymentWait startedAt swap.paymentLocktime
      makerCoinStartBlock
      takerCoinStartBlock
      feeToSendTakerFee := some feeToSendDexFee
      takerPaymentTradeFee := some takerPaymentTradeFee
      makerPaymentSpendTradeFee := some makerPaymentSpendTradeFee
      makerCoinSwapContractAddress := swap.makerCoin.swapContractAddress
      takerCoinSwapContractAddress := swap.takerCoin.swapContractAddress
      makerCoinHtlcPrivkey := swap.makerCoin.htlcKeyPair
      makerCoinHtlcPubkey := some (swap.makerCoin.htlcKeyPair.getD swap.ctx.keyPair).publicKey
      takerCoinHtlcPrivkey := swap.takerCoin.htlcKeyPair
      takerCoinHtlcPubkey := some (swap.takerCoin.htlcKeyPair.getD swap.ctx.keyPair).publicKey
      p2pPrivkey := swap.p2pPrivkey }
  return .returned (some .negotiate) [.started data]

def negotiate : TakerOutcome := collapse do
  let makerData ← env.negotiation.mapError fun e => .finish .negotiateFailed e.quote
  let dif := timeDif swap.mutable.data.startedAt makerData.startedAt
  check (dif > 60) (.finish .negotiateFailed s!"Started_at time_dif over 60 {dif}")
  let expected := makerData.startedAt + swap.mutable.data.lockDuration * 2
  let actual := makerData.paymentLocktime
  check (actual ≠ expected) (.finish .negotiateFailed
    s!"maker_data.payment_locktime {actual} not equal to expected {expected}")
  let makerCoinSwapContractAddr ←
    (env.makerNegotiateContract makerData.makerCoinSwapContract).mapError fun e =>
      .finish .negotiateFailed s!"!maker_coin.negotiate_swap_contract_addr {e}"
  let takerCoinSwapContractAddr ←
    (env.takerNegotiateContract makerData.takerCoinSwapContract).mapError fun e =>
      .finish .negotiateFailed s!"!taker_coin.negotiate_swap_contract_addr {e}"
  let negotiated ← env.negotiated.mapError fun e => .finish .negotiateFailed e.quote
  check (!negotiated) (.finish .negotiateFailed "Maker sent negotiated = false")
  -- the conversion of a slice of another length panics
  let secretHash ← orError (hashOfBytes 20 makerData.secretHash) .panicked
  let makerCoinHtlcPubkey ← orError (hashOfBytes 33 makerData.makerCoinHtlcPub) .panicked
  let takerCoinHtlcPubkey ← orError (hashOfBytes 33 makerData.takerCoinHtlcPub) .panicked
  return .returned (some .sendTakerFee) [.negotiated
    { makerPaymentLocktime := makerData.paymentLocktime
      makerPubkey := default
      secretHash
      makerCoinSwapContractAddr
      takerCoinSwapContractAddr
      makerCoinHtlcPubkey := some makerCoinHtlcPubkey
      takerCoinHtlcPubkey := some takerCoinHtlcPubkey }]

def sendTakerFee : TakerOutcome := collapse do
  let now := env.now
  let timeout := swap.mutable.data.startedAt + swap.mutable.data.lockDuration / 3
  check (now > timeout) (.finish .takerFeeSendFailed s!"Timeout {now} > {timeout}")
  let dexFee := env.dexFee swap.mutable.data.makerCoin swap.takerAmount
    swap.mutable.myTakerCoinHtlcKeypair.publicKey
  let transaction ← (env.sendTakerFee dexFee swap.ctx.dexFeeAddr swap.uuid).mapError fun e =>
    .finish .takerFeeSendFailed e
  return .returned (some .waitForMakerPayment) [.takerFeeSent transaction]

def waitForMakerPayment : TakerOutcome := collapse do
  let _ ← orError swap.mutable.takerFee .panicked
  let payload ← env.makerPayment.mapError fun e =>
    .finish .makerPaymentValidateFailed s!"Error waiting for 'maker-payment' data: {e}"
  let makerPayment ← (env.makerTx payload).mapError fun e =>
    .finish .makerPaymentValidateFailed s!"Error parsing the 'maker-payment': {e}"
  return .returned (some .validateMakerPayment)
    [.makerPaymentReceived makerPayment, .makerPaymentWaitConfirmStarted]

def validateMakerPayment : TakerOutcome := collapse do
  let data := swap.mutable.data
  let makerPayment ← orError swap.mutable.makerPayment .panicked
  (env.makerConfirmations
    { tx := makerPayment.txHex
      confirmations := data.makerPaymentConfirmations
      requiresNota := data.makerPaymentRequiresNota.getD false
      waitUntil := data.makerPaymentWait
      checkEvery := waitConfirmInterval }).mapError fun e =>
    .finish .makerPaymentWaitConfirmFailed s!"!wait for maker payment confirmations: {e}"
  (env.validateMakerPayment
    { paymentTx := makerPayment.txHex
      timeLock := swap.makerPaymentLock.toUInt32
      takerPub := swap.mutable.myMakerCoinHtlcKeypair.publicKey
      makerPub := swap.mutable.otherMakerCoinHtlcPub
      secretHash := swap.mutable.secretHash
      amount := swap.ctx.toDecimal swap.makerAmount
      swapContractAddress := data.makerCoinSwapContractAddress
      trySpvProofUntil := data.makerPaymentWait
      confirmations := data.makerPaymentConfirmations }).mapError fun e =>
    .finish .makerPaymentValidateFailed s!"!validate maker payment: {e}"
  return .returned (some .sendTakerPayment) [.makerPaymentValidatedAndConfirmed]

/-- The arguments the taker's payment is looked for and sent with. -/
def paymentArgs : PaymentArgs where
  timeLock := swap.mutable.data.takerPaymentLock.toUInt32
  myPub := swap.mutable.myTakerCoinHtlcKeypair.publicKey
  otherPub := swap.mutable.otherTakerCoinHtlcPub
  secretHash := swap.mutable.secretHash
  swapContractAddress := swap.mutable.data.takerCoinSwapContractAddress

def sendTakerPayment : TakerOutcome := collapse do
  let now := env.now
  let timeout := swap.mutable.data.startedAt + swap.mutable.data.lockDuration / 3
  check (now > timeout) (.finish .takerPaymentTransactionFailed s!"Timeout {now} > {timeout}")
  let transaction ← (sentOrSend
    (env.checkIfMyPaymentSent swap.paymentArgs swap.mutable.data.takerCoinStartBlock)
    (env.sendTakerPayment swap.paymentArgs (swap.ctx.toDecimal swap.takerAmount))).mapError fun e =>
      .finish .takerPaymentTransactionFailed e
  return .returned (some .waitForTakerPaymentSpend) [.takerPaymentSent transaction]

variable (takerPayment : TransactionIdentifier)

/-- The wait for the confirmations of the taker's payment. -/
def paymentConfirmations : ConfirmationsArgs where
  tx := takerPayment.txHex
  confirmations := swap.mutable.data.takerPaymentConfirmations
  requiresNota := swap.mutable.data.takerPaymentRequiresNota.getD false
  waitUntil := swap.mutable.data.startedAt + (swap.mutable.data.lockDuration * 4) / 5
  checkEvery := waitConfirmInterval

/-- The wait for a transaction that spends the taker's payment. -/
def paymentSpend :
    Except String TransactionIdentifier :=
  env.waitForTxSpend takerPayment.txHex swap.mutable.data.takerPaymentLock
    swap.mutable.data.takerCoinStartBlock swap.mutable.data.takerCoinSwapContractAddress

def waitForTakerPaymentSpend : TakerOutcome := collapse do
  let takerPayment ← orError swap.mutable.takerPayment .panicked
  (env.takerConfirmations (swap.paymentConfirmations takerPayment)).mapError fun e =>
    .refund swap .takerPaymentWaitConfirmFailed s!"!taker_coin.wait_for_confirmations: {e}"
  let transaction ← (swap.paymentSpend env takerPayment).mapError fun e =>
    .refund swap .takerPaymentWaitForSpendFailed e
  -- the same event as above, but no refund
  let bytes ← (env.extractSecret swap.mutable.secretHash transaction.txHex).mapError fun e =>
    .finish .takerPaymentWaitForSpendFailed e
  let secret ← orError (hashOfBytes 32 bytes) .panicked
  return .returned (some .spendMakerPayment) [.takerPaymentSpent { transaction, secret }]

/-- The arguments the maker's payment is spent with. -/
def spendArgs (makerPayment : TransactionIdentifier) : SpendArgs where
  paymentTx := makerPayment.txHex
  timeLock := swap.makerPaymentLock.toUInt32
  otherPub := swap.mutable.otherMakerCoinHtlcPub
  secret := swap.mutable.secret.toList
  htlcPrivkey := swap.mutable.myMakerCoinHtlcKeypair.secret
  swapContractAddress := swap.mutable.data.makerCoinSwapContractAddress

def spendMakerPayment : TakerOutcome := collapse do
  let makerPayment ← orError swap.mutable.makerPayment .panicked
  let transaction ← (env.sendTakerSpendsMakerPayment
    (swap.spendArgs makerPayment)).mapError fun e =>
    .finish .makerPaymentSpendFailed e
  return .returned (some .finish) [.makerPaymentSpent transaction]

def refundTakerPayment : TakerOutcome := collapse do
  let data := swap.mutable.data
  check (!canRefund (env.canRefundHtlc data.takerPaymentLock)) .waiting
  let takerPayment ← orError swap.mutable.takerPayment .panicked
  let transaction ← (env.sendTakerRefundsPayment
    { paymentTx := takerPayment.txHex
      timeLock := data.takerPaymentLock.toUInt32
      otherPub := swap.mutable.otherTakerCoinHtlcPub
      secret := swap.mutable.secretHash.toList
      htlcPrivkey := swap.mutable.myTakerCoinHtlcKeypair.secret
      swapContractAddress := data.takerCoinSwapContractAddress }).mapError fun e =>
    .finish .takerPaymentRefundFailed e.quote
  return .returned (some .finish) [.takerPaymentRefunded transaction]

def handleCommand : TakerSwapCommand → TakerOutcome
  | .start => swap.start env
  | .negotiate => swap.negotiate env
  | .sendTakerFee => swap.sendTakerFee env
  | .waitForMakerPayment => swap.waitForMakerPayment env
  | .validateMakerPayment => swap.validateMakerPayment env
  | .sendTakerPayment => swap.sendTakerPayment env
  | .waitForTakerPaymentSpend => swap.waitForTakerPaymentSpend env
  | .spendMakerPayment => swap.spendMakerPayment env
  | .refundTakerPayment => swap.refundTakerPayment env
  | .finish => .returned none [.finished]

/-- `run_taker_swap`: the loop over the commands. -/
def process : Process TakerSwap TakerSwapEvent TakerSwapCommand TakerEnv where
  handle := handleCommand
  apply := fun env => applyEvent env.now

end TakerSwap

/-! ## Restarting -/

/-- `TakerSavedSwap`, as far as a restart reads it. -/
structure TakerSavedSwap where
  uuid : Uuid
  events : List TakerSwapEvent

/-- The contract addresses of the coins, for a file that does not have them. -/
def TakerSwapData.refreshContracts (data : TakerSwapData) (makerCoin takerCoin : SwapCoin) :
    TakerSwapData :=
  { data with
    makerCoinSwapContractAddress :=
      data.makerCoinSwapContractAddress <|> makerCoin.swapContractAddress
    takerCoinSwapContractAddress :=
      data.takerCoinSwapContractAddress <|> takerCoin.swapContractAddress }

/-- The swap before its events are applied, as the data of its start describes it. -/
def TakerSwap.ofData (ctx : SwapCtx) (makerCoin takerCoin : SwapCoin) (saved : TakerSavedSwap)
    (data : TakerSwapData) : TakerSwap :=
  let confSettings : SwapConfirmationsSettings :=
    { makerCoinConfs := data.makerPaymentConfirmations
      makerCoinNota := data.makerPaymentRequiresNota.getD makerCoin.requiresNotarization
      takerCoinConfs := data.takerPaymentConfirmations
      takerCoinNota := data.takerPaymentRequiresNota.getD takerCoin.requiresNotarization }
  .new ctx data.maker data.makerAmount data.takerAmount ctx.keyPair.publicKey saved.uuid
    (some saved.uuid) confSettings makerCoin takerCoin data.lockDuration data.p2pPrivkey

def TakerSwap.loadFromSaved (now : UInt64) (ctx : SwapCtx) (makerCoin takerCoin : SwapCoin)
    (saved : TakerSavedSwap) : Except String (TakerSwap × Option TakerSwapCommand) :=
  match saved.events with
  | [] => .error "Can't restore swap from empty events set"
  | .started data :: rest =>
    let data := data.refreshContracts makerCoin takerCoin
    let events := .started data :: rest
    let swap := TakerSwap.ofData ctx makerCoin takerCoin saved data
    let command := (events.getLast?).bind TakerSwapEvent.getCommand
    .ok (events.foldl (applyEvent now) swap, command)
  | _ :: _ => .error "First swap event must be Started"

end CheetahDex.Swap
