import CheetahDex.Lib.Storable
import CheetahDex.SwapV2.Types

/-!
# The taker's state machine of the second version

Each state as `on_changed` runs it. The taker first locks its money in a funding, which it can take
back with a secret of its own, and turns the funding into its payment once the maker has paid.
-/

namespace CheetahDex.SwapV2.Taker

open Lib
open Ordermatch (MmNumber SwapConfirmationsSettings Uuid)
open Swap (Bytes DexFee Hash canRefund)
open Utxo (SecretHashAlgo)

variable {MC TC : CoinTypes}

/-- `TakerSwapStateMachine`, without the peers, the topic and the storage. -/
structure Machine (MC TC : CoinTypes) where
  ctx : Ctx
  startedAt : UInt64
  lockDuration : UInt64
  makerCoin : Coin MC
  makerVolume : MmNumber
  takerCoin : Coin TC
  takerVolume : MmNumber
  takerPremium : MmNumber
  secretHashAlgo : SecretHashAlgo
  confSettings : SwapConfirmationsSettings
  uuid : Uuid
  takerSecret : Hash 32
  requireMakerPaymentConfirm : Bool
  requireMakerPaymentSpendConfirm : Bool
  swapVersion : UInt8

/-- The states that are stored: all but `Initialize`. -/
inductive State where
  | initialized (makerCoinStartBlock takerCoinStartBlock : UInt64)
      (takerPaymentFee makerPaymentSpendFee : MmNumber)
  | negotiated (makerCoinStartBlock takerCoinStartBlock : UInt64)
      (negotiationData : StoredTakerNegotiationData)
      (takerPaymentFee makerPaymentSpendFee : MmNumber)
  | takerFundingSent (makerCoinStartBlock takerCoinStartBlock : UInt64)
      (negotiationData : StoredTakerNegotiationData) (takerFunding : Bytes)
  | makerPaymentAndFundingSpendPreimgReceived (makerCoinStartBlock takerCoinStartBlock : UInt64)
      (negotiationData : StoredTakerNegotiationData) (takerFunding : Bytes)
      (fundingSpendPreimage : StoredTxPreimage) (makerPayment : Bytes)
  | makerPaymentConfirmed (makerCoinStartBlock takerCoinStartBlock : UInt64)
      (negotiationData : StoredTakerNegotiationData) (takerFunding : Bytes)
      (fundingSpendPreimage : StoredTxPreimage) (makerPayment : Bytes)
  | takerPaymentSent (makerCoinStartBlock takerCoinStartBlock : UInt64)
      (negotiationData : StoredTakerNegotiationData) (takerPayment makerPayment : Bytes)
  | takerPaymentSentPreimageSendingSkipped (makerCoinStartBlock takerCoinStartBlock : UInt64)
      (negotiationData : StoredTakerNegotiationData) (takerPayment makerPayment : Bytes)
  | takerPaymentSpent (makerCoinStartBlock takerCoinStartBlock : UInt64)
      (takerPaymentSpend makerPayment : Bytes) (negotiationData : StoredTakerNegotiationData)
  | makerPaymentSpent (makerCoinStartBlock takerCoinStartBlock : UInt64)
      (makerPaymentSpend : Bytes) (negotiationData : StoredTakerNegotiationData)
  | takerFundingRefundRequired (makerCoinStartBlock takerCoinStartBlock : UInt64)
      (negotiationData : StoredTakerNegotiationData) (takerFunding : Bytes) (reason : AbortReason)
  | takerPaymentRefundRequired (takerPayment : Bytes) (negotiationData : StoredTakerNegotiationData)
      (reason : AbortReason)
  | takerFundingRefunded (fundingTx fundingTxRefund : Bytes) (reason : AbortReason)
  | takerPaymentRefunded (takerPayment takerPaymentRefund : Bytes) (reason : AbortReason)
  | completed
  | aborted (reason : AbortReason)
  deriving DecidableEq

/-- What a taker broadcasts: its funding, the payment that spends it, refunds of either and the
spend of the maker's payment. A refund that was tried and failed has no transaction. -/
inductive Action (MC TC : CoinTypes) where
  | funded (funding : TC.Tx)
  | paid (takerFunding : Bytes) (payment : TC.Tx)
  | refundFunding (takerFunding : Bytes) (tx : Option TC.Tx)
  | refundPayment (takerPayment : Bytes) (tx : Option TC.Tx)
  | claimed (makerPayment : Bytes) (spend : MC.Tx)

/-- What a taker is told while it runs a state. -/
structure Env (MC TC : CoinTypes) where
  makerCoin : MakerCoinAnswers MC
  takerCoin : TakerCoinAnswers TC
  makerNegotiation : Except String MakerNegotiation
  makerNegotiated : Except String MakerNegotiated
  makerPayment : Except String MakerPaymentInfo

namespace Machine

variable (sm : Machine MC TC)

def makerPaymentConfTimeout : UInt64 := sm.startedAt + sm.lockDuration / 3

def takerFundingLocktime : UInt64 := sm.startedAt + 3 * sm.lockDuration

def takerPaymentLocktime : UInt64 := sm.startedAt + sm.lockDuration

/-- `unique_data`: the sixteen bytes of the uuid, the highest first. -/
def uniqueData : Bytes := (leBytes 16 sm.uuid.toNat).reverse

def takerSecretHash : Bytes := sm.secretHashAlgo.hashSecret sm.ctx.hashes sm.takerSecret.toList

/-- `compute_dex_fee_with_taker_pubkey_from_coin`. -/
def dexFee (takerPubkey : Bytes) : DexFee :=
  Swap.computeDexFeeWithTakerPubkey sm.ctx.digits sm.ctx.netConfig sm.takerCoin.fee
    sm.makerCoin.ticker sm.takerVolume takerPubkey

end Machine

/-! ## The states -/

section states

variable (env : Env MC TC) (sm : Machine MC TC)

abbrev TakerTurn (MC TC : CoinTypes) := Turn (Action MC TC) State

/-- `change_state` with nothing broadcast. -/
def changeState (next : State) : TakerTurn MC TC := ⟨[], some next⟩

def abort (reason : AbortReason) : TakerTurn MC TC := changeState (.aborted reason)

/-- `Initialize`. -/
def init : TakerTurn MC TC := collapse do
  let makerCoinStartBlock ← env.makerCoin.currentBlock.mapError fun e =>
    abort (.internalError ("Failed to get maker coin block: " ++ e))
  let takerCoinStartBlock ← env.takerCoin.currentBlock.mapError fun e =>
    abort (.internalError ("Failed to get taker coin block: " ++ e))
  let takerPaymentTradeFee ← (env.takerCoin.senderTradeFee
    (sm.ctx.toDecimal sm.takerVolume)).mapError fun e =>
    abort (.internalError ("Failed to get taker payment fee: " ++ e))
  let makerPaymentSpendTradeFee ← env.makerCoin.receiverTradeFee.mapError fun e =>
    abort (.internalError ("Failed to get maker payment spend fee: " ++ e))
  let spendable ← env.takerCoin.mySpendableBalance.mapError fun e =>
    abort (.internalError ("Failed to get spendable balance: " ++ e))
  let required := sm.ctx.toDecimal sm.takerVolume + sm.ctx.toDecimal sm.takerPremium +
    sm.ctx.toDecimal takerPaymentTradeFee
  check (spendable < required) (abort (.internalError ("Insufficient balance: need " ++
    sm.ctx.showDecimal required ++ " but have " ++ sm.ctx.showDecimal spendable)))
  return changeState (.initialized makerCoinStartBlock takerCoinStartBlock takerPaymentTradeFee
    makerPaymentSpendTradeFee)

/-- What `Initialized` checks of the maker's message. -/
def acceptNegotiation (msg : MakerNegotiation) : Except AbortReason StoredTakerNegotiationData := do
  let startedAtDiff := absDiff sm.startedAt msg.startedAt
  check (startedAtDiff > maxStartedAtDiff) (.negotiationFailed ("started_at difference too large: "
    ++ toString startedAtDiff ++ " > " ++ toString maxStartedAtDiff))
  check (msg.secretHash.length ≠ 20 ∧ msg.secretHash.length ≠ 32) (.negotiationFailed
    ("Invalid maker secret hash length: " ++ toString msg.secretHash.length))
  -- the lock time that a maker has that started when this taker did
  let expectedPaymentLocktime := sm.startedAt + 2 * sm.lockDuration
  check (msg.paymentLocktime ≠ expectedPaymentLocktime) (.negotiationFailed
    ("Unexpected maker payment locktime: got " ++ toString msg.paymentLocktime ++ ", expected " ++
      toString expectedPaymentLocktime))
  let _ ← (sm.makerCoin.parsePubkey msg.makerCoinHtlcPub).mapError fun _ =>
    .negotiationFailed "Invalid maker's maker-coin HTLC pubkey"
  let _ ← (sm.takerCoin.parsePubkey msg.takerCoinHtlcPub).mapError fun _ =>
    .negotiationFailed "Invalid maker's taker-coin HTLC pubkey"
  return {
    makerSecretHash := msg.secretHash
    makerCoinHtlcPub := msg.makerCoinHtlcPub
    takerCoinHtlcPub := msg.takerCoinHtlcPub
    makerCoinSwapContract := msg.makerCoinSwapContract
    takerCoinSwapContract := msg.takerCoinSwapContract
    makerPaymentLocktime := msg.paymentLocktime
    takerCoinAddress := msg.takerCoinAddress }

/-- The message that `Initialized` answers with. -/
def negotiationMsg : Except AbortReason TakerNegotiationData := do
  let makerCoinHtlcPub ← (env.makerCoin.deriveHtlcPubkeyBytes sm.makerCoin sm.uniqueData).mapError
    fun e => .internalError ("Failed to derive maker-coin V2 HTLC pubkey: " ++ e)
  let takerCoinHtlcPub ← (env.takerCoin.deriveHtlcPubkeyBytes sm.takerCoin sm.uniqueData).mapError
    fun e => .internalError ("Failed to derive taker-coin V2 HTLC pubkey: " ++ e)
  return {
    startedAt := sm.startedAt
    fundingLocktime := sm.takerFundingLocktime
    paymentLocktime := sm.takerPaymentLocktime
    takerSecretHash := sm.takerSecretHash
    makerCoinHtlcPub
    takerCoinHtlcPub
    makerCoinSwapContract := sm.makerCoin.swapContractAddress
    takerCoinSwapContract := sm.takerCoin.swapContractAddress }

variable (makerCoinStartBlock takerCoinStartBlock : UInt64)

def initialized (takerPaymentFee makerPaymentSpendFee : MmNumber) : TakerTurn MC TC := collapse do
  let msg ← env.makerNegotiation.mapError fun _ => abort .negotiationTimeout
  let negotiationData ← (acceptNegotiation sm msg).mapError abort
  let _ ← (negotiationMsg env sm).mapError abort
  let makerNegotiated ← env.makerNegotiated.mapError fun _ => abort .negotiationTimeout
  check (¬ makerNegotiated.negotiated)
    (abort (.makerAborted (makerNegotiated.reason.getD "unknown")))
  return changeState (.negotiated makerCoinStartBlock takerCoinStartBlock negotiationData
    takerPaymentFee makerPaymentSpendFee)

variable (negotiationData : StoredTakerNegotiationData)

def negotiated : TakerTurn MC TC := collapse do
  let takerCoinHtlcPub ← (env.takerCoin.deriveHtlcPubkeyBytes sm.takerCoin sm.uniqueData).mapError
    fun e => abort (.internalError ("Failed to derive taker-coin V2 HTLC pubkey: " ++ e))
  let answer := env.takerCoin.sendTakerFunding {
    fundingTimeLock := sm.takerFundingLocktime
    paymentTimeLock := sm.takerPaymentLocktime
    takerSecretHash := sm.takerSecretHash
    makerSecretHash := negotiationData.makerSecretHash
    makerPub := negotiationData.takerCoinHtlcPub
    dexFee := sm.dexFee takerCoinHtlcPub
    premiumAmount := sm.ctx.toDecimal sm.takerPremium
    tradingAmount := sm.ctx.toDecimal sm.takerVolume
    swapUniqueData := sm.uniqueData }
  let sent := answer.reached.toList.map Action.funded
  let fundingTx ← answer.result.mapError fun e =>
    ⟨sent, some (.aborted (.failedToSendPayment ("Failed to send taker funding: " ++ e)))⟩
  return ⟨sent, some (.takerFundingSent makerCoinStartBlock takerCoinStartBlock negotiationData
    (sm.takerCoin.txHex fundingTx))⟩

variable (takerFunding : Bytes)

def takerFundingSent : TakerTurn MC TC :=
  collapse do
  let refund (reason : AbortReason) : TakerTurn MC TC := changeState (.takerFundingRefundRequired
    makerCoinStartBlock takerCoinStartBlock negotiationData takerFunding reason)
  let info ← env.makerPayment.mapError fun e => refund (.didNotReceiveMakerPayment e)
  let _ ← (sm.makerCoin.parseTx info.txBytes).mapError fun e =>
    refund (.failedToParseMakerPayment e)
  let _ ← (sm.takerCoin.parsePreimage info.fundingPreimageTx).mapError fun e =>
    refund (.failedToParseFundingSpendPreimg e)
  let _ ← (sm.takerCoin.parseSignature info.fundingPreimageSig).mapError fun e =>
    refund (.failedToParseFundingSpendSig e)
  return changeState (.makerPaymentAndFundingSpendPreimgReceived makerCoinStartBlock
    takerCoinStartBlock negotiationData takerFunding
    ⟨info.fundingPreimageTx, info.fundingPreimageSig⟩ info.txBytes)

/-- The arguments of the calls that spend the funding. -/
def genFundingSpendArgs (takerFunding : TC.Tx) (makerTakerCoinPub takerTakerCoinPub : TC.Pubkey) :
    GenTakerFundingSpendArgs TC where
  fundingTx := takerFunding
  makerPub := makerTakerCoinPub
  takerPub := takerTakerCoinPub
  fundingTimeLock := sm.takerFundingLocktime
  takerSecretHash := sm.takerSecretHash
  takerPaymentTimeLock := sm.takerPaymentLocktime
  makerSecretHash := negotiationData.makerSecretHash

/-- What is sent, and what is next, once the funding is spent or should have been. -/
def sendTakerPayment (takerFunding makerPayment : Bytes) (answer : Broadcast TC.Tx) :
    TakerTurn MC TC where
  sent := answer.reached.toList.map (Action.paid takerFunding)
  next := some <|
    match answer.result with
    | .ok tx =>
      if sm.takerCoin.skipTakerPaymentSpendPreimage then
        .takerPaymentSentPreimageSendingSkipped makerCoinStartBlock takerCoinStartBlock
          negotiationData (sm.takerCoin.txHex tx) makerPayment
      else
        .takerPaymentSent makerCoinStartBlock takerCoinStartBlock negotiationData
          (sm.takerCoin.txHex tx) makerPayment
    | .error e => .takerFundingRefundRequired makerCoinStartBlock takerCoinStartBlock
        negotiationData takerFunding (.failedToSendPayment ("Failed to send taker payment: " ++ e))

/-- The own key for the taker coin, as bytes and parsed. -/
def ownTakerCoinPub : Except AbortReason (Bytes × TC.Pubkey) := do
  let bytes ← (env.takerCoin.deriveHtlcPubkeyBytes sm.takerCoin sm.uniqueData).mapError fun e =>
    .internalError ("Failed to derive own taker-coin V2 HTLC pubkey: " ++ e)
  let pub ← (sm.takerCoin.parsePubkey bytes).mapError fun e =>
    .internalError ("Failed to parse own taker-coin pubkey: " ++ e)
  return (bytes, pub)

variable (fundingSpendPreimage : StoredTxPreimage) (makerPayment : Bytes)

def makerPaymentAndFundingSpendPreimgReceived : TakerTurn MC TC :=
  collapse do
  let refund (reason : AbortReason) : TakerTurn MC TC := changeState (.takerFundingRefundRequired
    makerCoinStartBlock takerCoinStartBlock negotiationData takerFunding reason)
  let makerPaymentTx ← (sm.makerCoin.parseTx makerPayment).mapError fun e =>
    refund (.failedToParseMakerPayment e)
  let takerFundingTx ← (sm.takerCoin.parseTx takerFunding).mapError fun e =>
    refund (.internalError ("Failed to parse own funding tx: " ++ e))
  let makerMakerCoinPub ← (sm.makerCoin.parsePubkey negotiationData.makerCoinHtlcPub).mapError
    fun e => refund (.internalError ("Failed to parse maker's maker-coin pubkey: " ++ e))
  let makerTakerCoinPub ← (sm.takerCoin.parsePubkey negotiationData.takerCoinHtlcPub).mapError
    fun e => refund (.internalError ("Failed to parse maker's taker-coin pubkey: " ++ e))
  (env.makerCoin.validateMakerPaymentV2 {
    makerPaymentTx
    timeLock := negotiationData.makerPaymentLocktime
    takerSecretHash := sm.takerSecretHash
    makerSecretHash := negotiationData.makerSecretHash
    amount := sm.ctx.toDecimal sm.makerVolume
    makerPub := makerMakerCoinPub
    swapUniqueData := sm.uniqueData }).mapError fun e => refund (.makerPaymentValidationFailed e)
  let takerTakerCoinPub ← (ownTakerCoinPub env sm).mapError refund
  let args := genFundingSpendArgs sm negotiationData takerFundingTx makerTakerCoinPub
    takerTakerCoinPub.2
  let preimage ← (sm.takerCoin.parsePreimage fundingSpendPreimage.preimage).mapError fun e =>
    refund (.failedToParseFundingSpendPreimg e)
  let signature ← (sm.takerCoin.parseSignature fundingSpendPreimage.signature).mapError fun e =>
    refund (.failedToParseFundingSpendSig e)
  (env.takerCoin.validateTakerFundingSpendPreimage args ⟨preimage, signature⟩).mapError fun e =>
    refund (.fundingSpendPreimageValidationFailed e)
  if sm.requireMakerPaymentConfirm then
    (env.makerCoin.waitForConfirmations {
      tx := sm.makerCoin.txHex makerPaymentTx
      confirmations := confirmationGateConfs sm.confSettings.makerCoinConfs
      requiresNota := sm.confSettings.makerCoinNota
      waitUntil := sm.makerPaymentConfTimeout }).mapError fun e =>
      refund (.makerPaymentNotConfirmedInTime e)
  return sendTakerPayment sm makerCoinStartBlock takerCoinStartBlock negotiationData takerFunding
    makerPayment
    (env.takerCoin.signAndSendTakerFundingSpend ⟨preimage, signature⟩ args sm.uniqueData)

def makerPaymentConfirmed :
    TakerTurn MC TC :=
  collapse do
  let refund (reason : String) : TakerTurn MC TC := changeState (.takerFundingRefundRequired
    makerCoinStartBlock takerCoinStartBlock negotiationData takerFunding (.internalError reason))
  let takerFundingTx ← (sm.takerCoin.parseTx takerFunding).mapError fun e =>
    refund ("Failed to parse own funding tx: " ++ e)
  let makerTakerCoinPub ← (sm.takerCoin.parsePubkey negotiationData.takerCoinHtlcPub).mapError
    fun e => refund ("Failed to parse maker's taker-coin pubkey: " ++ e)
  let takerTakerCoinPub ← (ownTakerCoinPub env sm).mapError fun reason =>
    changeState (.takerFundingRefundRequired makerCoinStartBlock takerCoinStartBlock negotiationData
      takerFunding reason)
  let args := genFundingSpendArgs sm negotiationData takerFundingTx makerTakerCoinPub
    takerTakerCoinPub.2
  let preimage ← (sm.takerCoin.parsePreimage fundingSpendPreimage.preimage).mapError fun e =>
    refund ("Failed to parse preimage: " ++ e)
  let signature ← (sm.takerCoin.parseSignature fundingSpendPreimage.signature).mapError fun e =>
    refund ("Failed to parse signature: " ++ e)
  return sendTakerPayment sm makerCoinStartBlock takerCoinStartBlock negotiationData takerFunding
    makerPayment
    (env.takerCoin.signAndSendTakerFundingSpend ⟨preimage, signature⟩ args sm.uniqueData)

/-- The arguments that `TakerPaymentSent` generates its preimage for. -/
def genPaymentSpendArgs (takerPayment : Bytes) :
    Except AbortReason (GenTakerPaymentSpendArgs TC) := do
  let takerPaymentTx ← (sm.takerCoin.parseTx takerPayment).mapError fun e =>
    .internalError ("Failed to parse own payment tx: " ++ e)
  let makerTakerCoinPub ← (sm.takerCoin.parsePubkey negotiationData.takerCoinHtlcPub).mapError
    fun e => .internalError ("Failed to parse maker's taker-coin pubkey: " ++ e)
  let takerTakerCoinPub ← ownTakerCoinPub env sm
  -- the address that is paid to as the maker's is the own one
  let makerAddress ← env.takerCoin.myAddr.mapError fun e =>
    .internalError ("Failed to select taker-coin V2 address: " ++ e)
  let takerTakerCoinPubBytes ← (env.takerCoin.deriveHtlcPubkeyBytes sm.takerCoin
    sm.uniqueData).mapError fun e =>
    .internalError ("Failed to derive own taker-coin V2 HTLC pubkey: " ++ e)
  return {
    takerTx := takerPaymentTx
    timeLock := sm.takerPaymentLocktime
    makerSecretHash := negotiationData.makerSecretHash
    makerPub := makerTakerCoinPub
    makerAddress
    takerPub := takerTakerCoinPub.2
    dexFee := sm.dexFee takerTakerCoinPubBytes
    premiumAmount := sm.ctx.toDecimal sm.takerPremium
    tradingAmount := sm.ctx.toDecimal sm.takerVolume }

variable (takerPayment makerPayment : Bytes)

/-- The end of both states that wait for a spend of the own payment. -/
def awaitSpend (takerPaymentTx : TC.Tx) : TakerTurn MC TC :=
  match env.takerCoin.findTakerPaymentSpendTx takerPaymentTx makerCoinStartBlock
      sm.takerPaymentLocktime with
  | .ok spendTx => changeState (.takerPaymentSpent makerCoinStartBlock takerCoinStartBlock
      (sm.takerCoin.txHex spendTx) makerPayment negotiationData)
  | .error e => changeState (.takerPaymentRefundRequired takerPayment negotiationData
      (.makerDidNotSpendInTime e))

def takerPaymentSent :
    TakerTurn MC TC := collapse do
  let refund (reason : AbortReason) : TakerTurn MC TC :=
    changeState (.takerPaymentRefundRequired takerPayment negotiationData reason)
  let args ← (genPaymentSpendArgs env sm negotiationData takerPayment).mapError refund
  let _ ← (env.takerCoin.genTakerPaymentSpendPreimage args sm.uniqueData).mapError fun e =>
    refund (.failedToGenerateSpendPreimage e)
  return awaitSpend env sm makerCoinStartBlock takerCoinStartBlock negotiationData takerPayment
    makerPayment args.takerTx

def takerPaymentSentPreimageSendingSkipped :
    TakerTurn MC TC := collapse do
  let takerPaymentTx ← (sm.takerCoin.parseTx takerPayment).mapError fun e =>
    changeState (.takerPaymentRefundRequired takerPayment negotiationData
      (.internalError ("Failed to parse own payment tx: " ++ e)))
  return awaitSpend env sm makerCoinStartBlock takerCoinStartBlock negotiationData takerPayment
    makerPayment takerPaymentTx

def takerPaymentSpent (takerPaymentSpend makerPayment : Bytes)
    (negotiationData : StoredTakerNegotiationData) :
    TakerTurn MC TC := collapse do
  let spendTx ← (sm.takerCoin.parseTx takerPaymentSpend).mapError fun e =>
    abort (.internalError ("Failed to parse taker payment spend tx: " ++ e))
  let makerSecret ← (env.takerCoin.extractSecretV2 negotiationData.makerSecretHash
    spendTx).mapError fun e => abort (.couldNotExtractSecret e)
  let makerPaymentTx ← (sm.makerCoin.parseTx makerPayment).mapError fun e =>
    abort (.internalError ("Failed to parse maker payment tx: " ++ e))
  let makerMakerCoinPub ← (sm.makerCoin.parsePubkey negotiationData.makerCoinHtlcPub).mapError
    fun e => abort (.internalError ("Failed to parse maker's maker-coin pubkey: " ++ e))
  let answer := env.makerCoin.spendMakerPaymentV2 {
    makerPaymentTx
    timeLock := negotiationData.makerPaymentLocktime
    takerSecretHash := sm.takerSecretHash
    makerSecretHash := negotiationData.makerSecretHash
    makerSecret
    makerPub := makerMakerCoinPub
    swapUniqueData := sm.uniqueData
    amount := sm.ctx.toDecimal sm.makerVolume }
  let sent := answer.reached.toList.map (Action.claimed makerPayment)
  let spend ← answer.result.mapError fun e => ⟨sent, some (.aborted (.failedToSpendMakerPayment e))⟩
  return ⟨sent, some (.makerPaymentSpent makerCoinStartBlock takerCoinStartBlock
    (sm.makerCoin.txHex spend) negotiationData)⟩

def makerPaymentSpent (makerPaymentSpend : Bytes) (negotiationData : StoredTakerNegotiationData) :
    TakerTurn MC TC := collapse do
  if sm.requireMakerPaymentSpendConfirm then
    (env.makerCoin.waitForConfirmations {
      tx := makerPaymentSpend
      confirmations := confirmationGateConfs sm.confSettings.makerCoinConfs
      requiresNota := sm.confSettings.makerCoinNota
      waitUntil := sm.takerPaymentLocktime }).mapError fun e =>
      -- the state does not have the payment, so the refund is to be made of no bytes
      changeState (.takerPaymentRefundRequired [] negotiationData
        (.makerPaymentSpendNotConfirmedInTime e))
  return changeState .completed

def takerFundingRefundRequired (reason : AbortReason) :
    TakerTurn MC TC := collapse do
  let fundingTx ← (sm.takerCoin.parseTx takerFunding).mapError fun e =>
    abort (.internalError ("Failed to parse own funding tx for refund: " ++ e))
  let makerTakerCoinPub ← (sm.takerCoin.parsePubkey negotiationData.takerCoinHtlcPub).mapError
    fun e => abort (.internalError ("Failed to parse maker's taker-coin pubkey: " ++ e))
  let takerCoinHtlcPub ← (env.takerCoin.deriveHtlcPubkeyBytes sm.takerCoin sm.uniqueData).mapError
    fun e => abort (.internalError ("Failed to derive taker-coin V2 HTLC pubkey: " ++ e))
  let answer := env.takerCoin.refundTakerFundingSecret {
    fundingTx
    fundingTimeLock := sm.takerFundingLocktime
    paymentTimeLock := sm.takerPaymentLocktime
    makerPubkey := makerTakerCoinPub
    takerSecret := sm.takerSecret
    takerSecretHash := sm.takerSecretHash
    makerSecretHash := negotiationData.makerSecretHash
    dexFee := sm.dexFee takerCoinHtlcPub
    premiumAmount := sm.ctx.toDecimal sm.takerPremium
    tradingAmount := sm.ctx.toDecimal sm.takerVolume
    swapUniqueData := sm.uniqueData }
  return {
    sent := [.refundFunding takerFunding answer.reached]
    next := some <|
      match answer.result with
      | .ok refundTx => .takerFundingRefunded takerFunding (sm.takerCoin.txHex refundTx) reason
      | .error e => .aborted (.takerFundingRefundFailed e) }

def takerPaymentRefundRequired (takerPayment : Bytes)
    (negotiationData : StoredTakerNegotiationData) (reason : AbortReason) : TakerTurn MC TC :=
  collapse do
  check (¬ canRefund env.takerCoin.canRefundHtlc) ⟨[], none⟩
  let takerCoinHtlcPub ← (env.takerCoin.deriveHtlcPubkeyBytes sm.takerCoin sm.uniqueData).mapError
    fun e => abort (.internalError ("Failed to derive taker-coin V2 HTLC pubkey: " ++ e))
  let answer := env.takerCoin.refundCombinedTakerPayment {
    paymentTx := takerPayment
    timeLock := sm.takerPaymentLocktime
    makerPub := negotiationData.takerCoinHtlcPub
    txTypeWithSecretHash := .takerPaymentV2 negotiationData.makerSecretHash sm.takerSecretHash
    swapUniqueData := sm.uniqueData
    dexFee := sm.dexFee takerCoinHtlcPub
    premiumAmount := sm.ctx.toDecimal sm.takerPremium
    tradingAmount := sm.ctx.toDecimal sm.takerVolume }
  return {
    sent := [.refundPayment takerPayment answer.reached]
    next := some <|
      match answer.result with
      | .ok refundTx => .takerPaymentRefunded takerPayment (sm.takerCoin.txHex refundTx) reason
      | .error e => .aborted (.takerPaymentRefundFailed e) }

/-- `on_changed` of the states that are stored. A last state has nothing left to do. -/
def onChanged : State → TakerTurn MC TC
  | .initialized mb tb takerPaymentFee makerPaymentSpendFee =>
    initialized env sm mb tb takerPaymentFee makerPaymentSpendFee
  | .negotiated mb tb data _ _ => negotiated env sm mb tb data
  | .takerFundingSent mb tb data takerFunding => takerFundingSent env sm mb tb data takerFunding
  | .makerPaymentAndFundingSpendPreimgReceived mb tb data takerFunding preimage makerPayment =>
    makerPaymentAndFundingSpendPreimgReceived env sm mb tb data takerFunding preimage makerPayment
  | .makerPaymentConfirmed mb tb data takerFunding preimage makerPayment =>
    makerPaymentConfirmed env sm mb tb data takerFunding preimage makerPayment
  | .takerPaymentSent mb tb data takerPayment makerPayment =>
    takerPaymentSent env sm mb tb data takerPayment makerPayment
  | .takerPaymentSentPreimageSendingSkipped mb tb data takerPayment makerPayment =>
    takerPaymentSentPreimageSendingSkipped env sm mb tb data takerPayment makerPayment
  | .takerPaymentSpent mb tb takerPaymentSpend makerPayment data =>
    takerPaymentSpent env sm mb tb takerPaymentSpend makerPayment data
  | .makerPaymentSpent _ _ makerPaymentSpend data => makerPaymentSpent env sm makerPaymentSpend data
  | .takerFundingRefundRequired _ _ data takerFunding reason =>
    takerFundingRefundRequired env sm data takerFunding reason
  | .takerPaymentRefundRequired takerPayment data reason =>
    takerPaymentRefundRequired env sm takerPayment data reason
  | .takerFundingRefunded .. => ⟨[], none⟩
  | .takerPaymentRefunded .. => ⟨[], none⟩
  | .completed => ⟨[], none⟩
  | .aborted _ => ⟨[], none⟩

/-- The states that are `LastState`. -/
def State.isLast : State → Bool
  | .takerFundingRefunded .. => true
  | .takerPaymentRefunded .. => true
  | .completed => true
  | .aborted _ => true
  | _ => false

end states

end CheetahDex.SwapV2.Taker
