import CheetahDex.Lib.Storable
import CheetahDex.SwapV2.Types

/-!
# The maker's state machine of the second version

Each state as `on_changed` runs it: it returns early from many places, always with the state that is
next. What a state broadcasts is the last thing it does before that.
-/

namespace CheetahDex.SwapV2.Maker

open Lib
open Ordermatch (MmNumber SwapConfirmationsSettings Uuid)
open Swap (Bytes DexFee Hash canRefund)
open Utxo (SecretHashAlgo)

variable {MC TC : CoinTypes}

/-- `MakerSwapStateMachine`, without the peers, the topic and the storage. -/
structure Machine (MC TC : CoinTypes) where
  ctx : Ctx
  makerCoin : Coin MC
  makerVolume : MmNumber
  secret : Hash 32
  secretHashAlgo : SecretHashAlgo
  startedAt : UInt64
  lockDuration : UInt64
  takerCoin : Coin TC
  takerVolume : MmNumber
  takerPremium : MmNumber
  confSettings : SwapConfirmationsSettings
  uuid : Uuid
  requireTakerFundingConfirm : Bool
  requireTakerPaymentSpendConfirm : Bool
  swapVersion : UInt8

/-- The states that are stored: all but `Initialize`. -/
inductive State where
  | initialized (makerCoinStartBlock takerCoinStartBlock : UInt64)
      (makerPaymentTradeFee takerPaymentSpendTradeFee : MmNumber)
  | waitingForTakerFunding (makerCoinStartBlock takerCoinStartBlock : UInt64)
      (negotiationData : StoredMakerNegotiationData) (makerPaymentTradeFee : MmNumber)
  | takerFundingReceived (makerCoinStartBlock takerCoinStartBlock : UInt64)
      (negotiationData : StoredMakerNegotiationData) (takerFunding : Bytes)
      (makerPaymentTradeFee : MmNumber)
  | makerPaymentSentFundingSpendGenerated (makerCoinStartBlock takerCoinStartBlock : UInt64)
      (negotiationData : StoredMakerNegotiationData) (makerPayment takerFunding : Bytes)
      (fundingSpendPreimage : StoredTxPreimage)
  | takerPaymentReceived (makerCoinStartBlock takerCoinStartBlock : UInt64)
      (negotiationData : StoredMakerNegotiationData) (makerPayment takerPayment : Bytes)
  | takerPaymentReceivedPreimageSkipped (makerCoinStartBlock takerCoinStartBlock : UInt64)
      (negotiationData : StoredMakerNegotiationData) (makerPayment takerPayment : Bytes)
  | takerPaymentSpent (makerCoinStartBlock takerCoinStartBlock : UInt64)
      (makerPayment takerPayment takerPaymentSpend : Bytes)
      (negotiationData : StoredMakerNegotiationData)
  | makerPaymentRefundRequired (makerCoinStartBlock takerCoinStartBlock : UInt64)
      (negotiationData : StoredMakerNegotiationData) (makerPayment : Bytes) (reason : AbortReason)
  | makerPaymentRefunded (makerPayment makerPaymentRefund : Bytes) (reason : AbortReason)
  | completed
  | aborted (reason : AbortReason)
  deriving DecidableEq

/-- What a maker broadcasts: its payment, a spend of what it takes for the taker's payment, which
shows the secret, and refunds. A refund that was tried and failed has no transaction. -/
inductive Action (MC TC : CoinTypes) where
  | paid (payment : MC.Tx)
  | spentTakerPayment (args : GenTakerPaymentSpendArgs TC) (spend : TC.Tx)
  | refund (makerPayment : Bytes) (tx : Option MC.Tx)

/-- What a maker is told while it runs a state. -/
structure Env (MC TC : CoinTypes) where
  makerCoin : MakerCoinAnswers MC
  takerCoin : TakerCoinAnswers TC
  takerNegotiation : Except String (Option TakerNegotiationAction)
  takerFunding : Except String Bytes
  takerPaymentSpendPreimage : Except String TakerPaymentSpendPreimage

namespace Machine

variable (sm : Machine MC TC)

def takerPaymentConfTimeout : UInt64 := sm.startedAt + sm.lockDuration * 2 / 3

def makerPaymentLocktime : UInt64 := sm.startedAt + 2 * sm.lockDuration

def secretHash : Bytes := sm.secretHashAlgo.hashSecret sm.ctx.hashes sm.secret.toList

def uniqueData : Bytes := sm.secretHash

/-- `compute_dex_fee_with_taker_pubkey_from_coin`. -/
def dexFee (takerPubkey : Bytes) : DexFee :=
  Swap.computeDexFeeWithTakerPubkey sm.ctx.digits sm.ctx.netConfig sm.takerCoin.fee
    sm.makerCoin.ticker sm.takerVolume takerPubkey

end Machine

/-! ## The states -/

section states

variable (env : Env MC TC) (sm : Machine MC TC)

abbrev MakerTurn (MC TC : CoinTypes) := Turn (Action MC TC) State

/-- `change_state` with nothing broadcast. -/
def changeState (next : State) : MakerTurn MC TC := ⟨[], some next⟩

def abort (reason : AbortReason) : MakerTurn MC TC := changeState (.aborted reason)

/-- `Initialize`. -/
def init : MakerTurn MC TC := collapse do
  let makerCoinStartBlock ← env.makerCoin.currentBlock.mapError fun e =>
    abort (.internalError ("Failed to get maker coin block: " ++ e))
  let takerCoinStartBlock ← env.takerCoin.currentBlock.mapError fun e =>
    abort (.internalError ("Failed to get taker coin block: " ++ e))
  let makerPaymentTradeFee ← (env.makerCoin.senderTradeFee
    (sm.ctx.toDecimal sm.makerVolume)).mapError fun e =>
    abort (.internalError ("Failed to get maker payment fee: " ++ e))
  let takerPaymentSpendTradeFee ← env.takerCoin.receiverTradeFee.mapError fun e =>
    abort (.internalError ("Failed to get taker payment spend fee: " ++ e))
  let spendable ← env.makerCoin.mySpendableBalance.mapError fun e =>
    abort (.internalError ("Failed to get spendable balance: " ++ e))
  let required := sm.ctx.toDecimal sm.makerVolume + sm.ctx.toDecimal makerPaymentTradeFee
  check (spendable < required) (abort (.internalError ("Insufficient balance: need " ++
    sm.ctx.showDecimal required ++ " but have " ++ sm.ctx.showDecimal spendable)))
  return changeState (.initialized makerCoinStartBlock takerCoinStartBlock makerPaymentTradeFee
    takerPaymentSpendTradeFee)

/-- The message that `Initialized` broadcasts. -/
def negotiationMsg : Except AbortReason MakerNegotiation := do
  let makerCoinHtlcPub ← (env.makerCoin.deriveHtlcPubkeyBytes sm.makerCoin sm.uniqueData).mapError
    fun e => .internalError ("Failed to derive maker-coin V2 HTLC pubkey: " ++ e)
  let takerCoinHtlcPub ← (env.takerCoin.deriveHtlcPubkeyBytes sm.takerCoin sm.uniqueData).mapError
    fun e => .internalError ("Failed to derive taker-coin V2 HTLC pubkey: " ++ e)
  let takerCoinAddress ← env.takerCoin.myAddr.mapError fun e =>
    .internalError ("Failed to select taker-coin V2 address: " ++ e)
  return {
    startedAt := sm.startedAt
    paymentLocktime := sm.makerPaymentLocktime
    secretHash := sm.secretHash
    makerCoinHtlcPub
    takerCoinHtlcPub
    makerCoinSwapContract := sm.makerCoin.swapContractAddress
    takerCoinSwapContract := sm.takerCoin.swapContractAddress
    takerCoinAddress := sm.takerCoin.showAddress takerCoinAddress }

/-- What `Initialized` checks of the taker's answer. -/
def acceptNegotiation (data : TakerNegotiationData) :
    Except AbortReason StoredMakerNegotiationData := do
  let startedAtDiff := absDiff sm.startedAt data.startedAt
  check (startedAtDiff > maxStartedAtDiff) (.negotiationFailed ("started_at difference too large: "
    ++ toString startedAtDiff ++ " > " ++ toString maxStartedAtDiff))
  let expectedPaymentLocktime := data.startedAt + sm.lockDuration
  check (data.paymentLocktime ≠ expectedPaymentLocktime) (.negotiationFailed
    ("Unexpected taker payment locktime: got " ++ toString data.paymentLocktime ++ ", expected " ++
      toString expectedPaymentLocktime))
  let expectedFundingLocktime := data.startedAt + 3 * sm.lockDuration
  check (data.fundingLocktime ≠ expectedFundingLocktime) (.negotiationFailed
    ("Unexpected taker funding locktime: got " ++ toString data.fundingLocktime ++ ", expected " ++
      toString expectedFundingLocktime))
  let _ ← (sm.takerCoin.parsePubkey data.takerCoinHtlcPub).mapError fun _ =>
    .negotiationFailed "Invalid taker coin HTLC pubkey"
  let _ ← (sm.makerCoin.parsePubkey data.makerCoinHtlcPub).mapError fun _ =>
    .negotiationFailed "Invalid taker's maker-coin HTLC pubkey"
  return {
    takerSecretHash := data.takerSecretHash
    takerCoinHtlcPub := data.takerCoinHtlcPub
    makerCoinHtlcPub := data.makerCoinHtlcPub
    takerCoinSwapContract := data.takerCoinSwapContract
    makerCoinSwapContract := data.makerCoinSwapContract
    takerPaymentLocktime := data.paymentLocktime
    takerFundingLocktime := data.fundingLocktime }

/-- The data of a taker that wants to go on. -/
def continued : Option TakerNegotiationAction → Except AbortReason TakerNegotiationData
  | some (.continue data) => .ok data
  | some (.abort reason) => .error (.takerAborted reason)
  | none => .error (.negotiationFailed "Empty taker negotiation action")

variable (makerCoinStartBlock takerCoinStartBlock : UInt64)

def initialized (makerPaymentTradeFee : MmNumber) : MakerTurn MC TC := collapse do
  let _ ← (negotiationMsg env sm).mapError abort
  let action ← env.takerNegotiation.mapError fun _ => abort .negotiationTimeout
  let data ← (continued action).mapError abort
  let negotiationData ← (acceptNegotiation sm data).mapError abort
  return changeState (.waitingForTakerFunding makerCoinStartBlock takerCoinStartBlock
    negotiationData makerPaymentTradeFee)

variable (negotiationData : StoredMakerNegotiationData)

def waitingForTakerFunding (makerPaymentTradeFee : MmNumber) :
    MakerTurn MC TC := collapse do
  let txBytes ← env.takerFunding.mapError fun e =>
    abort (.negotiationFailed ("Did not receive taker funding info: " ++ e))
  let _ ← (sm.takerCoin.parseTx txBytes).mapError fun _ =>
    abort (.failedToValidateTx "Failed to parse taker funding transaction")
  return changeState (.takerFundingReceived makerCoinStartBlock takerCoinStartBlock negotiationData
    txBytes makerPaymentTradeFee)

/-- The arguments of `validate_taker_funding`. -/
def validateFundingArgs (takerFunding : TC.Tx) (takerHtlcPub : TC.Pubkey) :
    ValidateTakerFundingArgs TC where
  fundingTx := takerFunding
  paymentTimeLock := negotiationData.takerPaymentLocktime
  fundingTimeLock := negotiationData.takerFundingLocktime
  takerSecretHash := negotiationData.takerSecretHash
  makerSecretHash := sm.secretHash
  takerPub := takerHtlcPub
  dexFee := sm.dexFee negotiationData.takerCoinHtlcPub
  premiumAmount := sm.ctx.toDecimal sm.takerPremium
  tradingAmount := sm.ctx.toDecimal sm.takerVolume
  swapUniqueData := sm.uniqueData

/-- The arguments of `gen_taker_funding_spend_preimage`. -/
def genFundingSpendArgs (takerFunding : TC.Tx) (makerPub takerHtlcPub : TC.Pubkey) :
    GenTakerFundingSpendArgs TC where
  fundingTx := takerFunding
  makerPub := makerPub
  takerPub := takerHtlcPub
  fundingTimeLock := negotiationData.takerFundingLocktime
  takerSecretHash := negotiationData.takerSecretHash
  takerPaymentTimeLock := negotiationData.takerPaymentLocktime
  makerSecretHash := sm.secretHash

def takerFundingReceived (takerFunding : Bytes) : MakerTurn MC TC :=
  collapse do
  let takerFundingTx ← (sm.takerCoin.parseTx takerFunding).mapError fun e =>
    abort (.failedToValidateTx ("Failed to parse taker funding: " ++ e))
  let takerHtlcPub ← (sm.takerCoin.parsePubkey negotiationData.takerCoinHtlcPub).mapError fun e =>
    abort (.internalError ("Failed to parse taker HTLC pub: " ++ e))
  (env.takerCoin.validateTakerFunding
    (validateFundingArgs sm negotiationData takerFundingTx takerHtlcPub)).mapError fun e =>
    abort (.failedToValidateTx ("Taker funding validation failed: " ++ e))
  if sm.requireTakerFundingConfirm then
    (env.takerCoin.waitForConfirmations {
      tx := sm.takerCoin.txHex takerFundingTx
      confirmations := confirmationGateConfs sm.confSettings.takerCoinConfs
      requiresNota := sm.confSettings.takerCoinNota
      waitUntil := sm.makerPaymentLocktime }).mapError fun e =>
      abort (.confirmationTimeout ("Taker funding not confirmed in time: " ++ e))
  let makerTakerCoinPub ← (env.takerCoin.deriveHtlcPubkey sm.uniqueData).mapError fun e =>
    abort (.internalError ("Failed to derive maker taker-coin V2 HTLC pubkey: " ++ e))
  let preimage ← (env.takerCoin.genTakerFundingSpendPreimage
    (genFundingSpendArgs sm negotiationData takerFundingTx makerTakerCoinPub takerHtlcPub)
    sm.uniqueData).mapError fun e =>
    abort (.internalError ("Failed to generate funding spend preimage: " ++ e))
  let makerCoinTakerPub ← (sm.makerCoin.parsePubkey negotiationData.makerCoinHtlcPub).mapError
    fun e => abort (.internalError ("Failed to parse taker's maker-coin pub: " ++ e))
  let answer := env.makerCoin.sendMakerPaymentV2 {
    timeLock := sm.makerPaymentLocktime
    makerSecretHash := sm.secretHash
    takerSecretHash := negotiationData.takerSecretHash
    takerPub := makerCoinTakerPub
    amount := sm.ctx.toDecimal sm.makerVolume
    swapUniqueData := sm.uniqueData }
  let sent := answer.reached.toList.map Action.paid
  let makerPayment ← answer.result.mapError fun e =>
    ⟨sent, some (.aborted (.failedToSendTx ("Maker payment send failed: " ++ e)))⟩
  return ⟨sent, some (.makerPaymentSentFundingSpendGenerated makerCoinStartBlock takerCoinStartBlock
    negotiationData (sm.makerCoin.txHex makerPayment) takerFunding
    ⟨sm.takerCoin.preimageBytes preimage.preimage, sm.takerCoin.signatureBytes preimage.signature⟩)⟩

/-- The loop of `MakerPaymentSentFundingSpendGenerated`, one turn for each poll. -/
def pollFundingSpend (makerCoinStartBlock takerCoinStartBlock : UInt64)
    (negotiationData : StoredMakerNegotiationData) (makerPayment : Bytes) (takerFunding : TC.Tx) :
    List (FundingPoll TC) → MakerTurn MC TC
  | [] => ⟨[], none⟩
  | poll :: polls =>
    let refund (reason : String) : MakerTurn MC TC := changeState (.makerPaymentRefundRequired
      makerCoinStartBlock takerCoinStartBlock negotiationData makerPayment
      (.fundingSpendError reason))
    if poll.now > sm.startedAt + sm.lockDuration * 2 / 3 then
      refund "Taker funding not spent in time"
    else
      match poll.searchForTakerFundingSpend takerFunding takerCoinStartBlock
          negotiationData.takerSecretHash with
      | .ok (some (.transferredToTakerPayment takerPayment)) =>
        let takerPaymentBytes := sm.takerCoin.txHex takerPayment
        if sm.takerCoin.skipTakerPaymentSpendPreimage then
          changeState (.takerPaymentReceivedPreimageSkipped makerCoinStartBlock takerCoinStartBlock
            negotiationData makerPayment takerPaymentBytes)
        else
          changeState (.takerPaymentReceived makerCoinStartBlock takerCoinStartBlock negotiationData
            makerPayment takerPaymentBytes)
      | .ok (some (.refundedTimelock _)) => refund "Taker funding reclaimed via timelock"
      | .ok (some (.refundedSecret _ secret)) =>
        refund ("Taker funding reclaimed via secret: " ++ hexEncode secret.toList)
      | .ok none => pollFundingSpend makerCoinStartBlock takerCoinStartBlock negotiationData
          makerPayment takerFunding polls
      | .error (.rpc _) => pollFundingSpend makerCoinStartBlock takerCoinStartBlock negotiationData
          makerPayment takerFunding polls
      | .error (.other e) => refund ("Irrecoverable search error: " ++ e)

def makerPaymentSentFundingSpendGenerated (makerPayment takerFunding : Bytes) :
    MakerTurn MC TC := collapse do
  let takerFundingTx ← (sm.takerCoin.parseTx takerFunding).mapError fun e =>
    changeState (.makerPaymentRefundRequired makerCoinStartBlock takerCoinStartBlock negotiationData
      makerPayment (.internalError ("Failed to re-parse taker funding: " ++ e)))
  return pollFundingSpend sm makerCoinStartBlock takerCoinStartBlock negotiationData makerPayment
    takerFundingTx env.takerCoin.fundingPolls

/-- What both states that wait for the taker's payment do before they spend it. `parsePub` is what
they say about a key of the taker. -/
def spendArgs (takerPayment : Bytes) (parsePub : String) :
    Except AbortReason (GenTakerPaymentSpendArgs TC) := do
  let takerPaymentTx ← (sm.takerCoin.parseTx takerPayment).mapError fun e =>
    .internalError ("Failed to re-parse taker payment: " ++ e)
  let takerCoinMakerPub ← (env.takerCoin.deriveHtlcPubkey sm.uniqueData).mapError fun e =>
    .internalError ("Failed to derive taker-coin V2 HTLC pubkey: " ++ e)
  let takerCoinMakerAddr ← env.takerCoin.myAddr.mapError fun e =>
    .internalError ("Failed to select taker-coin V2 address: " ++ e)
  let takerHtlcPub ← (sm.takerCoin.parsePubkey negotiationData.takerCoinHtlcPub).mapError fun e =>
    .internalError (parsePub ++ e)
  return {
    takerTx := takerPaymentTx
    timeLock := negotiationData.takerPaymentLocktime
    makerSecretHash := sm.secretHash
    makerPub := takerCoinMakerPub
    makerAddress := takerCoinMakerAddr
    takerPub := takerHtlcPub
    dexFee := sm.dexFee negotiationData.takerCoinHtlcPub
    premiumAmount := sm.ctx.toDecimal sm.takerPremium
    tradingAmount := sm.ctx.toDecimal sm.takerVolume }

/-- `wait_for_confirmations` for the taker's payment. -/
def confirmTakerPayment (takerPayment : Bytes) : Except AbortReason Unit :=
  (env.takerCoin.waitForConfirmations {
    tx := takerPayment
    confirmations := sm.confSettings.takerCoinConfs
    requiresNota := sm.confSettings.takerCoinNota
    waitUntil := sm.takerPaymentConfTimeout }).mapError fun e =>
    .confirmationTimeout ("Taker payment not confirmed in time: " ++ e)

variable (makerPayment takerPayment : Bytes)

/-- What is sent, and what is next, once the taker's payment is spent or should have been. -/
def spendTakerPayment (args : GenTakerPaymentSpendArgs TC) (answer : Broadcast TC.Tx) :
    MakerTurn MC TC where
  sent := answer.reached.toList.map (Action.spentTakerPayment args)
  next := some <|
    match answer.result with
    | .ok spend => .takerPaymentSpent makerCoinStartBlock takerCoinStartBlock makerPayment
        takerPayment (sm.takerCoin.txHex spend) negotiationData
    | .error e => .makerPaymentRefundRequired makerCoinStartBlock takerCoinStartBlock
        negotiationData makerPayment (.failedToSendTx ("Failed to spend taker payment: " ++ e))

def takerPaymentReceived :
    MakerTurn MC TC := collapse do
  let refund (reason : AbortReason) : MakerTurn MC TC := changeState (.makerPaymentRefundRequired
    makerCoinStartBlock takerCoinStartBlock negotiationData makerPayment reason)
  (confirmTakerPayment env sm takerPayment).mapError refund
  let msg ← env.takerPaymentSpendPreimage.mapError fun e =>
    refund (.negotiationFailed ("Did not receive taker payment spend preimage: " ++ e))
  let preimage ← (sm.takerCoin.parsePreimage msg.txPreimage).mapError fun e =>
    refund (.internalError ("Failed to parse taker preimage: " ++ e))
  let signature ← (sm.takerCoin.parseSignature msg.signature).mapError fun e =>
    refund (.internalError ("Failed to parse taker signature: " ++ e))
  let args ← (spendArgs env sm negotiationData takerPayment
    "Failed to parse taker HTLC pub: ").mapError refund
  (env.takerCoin.validateTakerPaymentSpendPreimage args ⟨preimage, signature⟩).mapError fun e =>
    refund (.failedToValidateTx ("Taker payment spend preimage invalid: " ++ e))
  return spendTakerPayment sm makerCoinStartBlock takerCoinStartBlock negotiationData makerPayment
    takerPayment args (env.takerCoin.signAndBroadcastTakerPaymentSpend (some ⟨preimage, signature⟩)
      args sm.secret.toList sm.uniqueData)

def takerPaymentReceivedPreimageSkipped :
    MakerTurn MC TC := collapse do
  let refund (reason : AbortReason) : MakerTurn MC TC := changeState (.makerPaymentRefundRequired
    makerCoinStartBlock takerCoinStartBlock negotiationData makerPayment reason)
  (confirmTakerPayment env sm takerPayment).mapError refund
  let args ← (spendArgs env sm negotiationData takerPayment
    "Failed to parse taker pub: ").mapError refund
  return spendTakerPayment sm makerCoinStartBlock takerCoinStartBlock negotiationData makerPayment
    takerPayment args
    (env.takerCoin.signAndBroadcastTakerPaymentSpend none args sm.secret.toList [])

def takerPaymentSpent (makerPayment takerPaymentSpend : Bytes)
    (negotiationData : StoredMakerNegotiationData) :
    MakerTurn MC TC := collapse do
  if sm.requireTakerPaymentSpendConfirm then
    (env.takerCoin.waitForConfirmations {
      tx := takerPaymentSpend
      confirmations := confirmationGateConfs sm.confSettings.takerCoinConfs
      requiresNota := sm.confSettings.takerCoinNota
      waitUntil := sm.makerPaymentLocktime }).mapError fun e =>
      changeState (.makerPaymentRefundRequired makerCoinStartBlock takerCoinStartBlock
        negotiationData makerPayment
        (.confirmationTimeout ("Taker payment spend not confirmed in time: " ++ e)))
  return changeState .completed

def makerPaymentRefundRequired (makerPayment : Bytes) (reason : AbortReason) : MakerTurn MC TC :=
  if canRefund env.makerCoin.canRefundHtlc then
    let answer := env.makerCoin.refundMakerPaymentV2Timelock {
      paymentTx := makerPayment
      timeLock := sm.makerPaymentLocktime
      takerPub := negotiationData.makerCoinHtlcPub
      txTypeWithSecretHash := .makerPaymentV2 sm.secretHash negotiationData.takerSecretHash
      swapUniqueData := sm.uniqueData
      amount := sm.ctx.toDecimal sm.makerVolume }
    { sent := [.refund makerPayment answer.reached]
      next := some <|
        match answer.result with
        | .ok refundTx => .makerPaymentRefunded makerPayment (sm.makerCoin.txHex refundTx) reason
        | .error e => .aborted (.internalError ("Maker payment refund failed: " ++ e)) }
  else ⟨[], none⟩

/-- `on_changed` of the states that are stored. A last state has nothing left to do. -/
def onChanged : State → MakerTurn MC TC
  | .initialized mb tb fee _ => initialized env sm mb tb fee
  | .waitingForTakerFunding mb tb data fee => waitingForTakerFunding env sm mb tb data fee
  | .takerFundingReceived mb tb data takerFunding _ =>
    takerFundingReceived env sm mb tb data takerFunding
  | .makerPaymentSentFundingSpendGenerated mb tb data makerPayment takerFunding _ =>
    makerPaymentSentFundingSpendGenerated env sm mb tb data makerPayment takerFunding
  | .takerPaymentReceived mb tb data makerPayment takerPayment =>
    takerPaymentReceived env sm mb tb data makerPayment takerPayment
  | .takerPaymentReceivedPreimageSkipped mb tb data makerPayment takerPayment =>
    takerPaymentReceivedPreimageSkipped env sm mb tb data makerPayment takerPayment
  | .takerPaymentSpent mb tb makerPayment _ takerPaymentSpend data =>
    takerPaymentSpent env sm mb tb makerPayment takerPaymentSpend data
  | .makerPaymentRefundRequired _ _ data makerPayment reason =>
    makerPaymentRefundRequired env sm data makerPayment reason
  | .makerPaymentRefunded .. => ⟨[], none⟩
  | .completed => ⟨[], none⟩
  | .aborted _ => ⟨[], none⟩

/-- The states that are `LastState`. -/
def State.isLast : State → Bool
  | .makerPaymentRefunded .. => true
  | .completed => true
  | .aborted _ => true
  | _ => false

end states

end CheetahDex.SwapV2.Maker
