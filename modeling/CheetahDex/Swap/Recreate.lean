import CheetahDex.Swap.MakerSwap
import CheetahDex.Swap.TakerSwap

/-!
# Recreating the swap of the other side

The events of a taker are translated into those of a maker, and the events of a maker into those of
a taker. Error events of the other side become error events that quote it; how an event is printed
there is left open, as are the times of the events.
-/

namespace CheetahDex.Swap

open Lib Ordermatch

def TakerSwapEvent.statusStr : TakerSwapEvent → String
  | started _ => "Started..."
  | startFailed _ => "Start failed..."
  | negotiated _ => "Negotiated..."
  | negotiateFailed _ => "Negotiate failed..."
  | takerFeeSent _ => "Taker fee sent..."
  | takerFeeSendFailed _ => "Taker fee send failed..."
  | takerPaymentInstructionsReceived => "Taker payment instructions obtained..."
  | makerPaymentReceived _ => "Maker payment received..."
  | makerPaymentWaitConfirmStarted => "Maker payment wait confirm started..."
  | makerPaymentValidatedAndConfirmed => "Maker payment validated and confirmed..."
  | makerPaymentValidateFailed _ => "Maker payment validate failed..."
  | makerPaymentWaitConfirmFailed _ => "Maker payment wait for confirmation failed..."
  | takerPaymentSent _ => "Taker payment sent..."
  | watcherMessageSent => "Watcher message sent..."
  | takerPaymentTransactionFailed _ => "Taker payment transaction failed..."
  | takerPaymentDataSendFailed _ => "Taker payment data send failed..."
  | takerPaymentWaitConfirmFailed _ => "Taker payment wait for confirmation failed..."
  | takerPaymentSpent _ => "Taker payment spent..."
  | takerPaymentWaitForSpendFailed _ => "Taker payment wait for spend failed..."
  | makerPaymentSpent _ => "Maker payment spent..."
  | makerPaymentSpendConfirmed => "Maker payment spend confirmed..."
  | makerPaymentSpendConfirmFailed _ => "Maker payment spend confirm failed..."
  | makerPaymentSpentByWatcher _ => "Maker payment spent by watcher..."
  | makerPaymentSpendFailed _ => "Maker payment spend failed..."
  | takerPaymentWaitRefundStarted waitUntil =>
    s!"Taker payment wait refund till {waitUntil} started..."
  | takerPaymentRefundStarted => "Taker payment refund started..."
  | takerPaymentRefunded _ => "Taker payment refunded..."
  | takerPaymentRefundFinished => "Taker payment refund finished..."
  | takerPaymentRefundedByWatcher _ => "Taker payment refunded by watcher..."
  | takerPaymentRefundFailed _ => "Taker payment refund failed..."
  | finished => "Finished"

def MakerSwapEvent.statusStr : MakerSwapEvent → String
  | started _ => "Started..."
  | startFailed _ => "Start failed..."
  | negotiated _ => "Negotiated..."
  | negotiateFailed _ => "Negotiate failed..."
  | makerPaymentInstructionsReceived => "Maker payment instructions obtained..."
  | takerFeeValidated _ => "Taker fee validated..."
  | takerFeeValidateFailed _ => "Taker fee validate failed..."
  | makerPaymentSent _ => "Maker payment sent..."
  | makerPaymentTransactionFailed _ => "Maker payment failed..."
  | makerPaymentDataSendFailed _ => "Maker payment failed..."
  | makerPaymentWaitConfirmFailed _ => "Maker payment wait for confirmation failed..."
  | takerPaymentReceived _ => "Taker payment received..."
  | takerPaymentWaitConfirmStarted => "Taker payment wait confirm started..."
  | takerPaymentValidatedAndConfirmed => "Taker payment validated and confirmed..."
  | takerPaymentValidateFailed _ => "Taker payment validate failed..."
  | takerPaymentWaitConfirmFailed _ => "Taker payment wait for confirmation failed..."
  | takerPaymentSpent _ => "Taker payment spent..."
  | takerPaymentSpendFailed _ => "Taker payment spend failed..."
  | takerPaymentSpendConfirmStarted => "Taker payment send wait confirm started..."
  | takerPaymentSpendConfirmed => "Taker payment spend confirmed..."
  | takerPaymentSpendConfirmFailed _ => "Taker payment spend confirm failed..."
  | makerPaymentWaitRefundStarted waitUntil =>
    s!"Maker payment wait refund till {waitUntil} started..."
  | makerPaymentRefunded _ => "Maker payment refunded..."
  | makerPaymentRefundFailed _ => "Maker payment refund failed..."
  | finished => "Finished"

inductive RecreateSwapError where
  | swapIsNotStarted
  | swapIsNotNegotiated
  | unexpectedEvent (expected found : String)
  | noSuchCoin (coin : String)
  | noSecretHash
  | internal (error : String)

/-- `extract_secret` of a coin. -/
abbrev ExtractSecret := (secretHash : Hash 20) → (spendTx : Bytes) → Except String Bytes

/-- The key a party is known by among peers: what follows the first byte of its public key. -/
def p2pPubkey (persistentPub : Hash 33) : Hash 32 := persistentPub.drop 1

/-! ## A maker's swap -/

variable (debug : TakerSwapEvent → String)

/-- The error event that quotes an event of the taker. -/
def originTakerError (event : TakerSwapEvent) : SwapError :=
  ⟨"Origin Taker error event: " ++ debug event⟩

/-- `convert_taker_to_maker_events`. The fee is remembered until the maker's payment is seen. -/
def convertTakerToMakerEvents (waitRefundUntil : UInt64) :
    (takerFeeIdent : Option TransactionIdentifier) → List TakerSwapEvent → List MakerSwapEvent
  | _, [] => []
  | takerFeeIdent, event :: rest =>
    match event with
    | .takerFeeSent tx => convertTakerToMakerEvents waitRefundUntil (some tx) rest
    | .takerFeeSendFailed _ => [.takerFeeValidateFailed (originTakerError debug event), .finished]
    | .makerPaymentReceived tx =>
      (takerFeeIdent.map MakerSwapEvent.takerFeeValidated).toList ++
        .makerPaymentSent tx :: convertTakerToMakerEvents waitRefundUntil none rest
    | .makerPaymentValidateFailed _ | .makerPaymentWaitConfirmFailed _
    | .takerPaymentTransactionFailed _ | .takerPaymentDataSendFailed _
    | .takerPaymentWaitConfirmFailed _ =>
      [.takerPaymentValidateFailed (originTakerError debug event),
        .makerPaymentWaitRefundStarted waitRefundUntil]
    | .takerPaymentSent tx =>
      .takerPaymentReceived tx :: .takerPaymentWaitConfirmStarted ::
        convertTakerToMakerEvents waitRefundUntil takerFeeIdent rest
    | .takerPaymentSpent data =>
      [.takerPaymentValidatedAndConfirmed, .takerPaymentSpent data.transaction,
        .takerPaymentSpendConfirmStarted, .takerPaymentSpendConfirmed, .finished]
    | .takerPaymentWaitForSpendFailed _ =>
      [.takerPaymentSpendFailed (originTakerError debug event),
        .makerPaymentWaitRefundStarted waitRefundUntil]
    | .started _ | .startFailed _ | .negotiated _ | .negotiateFailed _
    | .makerPaymentWaitConfirmStarted | .makerPaymentValidatedAndConfirmed | .makerPaymentSpent _
    | .makerPaymentSpendConfirmed | .makerPaymentSpendConfirmFailed _
    | .makerPaymentSpentByWatcher _ | .makerPaymentSpendFailed _ | .takerPaymentWaitRefundStarted _
    | .takerPaymentRefundStarted | .takerPaymentRefunded _ | .takerPaymentRefundFinished
    | .takerPaymentRefundedByWatcher _ | .takerPaymentRefundFailed _
    | .takerPaymentInstructionsReceived | .watcherMessageSent | .finished =>
      convertTakerToMakerEvents waitRefundUntil takerFeeIdent rest

variable (started : TakerSwapData) (negotiated : MakerNegotiationData)

/-- The data of the maker's start. The secret is not known, and none is looked for. -/
def recreatedMakerData : MakerSwapData where
  takerCoin := started.takerCoin
  makerCoin := started.makerCoin
  taker := p2pPubkey started.myPersistentPub
  secret := default
  secretHash := some negotiated.secretHash
  myPersistentPub := negotiated.makerPubkey
  lockDuration := started.lockDuration
  makerAmount := started.makerAmount
  takerAmount := started.takerAmount
  makerPaymentConfirmations := started.makerPaymentConfirmations
  makerPaymentRequiresNota := started.makerPaymentRequiresNota
  takerPaymentConfirmations := started.takerPaymentConfirmations
  takerPaymentRequiresNota := started.takerPaymentRequiresNota
  makerPaymentLock := negotiated.makerPaymentLocktime
  uuid := started.uuid
  startedAt := started.startedAt
  makerCoinStartBlock := started.makerCoinStartBlock
  takerCoinStartBlock := started.takerCoinStartBlock
  makerPaymentTradeFee := none
  takerPaymentSpendTradeFee := none
  makerCoinSwapContractAddress := negotiated.makerCoinSwapContractAddr
  takerCoinSwapContractAddress := negotiated.takerCoinSwapContractAddr
  makerCoinHtlcPrivkey := none
  makerCoinHtlcPubkey := negotiated.makerCoinHtlcPubkey
  takerCoinHtlcPrivkey := none
  takerCoinHtlcPubkey := negotiated.takerCoinHtlcPubkey
  p2pPrivkey := none

/-- What the maker has negotiated. -/
def recreatedTakerNegotiation : TakerNegotiationData where
  takerPaymentLocktime := started.takerPaymentLock
  takerPubkey := started.myPersistentPub
  makerCoinSwapContractAddr := negotiated.makerCoinSwapContractAddr
  takerCoinSwapContractAddr := negotiated.takerCoinSwapContractAddr
  makerCoinHtlcPubkey := started.makerCoinHtlcPubkey
  takerCoinHtlcPubkey := started.takerCoinHtlcPubkey

def recreateMakerSwap (myOrderUuid : Option Uuid)
    (takerSwap : TakerSavedSwap) : Except RecreateSwapError MakerSavedSwap :=
  match takerSwap.events with
  | [] => .error .swapIsNotStarted
  | [.started _] => .error .swapIsNotNegotiated
  | .started started :: .negotiated negotiated :: rest =>
    let waitRefundUntil := negotiated.makerPaymentLocktime + 3700
    .ok
      { uuid := takerSwap.uuid
        myOrderUuid
        events := .started (recreatedMakerData started negotiated) ::
          .negotiated (recreatedTakerNegotiation started negotiated) ::
          convertTakerToMakerEvents debug waitRefundUntil none rest }
  | .started _ :: event :: _ => .error (.unexpectedEvent "Negotiated" event.statusStr)
  | event :: _ => .error (.unexpectedEvent "Started" event.statusStr)

/-! ## A taker's swap -/

/-- The error event that quotes an event of the maker. -/
def originMakerError (debug : MakerSwapEvent → String) (event : MakerSwapEvent) : SwapError :=
  ⟨"Origin Maker error event: " ++ debug event⟩

/-- The events for a spend of the taker's payment: the secret is in it, or the taker refunds. The
spent output is one of the taker's coin; the maker's coin is asked. -/
def convertTakerPaymentSpent (makerCoin : ExtractSecret) (secretHash : Hash 20)
    (waitRefundUntil : UInt64) (tx : TransactionIdentifier) : Option (List TakerSwapEvent) :=
  match makerCoin secretHash tx.txHex with
  | .ok bytes =>
    (hashOfBytes 32 bytes).map fun secret => [.takerPaymentSpent { transaction := tx, secret }]
  | .error e =>
    some [.takerPaymentWaitForSpendFailed ⟨e⟩, .takerPaymentWaitRefundStarted waitRefundUntil]

/-- `convert_maker_to_taker_events`; `none` where a secret that is too short panics. -/
def convertMakerToTakerEvents (debug : MakerSwapEvent → String) (makerCoin : ExtractSecret)
    (secretHash : Hash 20) (waitRefundUntil : UInt64) :
    List MakerSwapEvent → Option (List TakerSwapEvent)
  | [] => some []
  | event :: rest =>
    match event with
    | .takerFeeValidated tx =>
      (convertMakerToTakerEvents debug makerCoin secretHash waitRefundUntil rest).map
        ([.takerFeeSent tx] ++ ·)
    | .takerFeeValidateFailed _ | .makerPaymentTransactionFailed _ | .makerPaymentDataSendFailed _
    | .makerPaymentWaitConfirmFailed _ =>
      some [.makerPaymentValidateFailed (originMakerError debug event), .finished]
    | .makerPaymentSent tx =>
      (convertMakerToTakerEvents debug makerCoin secretHash waitRefundUntil rest).map
        ([.makerPaymentReceived tx, .makerPaymentWaitConfirmStarted] ++ ·)
    | .takerPaymentReceived tx =>
      (convertMakerToTakerEvents debug makerCoin secretHash waitRefundUntil rest).map
        ([.makerPaymentValidatedAndConfirmed, .takerPaymentSent tx] ++ ·)
    | .takerPaymentValidateFailed _ | .takerPaymentSpendFailed _
    | .takerPaymentWaitConfirmFailed _ =>
      some [.takerPaymentWaitForSpendFailed (originMakerError debug event),
        .takerPaymentWaitRefundStarted waitRefundUntil]
    | .takerPaymentSpent tx => convertTakerPaymentSpent makerCoin secretHash waitRefundUntil tx
    | .started _ | .startFailed _ | .negotiated _ | .negotiateFailed _
    | .takerPaymentWaitConfirmStarted | .takerPaymentValidatedAndConfirmed
    | .takerPaymentSpendConfirmStarted | .takerPaymentSpendConfirmed
    | .takerPaymentSpendConfirmFailed _ | .makerPaymentWaitRefundStarted _ | .makerPaymentRefunded _
    | .makerPaymentRefundFailed _ | .makerPaymentInstructionsReceived | .finished =>
      convertMakerToTakerEvents debug makerCoin secretHash waitRefundUntil rest

variable (started : MakerSwapData) (negotiated : TakerNegotiationData)

/-- The data of the taker's start. -/
def recreatedTakerData : TakerSwapData where
  takerCoin := started.takerCoin
  makerCoin := started.makerCoin
  maker := p2pPubkey started.myPersistentPub
  myPersistentPub := negotiated.takerPubkey
  lockDuration := started.lockDuration
  makerAmount := started.makerAmount
  takerAmount := started.takerAmount
  makerPaymentConfirmations := started.makerPaymentConfirmations
  makerPaymentRequiresNota := started.makerPaymentRequiresNota
  takerPaymentConfirmations := started.takerPaymentConfirmations
  takerPaymentRequiresNota := started.takerPaymentRequiresNota
  takerPaymentLock := negotiated.takerPaymentLocktime
  uuid := started.uuid
  startedAt := started.startedAt
  makerPaymentWait := makerPaymentWait started.startedAt started.lockDuration
  makerCoinStartBlock := started.makerCoinStartBlock
  takerCoinStartBlock := started.takerCoinStartBlock
  feeToSendTakerFee := none
  takerPaymentTradeFee := none
  makerPaymentSpendTradeFee := none
  makerCoinSwapContractAddress := negotiated.makerCoinSwapContractAddr
  takerCoinSwapContractAddress := negotiated.takerCoinSwapContractAddr
  makerCoinHtlcPrivkey := none
  makerCoinHtlcPubkey := negotiated.makerCoinHtlcPubkey
  takerCoinHtlcPrivkey := none
  takerCoinHtlcPubkey := negotiated.takerCoinHtlcPubkey
  p2pPrivkey := none

/-- What the taker has negotiated. -/
def recreatedMakerNegotiation (secretHash : Hash 20) : MakerNegotiationData where
  makerPaymentLocktime := started.makerPaymentLock
  makerPubkey := started.myPersistentPub
  secretHash
  makerCoinSwapContractAddr := negotiated.makerCoinSwapContractAddr
  takerCoinSwapContractAddr := negotiated.takerCoinSwapContractAddr
  makerCoinHtlcPubkey := started.makerCoinHtlcPubkey
  takerCoinHtlcPubkey := started.takerCoinHtlcPubkey

/-- `recreate_taker_swap`, with `lp_coinfind`; `none` where the conversion panics. -/
def recreateTakerSwap (debug : MakerSwapEvent → String)
    (coinfind : String → Except String (Option ExtractSecret)) (makerSwap : MakerSavedSwap) :
    Except RecreateSwapError (Option TakerSavedSwap) :=
  match makerSwap.events with
  | [] => .error .swapIsNotStarted
  | [.started _] => .error .swapIsNotNegotiated
  | .started started :: .negotiated negotiated :: rest => do
    let secretHash ← orError started.secretHash .noSecretHash
    let found ← (coinfind started.makerCoin).mapError .internal
    let makerCoin ← orError found (.noSuchCoin started.makerCoin)
    let waitRefundUntil := negotiated.takerPaymentLocktime + 3700
    return (convertMakerToTakerEvents debug makerCoin secretHash waitRefundUntil rest).map
      fun events =>
        { uuid := makerSwap.uuid
          events := .started (recreatedTakerData started negotiated) ::
            .negotiated (recreatedMakerNegotiation started negotiated secretHash) :: events }
  | .started _ :: event :: _ => .error (.unexpectedEvent "Negotiated" event.statusStr)
  | event :: _ => .error (.unexpectedEvent "Started" event.statusStr)

end CheetahDex.Swap
