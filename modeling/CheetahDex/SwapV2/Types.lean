import CheetahDex.Swap.DexFee
import CheetahDex.Utxo.SwapScripts

/-!
# What both sides of a swap of the second version share

The messages, the reasons to give up, the data that is stored of a negotiation, and what the
machines ask of a coin. A machine is generic in the types of its coins. Times are 64-bit seconds
that wrap around. Errors of a coin are texts; where the source adds a text of its own, so does the
model.
-/

namespace CheetahDex.SwapV2

open Ordermatch (MmNumber Uuid)
open Swap (Bytes CanRefundHtlc DexFee FeeCoin Hash NetConfig)
open Utxo (SwapTxTypeWithSecretHash)

inductive AbortReason where
  | negotiationTimeout
  | negotiationFailed (text : String)
  | failedToSendTx (text : String)
  | failedToValidateTx (text : String)
  | confirmationTimeout (text : String)
  | fundingSpendError (text : String)
  | takerAborted (text : String)
  | makerAborted (text : String)
  | internalError (text : String)
  | failedToSendPayment (text : String)
  | didNotReceiveMakerPayment (text : String)
  | failedToParseMakerPayment (text : String)
  | failedToParseFundingSpendPreimg (text : String)
  | failedToParseFundingSpendSig (text : String)
  | makerPaymentValidationFailed (text : String)
  | fundingSpendPreimageValidationFailed (text : String)
  | makerPaymentNotConfirmedInTime (text : String)
  | failedToGenerateSpendPreimage (text : String)
  | makerDidNotSpendInTime (text : String)
  | couldNotExtractSecret (text : String)
  | failedToSpendMakerPayment (text : String)
  | makerPaymentSpendNotConfirmedInTime (text : String)
  | takerFundingRefundFailed (text : String)
  | takerPaymentRefundFailed (text : String)
  deriving DecidableEq

structure StoredTxPreimage where
  preimage : Bytes
  signature : Bytes
  deriving DecidableEq

structure StoredMakerNegotiationData where
  takerSecretHash : Bytes
  takerCoinHtlcPub : Bytes
  makerCoinHtlcPub : Bytes
  takerCoinSwapContract : Option Bytes
  makerCoinSwapContract : Option Bytes
  takerPaymentLocktime : UInt64
  takerFundingLocktime : UInt64
  deriving DecidableEq

structure StoredTakerNegotiationData where
  makerSecretHash : Bytes
  makerCoinHtlcPub : Bytes
  takerCoinHtlcPub : Bytes
  makerCoinSwapContract : Option Bytes
  takerCoinSwapContract : Option Bytes
  makerPaymentLocktime : UInt64
  takerCoinAddress : String
  deriving DecidableEq

def maxStartedAtDiff : UInt64 := 60

def absDiff (a b : UInt64) : UInt64 := if a < b then b - a else a - b

def confirmationGateConfs (configuredConfs : ℕ) : ℕ := min configuredConfs 1

/-! ## Messages -/

structure MakerNegotiation where
  startedAt : UInt64
  paymentLocktime : UInt64
  secretHash : Bytes
  makerCoinHtlcPub : Bytes
  takerCoinHtlcPub : Bytes
  makerCoinSwapContract : Option Bytes
  takerCoinSwapContract : Option Bytes
  takerCoinAddress : String

structure TakerNegotiationData where
  startedAt : UInt64
  fundingLocktime : UInt64
  paymentLocktime : UInt64
  takerSecretHash : Bytes
  makerCoinHtlcPub : Bytes
  takerCoinHtlcPub : Bytes
  makerCoinSwapContract : Option Bytes
  takerCoinSwapContract : Option Bytes

/-- The action of a `TakerNegotiation`. -/
inductive TakerNegotiationAction where
  | continue (data : TakerNegotiationData)
  | abort (reason : String)

structure MakerNegotiated where
  negotiated : Bool
  reason : Option String

structure MakerPaymentInfo where
  txBytes : Bytes
  fundingPreimageSig : Bytes
  fundingPreimageTx : Bytes

structure TakerPaymentSpendPreimage where
  signature : Bytes
  txPreimage : Bytes

/-- `hex::encode`. -/
def hexEncode (bytes : Bytes) : String :=
  .ofList (bytes.flatMap fun b => [Nat.digitChar (b.toNat / 16), Nat.digitChar (b.toNat % 16)])

/-! ## Coins -/

/-- The types of a coin, as in `ParseCoinAssocTypes`. -/
structure CoinTypes where
  Address : Type
  Pubkey : Type
  Tx : Type
  Preimage : Type
  Sig : Type

structure TxPreimageWithSig (C : CoinTypes) where
  preimage : C.Preimage
  signature : C.Sig

structure SendMakerPaymentArgs (C : CoinTypes) where
  timeLock : UInt64
  takerSecretHash : Bytes
  makerSecretHash : Bytes
  amount : MmNumber
  takerPub : C.Pubkey
  swapUniqueData : Bytes

structure ValidateMakerPaymentArgs (C : CoinTypes) where
  makerPaymentTx : C.Tx
  timeLock : UInt64
  takerSecretHash : Bytes
  makerSecretHash : Bytes
  amount : MmNumber
  makerPub : C.Pubkey
  swapUniqueData : Bytes

/-- `RefundMakerPaymentTimelockArgs`, without the `watcher_reward` that is never set. -/
structure RefundMakerPaymentTimelockArgs where
  paymentTx : Bytes
  timeLock : UInt64
  takerPub : Bytes
  txTypeWithSecretHash : SwapTxTypeWithSecretHash
  swapUniqueData : Bytes
  amount : MmNumber

structure SpendMakerPaymentArgs (C : CoinTypes) where
  makerPaymentTx : C.Tx
  timeLock : UInt64
  takerSecretHash : Bytes
  makerSecretHash : Bytes
  makerSecret : Hash 32
  makerPub : C.Pubkey
  swapUniqueData : Bytes
  amount : MmNumber

structure SendTakerFundingArgs where
  fundingTimeLock : UInt64
  paymentTimeLock : UInt64
  takerSecretHash : Bytes
  makerSecretHash : Bytes
  makerPub : Bytes
  dexFee : DexFee
  premiumAmount : MmNumber
  tradingAmount : MmNumber
  swapUniqueData : Bytes

structure ValidateTakerFundingArgs (C : CoinTypes) where
  fundingTx : C.Tx
  fundingTimeLock : UInt64
  paymentTimeLock : UInt64
  takerSecretHash : Bytes
  makerSecretHash : Bytes
  takerPub : C.Pubkey
  dexFee : DexFee
  premiumAmount : MmNumber
  tradingAmount : MmNumber
  swapUniqueData : Bytes

/-- `RefundTakerPaymentArgs`, without the `watcher_reward` that is never set. -/
structure RefundTakerPaymentArgs where
  paymentTx : Bytes
  timeLock : UInt64
  makerPub : Bytes
  txTypeWithSecretHash : SwapTxTypeWithSecretHash
  swapUniqueData : Bytes
  dexFee : DexFee
  premiumAmount : MmNumber
  tradingAmount : MmNumber

/-- `RefundFundingSecretArgs`, without the `watcher_reward` that is never set. -/
structure RefundFundingSecretArgs (C : CoinTypes) where
  fundingTx : C.Tx
  fundingTimeLock : UInt64
  paymentTimeLock : UInt64
  makerPubkey : C.Pubkey
  takerSecret : Hash 32
  takerSecretHash : Bytes
  makerSecretHash : Bytes
  dexFee : DexFee
  premiumAmount : MmNumber
  tradingAmount : MmNumber
  swapUniqueData : Bytes

structure GenTakerFundingSpendArgs (C : CoinTypes) where
  fundingTx : C.Tx
  makerPub : C.Pubkey
  takerPub : C.Pubkey
  fundingTimeLock : UInt64
  takerSecretHash : Bytes
  takerPaymentTimeLock : UInt64
  makerSecretHash : Bytes

structure GenTakerPaymentSpendArgs (C : CoinTypes) where
  takerTx : C.Tx
  timeLock : UInt64
  makerSecretHash : Bytes
  makerPub : C.Pubkey
  makerAddress : C.Address
  takerPub : C.Pubkey
  dexFee : DexFee
  premiumAmount : MmNumber
  tradingAmount : MmNumber

/-- The arguments of `wait_for_confirmations`; it always checks every ten seconds. -/
structure ConfirmationArgs where
  tx : Bytes
  confirmations : ℕ
  requiresNota : Bool
  waitUntil : UInt64

inductive FundingTxSpend (Tx : Type) where
  | refundedTimelock (tx : Tx)
  | refundedSecret (tx : Tx) (secret : Hash 32)
  | transferredToTakerPayment (tx : Tx)

/-- `SearchForFundingSpendErr`: one that may pass, and the others. -/
inductive SearchForFundingSpendErr where
  | rpc (err : String)
  | other (err : String)

/-- What comes of sending a transaction. It can be with the network although the node is told of an
error. -/
inductive Broadcast (Tx : Type) where
  | sent (tx : Tx)
  | sentUnnoticed (tx : Tx) (err : String)
  | failed (err : String)

namespace Broadcast

variable {Tx : Type}

/-- What the node is told. -/
def result : Broadcast Tx → Except String Tx
  | sent tx => .ok tx
  | sentUnnoticed _ err => .error err
  | failed err => .error err

/-- What the network has. -/
def reached : Broadcast Tx → Option Tx
  | sent tx => some tx
  | sentUnnoticed tx _ => some tx
  | failed _ => none

end Broadcast

/-- What a coin computes itself. `fee` is what the fee of a swap depends on. -/
structure Coin (C : CoinTypes) where
  fee : FeeCoin
  swapContractAddress : Option Bytes
  showAddress : C.Address → String
  parsePubkey : Bytes → Except String C.Pubkey
  pubkeyBytes : C.Pubkey → Bytes
  parseTx : Bytes → Except String C.Tx
  txHex : C.Tx → Bytes
  parsePreimage : Bytes → Except String C.Preimage
  preimageBytes : C.Preimage → Bytes
  parseSignature : Bytes → Except String C.Sig
  signatureBytes : C.Sig → Bytes
  skipTakerPaymentSpendPreimage : Bool

def Coin.ticker {C : CoinTypes} (coin : Coin C) : String := coin.fee.ticker

variable (C : CoinTypes)

/-- What a coin is told at one moment, in either role. The loop before a refund asks as long as
there are answers in `canRefundHtlc`. -/
structure CoinAnswers where
  currentBlock : Except String UInt64
  senderTradeFee : MmNumber → Except String MmNumber
  receiverTradeFee : Except String MmNumber
  mySpendableBalance : Except String MmNumber
  deriveHtlcPubkey : Bytes → Except String C.Pubkey
  myAddr : Except String C.Address
  waitForConfirmations : ConfirmationArgs → Except String Unit
  canRefundHtlc : List (Except String CanRefundHtlc)

/-- What the coin of the maker is told, as `MakerCoinSwapOpsV2`. -/
structure MakerCoinAnswers extends CoinAnswers C where
  sendMakerPaymentV2 : SendMakerPaymentArgs C → Broadcast C.Tx
  validateMakerPaymentV2 : ValidateMakerPaymentArgs C → Except String Unit
  refundMakerPaymentV2Timelock : RefundMakerPaymentTimelockArgs → Broadcast C.Tx
  spendMakerPaymentV2 : SpendMakerPaymentArgs C → Broadcast C.Tx

/-- One turn of the maker's loop that looks for a spend of the funding. -/
structure FundingPoll where
  now : UInt64
  searchForTakerFundingSpend :
    C.Tx → UInt64 → Bytes → Except SearchForFundingSpendErr (Option (FundingTxSpend C.Tx))

/-- What the coin of the taker is told, as `TakerCoinSwapOpsV2`. -/
structure TakerCoinAnswers extends CoinAnswers C where
  sendTakerFunding : SendTakerFundingArgs → Broadcast C.Tx
  validateTakerFunding : ValidateTakerFundingArgs C → Except String Unit
  refundTakerFundingSecret : RefundFundingSecretArgs C → Broadcast C.Tx
  fundingPolls : List (FundingPoll C)
  genTakerFundingSpendPreimage :
    GenTakerFundingSpendArgs C → Bytes → Except String (TxPreimageWithSig C)
  validateTakerFundingSpendPreimage :
    GenTakerFundingSpendArgs C → TxPreimageWithSig C → Except String Unit
  signAndSendTakerFundingSpend :
    TxPreimageWithSig C → GenTakerFundingSpendArgs C → Bytes → Broadcast C.Tx
  refundCombinedTakerPayment : RefundTakerPaymentArgs → Broadcast C.Tx
  genTakerPaymentSpendPreimage :
    GenTakerPaymentSpendArgs C → Bytes → Except String (TxPreimageWithSig C)
  validateTakerPaymentSpendPreimage :
    GenTakerPaymentSpendArgs C → TxPreimageWithSig C → Except String Unit
  signAndBroadcastTakerPaymentSpend :
    Option (TxPreimageWithSig C) → GenTakerPaymentSpendArgs C → Bytes → Bytes → Broadcast C.Tx
  findTakerPaymentSpendTx : C.Tx → UInt64 → UInt64 → Except String C.Tx
  extractSecretV2 : Bytes → C.Tx → Except String (Hash 32)

/-- `try_derive_htlc_pubkey_v2_bytes`. -/
def CoinAnswers.deriveHtlcPubkeyBytes {C : CoinTypes} (answers : CoinAnswers C) (coin : Coin C)
    (uniqueData : Bytes) : Except String Bytes :=
  (answers.deriveHtlcPubkey uniqueData).map coin.pubkeyBytes

/-! ## Machines -/

/-- What a machine has from the program it runs in: the digits of a decimal, the network it is on,
the hash functions and how a decimal is shown. -/
structure Ctx where
  digits : ℕ
  netConfig : NetConfig
  hashes : Utxo.Hashes
  showDecimal : MmNumber → String

def Ctx.toDecimal (ctx : Ctx) (amount : MmNumber) : MmNumber := Swap.toDecimal ctx.digits amount

end CheetahDex.SwapV2
