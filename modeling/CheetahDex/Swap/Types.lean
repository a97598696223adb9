import CheetahDex.Lib.Journal
import CheetahDex.Ordermatch.StartSwap

/-!
# What both sides of a swap share

What the maker's and the taker's swap keep and exchange, and what they ask of coins. Times are
64-bit seconds that wrap around. A hash is taken from the first bytes of a slice, and a slice that
is too short panics.
-/

namespace CheetahDex.Swap

open Lib Ordermatch

abbrev Bytes := List UInt8

/-- `H160`, `H256` and `H264`, and what else is an array of bytes. -/
abbrev Hash (n : Nat) := Vector UInt8 n

/-- The conversion from a slice; `none` where it panics. -/
def hashOfBytes (n : Nat) (bytes : Bytes) : Option (Hash n) :=
  if h : n ≤ bytes.length then some ⟨(bytes.take n).toArray, by simp [h]⟩ else none

structure KeyPair where
  publicKey : Hash 33
  secret : Hash 32
  deriving DecidableEq

/-- `SwapError`. The place in the source that `ERRL!` puts before the text is left out. -/
structure SwapError where
  error : String
  deriving DecidableEq

structure TransactionIdentifier where
  txHex : Bytes
  txHash : Bytes
  deriving DecidableEq

structure SavedTradeFee where
  coin : String
  amount : MmNumber
  paidFromTradingVol : Bool
  deriving DecidableEq

/-- What a swap reads of the node. -/
structure SwapCtx where
  keyPair : KeyPair
  dhash160 : Hash 32 → Hash 20
  /-- `dex_fee_addr_raw_pubkey`. -/
  dexFeeAddr : Bytes
  /-- `MmNumber::to_decimal`, which rounds. -/
  toDecimal : MmNumber → MmNumber

/-- What a swap reads of a coin without asking the network. -/
structure SwapCoin where
  ticker : String
  swapContractAddress : Option Bytes
  htlcKeyPair : Option KeyPair
  requiresNotarization : Bool

/-! ## Negotiation -/

inductive NegotiationDataMsg where
  | v1 (startedAt paymentLocktime : UInt64) (secretHash : Hash 20) (persistentPubkey : Bytes)
  | v2 (startedAt paymentLocktime : UInt64) (secretHash persistentPubkey : Bytes)
      (makerCoinSwapContract takerCoinSwapContract : Bytes)
  | v3 (startedAt paymentLocktime : UInt64) (secretHash : Bytes)
      (makerCoinSwapContract takerCoinSwapContract : Bytes)
      (makerCoinHtlcPub takerCoinHtlcPub : Bytes)

namespace NegotiationDataMsg

def startedAt : NegotiationDataMsg → UInt64
  | v1 startedAt _ _ _ => startedAt
  | v2 startedAt _ _ _ _ _ => startedAt
  | v3 startedAt _ _ _ _ _ _ => startedAt

def paymentLocktime : NegotiationDataMsg → UInt64
  | v1 _ paymentLocktime _ _ => paymentLocktime
  | v2 _ paymentLocktime _ _ _ _ => paymentLocktime
  | v3 _ paymentLocktime _ _ _ _ _ => paymentLocktime

def secretHash : NegotiationDataMsg → Bytes
  | v1 _ _ secretHash _ => secretHash.toList
  | v2 _ _ secretHash _ _ _ => secretHash
  | v3 _ _ secretHash _ _ _ _ => secretHash

def makerCoinHtlcPub : NegotiationDataMsg → Bytes
  | v1 _ _ _ persistentPubkey => persistentPubkey
  | v2 _ _ _ persistentPubkey _ _ => persistentPubkey
  | v3 _ _ _ _ _ makerCoinHtlcPub _ => makerCoinHtlcPub

def takerCoinHtlcPub : NegotiationDataMsg → Bytes
  | v1 _ _ _ persistentPubkey => persistentPubkey
  | v2 _ _ _ persistentPubkey _ _ => persistentPubkey
  | v3 _ _ _ _ _ _ takerCoinHtlcPub => takerCoinHtlcPub

def makerCoinSwapContract : NegotiationDataMsg → Option Bytes
  | v1 _ _ _ _ => none
  | v2 _ _ _ _ makerCoinSwapContract _ => some makerCoinSwapContract
  | v3 _ _ _ makerCoinSwapContract _ _ _ => some makerCoinSwapContract

def takerCoinSwapContract : NegotiationDataMsg → Option Bytes
  | v1 _ _ _ _ => none
  | v2 _ _ _ _ _ takerCoinSwapContract => some takerCoinSwapContract
  | v3 _ _ _ _ takerCoinSwapContract _ _ => some takerCoinSwapContract

end NegotiationDataMsg

/-- The difference of two starting times as `negotiate` computes it: signed, and wrapping around. -/
def timeDif (mine other : UInt64) : Int64 := (mine.toInt64 - other.toInt64).abs

/-! ## What a coin is asked for -/

/-- `WAIT_CONFIRM_INTERVAL`, in seconds. -/
def waitConfirmInterval : UInt64 := 15

/-- The arguments of `wait_for_confirmations`. -/
structure ConfirmationsArgs where
  tx : Bytes
  confirmations : Nat
  requiresNota : Bool
  waitUntil : UInt64
  checkEvery : UInt64

/-- The arguments of `check_if_my_payment_sent` and of the functions that send a payment. -/
structure PaymentArgs where
  timeLock : UInt32
  myPub : Hash 33
  otherPub : Hash 33
  secretHash : Hash 20
  swapContractAddress : Option Bytes

/-- The arguments of the functions that spend or refund a payment. -/
structure SpendArgs where
  paymentTx : Bytes
  timeLock : UInt32
  otherPub : Hash 33
  /-- The secret, or its hash when refunding. -/
  secret : Bytes
  htlcPrivkey : Hash 32
  swapContractAddress : Option Bytes

structure ValidatePaymentInput where
  paymentTx : Bytes
  timeLock : UInt32
  takerPub : Hash 33
  makerPub : Hash 33
  secretHash : Hash 20
  amount : MmNumber
  swapContractAddress : Option Bytes
  trySpvProofUntil : UInt64
  confirmations : Nat

inductive DexFeeBurnDestination where
  | kmdOpReturn
  | preBurnAccount (burnPubkey : Bytes)
  deriving DecidableEq

inductive DexFee where
  | noFee
  | standard (amount : MmNumber)
  | withBurn (feeAmount burnAmount : MmNumber) (burnDestination : DexFeeBurnDestination)
  deriving DecidableEq

def DexFee.totalSpendAmount : DexFee → MmNumber
  | noFee => 0
  | standard amount => amount
  | withBurn feeAmount burnAmount _ => feeAmount + burnAmount

structure ValidateFeeArgs where
  feeTx : Bytes
  expectedSender : Hash 33
  feeAddr : Bytes
  dexFee : DexFee
  minBlockNumber : UInt64
  uuid : Uuid

inductive CanRefundHtlc where
  | canRefundNow
  | haveToWait (seconds : UInt64)

/-- The loop before a refund: whether one of the answers of `can_refund_htlc` lets it through. -/
def canRefund (answers : List (Except String CanRefundHtlc)) : Bool :=
  answers.any fun answer =>
    match answer with
    | .ok .canRefundNow => true
    | .ok (.haveToWait _) => false
    | .error _ => false

/-- A payment that may have been sent before: `check_if_my_payment_sent`, and the sending if it was
not. -/
def sentOrSend (checked : Except String (Option TransactionIdentifier))
    (send : Except String TransactionIdentifier) : Except String TransactionIdentifier := do
  match ← checked with
  | some tx => return tx
  | none => send

instance (checked : Except String (Option TransactionIdentifier)) :
    Decidable (∃ tx, checked = .ok (some tx)) :=
  match checked with
  | .error _ => .isFalse (by simp)
  | .ok none => .isFalse (by simp)
  | .ok (some tx) => .isTrue ⟨tx, rfl⟩

end CheetahDex.Swap
