import CheetahDex.Lib.Hex
import CheetahDex.Swap.DexFee
import CheetahDex.Utxo.SwapScripts

/-!
# Payments and fees on Tendermint chains

A payment is the first message of a transaction: it creates a hash time locked contract, whose id is
computed from its sender, its receiver, its coins and a secret hash. Decoding messages and addresses
is left to other crates.
-/

namespace CheetahDex.Tendermint

open Chain (Bytes)
open Utxo (Hashes)
open Swap (DexFee DexFeeBurnDestination satFromBigDecimal toDecimal)
open Ordermatch (MmNumber)
open Lib (check orError)

/-! ## Messages -/

structure AccountId where
  bech32 : String
  hrpLength : ℕ
  deriving DecidableEq

/-- `Coin`, compared by its denomination first. -/
structure Coin where
  denom : String
  amount : ℕ
  deriving DecidableEq

def Coin.le (a b : Coin) : Bool := a.denom < b.denom || (a.denom == b.denom && a.amount ≤ b.amount)

structure CoinProto where
  denom : String
  amount : String
  deriving DecidableEq

/-- `Any`: a message with the name of its type. -/
structure AnyMessage where
  typeUrl : String
  value : Bytes

structure TxBody where
  messages : List AnyMessage
  memo : String

inductive HtlcType where
  | nucleus
  | iris

/-- `CreateHtlcProto`, as far as it is the same for both types of contracts. -/
structure CreateHtlcProto where
  sender : String
  toAddress : String
  amount : List CoinProto
  hashLock : String
  timestamp : UInt64
  timeLock : UInt64

structure CreateHtlcMsg where
  sender : AccountId
  toAddress : AccountId
  amount : List Coin
  hashLock : String
  timestamp : UInt64
  timeLock : UInt64
  deriving DecidableEq

structure ClaimHtlcMsg where
  id : String
  sender : AccountId
  secret : String

structure MsgSendProto where
  fromAddress : String
  toAddress : String
  amount : List CoinProto

/-- `InputProto` and `OutputProto`. -/
structure TransferProto where
  address : String
  coins : List CoinProto

structure MsgMultiSendProto where
  inputs : List TransferProto
  outputs : List TransferProto

inductive HtlcError where
  | crate (err : String)
  | noMessage
  | unsupported (accountPrefix : String)
  | secretHash (got expected : List Char)
  | sender (got expected : AccountId)
  | receiver (got expected : AccountId)
  | amount
  | coins (got : List Coin) (expected : Coin)
  | hashLock
  | memo (expected got : String)
  | feeSender (got expected : String)
  | feeReceiver (got expected : String)
  | feeAmount (got : Option CoinProto) (expected : CoinProto)
  | noInputs
  | noOutputs
  | noFee
  | kmdOpReturn
  deriving DecidableEq

/-! ## What is taken from elsewhere -/

/-- Hash functions, addresses, and decoders of messages. -/
structure Crates where
  hashes : Hashes
  accountNew : String → Bytes → Except HtlcError AccountId
  accountParse : String → Except HtlcError AccountId
  accountBytes : AccountId → Bytes
  coinTryFrom : CoinProto → Except HtlcError Coin
  txFromBytes : Bytes → Except HtlcError TxBody
  createHtlcDecode : HtlcType → Bytes → Except HtlcError CreateHtlcProto
  msgSendDecode : Bytes → Except HtlcError MsgSendProto
  msgMultiSendDecode : Bytes → Except HtlcError MsgMultiSendProto
  uuidFromSlice : Bytes → Except HtlcError String
  /-- `to_uppercase` of a character outside of ASCII. -/
  upperOther : Char → List Char
  /-- The digits that the conversion to a decimal keeps. -/
  digits : ℕ

/-- What is read of a `TendermintCoin`. -/
structure TendermintCoin where
  accountId : AccountId
  accountPrefix : String
  avgBlocktime : UInt64

variable (c : Crates) (coin : TendermintCoin)

def toUppercase (text : List Char) : List Char :=
  text.flatMap fun ch => if ch.toNat < 128 then [ch.toUpper] else c.upperOther ch

def HtlcType.fromStr (s : String) : Except HtlcError HtlcType :=
  if s = "iaa" then .ok .iris else if s = "nuc" then .ok .nucleus else .error (.unsupported s)

def CreateHtlcMsg.tryFrom (proto : CreateHtlcProto) : Except HtlcError CreateHtlcMsg := do
  let sender ← c.accountParse proto.sender
  let toAddress ← c.accountParse proto.toAddress
  let amount ← proto.amount.mapM c.coinTryFrom
  return ⟨sender, toAddress, amount, proto.hashLock, proto.timestamp, proto.timeLock⟩

/-- The account of a public key. -/
def accountOf (pubkey : Bytes) : Except HtlcError AccountId :=
  c.accountNew coin.accountPrefix (c.hashes.dhash160 pubkey).toList

/-- The first message of a transaction, decoded as the creation of a contract. -/
def createHtlcOf (tx : Bytes) : Except HtlcError CreateHtlcProto := do
  let body ← c.txFromBytes tx
  let msg ← orError body.messages.head? .noMessage
  let htlcType ← HtlcType.fromStr coin.accountPrefix
  c.createHtlcDecode htlcType msg.value

/-! ## Ids -/

def calculateHtlcId (fromAddress toAddress : AccountId) (amount : List Coin) (secretHash : Bytes) :
    String :=
  let coinsString := ",".intercalate (amount.map fun t => toString t.amount ++ t.denom)
  let id := secretHash ++ c.accountBytes fromAddress ++ c.accountBytes toAddress ++
    coinsString.toUTF8.toList
  String.ofList (toUppercase c (Lib.Hex.encode (c.hashes.sha256 id).toList))

/-- `estimate_blocks_from_duration`, between `MIN_TIME_LOCK` and `MAX_TIME_LOCK`. -/
def estimateBlocksFromDuration (duration : UInt64) : ℤ :=
  max 50 (min (Int64.ofUInt64 (duration / coin.avgBlocktime)).toInt 34560)

/-- The message of `gen_create_htlc_tx`, with its id. -/
def genCreateHtlcTx (denom : String) (toAddress : AccountId) (amount : ℕ) (secretHash : Bytes)
    (timeLock : UInt64) : String × CreateHtlcMsg :=
  (calculateHtlcId c coin.accountId toAddress [⟨denom, amount⟩] secretHash,
    ⟨coin.accountId, toAddress, [⟨denom, amount⟩], String.ofList (Lib.Hex.encode secretHash), 0,
      timeLock⟩)

def sendHtlcForDenom (timeLockDuration : UInt64) (otherPub secretHash : Bytes) (amount : MmNumber)
    (denom : String) (decimals : ℕ) : Except HtlcError (String × CreateHtlcMsg) := do
  let toAddress ← accountOf c coin otherPub
  let amountSat ← orError (satFromBigDecimal amount decimals) .amount
  return genCreateHtlcTx c coin denom toAddress amountSat secretHash
    (UInt64.ofInt (estimateBlocksFromDuration coin timeLockDuration))

def spendHtlc (paymentTx secret secretHash : Bytes) : Except HtlcError ClaimHtlcMsg := do
  let htlc ← CreateHtlcMsg.tryFrom c (← createHtlcOf c coin paymentTx)
  let amount := htlc.amount.mergeSort Coin.le
  let id := calculateHtlcId c htlc.sender htlc.toAddress amount secretHash
  return ⟨id, coin.accountId, String.ofList (Lib.Hex.encode secret)⟩

def sendMakerSpendsTakerPayment (takerPaymentTx secret : Bytes) : Except HtlcError ClaimHtlcMsg :=
  spendHtlc c coin takerPaymentTx secret (c.hashes.sha256 secret).toList

def sendTakerSpendsMakerPayment (makerPaymentTx secret : Bytes) : Except HtlcError ClaimHtlcMsg :=
  spendHtlc c coin makerPaymentTx secret (c.hashes.sha256 secret).toList

/-- The id that `search_for_swap_tx_spend` asks the chain for. -/
def searchForSwapTxSpend (tx secretHash : Bytes) : Except HtlcError String := do
  let htlc ← CreateHtlcMsg.tryFrom c (← createHtlcOf c coin tx)
  return calculateHtlcId c htlc.sender htlc.toAddress htlc.amount secretHash

/-- The id that `wait_for_tx_spend` looks for. -/
def waitForTxSpend (tx : Bytes) : Except HtlcError String := do
  let proto ← createHtlcOf c coin tx
  let htlc ← CreateHtlcMsg.tryFrom c proto
  let secretHash ← orError (Lib.Hex.decode proto.hashLock.toList) .hashLock
  return calculateHtlcId c htlc.sender htlc.toAddress htlc.amount secretHash

/-! ## Validation -/

/-- `ValidatePaymentInput`, as far as it is read here, with the lock time that it carries. -/
structure ValidatePaymentInput where
  paymentTx : Bytes
  timeLock : UInt32
  secretHash : Bytes
  amount : MmNumber

def validatePaymentForDenom (input : ValidatePaymentInput) (senderPubkey : Bytes) (denom : String)
    (decimals : ℕ) : Except HtlcError Unit := do
  let expectedSender ← accountOf c coin senderPubkey
  let proto ← createHtlcOf c coin input.paymentTx
  let expectedHash := toUppercase c (Lib.Hex.encode input.secretHash)
  check (toUppercase c proto.hashLock.toList ≠ expectedHash)
    (.secretHash proto.hashLock.toList expectedHash)
  let htlc ← CreateHtlcMsg.tryFrom c proto
  check (htlc.sender ≠ expectedSender) (.sender htlc.sender expectedSender)
  check (htlc.toAddress ≠ coin.accountId) (.receiver htlc.toAddress coin.accountId)
  let expectedSat ← orError (satFromBigDecimal input.amount decimals) .amount
  check (⟨denom, expectedSat⟩ ∉ htlc.amount) (.coins htlc.amount ⟨denom, expectedSat⟩)

/-- The address that burns, as `send_taker_fee_for_denom` finds it. -/
def burnAddress : DexFeeBurnDestination → Except HtlcError AccountId
  | .kmdOpReturn => .error .kmdOpReturn
  | .preBurnAccount burnPubkey => accountOf c coin burnPubkey

/-- The smallest units of an amount. -/
def satOf (amount : MmNumber) (decimals : ℕ) : Except HtlcError ℕ :=
  orError (satFromBigDecimal (toDecimal c.digits amount) decimals) .amount

end CheetahDex.Tendermint
