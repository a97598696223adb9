import CheetahDex.SwapV2.Types
import CheetahDex.Utxo.TakerFee

/-!
# The spends of the payments

A payment is claimed or refunded with one signature. In the second version the funding becomes the
taker's payment, and that pays the maker and the fee. Both spends need two signatures: one side
makes the transaction and signs it, the other checks it, signs it as well and sends it. The digest
that is signed is a parameter.
-/

namespace CheetahDex.Utxo

open Chain (Bytes H256 JoinSplit OutPoint ShieldedOutput ShieldedSpend Transaction
  TransactionOutput TxHashAlgo serialize)
open Lib (check orError)
open Ordermatch (MmNumber)
open Script (Builder)
open Swap (DexFee DexFeeBurnDestination FeeCoin satFromBigDecimal toDecimal)
open SwapV2 (CoinTypes FundingTxSpend GenTakerFundingSpendArgs GenTakerPaymentSpendArgs
  SearchForFundingSpendErr TxPreimageWithSig ValidateTakerFundingArgs absDiff)

structure UnsignedTransactionInput where
  previousOutput : OutPoint
  sequence : UInt32
  amount : UInt64
  witness : List Bytes

structure TransactionInputSigner where
  version : Int32
  nTime : Option UInt32
  overwintered : Bool
  versionGroupId : UInt32
  consensusBranchId : UInt32
  expiryHeight : UInt32
  valueBalance : Int64
  inputs : List UnsignedTransactionInput
  outputs : List TransactionOutput
  lockTime : UInt32
  joinSplits : List JoinSplit
  shieldedSpends : List ShieldedSpend
  shieldedOutputs : List ShieldedOutput
  zcash : Bool
  strDZeel : Option String
  hashAlgo : TxHashAlgo

/-- `From<TransactionInputSigner> for Transaction`. -/
def TransactionInputSigner.toTransaction (s : TransactionInputSigner) : Transaction where
  version := s.version
  nTime := s.nTime
  overwintered := s.overwintered
  versionGroupId := s.versionGroupId
  inputs := s.inputs.map fun i => ⟨i.previousOutput, [], i.sequence, []⟩
  outputs := s.outputs
  lockTime := s.lockTime
  expiryHeight := s.expiryHeight
  shieldedSpends := s.shieldedSpends
  shieldedOutputs := s.shieldedOutputs
  joinSplits := s.joinSplits
  valueBalance := s.valueBalance
  joinSplitPubkey := .replicate 32 0
  joinSplitSig := .replicate 64 0
  bindingSig := .replicate 64 0
  zcash := s.zcash
  strDZeel := s.strDZeel
  txHashAlgo := s.hashAlgo

/-- The types of a standard UTXO coin. An address is its hash; its format, which
`output_script` reads too, is not segwit. -/
abbrev standardTypes : CoinTypes where
  Address := H160
  Pubkey := Public
  Tx := Transaction
  Preimage := TransactionInputSigner
  Sig := Bytes

/-- `TxGenError`, the errors of the validations, and what stops the program: an assertion of the
script builder and an input that there is not. -/
inductive SpendError where
  | panic
  | prevTxIsNotValid (text : String)
  | prevOutputTooLow
  | numConversion
  | signing (err : String)
  | rpc (err : String)
  | other (err : String)
  | internalError (err : String)
  | wrongPaymentTx (text : String)
  | invalidPreimage (text : String)
  deriving DecidableEq

/-- A coin at one moment: its settings, its own key for swaps, and what it is told about the fee of
a spend. `nTime` is the time that transactions of a proof-of-stake coin carry. -/
structure SpendCoin where
  hashes : Hashes
  signatureHash : TransactionInputSigner → ℕ → UInt64 → Bytes → UInt32 → H256
  verify : Public → H256 → Bytes → Except String Bool
  digits : ℕ
  fee : FeeCoin
  txVersion : Int32
  overwintered : Bool
  versionGroupId : UInt32
  consensusBranchId : UInt32
  zcash : Bool
  forkId : UInt32
  txHashAlgo : TxHashAlgo
  dexFeePubkey : Bytes
  nTime : Option UInt32
  htlcPubkey : Except String Public
  sign : H256 → Except String Bytes
  htlcSpendFee : Except String UInt64

def checkedSub (a b : UInt64) : Option UInt64 := if b ≤ a then some (a - b) else none

namespace SpendCoin

variable (c : SpendCoin)

/-- `sat_from_big_decimal`. -/
def sat (amount : MmNumber) : Option UInt64 :=
  (satFromBigDecimal amount c.fee.decimals).map UInt64.ofNat

/-- The script that pays to the hash of a redeem script. -/
def p2sh (redeem : Option Bytes) : Except SpendError Bytes :=
  orError (redeem.bind fun r => Builder.buildP2sh (c.hashes.dhash160 r).toList) .panic

/-- The transaction that spends output 0 of another one, as both builders make it. -/
def unsigned (prev : Transaction) (prevOutput : TransactionOutput)
    (outputs : List TransactionOutput) : TransactionInputSigner where
  version := c.txVersion
  nTime := c.nTime
  overwintered := c.overwintered
  versionGroupId := c.versionGroupId
  consensusBranchId := c.consensusBranchId
  expiryHeight := 0
  valueBalance := 0
  inputs := [⟨⟨prev.hash c.hashes.sha256, 0⟩, sequenceFinal, prevOutput.value, []⟩]
  outputs := outputs
  lockTime := 0
  joinSplits := []
  shieldedSpends := []
  shieldedOutputs := []
  zcash := c.zcash
  strDZeel := none
  hashAlgo := c.txHashAlgo

variable (signer : TransactionInputSigner)

variable (redeem : Bytes) (sighashType : UInt32)

/-- The digest of input 0. -/
def digest :
    Except SpendError H256 := do
  let input ← orError signer.inputs[0]? .panic
  return c.signatureHash signer 0 input.amount redeem sighashType

/-- `sign_funding_spend_input` and `sign_taker_payment_spend_input`. -/
def signInput :
    Except SpendError Bytes := do
  (c.sign (← c.digest signer redeem sighashType)).mapError .signing

/-- What both validations do with the signature of the other side. -/
def checkSignature (pub : Public) (preimage : TxPreimageWithSig standardTypes) (redeem : Bytes)
    (sighashType : UInt32) (text : String) : Except SpendError Unit := do
  let digest ← c.digest preimage.preimage redeem sighashType
  let ok ← (c.verify pub digest preimage.signature).mapError .internalError
  check (ok = false) (.invalidPreimage text)

/-- The transaction that is sent: the one that was signed, with its only input filled in. -/
def finish (scriptSig : Option Bytes) :
    Except SpendError Transaction := do
  let scriptSig ← orError scriptSig .panic
  let input ← orError signer.inputs[0]? .panic
  return { signer.toTransaction with
    inputs := [⟨input.previousOutput, scriptSig, input.sequence, []⟩]
    txHashAlgo := c.txHashAlgo }

/-! ## The funding -/

/-- `validate_taker_funding`, without the import of the address into a native wallet. -/
def validateTakerFunding (args : ValidateTakerFundingArgs standardTypes) :
    Except SpendError Unit := do
  let makerHtlcPub ← c.htlcPubkey.mapError .internalError
  let expectedScriptPubkey ← c.p2sh (takerFundingScript c.hashes args.fundingTimeLock.toUInt32
    args.takerSecretHash args.takerPub makerHtlcPub)
  let total := args.tradingAmount + args.premiumAmount + toDecimal c.digits args.dexFee.feeAmount
  let expectedAmountSat ← orError (c.sat total) (.internalError "amount")
  let actual ← orError args.fundingTx.outputs[0]? (.wrongPaymentTx "missing output 0")
  check (actual.scriptPubkey ≠ expectedScriptPubkey) (.wrongPaymentTx "script mismatch")
  check (actual.value ≠ expectedAmountSat) (.wrongPaymentTx ("amount mismatch: expected " ++
    toString expectedAmountSat ++ ", got " ++ toString actual.value))

/-! ## From the funding to the payment -/

section funding

variable (args : GenTakerFundingSpendArgs standardTypes)

/-- The redeem scripts of the funding and of the payment. -/
def fundingRedeem : Option Bytes :=
  takerFundingScript c.hashes args.fundingTimeLock.toUInt32 args.takerSecretHash args.takerPub
    args.makerPub

def paymentRedeem : Option Bytes :=
  takerPaymentScript c.hashes args.takerPaymentTimeLock.toUInt32 args.makerSecretHash args.takerPub
    args.makerPub

def buildFundingSpendPreimageTx (fundingTx : Transaction) (takerPaymentRedeem : Option Bytes)
    (fee : UInt64) : Except SpendError TransactionInputSigner := do
  let fundingOutput ← orError fundingTx.outputs[0]? (.prevTxIsNotValid "funding tx has no output 0")
  check (fundingOutput.value ≤ fee) .prevOutputTooLow
  return c.unsigned fundingTx fundingOutput
    [⟨fundingOutput.value - fee, ← c.p2sh takerPaymentRedeem⟩]

def genTakerFundingSpendPreimage : Except SpendError (TxPreimageWithSig standardTypes) := do
  let fee ← c.htlcSpendFee.mapError .rpc
  let signer ← c.buildFundingSpendPreimageTx args.fundingTx (c.paymentRedeem args) fee
  let redeem ← orError (c.fundingRedeem args) .panic
  return ⟨signer, ← c.signInput signer redeem (1 ||| c.forkId)⟩

variable (preimage : TxPreimageWithSig standardTypes)

def validateTakerFundingSpendPreimage :
    Except SpendError Unit := do
  let fundingOutput ← orError args.fundingTx.outputs[0]?
    (.invalidPreimage "funding tx has no output 0")
  let expectedFee ← c.htlcSpendFee.mapError .internalError
  let expectedValue ← orError (checkedSub fundingOutput.value expectedFee)
    (.invalidPreimage "funding value below expected fee")
  let signer := preimage.preimage
  check (signer.inputs.map (·.previousOutput) ≠ [⟨args.fundingTx.hash c.hashes.sha256, 0⟩])
    (.invalidPreimage "preimage input does not spend the funding outpoint")
  match signer.outputs with
  | [output] =>
    let expectedScriptPubkey ← c.p2sh (c.paymentRedeem args)
    check (output.scriptPubkey ≠ expectedScriptPubkey)
      (.invalidPreimage "preimage output script does not match taker-payment P2SH")
    check (absDiff output.value expectedValue > expectedValue / 10)
      (.invalidPreimage ("preimage output value " ++ toString output.value ++
        " differs from expected " ++ toString expectedValue ++
        " by more than 10% (fee tolerance)"))
    let htlcPub ← c.htlcPubkey.mapError .internalError
    let counterpartyPub := if htlcPub = args.takerPub then args.makerPub else args.takerPub
    let redeem ← orError (c.fundingRedeem args) .panic
    c.checkSignature counterpartyPub preimage redeem (1 ||| c.forkId)
      "counterparty signature does not verify against cooperative branch"
  | outputs => .error (.invalidPreimage
      ("expected 1 output in preimage, got " ++ toString outputs.length))

/-- `sign_and_send_taker_funding_spend`: the transaction that is sent. -/
def signAndSendTakerFundingSpend :
    Except SpendError Transaction := do
  let htlcPub ← c.htlcPubkey.mapError .signing
  let redeem ← orError (c.fundingRedeem args) .panic
  let mySig ← c.signInput preimage.preimage redeem (1 ||| c.forkId)
  let sigs := if htlcPub = args.makerPub then (mySig, preimage.signature)
    else (preimage.signature, mySig)
  c.finish preimage.preimage (buildFundingSpendCooperativeScriptSig sigs.1 sigs.2 c.forkId redeem)

end funding

/-! ## From the payment to the maker -/

def dexFeeStandardOutput (feeSat : UInt64) : Except SpendError TransactionOutput := do
  let feeAddress ← orError (addressFromRawPubkey c.hashes c.dexFeePubkey) (.other "fee address")
  return ⟨feeSat, ← orError (Builder.buildP2pkh feeAddress.toList) .panic⟩

def buildBurnOutput (burnAmountSat : UInt64) :
    DexFeeBurnDestination → Except SpendError TransactionOutput
  | .kmdOpReturn => do
    let script := Builder.default |>.pushOpcode .opReturn |>.pushBytes (serialize burnAmountSat)
    return ⟨0, ← orError script.intoScript .panic⟩
  | .preBurnAccount burnPubkey => do
    let burnAddress ← orError (addressFromRawPubkey c.hashes burnPubkey) (.other "burn address")
    return ⟨burnAmountSat, ← orError (Builder.buildP2pkh burnAddress.toList) .panic⟩

/-- The smallest units of the fee and of what is burnt, where there is such a part. -/
def feeSats (err : SpendError) : DexFee → Except SpendError (UInt64 × UInt64)
  | .noFee => return (0, 0)
  | .standard amount => return (← orError (c.sat (toDecimal c.digits amount)) err, 0)
  | .withBurn feeAmount burnAmount _ => do
    let dexFeeSat ← orError (c.sat (toDecimal c.digits feeAmount)) err
    return (dexFeeSat, ← orError (c.sat (toDecimal c.digits burnAmount)) err)

/-- What is left for the maker of a payment. -/
def makerValue (value fee : UInt64) (sats : UInt64 × UInt64) : Option UInt64 :=
  ((checkedSub value sats.1).bind (checkedSub · sats.2)).bind (checkedSub · fee)

/-- `SIGHASH_SINGLE_BASE` of a fee that the maker adds the output of, or `SIGHASH_ALL_BASE`. -/
def spendSighash : DexFee → UInt32
  | .standard _ => 3 ||| c.forkId
  | _ => 1 ||| c.forkId

section payment

variable (args : GenTakerPaymentSpendArgs standardTypes)

/-- The redeem script of the payment. -/
def takerPaymentRedeem : Option Bytes :=
  takerPaymentScript c.hashes args.timeLock.toUInt32 args.makerSecretHash args.takerPub
    args.makerPub

/-- The outputs after the maker's in what the taker signs. -/
def fixedOutputs (sats : UInt64 × UInt64) : DexFee → Except SpendError (List TransactionOutput)
  | .withBurn _ _ burnDestination => do
    return [← c.dexFeeStandardOutput sats.1, ← c.buildBurnOutput sats.2 burnDestination]
  | _ => return []

def genTakerPaymentSpendPreimage : Except SpendError (TxPreimageWithSig standardTypes) := do
  let takerOutput ← orError args.takerTx.outputs[0]?
    (.prevTxIsNotValid "taker-payment tx has no output 0")
  let fee ← c.htlcSpendFee.mapError .rpc
  let makerScriptPubkey ← orError (Builder.buildP2pkh args.makerAddress.toList) .panic
  let sats ← c.feeSats .numConversion args.dexFee
  let makerValue ← orError (makerValue takerOutput.value fee sats) .prevOutputTooLow
  let signer := c.unsigned args.takerTx takerOutput
    (⟨makerValue, makerScriptPubkey⟩ :: (← c.fixedOutputs sats args.dexFee))
  let redeem ← orError (c.takerPaymentRedeem args) .panic
  return ⟨signer, ← c.signInput signer redeem (c.spendSighash args.dexFee)⟩

/-- The checks of the outputs for the fee and for what is burnt. -/
def checkFixedOutputs (sats : UInt64 × UInt64) (expected actual : List TransactionOutput) :
    Except SpendError Unit :=
  match expected, actual with
  | [expectedFeeOut, expectedBurnOut], [feeOut, burnOut] => do
    check (feeOut.scriptPubkey ≠ expectedFeeOut.scriptPubkey)
      (.invalidPreimage "preimage output 1 script does not pay the dex-fee address")
    check (absDiff feeOut.value sats.1 > max (sats.1 / 10) 1)
      (.invalidPreimage ("preimage dex-fee output value " ++ toString feeOut.value ++
        " differs from expected " ++ toString sats.1 ++ " by more than 10%"))
    check (burnOut.scriptPubkey ≠ expectedBurnOut.scriptPubkey)
      (.invalidPreimage "preimage burn output script does not match expected destination")
    check (burnOut.value ≠ expectedBurnOut.value)
      (.invalidPreimage ("preimage burn output value " ++ toString burnOut.value ++
        " does not match expected " ++ toString expectedBurnOut.value))
  | _, _ => return ()

/-- How many outputs the taker signs. -/
def expectedOutputsLen : DexFee → ℕ
  | .withBurn .. => 3
  | _ => 1

/-- What a payment that is too low has to cover. -/
def belowText : DexFee → String
  | .noFee => "spend_fee"
  | .standard _ => "dex_fee + spend_fee"
  | .withBurn .. => "fee + burn + spend_fee"

variable (preimage : TxPreimageWithSig standardTypes)

def validateTakerPaymentSpendPreimage :
    Except SpendError Unit := do
  let takerOutput ← orError args.takerTx.outputs[0]?
    (.invalidPreimage "taker-payment tx has no output 0")
  let expectedFee ← c.htlcSpendFee.mapError .internalError
  let makerScriptPubkey ← orError (Builder.buildP2pkh args.makerAddress.toList) .panic
  let sats ← c.feeSats (.internalError "amount") args.dexFee
  let expectedMakerValue ← orError (makerValue takerOutput.value expectedFee sats)
    (.invalidPreimage ("taker-payment value below " ++ belowText args.dexFee))
  let signer := preimage.preimage
  check (signer.inputs.map (·.previousOutput) ≠ [⟨args.takerTx.hash c.hashes.sha256, 0⟩])
    (.invalidPreimage "preimage input does not spend the taker-payment outpoint")
  check (signer.outputs.length ≠ expectedOutputsLen args.dexFee) (.invalidPreimage ("expected " ++
    toString (expectedOutputsLen args.dexFee) ++ " output(s) in preimage, got " ++
    toString signer.outputs.length))
  let makerOutput ← orError signer.outputs[0]? .panic
  check (makerOutput.scriptPubkey ≠ makerScriptPubkey)
    (.invalidPreimage "preimage output 0 script does not pay the maker address")
  check (absDiff makerOutput.value expectedMakerValue > expectedMakerValue / 10)
    (.invalidPreimage ("preimage maker output value " ++ toString makerOutput.value ++
      " differs from expected " ++ toString expectedMakerValue ++
      " by more than 10% (fee tolerance)"))
  checkFixedOutputs sats (← c.fixedOutputs sats args.dexFee) signer.outputs.tail
  let redeem ← orError (c.takerPaymentRedeem args) .panic
  c.checkSignature args.takerPub preimage redeem (c.spendSighash args.dexFee)
    "taker signature does not verify against cooperative branch"

/-- The output that the maker adds to what the taker has signed. -/
def addedOutputs : DexFee → Except SpendError (List TransactionOutput)
  | .standard amount => do
    let dexFeeSat ← orError (c.sat (toDecimal c.digits amount)) .numConversion
    return [← c.dexFeeStandardOutput dexFeeSat]
  | _ => return []

/-- `sign_and_broadcast_taker_payment_spend`: the transaction that is sent. -/
def signAndBroadcastTakerPaymentSpend (secret : Bytes) : Except SpendError Transaction := do
  let _ ← c.htlcPubkey.mapError .signing
  let redeem ← orError (c.takerPaymentRedeem args) .panic
  let added ← c.addedOutputs args.dexFee
  let signer := { preimage.preimage with outputs := preimage.preimage.outputs ++ added }
  let sighashType := c.spendSighash args.dexFee
  let makerSig ← c.signInput signer redeem sighashType
  c.finish signer (buildTakerPaymentSpendCooperativeScriptSig makerSig preimage.signature secret
    sighashType.toUInt8 redeem)

end payment

/-! ## Spends with one signature -/

inductive ActualTxFee where
  | dynamic (feePerKb : UInt64)
  | fixedPerKb (satoshis : UInt64)

/-- What the network says about fees; the least fee of a relay is only asked for if the coin forces
it. -/
structure FeeRate where
  txFee : Except String ActualTxFee
  relayFee : Option (Except String UInt64)

def getHtlcSpendFee (rate : FeeRate) (txSize : UInt64) : Except String UInt64 := do
  let fee := match ← rate.txFee with
    | .dynamic feePerKb => feePerKb * txSize / 1000
    | .fixedPerKb satoshis =>
      satoshis * if txSize % 1000 = 0 then txSize / 1000 else txSize / 1000 + 1
  match rate.relayFee with
  | some relayFee => return max fee (← relayFee)
  | none => return fee

/-- The coin at a fee rate; the size is `DEFAULT_SWAP_TX_SPEND_SIZE`. -/
def atRate (rate : FeeRate) : SpendCoin := { c with htlcSpendFee := getHtlcSpendFee rate 305 }

/-- What else such a spend asks for: the script of the own address, and the clock of the chain. -/
structure Wallet where
  ownScript : Except String Bytes
  clock : Except String ChainClock
  isNav : Bool

variable (w : Wallet) (input : HtlcInput) (prev : Transaction)

def p2shSpendingTx (outputs : List TransactionOutput) :
    Except SpendError Transaction := do
  let clock ← w.clock.mapError .rpc
  let prevOutput ← orError prev.outputs[0]? .panic
  let signer := { c.unsigned prev prevOutput outputs with
    inputs := [⟨⟨prev.hash c.hashes.sha256, 0⟩, input.sequence, prevOutput.value, []⟩]
    lockTime := p2shTxLocktime clock input.lockTime
    strDZeel := if w.isNav then some "" else none }
  let signature ← c.signInput signer input.redeemScript (1 ||| c.forkId)
  c.finish signer (input.p2shSpendWithSignature c.forkId signature)

variable (prevTx : Bytes)

/-- The payment as it is read. -/
def readPayment : Except SpendError Transaction :=
  match (Chain.deserialize Transaction.deserialize prevTx).outcome with
  | .ok prev _ => .ok { prev with txHashAlgo := c.txHashAlgo }
  | .err _ => .error (.other "deserialize")
  | .crash => .error .panic

/-- All that is left goes to the own address. The subtraction is not checked. -/
def spendPayment (ownScript : Bytes) : Except SpendError Transaction := do
  let fee ← c.htlcSpendFee.mapError .rpc
  let output ← orError prev.outputs[0]? .panic
  c.p2shSpendingTx w input prev [⟨output.value - fee, ownScript⟩]

/-- `send_maker_spends_taker_payment`, `send_taker_spends_maker_payment`,
`send_taker_refunds_payment` and `send_maker_refunds_payment`, with the input that they make. -/
def sendSpend : Except SpendError Transaction := do
  let ownScript ← w.ownScript.mapError .other
  c.spendPayment w input (← c.readPayment prevTx) ownScript

def buildAndBroadcastMakerV2Spend : Except SpendError Transaction := do
  let prev ← c.readPayment prevTx
  c.spendPayment w input prev (← w.ownScript.mapError .other)

end SpendCoin

end CheetahDex.Utxo
