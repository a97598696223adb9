import CheetahDex.Chain.Transaction
import CheetahDex.Lib.Checks
import CheetahDex.Script.Script

/-!
# Scripts of the swap payments

The redeem scripts of the payments of both protocols, the inputs that spend them, and the readers
that look for a secret in such an input or tell a claim from a refund.
-/

namespace CheetahDex.Utxo

open Chain (Bytes H256 Transaction TxHashAlgo)
open Script (Builder getInstruction iter)
open Lib (check leBytes orError)

abbrev H160 := Vector UInt8 20

/-- The hash functions. -/
structure Hashes where
  sha256 : Bytes → H256
  ripemd160 : Bytes → H160

def Hashes.dhash160 (h : Hashes) (bytes : Bytes) : H160 := h.ripemd160 (h.sha256 bytes).toList

inductive Public where
  | normal (key : Vector UInt8 65)
  | compressed (key : Vector UInt8 33)
  deriving DecidableEq

/-- The bytes of a `Public`. -/
def Public.bytes : Public → Bytes
  | normal key => key.toList
  | compressed key => key.toList

def sequenceFinal : UInt32 := 0xffffffff

inductive SecretHashAlgo where
  | dhash160
  | sha256

/-- `SecretHashAlgo::hash_secret`, which both state machines apply to the own secret. -/
def SecretHashAlgo.hashSecret (h : Hashes) (secret : Bytes) : SecretHashAlgo → Bytes
  | dhash160 => (h.dhash160 secret).toList
  | sha256 => (h.sha256 secret).toList

/-! ## Redeem scripts -/

def paymentScript (timeLock : UInt32) (secretHash : Bytes) (pub0 pub1 : Public) : Option Bytes :=
  Builder.default
    |>.pushOpcode .opIf
    |>.pushBytes (leBytes 4 timeLock.toNat)
    |>.pushOpcode .opCheckLockTimeVerify
    |>.pushOpcode .opDrop
    |>.pushBytes pub0.bytes
    |>.pushOpcode .opCheckSig
    |>.pushOpcode .opElse
    |>.pushOpcode .opSize
    |>.pushBytes [32]
    |>.pushOpcode .opEqualVerify
    |>.pushOpcode .opHash160
    |>.pushBytes secretHash
    |>.pushOpcode .opEqualVerify
    |>.pushBytes pub1.bytes
    |>.pushOpcode .opCheckSig
    |>.pushOpcode .opEndIf
    |>.intoScript

variable (h : Hashes)

def h160Of (secretHash32 : Bytes) : Bytes := (h.ripemd160 secretHash32).toList

variable (locktime : UInt32)

def takerFundingScript (takerSecretHash : Bytes) (takerPub makerPub : Public) :
    Option Bytes :=
  let secretH160 := h160Of h takerSecretHash
  Builder.default
    |>.pushOpcode .opIf
    |>.pushBytes (leBytes 4 locktime.toNat)
    |>.pushOpcode .opCheckLockTimeVerify
    |>.pushOpcode .opDrop
    |>.pushBytes takerPub.bytes
    |>.pushOpcode .opCheckSig
    |>.pushOpcode .opElse
    |>.pushOpcode .opIf
    |>.pushBytes takerPub.bytes
    |>.pushOpcode .opCheckSigVerify
    |>.pushBytes makerPub.bytes
    |>.pushOpcode .opCheckSig
    |>.pushOpcode .opElse
    |>.pushOpcode .opSize
    |>.pushBytes [32]
    |>.pushOpcode .opEqualVerify
    |>.pushOpcode .opHash160
    |>.pushBytes secretH160
    |>.pushOpcode .opEqualVerify
    |>.pushBytes takerPub.bytes
    |>.pushOpcode .opCheckSig
    |>.pushOpcode .opEndIf
    |>.pushOpcode .opEndIf
    |>.intoScript

def takerPaymentScript (makerSecretHash : Bytes) (takerPub makerPub : Public) :
    Option Bytes :=
  let secretH160 := h160Of h makerSecretHash
  Builder.default
    |>.pushOpcode .opIf
    |>.pushBytes (leBytes 4 locktime.toNat)
    |>.pushOpcode .opCheckLockTimeVerify
    |>.pushOpcode .opDrop
    |>.pushBytes takerPub.bytes
    |>.pushOpcode .opCheckSig
    |>.pushOpcode .opElse
    |>.pushOpcode .opSize
    |>.pushBytes [32]
    |>.pushOpcode .opEqualVerify
    |>.pushOpcode .opHash160
    |>.pushBytes secretH160
    |>.pushOpcode .opEqualVerify
    |>.pushBytes takerPub.bytes
    |>.pushOpcode .opCheckSigVerify
    |>.pushBytes makerPub.bytes
    |>.pushOpcode .opCheckSig
    |>.pushOpcode .opEndIf
    |>.intoScript

def makerPaymentScript (makerSecretHash takerSecretHash : Bytes)
    (makerPub takerPub : Public) : Option Bytes :=
  let makerH160 := h160Of h makerSecretHash
  let takerH160 := h160Of h takerSecretHash
  Builder.default
    |>.pushOpcode .opIf
    |>.pushBytes (leBytes 4 locktime.toNat)
    |>.pushOpcode .opCheckLockTimeVerify
    |>.pushOpcode .opDrop
    |>.pushBytes makerPub.bytes
    |>.pushOpcode .opCheckSig
    |>.pushOpcode .opElse
    |>.pushOpcode .opIf
    |>.pushOpcode .opSize
    |>.pushBytes [32]
    |>.pushOpcode .opEqualVerify
    |>.pushOpcode .opHash160
    |>.pushBytes makerH160
    |>.pushOpcode .opEqualVerify
    |>.pushBytes takerPub.bytes
    |>.pushOpcode .opCheckSig
    |>.pushOpcode .opElse
    |>.pushOpcode .opSize
    |>.pushBytes [32]
    |>.pushOpcode .opEqualVerify
    |>.pushOpcode .opHash160
    |>.pushBytes takerH160
    |>.pushOpcode .opEqualVerify
    |>.pushBytes makerPub.bytes
    |>.pushOpcode .opCheckSig
    |>.pushOpcode .opEndIf
    |>.pushOpcode .opEndIf
    |>.intoScript

inductive SwapTxTypeWithSecretHash where
  | takerOrMakerPayment (makerSecretHash : Bytes)
  | takerFunding (takerSecretHash : Bytes)
  | makerPaymentV2 (makerSecretHash takerSecretHash : Bytes)
  | takerPaymentV2 (makerSecretHash takerSecretHash : Bytes)

variable (timeLock : UInt32)

def SwapTxTypeWithSecretHash.redeemScript (firstPub secondPub : Public) :
    SwapTxTypeWithSecretHash → Option Bytes
  | takerOrMakerPayment makerSecretHash => paymentScript timeLock makerSecretHash firstPub secondPub
  | takerFunding takerSecretHash => takerFundingScript h timeLock takerSecretHash firstPub secondPub
  | takerPaymentV2 makerSecretHash _ =>
    takerPaymentScript h timeLock makerSecretHash firstPub secondPub
  | makerPaymentV2 makerSecretHash takerSecretHash =>
    makerPaymentScript h timeLock makerSecretHash takerSecretHash firstPub secondPub

/-! ## Inputs with one signature -/

/-- What a builder hands to `p2sh_spending_tx`, which signs the input with the builder's key. -/
structure HtlcInput where
  redeemScript : Bytes
  scriptData : Bytes
  sequence : UInt32
  lockTime : UInt32

/-- `p2sh_spend_with_signature` and the `script_sig` of its signature. -/
def HtlcInput.p2shSpendWithSignature (input : HtlcInput) (forkId : UInt32) (signature : Bytes) :
    Option Bytes := do
  let scriptSig := signature ++ [1 ||| forkId.toUInt8]
  let signaturePart ← Builder.default |>.pushData scriptSig |>.intoScript
  let redeemPart ← Builder.default |>.pushData input.redeemScript |>.intoScript
  return signaturePart ++ input.scriptData ++ redeemPart

/-- What `p2sh_tx_locktime` asks: the clock in seconds for KMD, the median time past otherwise. -/
structure ChainClock where
  isKmd : Bool
  now : UInt32
  mtp : UInt32

/-- The time of the chain in `p2sh_tx_locktime`. -/
def ChainClock.time (clock : ChainClock) : UInt32 :=
  if clock.isKmd then clock.now - 3600 + 2 * 777 else clock.mtp - 1

def p2shTxLocktime (clock : ChainClock) (htlcLocktime : UInt32) : UInt32 :=
  max clock.time htlcLocktime

/-- The spend that reveals the secret, whichever side makes it. -/
def spendsPayment (otherPub ownPub : Public) (secret : Bytes) :
    Option HtlcInput := do
  let scriptData ← Builder.default |>.pushData secret |>.pushOpcode .op0 |>.intoScript
  let redeemScript ← paymentScript timeLock (h.dhash160 secret).toList otherPub ownPub
  return ⟨redeemScript, scriptData, sequenceFinal, timeLock⟩

def sendMakerSpendsTakerPayment (takerPub ownPub : Public) (secret : Bytes) :
    Option HtlcInput :=
  spendsPayment h timeLock takerPub ownPub secret

def sendTakerSpendsMakerPayment (makerPub ownPub : Public) (secret : Bytes) :
    Option HtlcInput :=
  spendsPayment h timeLock makerPub ownPub secret

variable (redeemScript : Option Bytes)

/-- A refund by the time lock: one flag selects the first branch of the redeem script. -/
def refundsPayment (timeLock : UInt32) : Option HtlcInput := do
  let scriptData ← Builder.default |>.pushOpcode .op1 |>.intoScript
  return ⟨← redeemScript, scriptData, sequenceFinal - 1, timeLock⟩

def sendTakerRefundsPayment (makerPub ownPub : Public) (secretHash : Bytes) :
    Option HtlcInput :=
  refundsPayment (paymentScript timeLock secretHash ownPub makerPub) timeLock

def sendMakerRefundsPayment (takerPub ownPub : Public) (secretHash : Bytes) :
    Option HtlcInput :=
  refundsPayment (paymentScript timeLock secretHash ownPub takerPub) timeLock

def refundMakerPaymentV2Timelock (timeLock : UInt64) (txType : SwapTxTypeWithSecretHash)
    (ownPub takerPub : Public) : Option HtlcInput :=
  refundsPayment (txType.redeemScript h timeLock.toUInt32 ownPub takerPub) timeLock.toUInt32

def refundCombinedTakerPayment (timeLock : UInt64) (txType : SwapTxTypeWithSecretHash)
    (ownPub makerPub : Public) : Option HtlcInput :=
  refundsPayment (txType.redeemScript h timeLock.toUInt32 ownPub makerPub) timeLock.toUInt32

/-- `refund_taker_funding_timelock`: unlike the other refunds by a time lock it pushes two
flags. -/
def refundTakerFundingTimelock (timeLock : UInt64) (txType : SwapTxTypeWithSecretHash)
    (ownPub makerPub : Public) : Option HtlcInput := do
  let redeem ← txType.redeemScript h timeLock.toUInt32 ownPub makerPub
  let scriptData ← Builder.default |>.pushOpcode .op1 |>.pushOpcode .op0 |>.intoScript
  return ⟨redeem, scriptData, sequenceFinal - 1, timeLock.toUInt32⟩

/-- A spend with a secret out of two nested branches; the flag selects the inner one. -/
def spendsWithSecret (secret : H256) (inner : Script.Opcode) :
    Option HtlcInput := do
  let scriptData ← Builder.default |>.pushData secret.toList |>.pushOpcode inner
    |>.pushOpcode .op0 |>.intoScript
  return ⟨← redeemScript, scriptData, sequenceFinal, 0⟩

variable (timeLock : UInt64) (makerSecretHash takerSecretHash : Bytes)

def refundMakerPaymentV2Secret (takerSecret : H256) (ownPub takerPub : Public) : Option HtlcInput :=
  spendsWithSecret ((SwapTxTypeWithSecretHash.makerPaymentV2 makerSecretHash takerSecretHash)
    |>.redeemScript h timeLock.toUInt32 ownPub takerPub) takerSecret .op0

def spendMakerPaymentV2 (makerSecret : H256) (makerPub ownPub : Public) : Option HtlcInput :=
  spendsWithSecret
    (makerPaymentScript h timeLock.toUInt32 makerSecretHash takerSecretHash makerPub ownPub)
    makerSecret .op1

def refundTakerFundingSecret (fundingTimeLock : UInt64) (takerSecretHash : Bytes)
    (takerSecret : H256) (ownPub makerPub : Public) : Option HtlcInput :=
  spendsWithSecret (takerFundingScript h fundingTimeLock.toUInt32 takerSecretHash ownPub makerPub)
    takerSecret .op0

/-! ## Inputs with two signatures -/

def buildFundingSpendCooperativeScriptSig (makerSigDer takerSigDer : Bytes) (forkId : UInt32)
    (fundingRedeem : Bytes) : Option Bytes :=
  let sighashByte := (1 ||| forkId).toUInt8
  Builder.default
    |>.pushData (makerSigDer ++ [sighashByte])
    |>.pushData (takerSigDer ++ [sighashByte])
    |>.pushOpcode .op1
    |>.pushOpcode .op0
    |>.pushData fundingRedeem
    |>.intoScript

def buildTakerPaymentSpendCooperativeScriptSig (makerSigDer takerSigDer makerSecret : Bytes)
    (sighashByte : UInt8) (takerPaymentRedeem : Bytes) : Option Bytes :=
  Builder.default
    |>.pushData (makerSigDer ++ [sighashByte])
    |>.pushData (takerSigDer ++ [sighashByte])
    |>.pushData makerSecret
    |>.pushOpcode .op0
    |>.pushData takerPaymentRedeem
    |>.intoScript

/-! ## Looking for a secret -/

variable (secretHash : Bytes) (scriptSig : Bytes)

/-- What `extract_secret` does with one input: the secret, or the next input is tried. -/
def secretInInput : Option Bytes :=
  match getInstruction scriptSig 1 with
  | some (.ok instruction) =>
    if instruction.opcode ≠ .opPushBytes32 then none
    else instruction.data.bind fun secret =>
      if (h.dhash160 secret).toList ≠ secretHash then none else some secret
  | _ => none

/-- The errors of the two extractions. -/
inductive ExtractError where
  | deserialize
  | couldntExtractSecret
  | noInputs
  | secretNotFound

def extractSecret (secretHash spendTx : Bytes) : Except ExtractError Bytes :=
  match (Chain.deserialize Transaction.deserialize spendTx).outcome with
  | .ok tx _ =>
    match tx.inputs.findSome? fun input => secretInInput h secretHash input.scriptSig with
    | some secret => .ok secret
    | none => .error .couldntExtractSecret
  | _ => .error .deserialize

/-- What `extract_secret_v2` does with one instruction. -/
def secretInInstruction : Except Script.Error Script.Instruction → Option Bytes
  | .error _ => none
  | .ok instr =>
    if instr.opcode ≠ .opPushBytes32 then none
    else instr.data.bind fun push =>
      if push.length = 32 ∧ (h.dhash160 push).toList = secretHash then some push else none

/-- `extract_secret_v2`: the instructions before the first error are gone through. -/
def extractSecretV2 (spendTx : Transaction) : Except ExtractError Bytes :=
  match spendTx.inputs.head? with
  | none => .error .noInputs
  | some input =>
    match (iter input.scriptSig).findSome? (secretInInstruction h secretHash) with
    | some secret => .ok secret
    | none => .error .secretNotFound

/-! ## Telling a claim from a refund -/

inductive FoundSwapTxSpend where
  | spent (tx : Transaction)
  | refunded (tx : Transaction)
  deriving DecidableEq

/-- The errors of the search; `panic` is an index that there is not, or an assertion of the
builder. -/
inductive SearchError where
  | deserialize
  | panic
  | scriptMismatch
  | rpc (err : String)
  | noInstruction
  deriving DecidableEq

/-- Whether the instruction at a place could be read and has the opcode. -/
def hasOpcode (n : ℕ) (op : Script.Opcode) : Bool :=
  match getInstruction scriptSig n with
  | some (.ok i) => i.opcode = op
  | _ => false

/-- `search_for_swap_output_spend`, with the transaction that the network names as the spend. -/
def searchForSwapOutputSpend (txHashAlgo : TxHashAlgo) (timeLock : UInt32)
    (firstPub secondPub : Public) (secretHash tx : Bytes) (outputIndex : ℕ)
    (spend : Except String (Option Transaction)) :
    Except SearchError (Option FoundSwapTxSpend) :=
  match (Chain.deserialize Transaction.deserialize tx).outcome with
  | .ok tx _ => do
    let script ← orError (paymentScript timeLock secretHash firstPub secondPub) .panic
    let expected ← orError (Builder.buildP2sh (h.dhash160 script).toList) .panic
    let output ← orError tx.outputs[0]? .panic
    check (output.scriptPubkey ≠ expected) .scriptMismatch
    let _ ← orError tx.outputs[outputIndex]? .panic
    match ← spend.mapError .rpc with
    | none => return none
    | some spendingTx =>
      let tx := { spendingTx with txHashAlgo }
      let input ← orError tx.inputs[0]? .panic
      if hasOpcode input.scriptSig 2 .op0 then return some (.spent tx)
      else if hasOpcode input.scriptSig 1 .op1 then return some (.refunded tx)
      else .error .noInstruction
  | .err _ => .error .deserialize
  | .crash => .error .panic

end CheetahDex.Utxo
