import CheetahDex.Swap.DexFee
import CheetahDex.Utxo.SwapScripts

/-!
# The taker's fee on a UTXO coin

The outputs that pay the fee, the checks of the transaction builder on outputs, and the checks of
the maker on a transaction that should pay the fee.
-/

namespace CheetahDex.Utxo

open Chain (Bytes Transaction TransactionOutput serialize)
open Script (Builder instructionAt)
open Swap (DexFee DexFeeBurnDestination FeeCoin satFromBigDecimal toDecimal)
open Ordermatch (MmNumber)
open Lib (orError)

/-! ## Addresses -/

def Public.fromSlice (bytes : Bytes) : Option Public :=
  if h : bytes.length = 33 then some (.compressed ⟨bytes.toArray, by simpa using h⟩)
  else if h : bytes.length = 65 then some (.normal ⟨bytes.toArray, by simpa using h⟩)
  else none

def Public.addressHash (h : Hashes) (key : Public) : H160 := h.dhash160 key.bytes

/-- The hash in the address that `address_from_raw_pubkey` makes. -/
def addressFromRawPubkey (h : Hashes) (pubKey : Bytes) : Option H160 :=
  (Public.fromSlice pubKey).map (Public.addressHash h)

/-! ## Errors -/

/-- What is wrong with a fee or with a transaction that should pay it; `assertion` is a failed
assertion of the script builder. -/
inductive FeeError where
  | assertion
  | amount
  | feeAddress
  | burnAddress
  | emptyOutputs
  | outputValueLessThanDust (value dust : UInt64)
  | inputs (err : String)
  | wrongSender
  | rpc (err : String)
  | confirmedBefore (minBlock : UInt64)
  | notFromRpc (fromRpc : Bytes)
  | scriptMismatch (index : ℕ) (got expected : Bytes)
  | valueTooLow (index : ℕ) (value expected : UInt64)
  | noOutput (index : ℕ)
  | burnScriptMismatch (index : ℕ) (got expected : Bytes)
  | burnValueTooLow (index : ℕ) (value expected : UInt64)
  | noBurnOutput (index : ℕ)

/-- The smallest units that are sent for an amount. -/
def satOf (digits : ℕ) (coin : FeeCoin) (amount : MmNumber) : Except FeeError UInt64 :=
  orError ((satFromBigDecimal (toDecimal digits amount) coin.decimals).map UInt64.ofNat) .amount

/-- The script that pays to the hash of a key. -/
def p2pkh (hash : H160) : Except FeeError Bytes :=
  orError (Builder.buildP2pkh hash.toList) .assertion

/-- The script that nothing can spend. -/
def opReturnScript : Except FeeError Bytes :=
  orError (Builder.default.pushOpcode .opReturn).intoScript .assertion

/-! ## Sending -/

section sending

variable (h : Hashes) (digits : ℕ) (coin : FeeCoin)

def generateTakerFeeTxOutputs (dexFee : DexFee) (feeAddress : H160) :
    Except FeeError (List TransactionOutput) :=
  match dexFee with
  | .noFee => .ok []
  | .standard amount => do
    let sat ← satOf digits coin amount
    return [⟨sat, ← p2pkh feeAddress⟩]
  | .withBurn feeAmount burnAmount .kmdOpReturn => do
    let feeSat ← satOf digits coin feeAmount
    let burnSat ← satOf digits coin burnAmount
    let feeScript ← p2pkh feeAddress
    return [⟨feeSat, feeScript⟩, ⟨burnSat, ← opReturnScript⟩]
  | .withBurn feeAmount burnAmount (.preBurnAccount burnPubkey) => do
    let feeSat ← satOf digits coin feeAmount
    let burnSat ← satOf digits coin burnAmount
    let feeScript ← p2pkh feeAddress
    let burnAddress ← orError (addressFromRawPubkey h burnPubkey) .burnAddress
    return [⟨feeSat, feeScript⟩, ⟨burnSat, ← p2pkh burnAddress⟩]

end sending

/-- Whether the first opcode of a script is `OP_RETURN`. -/
def startsWithReturn (script : Bytes) : Bool :=
  match instructionAt script 0 with
  | .ok instruction => instruction.opcode == .opReturn
  | .error _ => false

/-- What `UtxoTxBuilder::build` has added up when it is through with the outputs. -/
structure OutputSums where
  sumOutputsValue : UInt64
  receivedByMe : UInt64

/-- The loop of `UtxoTxBuilder::build` over the outputs. -/
def sumOutputs (dust : UInt64) (changeScriptPubkey : Bytes) :
    OutputSums → List TransactionOutput → Except FeeError OutputSums
  | sums, [] => .ok sums
  | sums, output :: outputs =>
    if startsWithReturn output.scriptPubkey = false ∧ output.value < dust then
      .error (.outputValueLessThanDust output.value dust)
    else
      sumOutputs dust changeScriptPubkey
        ⟨sums.sumOutputsValue + output.value,
          if output.scriptPubkey = changeScriptPubkey then sums.receivedByMe + output.value
          else sums.receivedByMe⟩ outputs

/-- What `UtxoTxBuilder::build` checks of the outputs before it looks for inputs. -/
def checkOutputs (dust : UInt64) (changeScriptPubkey : Bytes) (outputs : List TransactionOutput) :
    Except FeeError OutputSums :=
  if outputs = [] then .error .emptyOutputs else sumOutputs dust changeScriptPubkey ⟨0, 0⟩ outputs

/-! ## Validating -/

def defaultFeeVout : ℕ := 0

variable (tx : Transaction) (index : ℕ)

def validateDexOutput (expectedAddr : H160) (expectedSat : UInt64) :
    Except FeeError Unit :=
  match tx.outputs[index]? with
  | some out => do
    let expectedScript ← p2pkh expectedAddr
    if out.scriptPubkey ≠ expectedScript then
      .error (.scriptMismatch index out.scriptPubkey expectedScript)
    else if out.value < expectedSat then .error (.valueTooLow index out.value expectedSat)
    else .ok ()
  | none => .error (.noOutput index)

def validateBurnOutput (expectedScript : Bytes) (expectedSat : UInt64) : Except FeeError Unit :=
  match tx.outputs[index]? with
  | some out =>
    if out.scriptPubkey ≠ expectedScript then
      .error (.burnScriptMismatch index out.scriptPubkey expectedScript)
    else if out.value < expectedSat then .error (.burnValueTooLow index out.value expectedSat)
    else .ok ()
  | none => .error (.noBurnOutput index)

section validating

variable (h : Hashes) (digits : ℕ) (coin : FeeCoin)

/-- The `expected_burn_script` of `validate_fee`. -/
def burnScript : DexFeeBurnDestination → Except FeeError Bytes
  | .kmdOpReturn => opReturnScript
  | .preBurnAccount burnPubkey => do
    let burnAddress ← orError (addressFromRawPubkey h burnPubkey) .burnAddress
    p2pkh burnAddress

/-- The checks of `validate_fee` on the outputs. -/
def validateFeeOutputs (tx : Transaction) (outputIndex : ℕ) (dexFee : DexFee) (address : H160) :
    Except FeeError Unit :=
  match dexFee with
  | .noFee => .ok ()
  | .standard amount => do
    let expectedSat ← satOf digits coin amount
    validateDexOutput tx outputIndex address expectedSat
  | .withBurn feeAmount burnAmount burnDestination => do
    let feeSat ← satOf digits coin feeAmount
    validateDexOutput tx outputIndex address feeSat
    let burnSat ← satOf digits coin burnAmount
    let expectedBurnScript ← burnScript h burnDestination
    validateBurnOutput tx (outputIndex + 1) expectedBurnScript burnSat

/-- Whether all inputs are signed by the sender, the transaction as the server has it, and whether
that was confirmed before the given block. -/
structure FeeAnswers where
  signedBySender : Except String Bool
  fromRpc : Except String Bytes
  confirmedBefore : Except String Bool

/-- An answer, or its error. -/
def answered {α : Type} (err : String → FeeError) : Except String α → Except FeeError α
  | .ok a => .ok a
  | .error e => .error (err e)

def validateFee (answers : FeeAnswers) (tx : Transaction) (outputIndex : ℕ) (dexFee : DexFee)
    (minBlockNumber : UInt64) (feeAddr : Bytes) : Except FeeError Unit := do
  let address ← orError (addressFromRawPubkey h feeAddr) .feeAddress
  if !(← answered .inputs answers.signedBySender) then .error .wrongSender
  else
    let fromRpc ← answered .rpc answers.fromRpc
    if ← answered .rpc answers.confirmedBefore then .error (.confirmedBefore minBlockNumber)
    else if fromRpc ≠ serialize tx ∧ fromRpc ≠ tx.serializeWith true then
      .error (.notFromRpc fromRpc)
    else validateFeeOutputs h digits coin tx outputIndex dexFee address

end validating

end CheetahDex.Utxo
