import CheetahDex.Chain.Header
import CheetahDex.Chain.Reader

/-!
# Transactions

One record serves the standard transactions, those with a time, and the overwintered ones with
shielded parts. The bytes do not say which kind they are: a reader is told, or tries three kinds one
after the other.
-/

namespace CheetahDex.Chain

open Lib Lib.Decoder

abbrev H64 := Vector UInt8 8

abbrev H512 := Vector UInt8 64

abbrev OutCipherText := Vector UInt8 80

abbrev ZkProofSapling := Vector UInt8 192

abbrev ZkProof := Vector UInt8 296

abbrev EncCipherText := Vector UInt8 580

abbrev CipherText := Vector UInt8 601

def witnessMarker : UInt8 := 0

def witnessFlag : UInt8 := 1

def maxListSize : ℕ := 8192

instance : Deserializable OutPoint where
  deserialize := do return ⟨← read, ← read⟩
  size := 36

/-! ## Inputs and outputs -/

structure TransactionInput where
  previousOutput : OutPoint
  scriptSig : Bytes
  sequence : UInt32
  scriptWitness : List Bytes
  deriving DecidableEq

def TransactionInput.hasWitness (input : TransactionInput) : Bool := !input.scriptWitness.isEmpty

-- the witness is written outside of the input
instance : Serializable TransactionInput where
  serialize input :=
    serialize input.previousOutput ++ serialize input.scriptSig ++ serialize input.sequence

instance : Deserializable TransactionInput where
  deserialize := do return ⟨← read, ← read, ← read, []⟩
  size := 88

structure TransactionOutput where
  value : UInt64
  scriptPubkey : Bytes
  deriving DecidableEq

instance : Serializable TransactionOutput where
  serialize output := serialize output.value ++ serialize output.scriptPubkey

instance : Deserializable TransactionOutput where
  deserialize := do return ⟨← read, ← read⟩
  size := 32

/-! ## Shielded parts -/

structure ShieldedSpend where
  cv : H256
  anchor : H256
  nullifier : H256
  rk : H256
  zkproof : ZkProofSapling
  spendAuthSig : H512
  deriving DecidableEq

instance : Serializable ShieldedSpend where
  serialize spend := serialize spend.cv ++ serialize spend.anchor ++ serialize spend.nullifier ++
    serialize spend.rk ++ serialize spend.zkproof ++ serialize spend.spendAuthSig

instance : Deserializable ShieldedSpend where
  deserialize := do return ⟨← read, ← read, ← read, ← read, ← read, ← read⟩
  size := 384

structure ShieldedOutput where
  cv : H256
  cmu : H256
  ephemeralKey : H256
  encCipherText : EncCipherText
  outCipherText : OutCipherText
  zkproof : ZkProofSapling
  deriving DecidableEq

instance : Serializable ShieldedOutput where
  serialize output := serialize output.cv ++ serialize output.cmu ++
    serialize output.ephemeralKey ++ serialize output.encCipherText ++
    serialize output.outCipherText ++ serialize output.zkproof

instance : Deserializable ShieldedOutput where
  deserialize := do return ⟨← read, ← read, ← read, ← read, ← read, ← read⟩
  size := 948

inductive JoinSplitProof where
  | phgr (proof : ZkProof)
  | groth (proof : ZkProofSapling)
  deriving DecidableEq

instance : Serializable JoinSplitProof where
  serialize
    | .phgr proof => serialize proof
    | .groth proof => serialize proof

structure JoinSplit where
  vPubOld : H64
  vPubNew : H64
  anchor : H256
  nullifiers : H256 × H256
  commitments : H256 × H256
  ephemeralKey : H256
  randomSeed : H256
  macs : H256 × H256
  zkproof : JoinSplitProof
  ciphertexts : CipherText × CipherText
  deriving DecidableEq

instance : Serializable JoinSplit where
  serialize js := serialize js.vPubOld ++ serialize js.vPubNew ++ serialize js.anchor ++
    serialize js.nullifiers.1 ++ serialize js.nullifiers.2 ++ serialize js.commitments.1 ++
    serialize js.commitments.2 ++ serialize js.ephemeralKey ++ serialize js.randomSeed ++
    serialize js.macs.1 ++ serialize js.macs.2 ++ serialize js.zkproof ++
    serialize js.ciphertexts.1 ++ serialize js.ciphertexts.2

variable (useGroth : Bool)

/-- The proof of a join split, of the kind that is told. -/
def readJoinSplitProof : Decoder JoinSplitProof :=
  if useGroth then do return .groth (← read) else do return .phgr (← read)

def deserializeJoinSplit : Decoder JoinSplit := do
  return {
    vPubOld := ← read
    vPubNew := ← read
    anchor := ← read
    nullifiers := (← read, ← read)
    commitments := (← read, ← read)
    ephemeralKey := ← read
    randomSeed := ← read
    macs := (← read, ← read)
    zkproof := ← readJoinSplitProof useGroth
    ciphertexts := (← read, ← read) }

/-- The memory that one join split takes in a vector. -/
def joinSplitSize : ℕ := 1803

/-! ## Transactions -/

inductive TxHashAlgo where
  | dsha256
  | sha256
  deriving DecidableEq

structure Transaction where
  version : Int32
  nTime : Option UInt32
  overwintered : Bool
  versionGroupId : UInt32
  inputs : List TransactionInput
  outputs : List TransactionOutput
  lockTime : UInt32
  expiryHeight : UInt32
  shieldedSpends : List ShieldedSpend
  shieldedOutputs : List ShieldedOutput
  joinSplits : List JoinSplit
  valueBalance : Int64
  joinSplitPubkey : H256
  joinSplitSig : H512
  bindingSig : H512
  zcash : Bool
  strDZeel : Option String
  txHashAlgo : TxHashAlgo
  deriving DecidableEq

namespace Transaction

variable (tx : Transaction)

def hasWitness : Bool := tx.inputs.any (·.hasWitness)

/-- The witness envelope of `Serializable for Transaction`. -/
def serializeEnvelope : Bytes :=
  serialize tx.version ++ serialize witnessMarker ++ serialize witnessFlag ++
  serializeList tx.inputs ++ serializeList tx.outputs ++
  tx.inputs.flatMap (fun input => serializeList input.scriptWitness) ++ serialize tx.lockTime

/-- The witness-stripped path of `Serializable for Transaction`. -/
def serializeStripped : Bytes :=
  serialize (if tx.overwintered then tx.version ||| (1 : Int32) <<< (31 : Int32) else tx.version) ++
  (if tx.overwintered then serialize tx.versionGroupId else []) ++
  serializeSome tx.nTime ++
  serializeList tx.inputs ++ serializeList tx.outputs ++ serialize tx.lockTime ++
  (if tx.overwintered ∧ 3 ≤ tx.version then
    serialize tx.expiryHeight ++
    (if 4 ≤ tx.version then
      serialize tx.valueBalance ++ serializeList tx.shieldedSpends ++
      serializeList tx.shieldedOutputs
    else [])
  else []) ++
  (if tx.zcash then
    (if tx.version = 2 ∨ tx.overwintered then
      serializeList tx.joinSplits ++
      (if tx.joinSplits = [] then []
      else serialize tx.joinSplitPubkey ++ serialize tx.joinSplitSig)
    else []) ++
    (if 4 ≤ tx.version ∧ tx.overwintered ∧ ¬(tx.shieldedOutputs = [] ∧ tx.shieldedSpends = []) then
      serialize tx.bindingSig
    else [])
  else []) ++
  (match tx.strDZeel with
    | none => []
    | some s => serialize (⟨.ofNat s.utf8ByteSize⟩ : CompactInteger) ++ s.toUTF8.data.toList)

/-- `Serializable for Transaction`, on a stream that includes witnesses or not. -/
def serializeWith (includeTransactionWitness : Bool) (tx : Transaction) : Bytes :=
  if includeTransactionWitness && tx.hasWitness then tx.serializeEnvelope else tx.serializeStripped

-- `serialize` uses a stream without flags
instance : Serializable Transaction := ⟨serializeWith false⟩

variable (sha256 : Bytes → H256) (tx : Transaction)

def hash : H256 :=
  match tx.txHashAlgo with
  | .dsha256 => dhash256 sha256 (serialize tx)
  | .sha256 => sha256 (serialize tx)

def witnessHash : H256 := dhash256 sha256 (tx.serializeWith true)

end Transaction

inductive TxType where
  | standardWithWitness
  | zcash
  | posWithNTime
  deriving DecidableEq

/-! ## Reading one kind of transaction

The parts of `deserialize_tx`, in the order in which they are read. -/

/-- The version, whether the transaction is overwintered, and its version group. -/
def readVersion : Decoder (Int32 × Bool × UInt32) := do
  let header ← (read : Decoder Int32)
  if header >>> (31 : Int32) ≠ 0 then return (header &&& 0x7fffffff, true, ← read)
  else return (header, false, 0)

variable (txType : TxType)

/-- The time, of the transactions that have one. -/
def readNTime : Decoder (Option UInt32) :=
  if txType = .posWithNTime then do return some (← read) else return none

/-- The inputs, and whether they stand in a witness envelope. An empty list of inputs is the marker
of the envelope. -/
def readInputs (overwintered : Bool) : Decoder (List TransactionInput × Bool) := do
  let inputs ← readListMax TransactionInput maxListSize
  if inputs = [] ∧ overwintered = false ∧ txType = .standardWithWitness then do
    let flag ← (read : Decoder UInt8)
    if flag ≠ witnessFlag then fail .malformedData
    else return (← readListMax TransactionInput maxListSize, true)
  else return (inputs, false)

/-- The outputs, of which a standard transaction has at least one. -/
def readOutputs : Decoder (List TransactionOutput) := do
  let outputs ← readListMax TransactionOutput maxListSize
  if outputs = [] ∧ txType = .standardWithWitness then fail (.custom "Transaction has no output")
  else return outputs

/-- The inputs with their witnesses. -/
def readWitnesses : List TransactionInput → Decoder (List TransactionInput)
  | [] => return []
  | input :: inputs => do
    let scriptWitness ← readListMax Bytes maxListSize
    return { input with scriptWitness } :: (← readWitnesses inputs)

/-- The inputs as they are, or with the witnesses of their envelope. -/
def completeInputs (readWitness : Bool) (inputs : List TransactionInput) :
    Decoder (List TransactionInput) :=
  if readWitness then readWitnesses inputs else return inputs

/-- The expiry height, the value balance, and the shielded spends and outputs. -/
def readShielded (overwintered : Bool) (version : Int32) :
    Decoder (UInt32 × Int64 × List ShieldedSpend × List ShieldedOutput) :=
  if overwintered ∧ 3 ≤ version then do
    let expiryHeight ← read
    if 4 ≤ version then
      return (expiryHeight, ← read, ← readListMax ShieldedSpend maxListSize,
        ← readListMax ShieldedOutput maxListSize)
    else return (expiryHeight, 0, [], [])
  else return (0, 0, [], [])

/-- A join split that is pushed to a vector. A vector that doubles requests at most four times what
its elements take. -/
def readJoinSplit : Decoder JoinSplit := do
  let joinSplit ← deserializeJoinSplit useGroth
  request (4 * joinSplitSize)
  return joinSplit

/-- The join splits with their key and signature. -/
def readJoinSplits (hasJoinSplits : Bool) (version : Int32) :
    Decoder (List JoinSplit × H256 × H512) :=
  if hasJoinSplits then do
    let len ← (read : Decoder CompactInteger)
    if 0 < len.asUsize then
      if maxListSize < len.asUsize then fail .malformedData
      else return (← many (readJoinSplit (2 < version)) len.asUsize, ← read, ← read)
    else return ([], .replicate 32 0, .replicate 64 0)
  else return ([], .replicate 32 0, .replicate 64 0)

/-- The binding signature, of the transactions that have one. -/
def readBindingSig (hasBindingSig : Bool) : Decoder H512 :=
  if hasBindingSig then read else return .replicate 64 0

/-- The bytes as a string. -/
def fromUtf8 (buf : Bytes) : Decoder String :=
  match String.fromUTF8? ⟨buf.toArray⟩ with
  | none => fail .malformedData
  | some s => do
    request s.utf8ByteSize
    return s

/-- The string at the end of a transaction with a time. -/
def readStrDZeel : Decoder (Option String) :=
  if txType = .posWithNTime then do
    if ← finished then return none
    else do
      let len ← (read : Decoder CompactInteger)
      allocate len.asUsize 1
      let buf ← readSlice len.asUsize
      return some (← fromUtf8 buf)
  else return none

/-- The parts of a transaction before the string. -/
def readFields : Decoder Transaction := do
  let (version, overwintered, versionGroupId) ← readVersion
  let nTime ← readNTime txType
  let (inputs, readWitness) ← readInputs txType overwintered
  let outputs ← readOutputs txType
  let inputs ← completeInputs readWitness inputs
  let lockTime ← read
  let (expiryHeight, valueBalance, shieldedSpends, shieldedOutputs) ←
    readShielded overwintered version
  let zcash := overwintered || txType = .zcash
  let (joinSplits, joinSplitPubkey, joinSplitSig) ←
    readJoinSplits (zcash && (version = 2 || overwintered)) version
  let bindingSig ← readBindingSig (zcash && overwintered && decide (4 ≤ version) &&
    !(shieldedSpends.isEmpty && shieldedOutputs.isEmpty))
  return {
    version, nTime, overwintered, versionGroupId, inputs, outputs, lockTime, expiryHeight,
    shieldedSpends, shieldedOutputs, joinSplits, valueBalance, joinSplitPubkey, joinSplitSig,
    bindingSig, zcash, strDZeel := none, txHashAlgo := .dsha256 }

def deserializeTx : Decoder Transaction := do
  let tx ← readFields txType
  return { tx with strDZeel := ← readStrDZeel txType }

/-- `Deserializable for Transaction`: a copy of the rest of the input is read as one kind after the
other, and what is left of it is not looked at. -/
def Transaction.deserialize : Decoder Transaction := do
  let buf ← readToEnd fun len => 4 * len + 64
  orElse (onBuffer .standard buf (deserializeTx .standardWithWitness))
    (orElse (onBuffer .standard buf (deserializeTx .posWithNTime))
      (onBuffer .standard buf (deserializeTx .zcash)))

end CheetahDex.Chain
