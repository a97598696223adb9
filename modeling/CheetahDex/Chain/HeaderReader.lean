import CheetahDex.Chain.Transaction

/-!
# Reading block headers

Which fields a header has depends on its version, on Qtum also on the variant of the coin. The proof
of a merged-mined block holds a header of the parent chain, which is read by a nested call; a thread
has room for some number of them, and one more ends the program.
-/

namespace CheetahDex.Chain

open Lib Lib.Decoder

def auxPowVersionDoge : UInt32 := 6422788

def auxPowVersionSys : UInt32 := 537919744

def qtumBlockHeaderVersion : UInt32 := 536870912

instance : Deserializable MerkleBranch where
  deserialize := do return ⟨← readList H256, ← read⟩
  size := 32

instance : Deserializable ProgPow where
  deserialize := do return ⟨← read, ← read, ← read⟩
  size := 48

instance : Deserializable MtpPow where
  deserialize := do return ⟨← read, ← read, ← read, ← read⟩
  size := 100

/-- A field that is read under a condition. -/
def optional {α : Type} (present : Bool) (decoder : Decoder α) : Decoder (Option α) :=
  if present then do return some (← decoder) else return none

/-- The bits, of the form that the version has. -/
def readBits (version : UInt32) : Decoder BlockHeaderBits :=
  if version = 4 then do return .u32 (← read) else do return .compact ⟨← read⟩

/-- The nonce, of the form that the version has. It stands elsewhere in some headers. -/
def readNonce (version time : UInt32) : Decoder BlockHeaderNonce :=
  if version = 4 then do return .h256 (← read)
  else if version = kawpowVersion ∨ version = mtpPowVersion ∧ progPowSwitchTime ≤ time then
    return .u32 0
  else do return .u32 (← read)

/-- The size of a header in memory. -/
def blockHeaderSize : ℕ := 976

/-- The proof of a merged-mined block, with a reader for the header of the parent chain. -/
def readAuxPow (readHeader : Decoder (BlockHeader Transaction)) :
    Decoder (AuxPow Transaction (BlockHeader Transaction)) := do
  let coinbaseTx ← deserializeTx .standardWithWitness
  let parentBlockHash ← read
  let coinbaseBranch ← read
  let blockchainBranch ← read
  let parentBlockHeader ← readHeader
  request blockHeaderSize
  return { coinbaseTx, parentBlockHash, coinbaseBranch, blockchainBranch, parentBlockHeader }

namespace BlockHeader

/-- Whether a version is one of those of merged-mined blocks. -/
def isAuxPowVersion (version : UInt32) : Bool :=
  version == auxPowVersionDoge || version == auxPowVersionSys

/-- The fields before the solution. -/
def readHead : Decoder (BlockHeader Transaction) := do
  let wire ← (read : Decoder UInt32)
  -- after the bit is toggled, the version of a Verus block is 4
  let isVerus := wire ^^^ verusVersionBit == 4
  let version := if isVerus then wire ^^^ verusVersionBit else wire
  let previousHeaderHash ← read
  let merkleRootHash ← read
  let hashFinalSaplingRoot ← optional (version == 4) read
  let time ← read
  let bits ← readBits version
  let nonce ← readNonce version time
  return {
    version, previousHeaderHash, merkleRootHash, hashFinalSaplingRoot, time, bits, nonce, isVerus
    solution := none, auxPow := none, progPow := none, mtpPow := none, hashStateRoot := none
    hashUtxoRoot := none, prevoutStake := none, vchBlockSigDlgt := none, nHeight := none
    nNonceU64 := none, mixHash := none }

/-- The fields after the proof of a merged-mined block. -/
def readTail (header : BlockHeader Transaction) : Decoder (BlockHeader Transaction) := do
  let progPow ← optional header.isProgPow read
  let mtpPow ← optional (header.version == mtpPowVersion && decide (header.time < progPowSwitchTime)
    && progPow.isNone) read
  let coinVariant ← environment
  let isQtum := header.version == qtumBlockHeaderVersion && coinVariant.isQtum
  let hashStateRoot ← optional isQtum read
  let hashUtxoRoot ← optional isQtum read
  let prevoutStake ← optional isQtum read
  let vchBlockSigDlgt ← optional isQtum (readList UInt8)
  let isKawpow := header.version == kawpowVersion
  let nHeight ← optional isKawpow read
  let nNonceU64 ← optional isKawpow read
  let mixHash ← optional isKawpow read
  return { header with
    progPow, mtpPow, hashStateRoot, hashUtxoRoot, prevoutStake, vchBlockSigDlgt, nHeight, nNonceU64
    mixHash }

/-- `Deserializable for BlockHeader`, on a stack with room for `frames` nested calls. -/
def deserialize : ℕ → Decoder (BlockHeader Transaction)
  | 0 => abort
  | frames + 1 => do
    let head ← readHead
    let solution ← optional (head.version == 4) (readList UInt8)
    let auxPow ← optional (isAuxPowVersion head.version) (readAuxPow (deserialize frames))
    readTail { head with solution, auxPow }

end BlockHeader

end CheetahDex.Chain
