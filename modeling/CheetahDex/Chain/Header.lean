import CheetahDex.Chain.Codec

/-!
# Block headers

One record serves every chain. The fields after the nonce, and the final sapling root, are there on
some chains only.
-/

namespace CheetahDex.Chain

open Lib List

def mtpPowVersion : UInt32 := 0x20001000

def progPowSwitchTime : UInt32 := 1635228000

def kawpowVersion : UInt32 := 805306368

def verusVersionBit : UInt32 := 0x00010000

/-- `Compact`: a target in its packed form. -/
structure Compact where
  value : UInt32

instance : Serializable Compact := ⟨fun c => serialize c.value⟩

inductive BlockHeaderNonce where
  | u32 (nonce : UInt32)
  | h256 (nonce : H256)

instance : Serializable BlockHeaderNonce where
  serialize
    | .u32 nonce => serialize nonce
    | .h256 nonce => serialize nonce

inductive BlockHeaderBits where
  | compact (bits : Compact)
  | u32 (bits : UInt32)

instance : Serializable BlockHeaderBits where
  serialize
    | .compact bits => serialize bits
    | .u32 bits => serialize bits

structure OutPoint where
  hash : H256
  index : UInt32
  deriving DecidableEq

instance : Serializable OutPoint := ⟨fun o => serialize o.hash ++ serialize o.index⟩

structure MerkleBranch where
  branchHashes : List H256
  branchSideMask : Int32

instance : Serializable MerkleBranch where
  serialize branch := serializeList branch.branchHashes ++ serialize branch.branchSideMask

structure ProgPow where
  nHeight : UInt32
  nNonce64 : UInt64
  mixHash : H256

instance : Serializable ProgPow where
  serialize pow := serialize pow.nHeight ++ serialize pow.nNonce64 ++ serialize pow.mixHash

structure MtpPow where
  nVersionMtp : Int32
  mtpHashValue : H256
  reserved0 : H256
  reserved1 : H256

instance : Serializable MtpPow where
  serialize pow := serialize pow.nVersionMtp ++ serialize pow.mtpHashValue ++
    serialize pow.reserved0 ++ serialize pow.reserved1

/-- `AuxPow`, with the type of the parent chain's headers. -/
structure AuxPow (Tx Header : Type) where
  coinbaseTx : Tx
  parentBlockHash : H256
  coinbaseBranch : MerkleBranch
  blockchainBranch : MerkleBranch
  parentBlockHeader : Header

structure BlockHeader (Tx : Type) where
  version : UInt32
  previousHeaderHash : H256
  merkleRootHash : H256
  hashFinalSaplingRoot : Option H256
  time : UInt32
  bits : BlockHeaderBits
  nonce : BlockHeaderNonce
  solution : Option (List UInt8)
  auxPow : Option (AuxPow Tx (BlockHeader Tx))
  progPow : Option ProgPow
  mtpPow : Option MtpPow
  isVerus : Bool
  hashStateRoot : Option H256
  hashUtxoRoot : Option H256
  prevoutStake : Option OutPoint
  vchBlockSigDlgt : Option (List UInt8)
  nHeight : Option UInt32
  nNonceU64 : Option UInt64
  mixHash : Option H256

variable {Tx : Type} [Serializable Tx]

namespace BlockHeader

def isProgPow (header : BlockHeader Tx) : Bool :=
  header.version == mtpPowVersion && decide (progPowSwitchTime ≤ header.time)

/-- `Serializable for BlockHeader`. -/
def serialize : BlockHeader Tx → Bytes
  | header@⟨version, previousHeaderHash, merkleRootHash, hashFinalSaplingRoot, time, bits, nonce,
      solution, auxPow, progPow, mtpPow, isVerus, hashStateRoot, hashUtxoRoot, prevoutStake,
      vchBlockSigDlgt, nHeight, nNonceU64, mixHash⟩ =>
    Chain.serialize (if isVerus then version ^^^ verusVersionBit else version) ++
    Chain.serialize previousHeaderHash ++ Chain.serialize merkleRootHash ++
    serializeSome hashFinalSaplingRoot ++ Chain.serialize time ++ Chain.serialize bits ++
    (if !header.isProgPow && version != kawpowVersion then Chain.serialize nonce else []) ++
    (solution.elim [] serializeList) ++
    (match auxPow with
      | none => []
      | some ⟨coinbaseTx, parentBlockHash, coinbaseBranch, blockchainBranch, parentBlockHeader⟩ =>
        Chain.serialize coinbaseTx ++ Chain.serialize parentBlockHash ++
        Chain.serialize coinbaseBranch ++ Chain.serialize blockchainBranch ++
        parentBlockHeader.serialize) ++
    serializeSome progPow ++ serializeSome mtpPow ++ serializeSome hashStateRoot ++
    serializeSome hashUtxoRoot ++ serializeSome prevoutStake ++
    (vchBlockSigDlgt.elim [] serializeList) ++ serializeSome nHeight ++ serializeSome nNonceU64 ++
    serializeSome mixHash

def hash (sha256 : Bytes → H256) (header : BlockHeader Tx) : H256 :=
  dhash256 sha256 header.serialize

/-- The first two hashes stand at a fixed place. -/
theorem serialize_eq (header : BlockHeader Tx) : ∃ version rest, version.length = 4 ∧
    header.serialize =
      version ++ header.previousHeaderHash.toList ++ header.merkleRootHash.toList ++ rest := by
  cases header
  unfold BlockHeader.serialize
  simp only [append_assoc]
  exact ⟨_, _, length_leBytes 4 _, rfl⟩

end BlockHeader

/-! ## Raw headers -/

/-- `RawBlockHeader`: the bytes of a header, enough of them to hold its hashes. -/
structure RawBlockHeader where
  bytes : Bytes
  holdsHashes : 68 ≤ bytes.length

namespace RawBlockHeader

variable (raw : RawBlockHeader)

/-- The 32 bytes from an offset on. -/
def hashAt (offset : Nat) (h : offset ≤ 36) : H256 :=
  ⟨((raw.bytes.drop offset).take 32).toArray, by
    have hln := raw.holdsHashes
    rw [List.size_toArray, length_take, length_drop]
    omega⟩

def extractMerkleRoot : H256 := raw.hashAt 36 (by decide)

def parent : H256 := raw.hashAt 4 (by decide)

def digest (sha256 : Bytes → H256) (raw : RawBlockHeader) : H256 := dhash256 sha256 raw.bytes

/-- `From<BlockHeader> for RawBlockHeader`. -/
def ofHeader (header : BlockHeader Tx) : RawBlockHeader where
  bytes := header.serialize
  holdsHashes := by
    obtain ⟨version, rest, hver, heq⟩ := header.serialize_eq
    rw [heq]
    simp only [length_append, Vector.length_toList, hver]
    omega

theorem parent_ofHeader (header : BlockHeader Tx) :
    (ofHeader header).parent = header.previousHeaderHash := by
  obtain ⟨version, rest, hver, heq⟩ := header.serialize_eq
  have hbs : (ofHeader header).bytes = _ := heq
  rw [parent, ← Vector.toList_inj]
  simp only [hashAt, Vector.toList_mk, hbs, ← hver, append_assoc]
  rw [drop_left, take_left' Vector.length_toList]

end RawBlockHeader

end CheetahDex.Chain
