import CheetahDex.Spv.HelpersValidation

/-!
# SPV proofs

That a transaction is in a block: the block's header, parsed and as bytes, and the branch of the
merkle tree from the transaction up to the root in the header.
-/

namespace CheetahDex.Spv

open Lib Chain

structure SPVProof (Tx : Type) where
  txId : H256
  vin : Bytes
  vout : Bytes
  index : Nat
  confirmingHeader : BlockHeader Tx
  rawHeader : RawBlockHeader
  intermediateNodes : List H256

namespace SPVProof

variable {Tx : Type} [Serializable Tx] (sha256 : Bytes → H256) (proof : SPVProof Tx)

def validateBlockHeader : Except SPVError Unit := do
  check (proof.confirmingHeader.hash sha256 ≠ proof.rawHeader.digest sha256) .wrongDigest
  check (proof.confirmingHeader.merkleRootHash ≠ proof.rawHeader.extractMerkleRoot) .wrongMerkleRoot
  check (proof.confirmingHeader.previousHeaderHash ≠ proof.rawHeader.parent) .wrongPrevHash

def validate : Except SPVError Unit := do
  check (!validateVin proof.vin) .invalidVin
  check (!validateVout proof.vout) .invalidVout
  proof.validateBlockHeader sha256
  merkleProve sha256 proof.txId proof.confirmingHeader.merkleRootHash proof.intermediateNodes
    proof.index

end SPVProof

end CheetahDex.Spv
