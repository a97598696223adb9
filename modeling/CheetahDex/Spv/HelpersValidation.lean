import CheetahDex.Chain.Target
import CheetahDex.Lib.Checks

/-!
# The checks of an SPV proof

The inputs and outputs of the transaction are walked through by their lengths, and the branch of the
merkle tree is climbed. Lengths are `usize`: sums wrap at 64 bits.
-/

namespace CheetahDex.Spv

open Lib Chain

inductive SPVError where
  | readOverrun
  | badCompactInt
  | malformattedOutput
  | unableToGetTarget
  | unableToGetHeader
  | wrongLengthHeader
  | unexpectedDifficultyChange
  | insufficientWork
  | invalidChain
  | wrongDigest
  | wrongMerkleRoot
  | wrongPrevHash
  | invalidVin
  | invalidVout
  | badMerkleProof
  | unableToGetMerkle
  | invalidHeight
  | timeout

/-! ## Inputs and outputs -/

/-- Addition of `usize`. -/
def usizeAdd (a b : Nat) : Nat := (a + b) % 2 ^ 64

/-- The length of a record that has the length of its script at an offset, besides the script and
its length `fixed` bytes, and for which fewer than `least` bytes are an error. -/
def determineLength (least : Nat) (tooShort : SPVError) (scriptAt fixed : Nat) (record : Bytes) :
    Except SPVError Nat :=
  if record.length < least then .error tooShort
  else
    match parseCompactInt (record.drop scriptAt) with
    | .error _ => .error .badCompactInt
    | .ok scriptLen => .ok (usizeAdd (fixed + scriptLen.serializedLength) scriptLen.asUsize)

def determineInputLength : Bytes → Except SPVError Nat := determineLength 37 .readOverrun 36 40

def determineOutputLength : Bytes → Except SPVError Nat := determineLength 9 .malformattedOutput 8 8

variable (determine : Bytes → Except SPVError Nat)

/-- The loop over the records: the offset where the last one ends. -/
def walkRecords (vector : Bytes) : Nat → Nat → Option Nat
  | 0, offset => some offset
  | n + 1, offset =>
    if vector.length ≤ offset then none
    else
      match determine (vector.drop offset) with
      | .ok v => walkRecords vector n (usizeAdd offset v)
      | .error _ => none

/-- A vector of records is at least one of them, and nothing else. -/
def validateVector (vector : Bytes) : Bool :=
  match parseCompactInt vector with
  | .error _ => false
  | .ok n =>
    if n.asUsize = 0 then false
    else walkRecords determine vector n.asUsize n.serializedLength == some vector.length

def validateVin : Bytes → Bool := validateVector determineInputLength

def validateVout : Bytes → Bool := validateVector determineOutputLength

/-! ## The merkle branch -/

/-- `MerkleArray`: hashes without gaps. -/
structure MerkleArray where
  bytes : Bytes
  whole : bytes.length % 32 = 0

namespace MerkleArray

def new (slice : Bytes) : Except SPVError MerkleArray :=
  if h : slice.length % 32 = 0 then .ok ⟨slice, h⟩ else .error .badMerkleProof

def len (nodes : MerkleArray) : Nat := nodes.bytes.length / 32

def index (nodes : MerkleArray) (i : Nat) : Except SPVError H256 :=
  if h : nodes.bytes.length < (i + 1) * 32 then .error .badMerkleProof
  else .ok ⟨((nodes.bytes.drop (i * 32)).take 32).toArray, by
    rw [List.size_toArray, List.length_take, List.length_drop]
    omega⟩

end MerkleArray

section Merkle

variable (sha256 : Bytes → H256)

def hash256 (preimages : List Bytes) : H256 :=
  let digest := sha256 preimages.flatten
  sha256 digest.toList

def hash256MerkleStep (a b : H256) : H256 := hash256 sha256 [a.toList, b.toList]

/-- One turn of the loop of `verify_hash256_merkle`, on the current node and the rest of the index.
-/
def merkleTurn (nodes : MerkleArray) (acc : H256 × Nat) (i : Nat) :
    Except SPVError (H256 × Nat) := do
  let (current, idx) := acc
  let next ← nodes.index i
  let current :=
    if idx % 2 = 1 then hash256MerkleStep sha256 next current
    else hash256MerkleStep sha256 current next
  pure (current, idx / 2)

def verifyHash256Merkle (txid merkleRoot : H256) (intermediateNodes : MerkleArray) (index : Nat) :
    Except SPVError Unit := do
  let proofLen := intermediateNodes.len
  if (proofLen = 0 ∧ txid = merkleRoot) ∨ proofLen = 1 then return ()
  let (current, _) ←
    (List.range proofLen).foldlM (merkleTurn sha256 intermediateNodes) (txid, index)
  check (current ≠ merkleRoot) .badMerkleProof

def merkleProve (txid merkleRoot : H256) (intermediateNodes : List H256) (index : Nat) :
    Except SPVError Unit := do
  if txid = merkleRoot ∧ index = 0 ∧ intermediateNodes = [] then return ()
  let nodes ← MerkleArray.new (intermediateNodes.flatMap Vector.toList)
  verifyHash256Merkle sha256 txid merkleRoot nodes index

end Merkle

/-! ## Chains of headers -/

def validateHeaderWork (digest : H256) (target : ℕ) : Bool :=
  digest ≠ .replicate 32 0 && decide (ofLeBytes digest.toList < target)

section Headers

variable {Tx : Type} [Serializable Tx] (sha256 : Bytes → H256)
  (difficultyCheck constantDifficulty : Bool)

/-- One turn of the loop of `validate_headers`: the hash of the header and the target of the first
one. -/
def validateHeader (first : Bool) (previousHash : H256) (target : ℕ) (header : BlockHeader Tx) :
    Except SPVError (H256 × ℕ) := do
  let rawHeader := RawBlockHeader.ofHeader header
  let curTarget ← header.target.mapError fun _ => .unableToGetTarget
  let target := if first then curTarget else target
  check ((constantDifficulty = false ∧ difficultyCheck) ∧ curTarget ≠ target)
    .unexpectedDifficultyChange
  check (first = false ∧ rawHeader.parent ≠ previousHash) .invalidChain
  check (difficultyCheck ∧ validateHeaderWork (rawHeader.digest sha256) target = false)
    .insufficientWork
  return (rawHeader.digest sha256, target)

/-- The loop of `validate_headers`. -/
def validateHeadersFrom (first : Bool) (previousHash : H256) (target : ℕ) :
    List (BlockHeader Tx) → Except SPVError Unit
  | [] => return ()
  | header :: headers => do
    let (previousHash, target) ←
      validateHeader sha256 difficultyCheck constantDifficulty first previousHash target header
    validateHeadersFrom false previousHash target headers

def validateHeaders (headers : List (BlockHeader Tx)) : Except SPVError Unit :=
  validateHeadersFrom sha256 difficultyCheck constantDifficulty true (.replicate 32 0) 0 headers

end Headers

end CheetahDex.Spv
