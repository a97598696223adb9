import CheetahDex.Chain.Merkle
import CheetahDex.Spv.SpvProof

/-!
# What a merkle proof proves

The loop of `verifyHash256Merkle` climbs the branch and compares with the root, and the branch of
any leaf of any tree is accepted. But a proof of exactly one node is accepted without being looked
at.
-/

namespace CheetahDex.Proof

open Lib Chain Spv List Merkle

variable (sha256 : Bytes → H256)

/-- The branch leads from the transaction to the root. -/
def LeadsTo (txid merkleRoot : H256) (nodes : List H256) (index : Nat) : Prop :=
  climb (merkleNodeHash sha256) txid nodes index = merkleRoot

/-! ## The array of nodes -/

variable (nodes : List H256)

theorem length_flatMap_toList : (nodes.flatMap Vector.toList).length = 32 * nodes.length := by
  induction nodes with
  | nil => rfl
  | cons node nodes ih =>
    rw [flatMap_cons, length_append, ih, Vector.length_toList, length_cons]
    omega

/-- The hashes of a list, one after the other. -/
def packed (nodes : List H256) : MerkleArray :=
  ⟨nodes.flatMap Vector.toList, by rw [length_flatMap_toList, Nat.mul_mod_right]⟩

theorem new_flatMap : MerkleArray.new (nodes.flatMap Vector.toList) = .ok (packed nodes) :=
  dif_pos (packed nodes).whole

theorem len_packed : (packed nodes).len = nodes.length := by
  rw [MerkleArray.len, packed, length_flatMap_toList, Nat.mul_div_cancel_left _ (by decide)]

variable {i : Nat} (h : i < nodes.length)

theorem take_drop_flatMap :
    ((nodes.flatMap Vector.toList).drop (i * 32)).take 32 = nodes[i].toList := by
  induction nodes generalizing i with
  | nil => simp at h
  | cons node nodes ih =>
    rw [flatMap_cons]
    cases i with
    | zero => rw [Nat.zero_mul, drop_zero, take_left' Vector.length_toList]; rfl
    | succ i =>
      have hsk : (i + 1) * 32 = node.toList.length + i * 32 := by
        rw [Vector.length_toList]
        omega
      rw [hsk, drop_length_add_append, getElem_cons_succ]
      exact ih (Nat.lt_of_succ_lt_succ h)

theorem index_packed : (packed nodes).index i = .ok nodes[i] := by
  have hln : ¬(packed nodes).bytes.length < (i + 1) * 32 := by
    rw [packed, length_flatMap_toList]
    omega
  rw [MerkleArray.index, dif_neg hln]
  refine congrArg Except.ok ?_
  rw [← Vector.toList_inj]
  exact take_drop_flatMap nodes h

/-! ## The loop -/

theorem hash256MerkleStep_eq : hash256MerkleStep sha256 = merkleNodeHash sha256 := by
  funext a b
  simp [hash256MerkleStep, hash256, merkleNodeHash, dhash256]

theorem merkleTurn_packed (acc : H256 × Nat) {i : Nat} (h : i < nodes.length) :
    merkleTurn sha256 (packed nodes) acc i =
      .ok (join (merkleNodeHash sha256) acc.2 acc.1 nodes[i], acc.2 / 2) := by
  unfold merkleTurn
  rw [index_packed nodes h, hash256MerkleStep_eq]
  rfl

/-- The loop climbs: after the first `done` nodes it goes on from where they lead. -/
theorem foldlM_merkleTurn (done : Nat) (rest : List H256) (hr : nodes.drop done = rest)
    (acc : H256 × Nat) :
    (List.range' done rest.length).foldlM (merkleTurn sha256 (packed nodes)) acc =
      .ok (climb (merkleNodeHash sha256) acc.1 rest acc.2, acc.2 / 2 ^ rest.length) := by
  induction rest generalizing done acc with
  | nil => simp [climb, pure, Except.pure]
  | cons node rest ih =>
    have hlt : done < nodes.length := by
      by_contra hge
      rw [drop_of_length_le (Nat.le_of_not_lt hge)] at hr
      simp at hr
    rw [drop_eq_getElem_cons hlt] at hr
    obtain ⟨hno, hnd⟩ := List.cons.inj hr
    rw [length_cons, range'_succ, foldlM_cons, merkleTurn_packed sha256 nodes acc hlt, hno]
    refine (ih (done + 1) hnd _).trans ?_
    rw [climb, Nat.div_div_eq_div_mul, ← Nat.pow_succ']

/-- **A proof is accepted exactly if it consists of one node or leads to the root.** -/
theorem merkleProve_eq_ok_iff (txid merkleRoot : H256) (nodes : List H256) (index : Nat) :
    merkleProve sha256 txid merkleRoot nodes index = .ok () ↔
      nodes.length = 1 ∨ LeadsTo sha256 txid merkleRoot nodes index := by
  have hvr : verifyHash256Merkle sha256 txid merkleRoot (packed nodes) index = .ok () ↔
      nodes.length = 1 ∨ LeadsTo sha256 txid merkleRoot nodes index := by
    unfold verifyHash256Merkle LeadsTo
    rw [len_packed]
    dsimp only
    rw [range_eq_range', foldlM_merkleTurn sha256 nodes 0 nodes rfl (txid, index)]
    split
    · rename_i hsh
      refine iff_of_true rfl ?_
      rcases hsh with ⟨hn, heq⟩ | hone
      · -- without nodes the transaction is the root
        rw [length_eq_zero_iff] at hn
        subst hn
        exact .inr heq
      · exact .inl hone
    · rename_i hln
      have hone : nodes.length ≠ 1 := fun hone => hln (.inr hone)
      simp only [hone, false_or]
      exact check_eq_ok_iff.trans not_not
  unfold merkleProve
  split
  · rename_i hlf
    obtain ⟨heq, -, rfl⟩ := hlf
    exact iff_of_true rfl (.inr heq)
  · rw [new_flatMap]
    exact hvr

/-! ## Whole proofs -/

variable {Tx : Type} [Serializable Tx] (proof : SPVProof Tx)

/-- What `validate` checks besides the branch. -/
def Formed : Prop :=
  validateVin proof.vin = true ∧ validateVout proof.vout = true ∧
    proof.confirmingHeader.hash sha256 = proof.rawHeader.digest sha256 ∧
    proof.confirmingHeader.merkleRootHash = proof.rawHeader.extractMerkleRoot ∧
    proof.confirmingHeader.previousHeaderHash = proof.rawHeader.parent

theorem validate_eq_ok_iff :
    proof.validate sha256 = .ok () ↔ Formed sha256 proof ∧
      merkleProve sha256 proof.txId proof.confirmingHeader.merkleRootHash proof.intermediateNodes
        proof.index = .ok () := by
  unfold SPVProof.validate SPVProof.validateBlockHeader Formed
  simp only [bind_assoc, check_bind_iff, Bool.not_eq_true', Bool.not_eq_false, ne_eq, not_not,
    and_assoc]

section Forge

variable {Tx : Type} [Serializable Tx]

/-- A header with nothing but the merkle root. -/
def bareHeader (merkleRoot : H256) : BlockHeader Tx :=
  { version := 1, previousHeaderHash := .replicate 32 0, merkleRootHash := merkleRoot
    hashFinalSaplingRoot := none, time := 0, bits := .compact ⟨0⟩, nonce := .u32 0, solution := none
    auxPow := none, progPow := none, mtpPow := none, isVerus := false, hashStateRoot := none
    hashUtxoRoot := none, prevoutStake := none, vchBlockSigDlgt := none, nHeight := none
    nNonceU64 := none, mixHash := none }

/-- A proof with that header, one input and one output. -/
def bareProof (txId merkleRoot : H256) (nodes : List H256) (index : Nat) : SPVProof Tx :=
  { txId, index, vin := 1 :: .replicate 41 0, vout := 1 :: .replicate 9 0
    confirmingHeader := bareHeader merkleRoot
    rawHeader := .ofHeader (bareHeader merkleRoot : BlockHeader Tx)
    intermediateNodes := nodes }

end Forge

/-- **Acceptance, by `merkleProve` or by `validate`, means that the branch leads to the root exactly
if a single node does; and the branch of every leaf is accepted.** -/
theorem merkleProof_sound_iff {Tx : Type} [Serializable Tx] (sha256 : Bytes → H256)
    (txid merkleRoot : H256) (nodes : List H256) (index : Nat) (leaves : List H256)
    (position : Fin leaves.length) :
    (((merkleProve sha256 txid merkleRoot nodes index = .ok () →
          LeadsTo sha256 txid merkleRoot nodes index) ∧
        ∀ proof : SPVProof Tx, proof.txId = txid →
          proof.confirmingHeader.merkleRootHash = merkleRoot → proof.intermediateNodes = nodes →
          proof.index = index → proof.validate sha256 = .ok () →
          LeadsTo sha256 txid merkleRoot nodes index) ↔
      ∀ node, nodes = [node] → join (merkleNodeHash sha256) index txid node = merkleRoot) ∧
    ∃ root, Chain.merkleRoot sha256 leaves = some root ∧
      merkleProve sha256 leaves[position] root
        (branch (merkleNodeHash sha256) leaves position) position = .ok () := by
  refine ⟨⟨fun h node hno => ?_, fun h => ?_⟩, ?_⟩
  · subst hno
    exact h.1 ((merkleProve_eq_ok_iff sha256 _ _ _ _).2 (.inl rfl))
  · -- `validate` accepts only what `merkleProve` accepts
    have hsnd : merkleProve sha256 txid merkleRoot nodes index = .ok () →
        LeadsTo sha256 txid merkleRoot nodes index := by
      intro hac
      rcases (merkleProve_eq_ok_iff sha256 _ _ _ _).1 hac with hone | hld
      · obtain ⟨node, rfl⟩ := length_eq_one_iff.1 hone
        exact h node rfl
      · exact hld
    refine ⟨hsnd, fun proof htx hrt hnd hin hval => hsnd ?_⟩
    have hpr := ((validate_eq_ok_iff sha256 proof).1 hval).2
    rwa [htx, hrt, hnd, hin] at hpr
  · have hlf : leaves[(position : Nat)]? = some leaves[position] :=
      getElem?_eq_getElem position.isLt
    exact ⟨_, (merkleRoot_eq sha256 leaves).trans (climb_branch hlf),
      (merkleProve_eq_ok_iff sha256 _ _ _ _).2 (.inr rfl)⟩

set_option maxRecDepth 8000 in
/-- A proof of one node is valid for a transaction and a root that have nothing to do with each
other, whatever the hash function is. -/
theorem oneNode_accepted :
    ((bareProof (.replicate 32 0) (.replicate 32 1) [.replicate 32 0] 0 : SPVProof H256).validate
        (fun _ => .replicate 32 0) = .ok () ∧
      ¬LeadsTo (fun _ => .replicate 32 0) (.replicate 32 0) (.replicate 32 1) [.replicate 32 0] 0) ∧
    ¬∃ sha256 : Bytes → H256, ∀ txid merkleRoot nodes index,
      merkleProve sha256 txid merkleRoot nodes index = .ok () →
        LeadsTo sha256 txid merkleRoot nodes index := by
  refine ⟨⟨rfl, by unfold LeadsTo; decide⟩, ?_⟩
  rintro ⟨sha256, hsnd⟩
  -- one node leads to one root, and both these are accepted
  have hrt : ∀ root, LeadsTo sha256 (.replicate 32 0) root [.replicate 32 0] 0 := fun root =>
    hsnd _ root _ 0 ((merkleProve_eq_ok_iff sha256 _ _ _ _).2 (.inl rfl))
  exact absurd ((hrt (.replicate 32 0)).symm.trans (hrt (.replicate 32 1))) (by decide)

end CheetahDex.Proof
