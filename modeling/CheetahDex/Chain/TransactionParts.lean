import CheetahDex.Chain.Spelling
import CheetahDex.Chain.Transaction
import CheetahDex.Lib.SignBit

/-!
# The wire form of the parts of a transaction

What each reader of a part takes, with the text of the part.
-/

namespace CheetahDex.Chain

open Lib Lib.Decoder List Deserializable CompactInteger
open CompactInteger (Spelling Shortest)
open Wire (text Fits)

variable {env : CoinVariant} {input rest : Bytes}

/-! ## Records of fixed length -/

theorem reads_outPoint {o : OutPoint} :
    Reads read env input o rest ↔ input = serialize o ++ rest := by
  obtain ⟨hash, index⟩ := o
  show Reads (do return ⟨← read, ← read⟩ : Decoder OutPoint) env input _ rest ↔ _
  simp only [reads_bind, reads_vector, reads_uint32, reads_pure, OutPoint.mk.injEq]
  simp only [serialize, append_assoc]
  grind

theorem reads_shieldedSpend {spend : ShieldedSpend} :
    Reads read env input spend rest ↔ input = serialize spend ++ rest := by
  obtain ⟨cv, anchor, nullifier, rk, zkproof, spendAuthSig⟩ := spend
  show Reads (do return ⟨← read, ← read, ← read, ← read, ← read, ← read⟩ : Decoder ShieldedSpend)
    env input _ rest ↔ _
  simp only [reads_bind, reads_vector, reads_pure, ShieldedSpend.mk.injEq]
  simp only [serialize, append_assoc]
  grind

theorem reads_shieldedOutput {output : ShieldedOutput} :
    Reads read env input output rest ↔ input = serialize output ++ rest := by
  obtain ⟨cv, cmu, ephemeralKey, encCipherText, outCipherText, zkproof⟩ := output
  show Reads (do return ⟨← read, ← read, ← read, ← read, ← read, ← read⟩ : Decoder ShieldedOutput)
    env input _ rest ↔ _
  simp only [reads_bind, reads_vector, reads_pure, ShieldedOutput.mk.injEq]
  simp only [serialize, append_assoc]
  grind

instance : Wire OutPoint := .ofReads reads_outPoint

instance : Wire ShieldedSpend := .ofReads reads_shieldedSpend

instance : Wire ShieldedOutput := .ofReads reads_shieldedOutput

/-- Whether the proof is of the newer kind. -/
def JoinSplitProof.isGroth : JoinSplitProof → Bool
  | .phgr _ => false
  | .groth _ => true

theorem reads_joinSplitProof {useGroth : Bool} {proof : JoinSplitProof} :
    Reads (readJoinSplitProof useGroth) env input proof rest ↔
      proof.isGroth = useGroth ∧ input = serialize proof ++ rest := by
  cases proof <;> cases useGroth <;>
    simp [readJoinSplitProof, reads_bind, reads_vector, JoinSplitProof.isGroth] <;> rfl

theorem reads_deserializeJoinSplit {useGroth : Bool} {joinSplit : JoinSplit} :
    Reads (deserializeJoinSplit useGroth) env input joinSplit rest ↔
      joinSplit.zkproof.isGroth = useGroth ∧ input = serialize joinSplit ++ rest := by
  obtain ⟨vPubOld, vPubNew, anchor, ⟨nullifier₁, nullifier₂⟩, ⟨commitment₁, commitment₂⟩,
    ephemeralKey, randomSeed, ⟨mac₁, mac₂⟩, zkproof, ⟨ciphertext₁, ciphertext₂⟩⟩ := joinSplit
  unfold deserializeJoinSplit
  simp only [reads_bind, reads_vector, reads_joinSplitProof, reads_pure, JoinSplit.mk.injEq,
    Prod.mk.injEq]
  simp only [serialize, append_assoc]
  grind

/-! ## Inputs and outputs -/

instance : Wire TransactionInput where
  text i := [.raw (serialize i.previousOutput)] ++ bytesText i.scriptSig ++
    [.raw (serialize i.sequence)]
  Fits i := i.scriptSig.length ≤ bytesDecodeLimit ∧ i.scriptWitness = []
  serialize_eq i := by
    show _ ++ serialize i.scriptSig ++ _ = _
    rw [Wire.serialize_eq i.scriptSig]
    simp [text]
  accepts := by
    intro env input i rest
    obtain ⟨previousOutput, scriptSig, sequence, scriptWitness⟩ := i
    show Reads (do return ⟨← read, ← read, ← read, []⟩ : Decoder TransactionInput) env input _ rest
      ↔ _
    simp only [reads_bind, reads_outPoint, accepts_bytes, reads_uint32, reads_pure,
      TransactionInput.mk.injEq, stands_iff, stands_append, stands_raw]
    grind

instance : Wire TransactionOutput where
  text o := [.raw (serialize o.value)] ++ bytesText o.scriptPubkey
  Fits o := o.scriptPubkey.length ≤ bytesDecodeLimit
  serialize_eq o := by
    show _ ++ serialize o.scriptPubkey = _
    rw [Wire.serialize_eq o.scriptPubkey]
    simp [text]
  accepts := by
    intro env input o rest
    obtain ⟨value, scriptPubkey⟩ := o
    show Reads (do return ⟨← read, ← read⟩ : Decoder TransactionOutput) env input _ rest ↔ _
    simp only [reads_bind, reads_uint64, accepts_bytes, reads_pure, TransactionOutput.mk.injEq,
      stands_iff, stands_append, stands_raw]
    grind

/-! ## Parts of a transaction -/

/-- The version, with the flag of the overwintered transactions in its sign. -/
def versionText (version : Int32) (overwintered : Bool) (versionGroupId : UInt32) : Text :=
  if overwintered then
    [.raw (serialize (version ||| (1 : Int32) <<< (31 : Int32))), .raw (serialize versionGroupId)]
  else [.raw (serialize version)]

theorem accepts_readVersion : Accepts readVersion
    (fun v => 0 ≤ v.1 ∧ (v.2.1 = false → v.2.2 = 0)) fun v => versionText v.1 v.2.1 v.2.2 := by
  rintro env input ⟨version, overwintered, group⟩ rest
  unfold readVersion versionText
  simp only [reads_bind, reads_int32, reads_ite, shiftRight_ne_zero, reads_uint32, reads_pure,
    Prod.mk.injEq, Int32.not_lt, stands_iff]
  cases overwintered with
  | true =>
    simp only [if_true, stands_raw_cons, stands_nil]
    grind [and_mask_nonneg, and_or_sign, or_sign_lt_zero, or_sign_and]
  | false =>
    simp only [Bool.false_eq_true, if_false, stands_raw]
    grind

/-- The time. -/
def nTimeText : Option UInt32 → Text
  | none => []
  | some nTime => [.raw (serialize nTime)]

theorem accepts_readNTime (txType : TxType) :
    Accepts (readNTime txType) (fun nTime => nTime.isSome ↔ txType = .posWithNTime) nTimeText := by
  intro env input nTime rest
  unfold readNTime
  cases nTime <;> simp [reads_ite, reads_bind, reads_uint32, nTimeText]

/-- An input without its witness. -/
def TransactionInput.stripped (i : TransactionInput) : TransactionInput :=
  { i with scriptWitness := [] }

variable (inputs : List TransactionInput)

/-- A list of inputs that the reader takes. -/
def InputsFit : Prop :=
  inputs.length ≤ maxListSize ∧ ∀ i ∈ inputs, i.scriptSig.length ≤ bytesDecodeLimit

/-- A list of outputs that the reader takes. -/
def OutputsFit (outputs : List TransactionOutput) : Prop :=
  outputs.length ≤ maxListSize ∧ ∀ o ∈ outputs, o.scriptPubkey.length ≤ bytesDecodeLimit

theorem accepts_inputs : Accepts (readListMax TransactionInput maxListSize)
    (fun inputs => InputsFit inputs ∧ ∀ i ∈ inputs, i.scriptWitness = []) listText := by
  intro env input inputs rest
  rw [accepts_readListMax (by decide) (by decide)]
  simp only [Fits, InputsFit, forall_and, and_assoc]

/-- The inputs, behind the marker and the flag if they stand in an envelope. -/
def inputsText (envelope : Bool) (inputs : List TransactionInput) : Text :=
  if envelope then
    listText ([] : List TransactionInput) ++ [.raw (serialize witnessFlag)] ++ listText inputs
  else listText inputs

/-- An empty list of inputs is where the witness marker may stand. -/
theorem accepts_readInputs (txType : TxType) (overwintered : Bool) :
    Accepts (readInputs txType overwintered)
      (fun x => (InputsFit x.1 ∧ ∀ i ∈ x.1, i.scriptWitness = []) ∧
        (if x.2 then overwintered = false ∧ txType = .standardWithWitness
        else ¬(x.1 = [] ∧ overwintered = false ∧ txType = .standardWithWitness)))
      fun x => inputsText x.2 x.1 := by
  rintro env input ⟨inputs, envelope⟩ rest
  have hnil : InputsFit [] := ⟨Nat.zero_le _, forall_mem_nil _⟩
  unfold readInputs inputsText
  simp only [reads_bind, accepts_inputs, reads_ite, reads_uint8, reads_fail, and_false, false_or,
    reads_pure, Prod.mk.injEq, not_not, ne_eq, stands_iff]
  cases envelope with
  | true =>
    simp only [if_true, stands_append, stands_raw]
    grind
  | false => grind

theorem accepts_readOutputs (txType : TxType) : Accepts (readOutputs txType)
    (fun outputs => OutputsFit outputs ∧ ¬(outputs = [] ∧ txType = .standardWithWitness))
      listText := by
  intro env input outputs rest
  unfold readOutputs
  simp only [reads_bind, accepts_readListMax (by decide : maxListSize < 2 ^ 64)
    (by decide : maxListSize * size TransactionOutput ≤ isizeMax), reads_ite,
    reads_fail, and_false, false_or, reads_pure, stands_iff, OutputsFit, Fits]
  grind

/-- The witnesses of a list of inputs. -/
def witnessesText : Text := inputs.flatMap fun i => listText i.scriptWitness

/-- Witnesses that the reader takes. -/
def WitnessesFit : Prop :=
  ∀ i ∈ inputs, i.scriptWitness.length ≤ maxListSize ∧
    ∀ item ∈ i.scriptWitness, item.length ≤ bytesDecodeLimit

theorem accepts_readWitnesses : Accepts (readWitnesses inputs)
    (fun inputs' => inputs'.map (·.stripped) = inputs.map (·.stripped) ∧ WitnessesFit inputs')
      witnessesText := by
  intro env input inputs' rest
  induction inputs generalizing input inputs' rest with
  | nil =>
    simp only [readWitnesses, reads_pure, map_nil, map_eq_nil_iff, stands_iff]
    grind [stands_nil, witnessesText, WitnessesFit]
  | cons i inputs ih =>
    simp only [readWitnesses, reads_bind, reads_pure, ih,
      accepts_readListMax (by decide : maxListSize < 2 ^ 64)
      (by decide : maxListSize * size Bytes ≤ isizeMax), stands_iff]
    cases inputs' with
    | nil => simp
    | cons i' inputs' =>
      have hi : i'.stripped = i.stripped ↔ { i with scriptWitness := i'.scriptWitness } = i' := by
        cases i
        cases i'
        simp [TransactionInput.stripped, eq_comm]
      simp only [map_cons, List.cons.injEq, hi, WitnessesFit, forall_mem_cons,
        witnessesText, flatMap_cons, stands_append, Fits]
      grind

variable (overwintered : Bool) (version : Int32)

/-- The expiry height, and from the fourth version on the shielded parts. -/
def shieldedText (expiryHeight : UInt32)
    (valueBalance : Int64) (spends : List ShieldedSpend) (outputs : List ShieldedOutput) : Text :=
  if overwintered ∧ 3 ≤ version then
    [.raw (serialize expiryHeight)] ++
    (if 4 ≤ version then [.raw (serialize valueBalance)] ++ listText spends ++ listText outputs
    else [])
  else []

theorem accepts_readShielded :
    Accepts (readShielded overwintered version)
      (fun x => (¬(overwintered ∧ 3 ≤ version) → x.1 = 0) ∧
        (¬(overwintered ∧ 3 ≤ version ∧ 4 ≤ version) → x.2 = (0, [], [])) ∧
        x.2.2.1.length ≤ maxListSize ∧ x.2.2.2.length ≤ maxListSize)
      fun x => shieldedText overwintered version x.1 x.2.1 x.2.2.1 x.2.2.2 := by
  rintro env input ⟨expiry, balance, spends, outputs⟩ rest
  unfold readShielded shieldedText
  by_cases h3 : overwintered = true ∧ 3 ≤ version
  · by_cases h4 : 4 ≤ version
    · simp only [h3, h4, if_true, and_self, reads_bind, reads_uint32, reads_int64,
        accepts_readListMax (by decide : maxListSize < 2 ^ 64)
        (by decide : maxListSize * size ShieldedSpend ≤ isizeMax),
        accepts_readListMax (by decide : maxListSize < 2 ^ 64)
        (by decide : maxListSize * size ShieldedOutput ≤ isizeMax), reads_pure,
        Prod.mk.injEq, Fits, implies_true, and_true, stands_iff, stands_append, stands_raw]
      grind
    · simp only [h3, h4, if_true, if_false, and_self, reads_bind, reads_uint32, reads_pure,
        Prod.mk.injEq, append_nil, stands_iff, stands_raw]
      grind
  · simp only [h3, if_false, reads_pure, Prod.mk.injEq, stands_iff, stands_nil]
    grind

theorem accepts_readJoinSplit (useGroth : Bool) : Accepts (readJoinSplit useGroth)
    (fun joinSplit => joinSplit.zkproof.isGroth = useGroth)
      fun joinSplit => [.raw (serialize joinSplit)] := by
  intro env input joinSplit rest
  unfold readJoinSplit
  simp only [reads_bind, reads_deserializeJoinSplit, reads_request, reads_pure, stands_iff,
    stands_raw]
  grind

/-- The list of join splits. -/
def joinSplitListText : List JoinSplit → Text :=
  countedText List.length (·.flatMap fun joinSplit => [.raw (serialize joinSplit)])

variable (hasJoinSplits : Bool)

/-- The join splits, and their key and signature if there are any. -/
def joinSplitsText (joinSplits : List JoinSplit) (pubkey : H256) (sig : H512) : Text :=
  if hasJoinSplits then
    joinSplitListText joinSplits ++
    (if joinSplits = [] then [] else [.raw (serialize pubkey), .raw (serialize sig)])
  else []

/-- What the reader gives for join splits, their key and their signature. -/
@[mk_iff]
structure JoinSplitsFit (version : Int32) (joinSplits : List JoinSplit)
    (pubkey : H256) (sig : H512) : Prop where
  absent : hasJoinSplits = false → joinSplits = []
  length : joinSplits.length ≤ maxListSize
  proofs : ∀ joinSplit ∈ joinSplits, joinSplit.zkproof.isGroth = decide (2 < version)
  unsigned : joinSplits = [] → pubkey = .replicate 32 0 ∧ sig = .replicate 64 0

theorem accepts_readJoinSplits (version : Int32) :
    Accepts (readJoinSplits hasJoinSplits version)
      (fun x => JoinSplitsFit hasJoinSplits version x.1 x.2.1 x.2.2)
      fun x => joinSplitsText hasJoinSplits x.1 x.2.1 x.2.2 := by
  rintro env input ⟨joinSplits, pubkey, sig⟩ rest
  unfold readJoinSplits joinSplitsText joinSplitListText
  cases hasJoinSplits with
  | false =>
    simp only [Bool.false_eq_true, if_false, reads_pure, Prod.mk.injEq, stands_iff, stands_nil,
      joinSplitsFit_iff]
    grind
  | true =>
    have hmax : maxListSize < 2 ^ 64 := by decide
    simp only [if_true, reads_bind, reads_ite, reads_fail, and_false, false_or,
      accepts_many (accepts_readJoinSplit _), reads_vector, reads_pure, Prod.mk.injEq, not_lt,
      stands_iff, stands_append, countedText, stands_number_cons env, joinSplitsFit_iff]
    split_ifs with hnil
    · simp only [hnil, stands_nil, flatMap_nil]
      grind [ofNat_asUsize, asUsize_ofNat]
    · simp only [stands_raw_cons, stands_nil]
      grind [ofNat_asUsize, asUsize_ofNat]

/-- The binding signature. -/
def bindingSigText (hasBindingSig : Bool) (sig : H512) : Text :=
  if hasBindingSig then [.raw (serialize sig)] else []

theorem accepts_readBindingSig (hasBindingSig : Bool) : Accepts (readBindingSig hasBindingSig)
    (fun sig => hasBindingSig = false → sig = .replicate 64 0) (bindingSigText hasBindingSig) := by
  intro env input sig rest
  unfold readBindingSig bindingSigText
  cases hasBindingSig with
  | true => simp [reads_vector]
  | false => simp [eq_comm]

end CheetahDex.Chain
