import CheetahDex.Chain.HeaderReader
import CheetahDex.Chain.TransactionWire

/-!
# The wire form of block headers

A header is its head, a solution or the proof of a merged-mined block, and a tail. In the proof
stands a transaction and then the header of the parent chain.
-/

namespace CheetahDex.Chain

open Lib Lib.Decoder List BlockHeader
open CompactInteger (Spelling Shortest)
open Wire (text Fits)

variable {env : CoinVariant} {input rest : Bytes}

/-! ## Parts -/

/-- The text of a field that is there or not. -/
def optionText {α : Type} (fieldText : α → Text) (field : Option α) : Text :=
  field.elim [] fieldText

theorem accepts_optional {α : Type} {d : Decoder α} {Ok : α → Prop} {fieldText : α → Text}
    (hd : Accepts d Ok fieldText) (present : Bool) :
    Accepts (optional present d) (fun field => field.isSome = present ∧ ∀ a ∈ field, Ok a)
      (optionText fieldText) := by
  intro env input field rest
  unfold optional optionText
  simp only [reads_ite, reads_bind, reads_pure, hd, stands_iff]
  cases field with
  | none => simp [stands_nil]
  | some a => grind

theorem spell_optionText {α : Type} [Serializable α] [Deserializable α] [Wire α]
    (field : Option α) : spell serialize (optionText text field) = serializeSome field := by
  cases field with
  | none => rfl
  | some a => exact (Wire.serialize_eq a).symm

theorem reads_progPow {pow : ProgPow} :
    Reads read env input pow rest ↔ input = serialize pow ++ rest := by
  obtain ⟨nHeight, nNonce64, mixHash⟩ := pow
  show Reads (do return ⟨← read, ← read, ← read⟩ : Decoder ProgPow) env input _ rest ↔ _
  simp only [reads_bind, reads_vector, reads_uint32, reads_uint64, reads_pure, ProgPow.mk.injEq]
  simp only [serialize, append_assoc]
  grind

theorem reads_mtpPow {pow : MtpPow} :
    Reads read env input pow rest ↔ input = serialize pow ++ rest := by
  obtain ⟨nVersionMtp, mtpHashValue, reserved0, reserved1⟩ := pow
  show Reads (do return ⟨← read, ← read, ← read, ← read⟩ : Decoder MtpPow) env input _ rest ↔ _
  simp only [reads_bind, reads_vector, reads_int32, reads_pure, MtpPow.mk.injEq]
  simp only [serialize, append_assoc]
  grind

instance : Wire ProgPow := .ofReads reads_progPow

instance : Wire MtpPow := .ofReads reads_mtpPow

instance : Wire MerkleBranch where
  text branch := listText branch.branchHashes ++ [.raw (serialize branch.branchSideMask)]
  Fits branch := branch.branchHashes.length * 32 ≤ isizeMax
  serialize_eq branch := by
    show serializeList _ ++ _ = _
    rw [serializeList_eq, spell_append]
    simp
  accepts := by
    intro env input branch rest
    obtain ⟨hashes, mask⟩ := branch
    show Reads (do return ⟨← readList H256, ← read⟩ : Decoder MerkleBranch) env input _ rest ↔ _
    have hlt : isizeMax < 2 ^ 64 := by decide
    simp only [reads_bind, accepts_readList, reads_int32, reads_pure, MerkleBranch.mk.injEq, Fits,
      Deserializable.size, implies_true, and_true, stands_iff, stands_append, stands_raw]
    grind

/-! ## The head -/

namespace BlockHeader

/-- The fields of the head. -/
def headOnly (header : BlockHeader Transaction) : BlockHeader Transaction := { header with
  solution := none, auxPow := none, progPow := none, mtpPow := none, hashStateRoot := none
  hashUtxoRoot := none, prevoutStake := none, vchBlockSigDlgt := none, nHeight := none
  nNonceU64 := none, mixHash := none }

/-- Whether the nonce of a header of some version and time stands in the head. -/
def nonceInHead (version time : UInt32) : Bool :=
  !(version == mtpPowVersion && decide (progPowSwitchTime ≤ time)) && version != kawpowVersion

variable (header : BlockHeader Transaction)

/-- The forms of the fields of a head that is read. -/
structure HeadFits : Prop where
  verus : if header.isVerus then header.version = 4 else header.version ^^^ verusVersionBit ≠ 4
  sapling : header.hashFinalSaplingRoot.isSome = (header.version == 4)
  bits : if header.version = 4 then ∃ n, header.bits = .u32 n else ∃ c, header.bits = .compact c
  nonce : if header.version = 4 then ∃ n, header.nonce = .h256 n
    else ∃ n, header.nonce = .u32 n ∧ (nonceInHead header.version header.time = false → n = 0)

/-- The head as it is written. -/
def headBytes : Bytes :=
  Chain.serialize (if header.isVerus then header.version ^^^ verusVersionBit else header.version) ++
  Chain.serialize header.previousHeaderHash ++ Chain.serialize header.merkleRootHash ++
  serializeSome header.hashFinalSaplingRoot ++ Chain.serialize header.time ++
  Chain.serialize header.bits ++
  (if nonceInHead header.version header.time then Chain.serialize header.nonce else [])

end BlockHeader

theorem reads_readBits {version : UInt32} {bits : BlockHeaderBits} :
    Reads (readBits version) env input bits rest ↔
      (if version = 4 then ∃ n, bits = .u32 n else ∃ c, bits = .compact c) ∧
      input = serialize bits ++ rest := by
  unfold readBits
  cases bits <;> split <;> simp [reads_bind, reads_uint32, serialize]
  grind

theorem reads_readNonce {version time : UInt32} {nonce : BlockHeaderNonce} :
    Reads (readNonce version time) env input nonce rest ↔
      (if version = 4 then ∃ n, nonce = .h256 n
        else ∃ n, nonce = .u32 n ∧ (nonceInHead version time = false → n = 0)) ∧
      input = (if nonceInHead version time then serialize nonce else []) ++ rest := by
  have hpl : nonceInHead version time = false ↔
      version = kawpowVersion ∨ version = mtpPowVersion ∧ progPowSwitchTime ≤ time := by
    simp only [nonceInHead, Bool.and_eq_false_iff, Bool.not_eq_false', Bool.and_eq_true,
      beq_iff_eq, decide_eq_true_eq, bne_eq_false_iff_eq]
    exact or_comm
  have hfo : version = 4 → nonceInHead version time = true := by
    rintro rfl
    rw [← Bool.not_eq_false, hpl]
    rintro (h | ⟨h, _⟩) <;> exact absurd h (by decide)
  have hhs (n : H256) : serialize (BlockHeaderNonce.h256 n) = serialize n := rfl
  have hwo (n : UInt32) : serialize (BlockHeaderNonce.u32 n) = serialize n := rfl
  unfold readNonce
  simp only [reads_ite, ← hpl, reads_bind, reads_vector, reads_uint32, reads_pure]
  grind

namespace BlockHeader

/-- Which versions are read, with the bit that stands on the wire. -/
theorem wire_version {wire version : UInt32} {isVerus : Bool} :
    ((wire ^^^ verusVersionBit == 4) = isVerus ∧
      (if wire ^^^ verusVersionBit == 4 then wire ^^^ verusVersionBit else wire) = version) ↔
    (if isVerus then version = 4 else version ^^^ verusVersionBit ≠ 4) ∧
      wire = if isVerus then version ^^^ verusVersionBit else version := by
  cases isVerus with
  | true =>
    simp only [beq_iff_eq, if_true]
    constructor
    · rintro ⟨hfo, hver⟩
      rw [if_pos hfo] at hver
      subst hver
      exact ⟨hfo, by rw [UInt32.xor_assoc, UInt32.xor_self, UInt32.xor_zero]⟩
    · rintro ⟨rfl, rfl⟩
      decide
  | false =>
    simp only [beq_eq_false_iff_ne, beq_iff_eq, Bool.false_eq_true, if_false]
    constructor
    · rintro ⟨hne, hver⟩
      rw [if_neg hne] at hver
      subst hver
      exact ⟨hne, rfl⟩
    · rintro ⟨hne, rfl⟩
      exact ⟨hne, if_neg hne⟩

/-- What the reader of the head accepts. -/
theorem reads_readHead {header : BlockHeader Transaction} :
    Reads readHead env input header rest ↔
      header.HeadFits ∧ header = header.headOnly ∧ input = header.headBytes ++ rest := by
  have hsp : ∀ {present : Bool} {root : Option H256} {input rest},
      Reads (optional present (read : Decoder H256)) env input root rest ↔
        root.isSome = present ∧ input = serializeSome root ++ rest := by
    intro present root input rest
    rw [accepts_optional Wire.accepts]
    cases root <;> simp [optionText, text, Fits, serializeSome]
  unfold readHead
  simp only [reads_bind, reads_uint32, reads_vector, hsp, reads_readBits, reads_readNonce,
    reads_pure]
  constructor
  · rintro ⟨wire, _, rfl, prev, _, rfl, root, _, rfl, sapling, _, ⟨hsap, rfl⟩, time, _, rfl, bits,
      _,
      ⟨hbt, rfl⟩, nonce, _, ⟨hnn, rfl⟩, rfl, rfl⟩
    obtain ⟨hvr, hwr⟩ := wire_version.mp ⟨rfl, rfl⟩
    refine ⟨⟨hvr, hsap, hbt, hnn⟩, rfl, ?_⟩
    simp only [headBytes, ← hwr, append_assoc]
  · rintro ⟨h, hsl, rfl⟩
    obtain ⟨wire, hwr⟩ : ∃ wire, wire =
      if header.isVerus then header.version ^^^ verusVersionBit else header.version := ⟨_, rfl⟩
    obtain ⟨hvr, hver⟩ := wire_version.mpr ⟨h.verus, hwr⟩
    refine ⟨wire, _, ?_, header.previousHeaderHash, _, rfl, header.merkleRootHash, _, rfl,
      header.hashFinalSaplingRoot, _, ⟨?_, rfl⟩, header.time, _, rfl, header.bits, _,
      ⟨?_, rfl⟩, header.nonce, rest, ⟨?_, rfl⟩, ?_, rfl⟩
    · rw [hver]
      simp only [headBytes, ← hwr, append_assoc]
    · rw [hver]
      exact h.sapling
    · rw [hver]
      exact h.bits
    · rw [hver]
      exact h.nonce
    · rw [hver, hvr]
      exact hsl.symm

/-! ## The tail -/

/-- Whether the header has the fields of a stake on Qtum. -/
def isQtumStake (env : CoinVariant) (header : BlockHeader Transaction) : Bool :=
  header.version == qtumBlockHeaderVersion && env.isQtum

/-- The fields of the tail, each where its version has it. -/
structure TailFits (env : CoinVariant) (header : BlockHeader Transaction) : Prop where
  progPow : header.progPow.isSome = header.isProgPow
  mtpPow : header.mtpPow.isSome = (header.version == mtpPowVersion &&
    decide (header.time < progPowSwitchTime) && header.progPow.isNone)
  hashStateRoot : header.hashStateRoot.isSome = header.isQtumStake env
  hashUtxoRoot : header.hashUtxoRoot.isSome = header.isQtumStake env
  prevoutStake : header.prevoutStake.isSome = header.isQtumStake env
  vchBlockSigDlgt : header.vchBlockSigDlgt.isSome = header.isQtumStake env ∧
    ∀ sig ∈ header.vchBlockSigDlgt, sig.length ≤ isizeMax
  nHeight : header.nHeight.isSome = (header.version == kawpowVersion)
  nNonceU64 : header.nNonceU64.isSome = (header.version == kawpowVersion)
  mixHash : header.mixHash.isSome = (header.version == kawpowVersion)

variable (header : BlockHeader Transaction)

/-- The text of the tail. -/
def tailText : Text :=
  optionText text header.progPow ++ optionText text header.mtpPow ++
  optionText text header.hashStateRoot ++ optionText text header.hashUtxoRoot ++
  optionText text header.prevoutStake ++ optionText listText header.vchBlockSigDlgt ++
  optionText text header.nHeight ++ optionText text header.nNonceU64 ++
  optionText text header.mixHash

/-- The fields before the tail. -/
def frontOnly : BlockHeader Transaction := { header with
  progPow := none, mtpPow := none, hashStateRoot := none, hashUtxoRoot := none, prevoutStake := none
  vchBlockSigDlgt := none, nHeight := none, nNonceU64 := none, mixHash := none }

theorem accepts_byteList : Accepts (readList UInt8) (fun items => items.length ≤ isizeMax)
    listText := by
  intro env input items rest
  rw [accepts_readList]
  refine and_congr_left fun _ => ⟨fun h => ?_, fun h => ⟨?_, ?_, fun _ _ => trivial⟩⟩
  · exact (Nat.mul_one _).symm.trans_le h.2.1
  · exact h.trans_lt (by decide)
  · exact (Nat.mul_one _).trans_le h

theorem reads_readTail {front header : BlockHeader Transaction} (hfr : front = front.frontOnly) :
    Reads (readTail front) env input header rest ↔ header.TailFits env ∧
      front = header.frontOnly ∧
      ∃ bytes, input = bytes ++ rest ∧ Spells Spelling header.tailText bytes := by
  unfold readTail
  simp only [reads_bind, accepts_optional Wire.accepts, accepts_optional accepts_byteList,
    reads_environment, reads_pure, stands_iff, tailText, stands_append, Fits, implies_true,
    and_true]
  constructor
  · rintro ⟨progPow, _, ⟨hpr, h₁⟩, mtpPow, _, ⟨hmtp, h₂⟩, _, _, ⟨rfl, rfl⟩, state, _,
      ⟨hste, h₃⟩, utxo, _, ⟨hut, h₄⟩, stake, _, ⟨hst, h₅⟩, sig, _, ⟨hsig, h₆⟩, height, _,
      ⟨hht, h₇⟩, nonce, _, ⟨hnn, h₈⟩, mix, _, ⟨hmix, h₉⟩, rfl, rfl⟩
    exact ⟨⟨hpr, hmtp, hste, hut, hst, hsig, hht, hnn, hmix⟩, hfr,
      _, ⟨_, ⟨_, ⟨_, ⟨_, ⟨_, ⟨_, ⟨_, h₁, h₂⟩, h₃⟩, h₄⟩, h₅⟩, h₆⟩, h₇⟩, h₈⟩, h₉⟩
  · rintro ⟨h, rfl, _, ⟨_, ⟨_, ⟨_, ⟨_, ⟨_, ⟨_, ⟨_, h₁, h₂⟩, h₃⟩, h₄⟩, h₅⟩, h₆⟩, h₇⟩, h₈⟩, h₉⟩
    exact ⟨_, _, ⟨h.progPow, h₁⟩, _, _, ⟨h.mtpPow, h₂⟩, _, _, ⟨rfl, rfl⟩, _, _,
      ⟨h.hashStateRoot, h₃⟩, _, _, ⟨h.hashUtxoRoot, h₄⟩, _, _, ⟨h.prevoutStake, h₅⟩, _, _,
      ⟨h.vchBlockSigDlgt, h₆⟩, _, _, ⟨h.nHeight, h₇⟩, _, _, ⟨h.nNonceU64, h₈⟩, _, _,
      ⟨h.mixHash, h₉⟩, by cases header; rfl, rfl⟩

end BlockHeader

/-! ## Merged-mined blocks -/

/-- A header with a parent chain. -/
abbrev MergedProof := AuxPow Transaction (BlockHeader Transaction)

namespace AuxPow

variable (envelope : Bool) (aux : MergedProof)

/-- The parts of a proof before the header of the parent chain, as they are read. -/
@[mk_iff]
structure Legible : Prop where
  coinbaseTx : aux.coinbaseTx.Legible .standardWithWitness envelope
  strDZeel : aux.coinbaseTx.strDZeel = none
  coinbaseBranch : Fits aux.coinbaseBranch
  blockchainBranch : Fits aux.blockchainBranch

/-- The text of a proof before the header of the parent chain. -/
def text : Text :=
  aux.coinbaseTx.text envelope ++ [.raw (serialize aux.parentBlockHash)] ++
  Wire.text aux.coinbaseBranch ++ Wire.text aux.blockchainBranch

/-- The bytes spell a proof, if there is one, whatever the relations say of its numbers, its
envelope and the header of the parent chain. -/
def Spelled (P : CompactInteger → Bytes → Prop) (E : Bool → Prop)
    (Parent : BlockHeader Transaction → Bytes → Prop) : Option MergedProof → Bytes → Prop
  | none, bytes => bytes = []
  | some aux, bytes => ∃ envelope front parent, E envelope ∧ aux.Legible envelope ∧
      bytes = front ++ parent ∧ Spells P (aux.text envelope) front ∧
      Parent aux.parentBlockHeader parent

end AuxPow

theorem zeelFits_standard {strDZeel : Option String} :
    ZeelFits .standardWithWitness strDZeel rest ↔ strDZeel = none := by
  constructor
  · intro h
    cases strDZeel with
    | none => rfl
    | some s => exact nomatch h.placed rfl
  · rintro rfl
    exact ⟨nofun, nofun, nofun⟩

/-- A merged-mining proof is read as it is spelled, if the parent header is. -/
theorem reads_readAuxPow {readHeader : Decoder (BlockHeader Transaction)}
    {Parent : BlockHeader Transaction → Bytes → Prop}
    (hpar : ∀ {input header rest}, Reads readHeader env input header rest ↔
      ∃ bytes, input = bytes ++ rest ∧ Parent header bytes)
    {present : Bool} {aux : Option MergedProof} :
    Reads (optional present (readAuxPow readHeader)) env input aux rest ↔
      aux.isSome = present ∧ ∃ bytes, input = bytes ++ rest ∧
        AuxPow.Spelled Spelling (fun _ => True) Parent aux bytes := by
  have hbr : Accepts (read : Decoder MerkleBranch) Fits text := Wire.accepts
  unfold optional readAuxPow
  simp only [reads_ite, reads_bind, reads_pure, reads_deserializeTx, reads_vector, hbr,
    reads_request, zeelFits_standard, stands_iff]
  cases aux with
  | none => simp [AuxPow.Spelled]
  | some aux =>
    have hsd : (∃ bytes, input = bytes ++ rest ∧
        AuxPow.Spelled Spelling (fun _ => True) Parent (some aux) bytes) ↔
        ∃ envelope mid, aux.Legible envelope ∧ Stands (aux.text envelope) input mid ∧
          Reads readHeader env mid aux.parentBlockHeader rest := by
      simp only [AuxPow.Spelled, hpar, Stands]
      constructor
      · rintro ⟨_, rfl, envelope, front, parent, -, hleg, rfl, hfr, hpar⟩
        exact ⟨envelope, _, hleg, ⟨front, append_assoc .., hfr⟩, parent, rfl, hpar⟩
      · rintro ⟨envelope, _, hleg, ⟨front, rfl, hfr⟩, parent, rfl, hpar⟩
        exact ⟨_, (append_assoc ..).symm, envelope, front, parent, trivial, hleg, rfl, hfr, hpar⟩
    obtain ⟨tx, hash, branch, branch', parent⟩ := aux
    simp only [hsd, AuxPow.text, stands_append, stands_raw, AuxPow.legible_iff]
    grind

/-! ## Whole headers -/

namespace BlockHeader

/-- A header that is read, apart from the proof of a merged-mined block. -/
structure Legible (env : CoinVariant) (header : BlockHeader Transaction) : Prop where
  head : header.HeadFits
  solution : header.solution.isSome = (header.version == 4) ∧
    ∀ solution ∈ header.solution, solution.length ≤ isizeMax
  auxPow : header.auxPow.isSome = isAuxPowVersion header.version
  tail : header.TailFits env

/-- The bytes spell a header with fewer than so many parent chains above it. -/
def Spelled (P : CompactInteger → Bytes → Prop) (E : Bool → Prop) (env : CoinVariant) :
    ℕ → BlockHeader Transaction → Bytes → Prop
  | 0, _, _ => False
  | frames + 1, header, bytes => header.Legible env ∧ ∃ solution aux tail,
      bytes = header.headBytes ++ solution ++ aux ++ tail ∧
      Spells P (optionText listText header.solution) solution ∧
      AuxPow.Spelled P E (Spelled P E env frames) header.auxPow aux ∧
      Spells P header.tailText tail

/-- What the reader accepts. -/
theorem reads_deserialize {frames : ℕ} {header : BlockHeader Transaction} :
    Reads (deserialize frames) env input header rest ↔ ∃ bytes, input = bytes ++ rest ∧
      header.Spelled Spelling (fun _ => True) env frames bytes := by
  induction frames generalizing input header rest with
  | zero => simp [deserialize, Spelled]
  | succ frames ih =>
    unfold deserialize
    simp only [reads_bind, reads_readHead, accepts_optional accepts_byteList, reads_readAuxPow ih]
    constructor
    · rintro ⟨head, _, ⟨hhd, hsl, rfl⟩, solution, _, ⟨hsol, b₁, rfl, h₁⟩, aux, _,
        ⟨haux, b₂, rfl, h₂⟩, htl⟩
      obtain ⟨hft, hfr, b₃, rfl, h₃⟩ := (reads_readTail (by rw [hsl]; rfl)).mp htl
      cases head
      cases header
      obtain ⟨rfl, rfl, rfl, rfl, rfl, rfl, rfl, rfl, rfl, -, -, rfl, -⟩ := hfr
      refine ⟨_, ?_,
        ⟨⟨hhd.verus, hhd.sapling, hhd.bits, hhd.nonce⟩, hsol, haux, hft⟩, b₁, b₂, b₃,
        rfl, h₁, h₂, h₃⟩
      simp only [append_assoc]
      rfl
    · rintro ⟨_, rfl, hleg, b₁, b₂, b₃, rfl, h₁, h₂, h₃⟩
      have hhd := hleg.head
      refine ⟨header.headOnly, _, ⟨⟨hhd.verus, hhd.sapling, hhd.bits, hhd.nonce⟩, rfl, ?_⟩,
        header.solution, _, ⟨hleg.solution, b₁, rfl, h₁⟩, header.auxPow, _,
        ⟨hleg.auxPow, b₂, rfl, h₂⟩,
        (reads_readTail rfl).mpr ⟨hleg.tail, rfl, b₃, rfl, h₃⟩⟩
      simp only [append_assoc]
      rfl

end BlockHeader

end CheetahDex.Chain
