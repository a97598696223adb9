import CheetahDex.Chain.HeaderWire
import CheetahDex.Chain.TransactionKinds

/-!
# Decoding bytes from the network

Most lengths are checked before memory is requested for them, and then the memory is paid by the
bytes that follow. Four are not: that of the string at the end of a transaction with a time, that of
a solution, and those of the two branches in the proof of a merged-mined block. The sender also says
how deep headers of parent chains are nested.
-/

namespace CheetahDex.Chain

open Lib Lib.Decoder List
open CompactInteger (Spelling)

variable {env : CoinVariant} {input rest : Bytes}

/-! ## What the bytes announce -/

/-- The bytes start with a number. -/
def Counts (input : Bytes) (n : ℕ) : Prop :=
  ∃ (c : CompactInteger) (flag rest : Bytes), input = flag ++ rest ∧ Spelling c flag ∧ c.asUsize = n

/-- The length of the string, in bytes that are not read as a standard transaction. -/
def ZeelAnnounced (input : Bytes) (size : ℕ) : Prop :=
  ¬StartsWith .standardWithWitness input ∧
  ∃ (tx : Transaction) (envelope : Bool) (bytes rest : Bytes),
    tx.Legible .posWithNTime envelope ∧ input = bytes ++ rest ∧
    Spells Spelling (tx.fieldsText envelope) bytes ∧ Counts rest size

namespace BlockHeader

/-- The bytes start with the head of a header of some version. -/
def HeadedBy (Version : UInt32 → Prop) (input rest : Bytes) : Prop :=
  ∃ header : BlockHeader Transaction, header.HeadFits ∧ Version header.version ∧
    input = header.headBytes ++ rest

/-- The bytes start with a coinbase transaction, a hash and some number of branches. -/
def ProofFront (count : ℕ) (input rest : Bytes) : Prop :=
  ∃ (tx : Transaction) (envelope : Bool) (hash : H256) (branches : List MerkleBranch)
    (bytes : Bytes), tx.Legible .standardWithWitness envelope ∧ tx.strDZeel = none ∧
    branches.length = count ∧ (∀ branch ∈ branches, Wire.Fits branch) ∧ input = bytes ++ rest ∧
    Spells Spelling (tx.text envelope ++
      [.raw (Chain.serialize hash)] ++ branches.flatMap Wire.text) bytes

/-- The memory for a solution or for a branch, of the header or of one of so many parents. -/
def Announced : ℕ → Bytes → ℕ → Prop
  | 0, _, _ => False
  | frames + 1, input, size => ∃ rest,
      HeadedBy (· = 4) input rest ∧ Counts rest size ∨
      HeadedBy (isAuxPowVersion ·) input rest ∧ ∃ left,
        (∃ count < 2, ∃ n, ProofFront count rest left ∧ Counts left n ∧ size = n * 32) ∨
        ProofFront 2 rest left ∧ Announced frames left size

/-- At least so many parents are announced one in the other. -/
def Nested : ℕ → Bytes → Prop
  | 0, _ => True
  | frames + 1, input => ∃ rest left,
      HeadedBy (isAuxPowVersion ·) input rest ∧ ProofFront 2 rest left ∧ Nested frames left

end BlockHeader

/-! ## Numbers without a check -/

section lists

variable {α : Type} [Deserializable α]

variable {n : ℕ}

theorem counts_iff (env : CoinVariant) :
    Counts input n ↔ ∃ c rest, Reads (read : Decoder CompactInteger) env input c rest ∧
      c.asUsize = n := by
  simp only [reads_compactInteger, Counts]
  constructor
  · rintro ⟨c, flag, rest, heq, hfl, hn⟩
    exact ⟨c, rest, ⟨flag, heq, hfl⟩, hn⟩
  · rintro ⟨c, rest, ⟨flag, heq, hfl⟩, hn⟩
    exact ⟨c, flag, rest, heq, hfl, hn⟩

theorem demands_allocate {len size : ℕ} :
    Demands isizeMax (len * size) (allocate len size) env input where
  exceeds hlt := crashes_allocate.mpr hlt
  meets hle := by
    unfold allocate
    rw [if_neg (Nat.not_lt.mpr hle)]
    exact le_rfl

theorem demands_readList (α : Type) [Deserializable α] (h : Counts input n) :
    Demands isizeMax (n * Deserializable.size α) (readList α) env input := by
  obtain ⟨c, rest, hrd, rfl⟩ := (counts_iff env).mp h
  exact .bind_right hrd demands_allocate.bind_left

/-- A list is paid for up to its announced length. -/
theorem pays_readList {fixed rate most : ℕ} (hel : Paying fixed rate (read : Decoder α))
    (hcnt : ∀ n, Counts input n →
      n * Deserializable.size α ≤ isizeMax ∧ n * Deserializable.size α ≤ most) :
    Pays 0 (fixed + most) (rate + Deserializable.size α) (readList α) env input := by
  refine paying_compactInteger.bounded.then_pays fun c rest hrd => ?_
  obtain ⟨hft, hms⟩ := hcnt c.asUsize ((counts_iff env).mpr ⟨c, rest, hrd, rfl⟩)
  have hln : Consumes (c.asUsize * 1) (many (read : Decoder α) c.asUsize) :=
    consumes_many hel.consumes
  rw [Nat.mul_one] at hln
  unfold allocate
  rw [if_neg (Nat.not_lt.mpr hft)]
  exact ((hel.bounded.many.request_then hln (Deserializable.size α)).pays env rest).mono
    le_rfl (Nat.add_le_add_left hms fixed) le_rfl

end lists

/-! ## Transactions -/

variable {buf : Bytes} {most : ℕ}

theorem requested_fromUtf8_le : (fromUtf8 buf env input).requested ≤ buf.length := by
  unfold fromUtf8
  cases hs : String.fromUTF8? ⟨buf.toArray⟩ with
  | none => exact Nat.zero_le _
  | some s =>
    rw [fromUTF8_eq_some.mp hs, length_toUTF8]
    exact le_rfl

theorem reads_textOf {s : Option String}
    (h : Reads (do return some (← fromUtf8 buf) : Decoder (Option String)) env input s rest) :
    input = rest := by
  obtain ⟨s, mid, hs, h⟩ := reads_bind.mp h
  obtain ⟨_, rfl⟩ := reads_pure.mp h
  exact (reads_fromUtf8.mp hs).2

/-- The bytes of a string pay for its copy. -/
theorem bounded_text (n : ℕ) : Bounded 0 1 (do
    let buf ← readSlice n
    return some (← fromUtf8 buf) : Decoder (Option String)) := by
  refine bounded_of_pays fun env input => ?_
  have hsc : Pays (0 + n) 0 1 (readSlice n) env input :=
    (consumes_next.pays 1 (bounded_next _ _) env input).mono (by omega) le_rfl le_rfl
  refine hsc.spend (fun buf rest _ h => ?_) (fun buf rest hrd => ?_) fun buf s rest last h => ?_
  · rcases crashes_bind.mp h with h | ⟨_, _, _, h⟩
    · exact not_crashes_fromUtf8 h
    · exact not_crashes_pure h
  · rw [requested_map, ← (reads_next.mp hrd).1]
    exact requested_fromUtf8_le
  · rw [reads_textOf h]

variable {txType : TxType}

/-- A string is paid for up to its announced length. -/
theorem pays_readStrDZeel (hcnt : ∀ n, Counts input n → n ≤ isizeMax ∧ n ≤ most) :
    Pays 0 most 2 (readStrDZeel txType) env input := by
  unfold readStrDZeel
  split
  · refine bounded_finished.then_pays fun done rest hdn => ?_
    obtain ⟨_, rfl⟩ := reads_finished.mp hdn
    split
    · exact (bounded_pure none).pays env input
    · refine paying_compactInteger.bounded.then_pays fun c rest hrd => ?_
      obtain ⟨hft, hms⟩ := hcnt c.asUsize ((counts_iff env).mpr ⟨c, rest, hrd, rfl⟩)
      have hln : Consumes c.asUsize (do
          let buf ← readSlice c.asUsize
          return some (← fromUtf8 buf) : Decoder (Option String)) := by
        intro env input s rest h
        obtain ⟨buf, mid, hbuf, h⟩ := reads_bind.mp h
        rw [← reads_textOf h]
        exact consumes_next env input buf mid hbuf
      unfold allocate
      rw [Nat.mul_one, if_neg (Nat.not_lt.mpr hft)]
      have h := ((bounded_text c.asUsize).request_then hln 1).pays env rest
      rw [Nat.mul_one, Nat.zero_add] at h
      exact h.mono le_rfl hms le_rfl
  · exact (bounded_pure none).pays env input

theorem demands_readStrDZeel {n : ℕ} (h : Counts input n) :
    Demands isizeMax n (readStrDZeel .posWithNTime) env input := by
  have hmo : Reads (finished : Decoder Bool) env input false input := by
    obtain ⟨c, flag, rest, rfl, hfl, _⟩ := h
    refine reads_finished.mpr ⟨?_, rfl⟩
    simp [hfl.ne_nil]
  obtain ⟨c, rest, hrd, rfl⟩ := (counts_iff env).mp h
  have hrm : Demands isizeMax (c.asUsize * 1) (allocate c.asUsize 1) env rest := demands_allocate
  rw [Nat.mul_one] at hrm
  unfold readStrDZeel
  rw [if_pos rfl]
  exact .bind_right hmo (.bind_right hrd hrm.bind_left)

namespace Transaction

/-- What is announced is requested. -/
theorem demands_deserialize {size : ℕ} (h : ZeelAnnounced input size) :
    Demands isizeMax size Transaction.deserialize env input := by
  obtain ⟨hst, tx, envelope, bytes, rest, hleg, rfl, hsp, hcnt⟩ := h
  have hfs : Reads (readFields .posWithNTime) .standard (bytes ++ rest)
      { tx with strDZeel := none } rest :=
    reads_readFields.mpr ⟨rfl, envelope, hleg.of_strDZeel, bytes, rfl, hsp⟩
  have hpos : Demands isizeMax size (deserializeTx .posWithNTime) .standard (bytes ++ rest) :=
    .bind_right hfs (demands_readStrDZeel hcnt).bind_left
  have hfa : Fails (deserializeTx .standardWithWitness) .standard (bytes ++ rest) :=
    fails_deserializeTx.mpr ⟨nofun, hst⟩
  exact .bind_right (reads_readToEnd.mpr ⟨rfl, rfl⟩)
    (.orElse_right (fails_onBuffer.mpr hfa) hpos.onBuffer.orElse_left)

/-- Only what is announced over the limit ends the program. -/
theorem not_crashes_deserialize (h : ∀ size, ZeelAnnounced input size → size ≤ isizeMax) :
    ¬Crashes Transaction.deserialize env input := by
  unfold Transaction.deserialize
  simp only [crashes_bind, reads_readToEnd, crashes_orElse, crashes_onBuffer, fails_onBuffer,
    crashes_deserializeTx, fails_deserializeTx]
  rintro (hcr | ⟨_, _, ⟨rfl, rfl⟩, ⟨⟨⟩, _⟩ | ⟨⟨_, hst⟩, ⟨_, hov⟩ | ⟨_, ⟨⟩, _⟩⟩⟩)
  · cases hcr
  · obtain ⟨tx, envelope, bytes, flag, rest, n, hleg, heq, hsp, hfl, hbig⟩ := hov
    have hle := h n.asUsize ⟨hst, tx, envelope, bytes, flag ++ rest, hleg, heq, hsp, n,
      flag, rest, rfl, hfl, rfl⟩
    omega

section

variable (h : ∀ size, ZeelAnnounced input size → size ≤ isizeMax ∧ size ≤ most)

include h

/-- What one kind requests. -/
theorem requested_deserializeTx_le
    (htr : txType = .posWithNTime → ¬StartsWith .standardWithWitness input) :
    (deserializeTx txType env input).requested ≤
      fieldsFixed + most + fieldsRate * input.length := by
  have hfs : Bounded (fieldsFixed + most) fieldsRate (readFields txType) :=
    (bounded_readFields txType).mono (Nat.le_add_right _ _) le_rfl
  refine (hfs.pays env input).requested_bind_le fun tx rest hrd => ?_
  obtain ⟨_, envelope, hleg, bytes, rfl, hsp⟩ := reads_readFields.mp hrd
  rw [requested_map]
  by_cases hpos : txType = .posWithNTime
  · subst hpos
    have hcnt : ∀ n, Counts rest n → n ≤ isizeMax ∧ n ≤ most := fun n hn =>
      h n ⟨htr rfl, tx, envelope, bytes, rest, hleg, rfl, hsp, hn⟩
    have hle : (readStrDZeel .posWithNTime env rest).requested ≤ most + 2 * rest.length :=
      (pays_readStrDZeel hcnt).le
    have hrt : 2 * rest.length ≤ fieldsRate * rest.length := Nat.mul_le_mul_right _ (by decide)
    omega
  · unfold readStrDZeel
    rw [if_neg hpos]
    exact Nat.zero_le _

/-- A transaction is paid for by its bytes and by what was announced at most. -/
theorem requested_deserialize_le :
    (Transaction.deserialize env input).requested ≤
      3 * (fieldsFixed + most) + 64 + (3 * fieldsRate + 4) * input.length := by
  have hcp : Reads (readToEnd fun len => 4 * len + 64 : Decoder Bytes) env input input [] :=
    reads_readToEnd.mpr ⟨rfl, rfl⟩
  have hst : (deserializeTx .standardWithWitness .standard input).requested ≤
      fieldsFixed + most + fieldsRate * input.length := requested_deserializeTx_le h nofun
  have hzc : (deserializeTx .zcash .standard input).requested ≤
      fieldsFixed + most + fieldsRate * input.length := requested_deserializeTx_le h nofun
  unfold Transaction.deserialize
  rw [bind_of_reads hcp, Nat.add_mul, Nat.mul_assoc]
  show 4 * input.length + 64 + _ ≤ _
  by_cases hstr : StartsWith .standardWithWitness input
  · rw [orElse_of_not_fails, requested_onBuffer]
    · omega
    · rw [fails_onBuffer, fails_deserializeTx]
      exact fun h => h.2 hstr
  · have hpos : (deserializeTx .posWithNTime .standard input).requested ≤
        fieldsFixed + most + fieldsRate * input.length := requested_deserializeTx_le h fun _ => hstr
    refine (Nat.add_le_add_left (requested_orElse_le.trans
      (Nat.add_le_add_left requested_orElse_le _)) _).trans ?_
    rw [requested_onBuffer, requested_onBuffer, requested_onBuffer]
    omega

end

end Transaction

/-! ## Headers -/

namespace BlockHeader

theorem headedBy_iff (env : CoinVariant) {Version : UInt32 → Prop} :
    HeadedBy Version input rest ↔
      ∃ header, Reads readHead env input header rest ∧ Version header.version := by
  simp only [reads_readHead, HeadedBy]
  constructor
  · rintro ⟨header, h, hver, heq⟩
    exact ⟨header.headOnly, ⟨⟨h.verus, h.sapling, h.bits, h.nonce⟩, rfl, heq⟩, hver⟩
  · rintro ⟨header, ⟨h, _, heq⟩, hver⟩
    exact ⟨header, h, hver, heq⟩

variable {count : ℕ} {version : UInt32} {limit : ℕ} {frames : ℕ}

theorem proofFront_iff : ProofFront count input rest ↔
    ∃ (tx : Transaction) (envelope : Bool) (hash : H256) (branches : List MerkleBranch),
      tx.Legible .standardWithWitness envelope ∧ tx.strDZeel = none ∧
      branches.length = count ∧ (∀ branch ∈ branches, Wire.Fits branch) ∧
      Stands (tx.text envelope ++ [.raw (Chain.serialize hash)] ++
        branches.flatMap Wire.text) input rest := by
  simp only [ProofFront, Stands, exists_and_left]

theorem proofFront_zero_iff (env : CoinVariant) : ProofFront 0 input rest ↔
    ∃ tx hash mid, Reads (deserializeTx .standardWithWitness) env input tx mid ∧
      Reads (read : Decoder H256) env mid hash rest := by
  simp only [proofFront_iff, reads_deserializeTx, zeelFits_standard, reads_vector, stands_iff,
    length_eq_zero_iff]
  grind [stands_append, stands_raw]

theorem proofFront_succ_iff (env : CoinVariant) : ProofFront (count + 1) input rest ↔
    ∃ mid branch, ProofFront count input mid ∧
      Reads (read : Decoder MerkleBranch) env mid branch rest := by
  have hbr : Accepts (read : Decoder MerkleBranch) Wire.Fits Wire.text := Wire.accepts
  simp only [proofFront_iff, hbr, stands_iff]
  constructor
  · rintro ⟨tx, envelope, hash, branches, hleg, hno, hlen, hft, hss⟩
    rcases eq_nil_or_concat' branches with rfl | ⟨branches, branch, rfl⟩
    · cases hlen
    · rw [flatMap_append, flatMap_singleton, ← append_assoc, stands_append] at hss
      obtain ⟨mid, hfr, hl⟩ := hss
      rw [forall_mem_append, forall_mem_singleton] at hft
      rw [length_append] at hlen
      exact ⟨mid, branch, ⟨tx, envelope, hash, branches, hleg, hno, Nat.succ.inj hlen,
        hft.1, hfr⟩, hft.2, hl⟩
  · rintro ⟨mid, branch, ⟨tx, envelope, hash, branches, hleg, hno, rfl, hft, hfr⟩, hfit, hl⟩
    refine ⟨tx, envelope, hash, branches ++ [branch], hleg, hno, length_append, ?_, ?_⟩
    · rw [forall_mem_append, forall_mem_singleton]
      exact ⟨hft, hfit⟩
    · rw [flatMap_append, flatMap_singleton, ← append_assoc, stands_append]
      exact ⟨mid, hfr, hl⟩

variable {d : Decoder α} {present : Bool} {α : Type}
  {readHeader : Decoder (BlockHeader Transaction)} {fixed rate : ℕ}

theorem pays_optional (h : present = true → Pays 0 fixed rate d env input) :
    Pays 0 fixed rate (optional present d) env input := by
  unfold optional
  split
  · next hpr => exact (h hpr).bind fun a rest _ => (bounded_pure (some a)).pays env rest
  · exact (bounded_pure none).pays env input

theorem bounded_optional (h : Bounded fixed rate d) : Bounded fixed rate (optional present d) :=
  bounded_of_pays fun env input => pays_optional fun _ => h.pays env input

/-- The head is read without a request. -/
theorem paying_readHead : Paying 0 0 readHead := by
  have hbt : ∀ version, Bounded 0 0 (readBits version) := fun _ =>
    .ite paying_uint32.map.bounded paying_uint32.map.bounded
  have hnn : ∀ version time, Bounded 0 0 (readNonce version time) := fun _ _ =>
    .ite paying_vector.map.bounded (.ite (bounded_pure _) paying_uint32.map.bounded)
  exact paying_uint32.bind fun _ => paying_vector.bounded.bind fun _ => paying_vector.bounded.bind
    fun _ => (bounded_optional paying_vector.bounded).bind fun _ => paying_uint32.bounded.bind
    fun _ => (hbt _).bind fun _ => (hnn _ _).bind fun _ => bounded_pure _

/-- What a header requests at most when it fails, if so much was announced at most. -/
def failing (most : ℕ) : ℕ := fieldsFixed + most

theorem pays_readBranch (h : ∀ n, Counts input n → n * 32 ≤ isizeMax ∧ n * 32 ≤ most) :
    Pays 0 (failing most) fieldsRate (read : Decoder MerkleBranch) env input := by
  have hhs : Paying 0 0 (read : Decoder H256) := paying_vector
  have hls : Pays 0 (failing most) fieldsRate (readList H256) env input :=
    (pays_readList hhs h).mono le_rfl (by unfold failing; omega) (by decide)
  exact hls.bind fun _ rest _ => paying_int32.map.bounded.pays env rest

/-- A proof is paid for if its branches and its parent header are. -/
theorem pays_readAuxPow
    (hbr : ∀ count < 2, ∀ left n, ProofFront count input left → Counts left n →
      n * 32 ≤ isizeMax ∧ n * 32 ≤ most) (hpar : ∀ left, ProofFront 2 input left →
      Pays blockHeaderSize (failing most) fieldsRate readHeader env left) :
    Pays 0 (failing most) fieldsRate (readAuxPow readHeader) env input := by
  have htx : Bounded (failing most) fieldsRate (deserializeTx .standardWithWitness) :=
    ((bounded_readFields _).bind fun _ => (bounded_pure _).bind fun _ => bounded_pure _).mono
      (Nat.le_add_right _ _) le_rfl
  refine htx.then_pays fun tx mid hrd => ?_
  refine paying_vector.bounded.then_pays fun hash left₀ hhs => ?_
  have h₀ := (proofFront_zero_iff env).mpr ⟨tx, hash, mid, hrd, hhs⟩
  refine (pays_readBranch fun n => hbr 0 (by decide) left₀ n h₀).then_pays
    fun branch left₁ hrd => ?_
  have h₁ := (proofFront_succ_iff env).mpr ⟨left₀, branch, h₀, hrd⟩
  refine (pays_readBranch fun n => hbr 1 (by decide) left₁ n h₁).then_pays
    fun branch left₂ hrd => ?_
  have h₂ := (proofFront_succ_iff env).mpr ⟨left₁, branch, h₁, hrd⟩
  exact ((hpar left₂ h₂).mono (by rw [Nat.zero_add]) le_rfl le_rfl).then_request

/-- Outside of Qtum the tail is read without a request. -/
theorem pays_readTail (header : BlockHeader Transaction) :
    Pays 0 fixed rate (readTail header) .standard input := by
  have hpg : Bounded fixed rate (read : Decoder ProgPow) :=
    paying_uint32.bounded.bind fun _ => paying_uint64.bounded.bind fun _ =>
      paying_vector.map.bounded
  have hmtp : Bounded fixed rate (read : Decoder MtpPow) :=
    paying_int32.bounded.bind fun _ => paying_vector.bounded.bind fun _ =>
      paying_vector.bounded.bind fun _ => paying_vector.map.bounded
  refine (bounded_optional hpg).then_pays fun _ _ _ => ?_
  refine (bounded_optional hmtp).then_pays fun _ _ _ => ?_
  refine bounded_environment.then_pays fun variant _ hrd => ?_
  obtain ⟨rfl, _⟩ := reads_environment.mp hrd
  have hqt : (header.version == qtumBlockHeaderVersion && CoinVariant.standard.isQtum) = false :=
    Bool.and_false _
  refine (bounded_optional paying_vector.bounded).then_pays fun _ _ _ => ?_
  refine (bounded_optional paying_vector.bounded).then_pays fun _ _ _ => ?_
  refine (bounded_optional paying_outPoint.bounded).then_pays fun _ _ _ => ?_
  refine (pays_optional fun h => ?_).then_pays fun _ _ _ => ?_
  · cases hqt.symm.trans h
  refine (bounded_optional paying_uint32.bounded).then_pays fun _ _ _ => ?_
  refine (bounded_optional paying_uint64.bounded).then_pays fun _ _ _ => ?_
  refine (bounded_optional paying_vector.bounded).then_pays fun _ _ _ => ?_
  exact (bounded_pure _).pays _ _

theorem isAuxPow_ne_four (h : isAuxPowVersion version = true) : (version == 4) = false := by
  rw [beq_eq_false_iff_ne]
  rintro rfl
  exact absurd h (by decide)

/-- A header is paid for by its bytes and by what was announced at most, if no announced amount is
over the limit and not too many parents are nested. -/
theorem pays_deserialize {frames most : ℕ}
    (hft : ∀ size, Announced frames input size → size ≤ isizeMax ∧ size ≤ most)
    (hns : ¬Nested frames input) :
    Pays blockHeaderSize (failing most) fieldsRate (deserialize frames) .standard input := by
  induction frames generalizing input with
  | zero => exact absurd trivial hns
  | succ frames ih =>
    have hsl : blockHeaderSize ≤ fieldsRate * 1 := by decide
    have hby : Paying 0 0 (read : Decoder UInt8) := paying_uint8
    suffices h : Pays (fieldsRate * 1 + 0) (failing most) fieldsRate (deserialize (frames + 1))
        .standard input from h.mono hsl le_rfl le_rfl
    refine ((paying_readHead.consumes.pays fieldsRate paying_readHead.bounded .standard input).mono
      le_rfl (Nat.zero_le _) (Nat.zero_add _).le).bind fun head rest hhd => ?_
    have hhdd : ∀ {Version : UInt32 → Prop}, Version head.version →
        HeadedBy Version input rest := fun hver =>
      (headedBy_iff .standard).mpr ⟨head, hhd, hver⟩
    refine (pays_optional fun hfo => ?_).then_pays fun solution mid hrd => ?_
    · have hcnt : ∀ n, Counts rest n → n * 1 ≤ isizeMax ∧ n * 1 ≤ most := by
        intro n hn
        rw [Nat.mul_one]
        exact hft n ⟨rest, .inl ⟨hhdd (beq_iff_eq.mp hfo), hn⟩⟩
      exact (pays_readList hby hcnt).mono le_rfl (by unfold failing; omega) (by decide)
    refine (pays_optional fun haux => ?_).then_pays fun aux rest' _ => pays_readTail _
    -- a header with a proof has no solution
    rw [isAuxPow_ne_four haux] at hrd
    obtain ⟨_, rfl⟩ := reads_pure.mp hrd
    have hmr : HeadedBy (isAuxPowVersion ·) input rest := hhdd haux
    refine pays_readAuxPow (fun count hcnt left n hfr hn => ?_) fun left hfr => ?_
    · exact hft (n * 32) ⟨rest, .inr ⟨hmr, left, .inl ⟨count, hcnt, n, hfr, hn, rfl⟩⟩⟩
    · refine ih (fun size hsz => ?_) fun h => hns ⟨rest, left, hmr, hfr, h⟩
      exact hft size ⟨rest, .inr ⟨hmr, left, .inr ⟨hfr, hsz⟩⟩⟩

variable {size : ℕ}

theorem demands_optional (hpr : present = true) (h : Demands limit size d env input) :
    Demands limit size (optional present d) env input := by
  unfold optional
  rw [if_pos hpr]
  exact h.bind_left

/-- Where a proof stands, there is no solution before it. -/
theorem reads_noSolution (h : isAuxPowVersion version = true) :
    Reads (optional (version == 4) (readList UInt8)) env input none input := by
  rw [isAuxPow_ne_four h]
  rfl

/-- What the proof demands, the header demands. -/
theorem demands_merged {frames limit : ℕ} (hhd : HeadedBy (isAuxPowVersion ·) input rest)
    (h : Demands limit size (readAuxPow (deserialize frames)) env rest) :
    Demands limit size (deserialize (frames + 1)) env input := by
  obtain ⟨head, hrd, haux⟩ := (headedBy_iff env).mp hhd
  exact .bind_right hrd (.bind_right (reads_noSolution haux) (demands_optional haux h).bind_left)

theorem demands_branch {count limit : ℕ} (hcnt : count < 2) (hfr : ProofFront count input rest)
    (h : Demands limit size (read : Decoder MerkleBranch) env rest) :
    Demands limit size (readAuxPow readHeader) env input := by
  obtain rfl | rfl : count = 0 ∨ count = 1 := by omega
  · obtain ⟨tx, hash, mid, htx, hhs⟩ := (proofFront_zero_iff env).mp hfr
    exact .bind_right htx (.bind_right hhs h.bind_left)
  · obtain ⟨left, branch, hz, hbr⟩ := (proofFront_succ_iff env).mp hfr
    obtain ⟨tx, hash, mid, htx, hhs⟩ := (proofFront_zero_iff env).mp hz
    exact .bind_right htx (.bind_right hhs (.bind_right hbr h.bind_left))

theorem demands_parent (hfr : ProofFront 2 input rest)
    (h : Demands limit size readHeader env rest) :
    Demands limit size (readAuxPow readHeader) env input := by
  obtain ⟨r₃, branch', hone, hbr'⟩ := (proofFront_succ_iff env).mp hfr
  obtain ⟨r₂, branch, hz, hbr⟩ := (proofFront_succ_iff env).mp hone
  obtain ⟨tx, hash, r₁, htx, hhs⟩ := (proofFront_zero_iff env).mp hz
  exact .bind_right htx (.bind_right hhs (.bind_right hbr (.bind_right hbr' h.bind_left)))

/-- What is announced is requested. -/
theorem demands_deserialize (h : Announced frames input size) :
    Demands isizeMax size (deserialize frames) env input := by
  induction frames generalizing input with
  | zero => exact h.elim
  | succ frames ih =>
    obtain ⟨rest, ⟨hhd, hcnt⟩ | ⟨hhd, left, ⟨count, hlt, n, hfr, hcnt, rfl⟩ | ⟨hfr, hpar⟩⟩⟩ := h
    · obtain ⟨head, hrd, hfo⟩ := (headedBy_iff env).mp hhd
      have hls : Demands isizeMax (size * 1) (readList UInt8) env rest :=
        demands_readList UInt8 hcnt
      rw [Nat.mul_one] at hls
      exact .bind_right hrd (demands_optional (beq_iff_eq.mpr hfo) hls).bind_left
    · exact demands_merged hhd (demands_branch hlt hfr (demands_readList H256 hcnt).bind_left)
    · exact demands_merged hhd (demands_parent hfr (ih hpar))

/-- Too many parents end the program. -/
theorem crashes_of_nested (h : Nested frames input) : Crashes (deserialize frames) env input := by
  -- a crash is a demand over every limit
  suffices hdm : Demands 0 1 (deserialize frames) env input from hdm.exceeds Nat.one_pos
  induction frames generalizing input with
  | zero => exact ⟨fun _ => crashes_abort, fun h => absurd h (by decide)⟩
  | succ frames ih =>
    obtain ⟨rest, left, hhd, hfr, hpa⟩ := h
    exact demands_merged hhd (demands_parent hfr (ih hpa))

end BlockHeader

/-! ## Both decoders -/

/-- Memory that the bytes announce to one of the decoders and that is not checked. -/
def Announced (frames : ℕ) (input : Bytes) (size : ℕ) : Prop :=
  ZeelAnnounced input size ∨ BlockHeader.Announced frames input size

variable (frames most : ℕ) (input : Bytes)

/-- Neither decoder crashes on the bytes, and neither requests more than so much. -/
structure DecodesWithin : Prop where
  transaction : (deserialize Transaction.deserialize input).outcome ≠ .crash
  header : (deserialize (BlockHeader.deserialize frames) input).outcome ≠ .crash
  transactionMemory : (deserialize Transaction.deserialize input).requested ≤ most
  headerMemory : (deserialize (BlockHeader.deserialize frames) input).requested ≤ most

/-- The bytes announce no more than so much, and no more parents than the stack has room for. -/
structure AnnouncesWithin : Prop where
  allocatable : ∀ size, Announced frames input size → size ≤ isizeMax
  most : ∀ size, Announced frames input size → size ≤ most
  nested : ¬BlockHeader.Nested frames input

/-- What is not announced is not requested, up to a multiple of the length of the input. -/
theorem AnnouncesWithin.decodes {frames most : ℕ} (h : AnnouncesWithin frames most input) :
    DecodesWithin frames (3 * (fieldsFixed + most) + 64 + (3 * fieldsRate + 4) * input.length)
      input := by
  have hzl : ∀ size, ZeelAnnounced input size → size ≤ isizeMax ∧ size ≤ most := fun size hsz =>
    ⟨h.allocatable size (.inl hsz), h.most size (.inl hsz)⟩
  have hpy := BlockHeader.pays_deserialize (fun size hsz =>
    ⟨h.allocatable size (.inr hsz), h.most size (.inr hsz)⟩) h.nested
  refine ⟨?_, ?_, ?_, ?_⟩
  · rw [Ne, deserialize_eq_crash]
    exact Transaction.not_crashes_deserialize fun size hsz => (hzl size hsz).1
  · rw [Ne, deserialize_eq_crash]
    exact hpy.safe
  · rw [requested_deserialize]
    exact Transaction.requested_deserialize_le hzl
  · have hle := hpy.le
    rw [requested_deserialize, Nat.add_mul, Nat.mul_assoc]
    unfold BlockHeader.failing at hle
    omega

/-- What is announced is requested. -/
theorem DecodesWithin.announces {frames most : ℕ} (h : DecodesWithin frames most input) :
    AnnouncesWithin frames most input := by
  have htx := h.transaction
  have hhdr := h.header
  have hty := h.transactionMemory
  have hhe := h.headerMemory
  rw [Ne, deserialize_eq_crash] at htx hhdr
  rw [requested_deserialize] at hty hhe
  have hft : ∀ size, Announced frames input size → size ≤ isizeMax := by
    rintro size (hsz | hsz) <;> by_contra hlt <;> rw [not_le] at hlt
    · exact htx ((Transaction.demands_deserialize hsz).exceeds hlt)
    · exact hhdr ((BlockHeader.demands_deserialize hsz).exceeds hlt)
  refine ⟨hft, fun size hsz => ?_, fun hns => hhdr (BlockHeader.crashes_of_nested hns)⟩
  have hle := hft size hsz
  rcases hsz with hsz | hsz
  · exact ((Transaction.demands_deserialize hsz).meets hle).trans hty
  · exact ((BlockHeader.demands_deserialize hsz).meets hle).trans hhe

/-- Decoding is safe on a set of inputs, within an amount of memory that is linear in the length of
the input, exactly if what the inputs announce is. -/
theorem decoding_safe_iff (frames : ℕ) (inputs : Set Bytes) :
    (∃ fixed rate : ℕ, ∀ input ∈ inputs, DecodesWithin frames (fixed + rate * input.length) input) ↔
    ∃ fixed rate : ℕ, ∀ input ∈ inputs,
      AnnouncesWithin frames (fixed + rate * input.length) input := by
  constructor
  · rintro ⟨fixed, rate, h⟩
    exact ⟨fixed, rate, fun input hinp => (h input hinp).announces⟩
  · rintro ⟨fixed, rate, h⟩
    refine ⟨3 * (fieldsFixed + fixed) + 64, 3 * rate + (3 * fieldsRate + 4), fun input hinp => ?_⟩
    have hwt := (h input hinp).decodes
    have heq : 3 * (fieldsFixed + (fixed + rate * input.length)) + 64 +
        (3 * fieldsRate + 4) * input.length =
        3 * (fieldsFixed + fixed) + 64 + (3 * rate + (3 * fieldsRate + 4)) * input.length := by
      rw [Nat.add_mul (3 * rate), Nat.mul_assoc 3 rate]
      omega
    rwa [heq] at hwt

/-- An empty transaction with a time, and the length of a string. -/
def announcedString : Bytes := [1, 0, 0, 0, 0, 0, 0, 0, 0, 0, 0, 0, 0, 0] ++ List.replicate 9 0xff

/-- Twenty-three bytes end the program. -/
theorem announcedString_crashes :
    (deserialize Transaction.deserialize announcedString).outcome = .crash := rfl

end CheetahDex.Chain
