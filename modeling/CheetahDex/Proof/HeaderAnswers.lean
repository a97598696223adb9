import CheetahDex.Proof.HeaderRoundTrip
import CheetahDex.Spv.Sync

/-!
# Answers of a server

What the bytes of an answer hold, and how the programs that read them run.
-/

namespace CheetahDex.Spv

open Lib Lib.Decoder Chain BlockHeader

variable {sha256 : Bytes → H256} {frames : ℕ} {conf : SPVConf} {store : HeaderStore}
  {batch : Batch} {height : ℕ} {header : Header} {headers : List Header}

/-- The header is read from its own bytes. -/
def ReadsBack (frames : ℕ) (header : Header) : Prop :=
  Reads (deserialize frames) .standard header.serialize header []

/-- The bytes of an answer are a header. -/
def IsHeader (frames : ℕ) (bytes : Bytes) (header : Header) : Prop :=
  Reads (deserialize frames) .standard bytes header []

/-- An answer holds headers. -/
def HoldsHeaders (frames : ℕ) (answer : ElectrumBlockHeadersRes) (headers : List Header) : Prop :=
  ∃ rest, Reads (readHeaders frames) .standard
    (serialize (⟨answer.count⟩ : CompactInteger) ++ answer.hex) headers rest

/-! ## Decoding -/

/-- Bytes are decoded without a call. -/
theorem decodeHeader_cases (frames : ℕ) (mapErr : Chain.Error → GetBlockHeaderError)
    (bytes : Bytes) :
    (∃ header, IsHeader frames bytes header ∧ decodeHeader frames mapErr bytes = pure header) ∨
      ∃ e, decodeHeader frames mapErr bytes = .throw e := by
  unfold decodeHeader
  split
  · next header rest h => exact .inl ⟨header, (deserialize_eq_ok.mp h).1, rfl⟩
  · next e _ => exact .inr ⟨_, rfl⟩
  · exact .inr ⟨_, rfl⟩

theorem decodeHeader_eq {mapErr : Chain.Error → GetBlockHeaderError} {bytes : Bytes}
    (h : IsHeader frames bytes header) : decodeHeader frames mapErr bytes = pure header := by
  unfold decodeHeader
  rw [deserialize_eq_ok.mpr ⟨h, rfl⟩]

variable {answer : ElectrumBlockHeadersRes}

theorem decodeHeaders_eq (h : HoldsHeaders frames answer headers) :
    decodeHeaders frames answer = pure headers := by
  obtain ⟨rest, h⟩ := h
  have hrd : (readHeaders frames .standard
      (serialize (⟨answer.count⟩ : CompactInteger) ++ answer.hex)).outcome = .ok headers rest := h
  simp only [decodeHeaders, hrd]

/-- Headers one after the other, each in bytes that are read as it. -/
theorem reads_many {d : Chain.Decoder Header} {env : CoinVariant} {rest : Bytes}
    {bytes : Header → Bytes}
    (h : ∀ header ∈ headers, ∀ rest, Reads d env (bytes header ++ rest) header rest) :
    Reads (many d headers.length) env (headers.flatMap bytes ++ rest) headers rest := by
  induction headers with
  | nil => exact reads_pure.mpr ⟨rfl, rfl⟩
  | cons header headers ih =>
    rw [List.flatMap_cons, List.append_assoc]
    refine reads_bind.mpr ⟨header, _, h header List.mem_cons_self _, reads_bind.mpr ?_⟩
    exact ⟨headers, rest, ih fun a ha => h a (List.mem_cons_of_mem header ha),
      reads_pure.mpr ⟨rfl, rfl⟩⟩

/-- An answer made of the bytes of headers. -/
def answerOf (headers : List Header) : ElectrumBlockHeadersRes :=
  ⟨.ofNat headers.length, headers.flatMap BlockHeader.serialize⟩

section

variable (hlen : headers.length ≤ difficultyRetargetInterval)

include hlen

theorem toNat_count_answerOf : (answerOf headers).count.toNat = headers.length :=
  UInt64.toNat_ofNat_of_lt (hlen.trans_lt (by decide))

theorem holdsHeaders_of_reads (h : ∀ header ∈ headers, ∀ rest,
      Reads (deserialize frames) .standard (header.serialize ++ rest) header rest) :
    HoldsHeaders frames (answerOf headers) headers := by
  have hcnt : (UInt64.ofNat headers.length).toNat = headers.length := toNat_count_answerOf hlen
  refine ⟨[], reads_bind.mpr ⟨⟨.ofNat headers.length⟩, headers.flatMap BlockHeader.serialize, ?_,
    reads_bind.mpr ⟨(), _, reads_allocate.mpr ⟨?_, rfl⟩, ?_⟩⟩⟩
  · exact reads_compactInteger.mpr ⟨_, rfl, .of_serialize _⟩
  · rw [CompactInteger.asUsize, hcnt]
    exact (Nat.mul_le_mul_right blockHeaderSize hlen).trans (by decide)
  · rw [CompactInteger.asUsize, hcnt, ← List.append_nil (headers.flatMap _)]
    exact reads_many h

end

/-! ## Running alone -/

/-- A program alone with a server. -/
def alone (sha256 : Bytes → H256) (conf : SPVConf) (server : (c : Call) → c.Answer) {α : Type}
    (program : Prog α) (store : HeaderStore) : Except GetBlockHeaderError α × HeaderStore :=
  program.run (fun store c => handle sha256 conf store c (server c)) store

section alone

variable {server : (c : Call) → c.Answer} {α β : Type} {program : Prog α} {next : α → Prog β}
  {store' : HeaderStore} {a : α}

theorem alone_bind (h : alone sha256 conf server program store = (.ok a, store')) :
    alone sha256 conf server (program >>= next) store =
      alone sha256 conf server (next a) store' := Program.run_bind_of_ok h

theorem alone_getBlockHeader_none (h : store.rows.lookup height = none) :
    alone sha256 conf server (getBlockHeader frames height) store = (.ok none, store) := by
  have hraw : alone sha256 conf server (getBlockHeaderRaw height) store = (.ok none, store) :=
    congrArg (fun row => (Except.ok row, store)) h
  exact alone_bind hraw

theorem alone_getBlockHeader_some {bytes : Bytes} (h : store.rows.lookup height = some bytes)
    (hhdr : IsHeader frames bytes header) :
    alone sha256 conf server (getBlockHeader frames height) store = (.ok (some header), store) := by
  have hraw : alone sha256 conf server (getBlockHeaderRaw height) store =
      (.ok (some bytes), store) := congrArg (fun row => (Except.ok row, store)) h
  rw [getBlockHeader, alone_bind hraw]
  dsimp only
  rw [decodeHeader_eq hhdr]
  rfl

/-- The server has an answer for the batch. -/
theorem alone_retrieveLastHeaders
    (hans : server (.blockHeaders (firstHeight height) difficultyRetargetInterval) = answer)
    (hcnt : answer.count ≠ 0) (hhd : HoldsHeaders frames answer headers) :
    alone sha256 conf server (retrieveLastHeaders frames height) store =
      (.ok ⟨firstHeight height, headers⟩, store) := by
  have hask : alone sha256 conf server
      (blockchainBlockHeaders (firstHeight height) difficultyRetargetInterval) store =
      (.ok answer, store) := congrArg (fun answer => (Except.ok answer, store)) hans
  rw [retrieveLastHeaders, alone_bind hask, if_neg hcnt, decodeHeaders_eq hhd]
  rfl

/-- The batch passes the check that is configured. -/
def Passes (sha256 : Bytes → H256) (conf : SPVConf) (batch : Batch) : Prop :=
  conf.validationParams.isSome → validateBatch sha256 conf batch = .ok ()

/-- The store after the check that is configured was passed. -/
def HeaderStore.checked (store : HeaderStore) (conf : SPVConf) (batch : Batch) : HeaderStore :=
  if conf.validationParams.isSome then { store with accepted := batch :: store.accepted } else store

@[simp]
theorem HeaderStore.rows_checked : (store.checked conf batch).rows = store.rows := by
  unfold HeaderStore.checked
  split <;> rfl

theorem alone_checkBatch (h : Passes sha256 conf batch) :
    alone sha256 conf server (checkBatch conf batch) store =
      (.ok (.ok ()), store.checked conf batch) := by
  unfold checkBatch HeaderStore.checked
  split
  · next hcn =>
    show (Except.ok (runValidate sha256 conf store batch).1,
      (runValidate sha256 conf store batch).2) = _
    rw [runValidate, h hcn]
  · rfl

variable (store server) in
theorem alone_checkBatch_of_not (h : ¬ Passes sha256 conf batch) :
    ∃ e, alone sha256 conf server (checkBatch conf batch) store = (.ok (.error e), store) := by
  obtain ⟨hcn, hfl⟩ := Classical.not_imp.mp h
  cases hrs : validateBatch sha256 conf batch with
  | ok u => exact absurd hrs hfl
  | error e =>
    refine ⟨e, ?_⟩
    rw [checkBatch, if_pos hcn]
    show (Except.ok (runValidate sha256 conf store batch).1,
      (runValidate sha256 conf store batch).2) = _
    rw [runValidate, hrs]

theorem alone_requireValid (h : Passes sha256 conf batch) :
    alone sha256 conf server (requireValid conf batch) store =
      (.ok (), store.checked conf batch) := by
  rw [requireValid, alone_bind (alone_checkBatch h)]
  rfl

variable (store server) in
theorem alone_requireValid_of_not (h : ¬ Passes sha256 conf batch) :
    ∃ e, alone sha256 conf server (requireValid conf batch) store = (.error e, store) := by
  obtain ⟨e, he⟩ := alone_checkBatch_of_not store server h
  refine ⟨.spvError e, ?_⟩
  rw [requireValid, alone_bind he]
  rfl

end alone

/-! ## Samples -/

/-- A header with no more fields than the first chains had. -/
def plainHeader (version : UInt32) (previousHeaderHash : H256) : Header where
  version := version
  previousHeaderHash := previousHeaderHash
  merkleRootHash := .replicate 32 0
  hashFinalSaplingRoot := none
  time := 0
  bits := .compact ⟨0⟩
  nonce := .u32 0
  solution := none
  auxPow := none
  progPow := none
  mtpPow := none
  isVerus := false
  hashStateRoot := none
  hashUtxoRoot := none
  prevoutStake := none
  vchBlockSigDlgt := none
  nHeight := none
  nNonceU64 := none
  mixHash := none

theorem reads_plainHeader (frames : ℕ) {version : UInt32} (hver : version = 1 ∨ version = 2)
    (previous : H256) (rest : Bytes) :
    Reads (deserialize (frames + 1)) .standard
      ((plainHeader version previous).serialize ++ rest) (plainHeader version previous) rest := by
  refine reads_deserialize.mpr ⟨_, rfl, ?_⟩
  have hhe : (plainHeader version previous).HeadFits := by
    rcases hver with rfl | rfl
    · exact ⟨(by decide : (1 ^^^ verusVersionBit : UInt32) ≠ 4), rfl, ⟨⟨0⟩, rfl⟩, ⟨0, rfl, nofun⟩⟩
    · exact ⟨(by decide : (2 ^^^ verusVersionBit : UInt32) ≠ 4), rfl, ⟨⟨0⟩, rfl⟩, ⟨0, rfl, nofun⟩⟩
  have htl : (plainHeader version previous).TailFits .standard := by
    rcases hver with rfl | rfl <;> exact ⟨rfl, rfl, rfl, rfl, rfl, ⟨rfl, nofun⟩, rfl, rfl, rfl⟩
  refine ⟨⟨hhe, ⟨?_, nofun⟩, ?_, htl⟩, [], [], [], ?_, rfl, rfl, rfl⟩
  · rcases hver with rfl | rfl <;> rfl
  · rcases hver with rfl | rfl <;> rfl
  · rw [serialize_parts]
    rfl

/-- A server with a count, bytes for each height and an answer for each batch. -/
def serverWith (count : UInt64) (single : ℕ → Bytes) (batch : ℕ → ElectrumBlockHeadersRes) :
    (c : Call) → c.Answer
  | .getBlockHeaderRaw _ => none
  | .getLastBlockHeight => none
  | .removeBlockHeaders _ _ => ()
  | .addBlockHeaders _ => ()
  | .validate _ => .ok ()
  | .blockCount => count
  | .blockHeader height => single height
  | .blockHeaders start _ => batch start

end CheetahDex.Spv
