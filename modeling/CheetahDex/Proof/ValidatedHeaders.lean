import CheetahDex.Proof.HeaderAnswers

/-!
# Headers that were validated

Whatever is written to the table comes from a batch that was accepted as a whole. What is returned
for a proof does not: where the table has no row, the header is taken from one answer of the server
and the batch that is checked from another, which ends one height below.
-/

namespace CheetahDex.Spv

open Lib Lib.Decoder Chain List Contract

variable {sha256 : Bytes → H256} {frames : ℕ} {conf : SPVConf} {store store' : HeaderStore}
  {batch : Batch} {height : ℕ} {header : Header}

/-- A batch that was accepted has the header at the height. -/
def ValidatedAt (accepted : List Batch) (height : ℕ) (header : Header) : Prop :=
  ∃ batch ∈ accepted, ∃ i, batch.headers[i]? = some header ∧ height = (batch.start + i) % 2 ^ 64

/-! ## What is relied on -/

/-- If the last call was for a single header, the batch has that header at its height. -/
def Continues (frames : ℕ) (start : ℕ) (headers : List Header) : List (Sigma Call.Answer) → Prop
  | ⟨.blockHeader height, bytes⟩ :: _ => ∀ header, IsHeader frames bytes header →
      ∃ i, headers[i]? = some header ∧ height = (start + i) % 2 ^ 64
  | _ => True

/-- The headers of a batch are read back from their bytes, and the batch continues the answer before
it. -/
def Offers (frames : ℕ) (history : List (Sigma Call.Answer)) : (c : Call) → c.Answer → Prop
  | .blockHeaders start _, answer => ∀ headers, HoldsHeaders frames answer headers →
      (∀ header ∈ headers, ReadsBack frames header) ∧ Continues frames start headers history
  | _, _ => True

/-- All rows and all that was ever written are validated, and can be read back. -/
structure AllValidated (frames : ℕ) (store : HeaderStore) : Prop where
  rows : ∀ height bytes, store.rows.lookup height = some bytes →
    ∃ header, bytes = header.serialize ∧ ValidatedAt store.accepted height header
  written : ∀ registry ∈ store.written, ∀ height header, registry.lookup height = some header →
    ValidatedAt store.accepted height header
  readable : ∀ batch ∈ store.accepted, ∀ header ∈ batch.headers, ReadsBack frames header

/-- The programs that share a table. -/
def contract (sha256 : Bytes → H256) (frames : ℕ) (conf : SPVConf) :
    Contract HeaderStore Call Call.Answer where
  handle := handle sha256 conf
  Le store store' := store.accepted ⊆ store'.accepted
  refl _ := List.Subset.refl _
  trans h h' := List.Subset.trans h h'
  Inv := AllValidated frames
  Offers := Offers frames

theorem ValidatedAt.mono {accepted accepted' : List Batch} (h : ValidatedAt accepted height header)
    (hle : accepted ⊆ accepted') : ValidatedAt accepted' height header := by
  obtain ⟨batch, hmem, hat⟩ := h
  exact ⟨batch, hle hmem, hat⟩

/-! ## The registry of a batch -/

variable {first : ℕ} {headers : List Header}

theorem lookup_fill {registry : Registry}
    (h : (fill registry first headers).lookup height = some header) (hfst : first < 2 ^ 64) :
    registry.lookup height = some header ∨
      ∃ i, headers[i]? = some header ∧ height = (first + i) % 2 ^ 64 := by
  induction headers generalizing registry first with
  | nil => exact .inl h
  | cons head headers ih =>
    rcases ih h (Nat.mod_lt _ (by decide)) with h | ⟨i, hi, hht⟩
    · rw [HashMap.lookup_insert_ite] at h
      split at h
      · next hfst' =>
        cases h
        refine .inr ⟨0, rfl, ?_⟩
        rw [hfst', Nat.add_zero, Nat.mod_eq_of_lt hfst]
      · exact .inl h
    · refine .inr ⟨i + 1, hi, ?_⟩
      rw [hht, Nat.mod_add_mod, Nat.add_assoc, Nat.add_comm 1]

/-- The lowest height of a batch is a height. -/
theorem lowest_lt {least : ℕ} (hsta : batch.start < 2 ^ 64)
    (h : ¬ batch.registry.minKey.getD least ≤ least) :
    batch.registry.minKey.getD least < 2 ^ 64 := by
  cases hlow : batch.registry.minKey with
  | none =>
    rw [hlow] at h
    exact absurd (Nat.le_refl least) h
  | some low =>
    obtain ⟨header, hhdr⟩ := (HashMap.minKey_eq_some.mp hlow).1
    rcases lookup_fill hhdr hsta with h | ⟨i, _, hi⟩
    · cases h
    · exact hi ▸ Nat.mod_lt _ (by decide)

/-! ## Calls -/

section calls

variable {history : List (Sigma Call.Answer)}

abbrev Safe (sha256 : Bytes → H256) (frames : ℕ) (conf : SPVConf) {α : Type}
    (Post : HeaderStore → α → Prop) (store : HeaderStore) (history : List (Sigma Call.Answer))
    (program : Prog α) : Prop :=
  (contract sha256 frames conf).Safe Post store history program

theorem safe_getBlockHeaderRaw :
    Safe sha256 frames conf (fun store row => ∀ bytes ∈ row, ∃ header, bytes = header.serialize ∧
      ReadsBack frames header ∧ ValidatedAt store.accepted height header) store history
      (getBlockHeaderRaw height) := by
  intro now _ hinv offer _
  refine ⟨hinv, List.Subset.refl _, fun bytes hbs => ?_⟩
  obtain ⟨header, heq, hval⟩ := hinv.rows height bytes hbs
  obtain ⟨batch, hmem, i, hi, _⟩ := id hval
  exact ⟨header, heq, hinv.readable batch hmem header (mem_of_getElem? hi), hval⟩

theorem safe_getLastBlockHeight :
    Safe sha256 frames conf (fun _ _ => True) store history getLastBlockHeight :=
  fun _ _ hinv _ _ => ⟨hinv, List.Subset.refl _, trivial⟩

theorem safe_remove {fromHeight toHeight : ℕ} :
    Safe sha256 frames conf (fun _ _ => True) store history
      (removeBlockHeadersFromToHeight fromHeight toHeight) := by
  intro now _ hinv offer _
  refine ⟨⟨fun height bytes hrow => ?_, hinv.written, hinv.readable⟩, List.Subset.refl _, trivial⟩
  refine hinv.rows height bytes ?_
  have hrow' : (now.rows.retain fun height _ => !(fromHeight ≤ height && height ≤ toHeight)).lookup
      height = some bytes := hrow
  rw [HashMap.lookup_retain] at hrow'
  exact (Option.filter_eq_some_iff.mp hrow').1

theorem safe_add (hmem : batch ∈ store.accepted) (hsta : batch.start < 2 ^ 64) :
    Safe sha256 frames conf (fun _ _ => True) store history
      (addBlockHeadersToStorage batch.registry) := by
  intro now hle hinv offer _
  have hval : ∀ height header, batch.registry.lookup height = some header →
      ValidatedAt now.accepted height header := by
    intro height header h
    rcases lookup_fill h hsta with h | ⟨i, hi, hht⟩
    · cases h
    · exact ⟨batch, hle hmem, i, hi, hht⟩
  refine ⟨⟨fun height bytes hrow => ?_, ?_, hinv.readable⟩, List.Subset.refl _, trivial⟩
  · have hrow' : (now.rows.extend (batch.registry.mapValues BlockHeader.serialize)).lookup height =
        some bytes := hrow
    rw [HashMap.lookup_extend, HashMap.lookup_mapValues] at hrow'
    cases hnew : batch.registry.lookup height with
    | none =>
      rw [hnew] at hrow'
      exact hinv.rows height bytes hrow'
    | some header =>
      rw [hnew] at hrow'
      cases hrow'
      exact ⟨header, rfl, hval height header hnew⟩
  · exact forall_mem_cons.mpr ⟨hval, hinv.written⟩

/-- A check that succeeds leaves the batch among the accepted ones. -/
theorem safe_validate (hrd : ∀ header ∈ batch.headers, ReadsBack frames header) :
    Safe sha256 frames conf (fun store result => result = .ok () → batch ∈ store.accepted) store
      history (validate batch) := by
  intro now _ hinv offer _
  show AllValidated frames (runValidate sha256 conf now batch).2 ∧
    now.accepted ⊆ (runValidate sha256 conf now batch).2.accepted ∧
    ((runValidate sha256 conf now batch).1 = .ok () →
      batch ∈ (runValidate sha256 conf now batch).2.accepted)
  unfold runValidate
  cases validateBatch sha256 conf batch with
  | error e => exact ⟨hinv, List.Subset.refl _, nofun⟩
  | ok u =>
    have hmn : now.accepted ⊆ batch :: now.accepted := subset_cons_self _ _
    refine ⟨⟨fun height bytes hrow => ?_, fun registry hmem height header h => ?_,
      forall_mem_cons.mpr ⟨hrd, hinv.readable⟩⟩, hmn, fun _ => mem_cons_self⟩
    · obtain ⟨header, heq, hval⟩ := hinv.rows height bytes hrow
      exact ⟨header, heq, hval.mono hmn⟩
    · exact (hinv.written registry hmem height header h).mono hmn

/-! ## Functions -/

theorem safe_decodeHeader {mapErr : Chain.Error → GetBlockHeaderError} {bytes : Bytes} :
    Safe sha256 frames conf (fun _ header => IsHeader frames bytes header) store history
      (decodeHeader frames mapErr bytes) := by
  rcases decodeHeader_cases frames mapErr bytes with ⟨header, hhdr, heq⟩ | ⟨e, heq⟩
  · rw [heq]
    exact safe_pure hhdr
  · rw [heq]
    exact safe_throw

theorem safe_decodeHeaders {answer : ElectrumBlockHeadersRes} :
    Safe sha256 frames conf (fun _ headers => HoldsHeaders frames answer headers) store history
      (decodeHeaders frames answer) := by
  unfold decodeHeaders
  dsimp only
  split
  · next headers rest h => exact safe_pure ⟨rest, h⟩
  · exact safe_throw
  · exact safe_throw

theorem firstHeight_lt (h : height < 2 ^ 64) : firstHeight height < 2 ^ 64 := by
  unfold firstHeight
  split <;> omega

/-- What is offered for a batch is known of the batch. -/
theorem safe_retrieveLastHeaders :
    Safe sha256 frames conf (fun _ batch => batch.start = firstHeight height ∧
      (∀ header ∈ batch.headers, ReadsBack frames header) ∧
      Continues frames batch.start batch.headers history) store history
      (retrieveLastHeaders frames height) := by
  have hask : Safe sha256 frames conf (fun _ answer =>
      Offers frames history (.blockHeaders (firstHeight height) difficultyRetargetInterval) answer)
      store history (blockchainBlockHeaders (firstHeight height) difficultyRetargetInterval) :=
    fun _ _ hinv _ hof => ⟨hinv, List.Subset.refl _, hof⟩
  refine hask.bind fun store' history' answer _ hof => ?_
  split
  · exact safe_throw
  · exact safe_decodeHeaders.bind fun _ _ headers _ hhd => ⟨rfl, hof headers hhd⟩

theorem safe_getBlockHeader :
    Safe sha256 frames conf
      (fun store found => ∀ header ∈ found, ValidatedAt store.accepted height header) store history
      (getBlockHeader frames height) := by
  refine safe_getBlockHeaderRaw.bind fun store' history' row _ hrow => ?_
  cases row with
  | none => exact safe_pure nofun
  | some bytes =>
    obtain ⟨header, rfl, hbc, hval⟩ := hrow bytes rfl
    refine safe_decodeHeader.bind fun now _ found hle hfnd => ?_
    -- what is read from the bytes of a validated header is that header
    obtain ⟨rfl, _⟩ := Reads.unique hbc hfnd
    rintro _ ⟨⟩
    exact hval.mono hle

/-- A row or not, a read changes nothing. -/
theorem safe_readStored {stored : Registry} {hs : List ℕ} :
    Safe sha256 frames conf (fun _ _ => True) store history (readStored frames stored hs) := by
  induction hs generalizing store history stored with
  | nil => exact safe_pure trivial
  | cons height hs ih =>
    refine safe_getBlockHeader.bind fun store' history' found _ _ => ?_
    cases found with
    | none => exact ih
    | some header => exact ih

theorem safe_removeFrom {fork : ℕ} :
    Safe sha256 frames conf (fun _ _ => True) store history (removeFrom fork) := by
  refine safe_getLastBlockHeight.bind fun store' history' tip _ _ => ?_
  cases tip with
  | none => exact safe_pure trivial
  | some tip =>
    show Safe sha256 frames conf _ store' history' (if fork ≤ tip then _ else _)
    split
    · exact safe_remove
    · exact safe_pure trivial

theorem safe_pruneOldHeaders {maxStored : ℕ} :
    Safe sha256 frames conf (fun _ _ => True) store history (pruneOldHeaders maxStored) := by
  refine safe_getLastBlockHeight.bind fun store' history' tip _ _ => ?_
  cases tip with
  | none => exact safe_pure trivial
  | some tip =>
    show Safe sha256 frames conf _ store' history' (if maxStored < tip then _ else _)
    split
    · exact safe_remove
    · exact safe_pure trivial

/-- A fork is written from the batch. -/
theorem safe_applyOutcome {outcome : ReorgOutcome} (hmem : batch ∈ store.accepted)
    (hsta : batch.start < 2 ^ 64) :
    Safe sha256 frames conf (fun _ _ => True) store history
      (applyOutcome batch.registry outcome) := by
  cases outcome with
  | noReorg | needMoreHistory | badStartingHeaderChain => exact safe_pure trivial
  | forkAt fork =>
    refine safe_removeFrom.bind fun store' history' _ hle _ => ?_
    exact (safe_add (hle hmem) hsta).bind fun _ _ _ _ _ => safe_pure trivial

theorem safe_reconcileReorg (hmem : batch ∈ store.accepted) (hsta : batch.start < 2 ^ 64) :
    Safe sha256 frames conf (fun _ _ => True) store history
      (reconcileReorg sha256 frames conf batch.registry) := by
  unfold reconcileReorg
  split
  · exact safe_pure trivial
  · exact safe_readStored.bind fun store' history' stored hle _ => safe_applyOutcome (hle hmem) hsta

section validated

variable (hconf : conf.validationParams.isSome)

include hconf

section

variable (hrd : ∀ header ∈ batch.headers, ReadsBack frames header)

include hrd

theorem safe_checkBatch :
    Safe sha256 frames conf (fun store result => result = .ok () → batch ∈ store.accepted) store
      history (checkBatch conf batch) := by
  rw [checkBatch, if_pos hconf]
  exact safe_validate hrd

theorem safe_requireValid :
    Safe sha256 frames conf (fun store _ => batch ∈ store.accepted) store history
      (requireValid conf batch) := by
  refine (safe_checkBatch hconf hrd).bind fun store' history' result _ hrs => ?_
  cases result with
  | error e => exact safe_throw
  | ok u => exact safe_pure (hrs rfl)

end

/-- Walking back stores only headers that were validated. -/
theorem safe_walkBackReorg {turns top : ℕ} (htop : top < 2 ^ 64) :
    Safe sha256 frames conf (fun _ _ => True) store history
      (walkBackReorg sha256 frames conf turns top) := by
  induction turns generalizing store history top with
  | zero => exact safe_pure trivial
  | succ turns ih =>
    unfold walkBackReorg
    split
    · refine safe_retrieveLastHeaders.bind fun _ _ batch _ hbat => ?_
      refine (safe_checkBatch hconf hbat.2.1).bind fun _ _ result _ hrs => ?_
      cases result with
      | error e => exact safe_pure trivial
      | ok u =>
        have hsta : batch.start < 2 ^ 64 := hbat.1 ▸ firstHeight_lt htop
        refine (safe_reconcileReorg (hrs rfl) hsta).bind fun _ _ outcome _ _ => ?_
        cases outcome with
        | noReorg | forkAt _ | badStartingHeaderChain => exact safe_pure trivial
        | needMoreHistory =>
          dsimp only
          split
          · exact safe_pure trivial
          · next hlow => exact ih (Nat.sub_lt_of_lt (lowest_lt hsta hlow))
    · exact safe_pure trivial

theorem safe_syncHeaders :
    Safe sha256 frames conf (fun _ _ => True) store history (syncHeaders sha256 frames conf) := by
  have hcnt : Safe sha256 frames conf (fun _ _ => True) store history getBlockCount :=
    fun _ _ hinv _ _ => ⟨hinv, List.Subset.refl _, trivial⟩
  refine hcnt.bind fun _ _ count _ _ => ?_
  refine safe_retrieveLastHeaders.bind fun _ _ batch _ hbat => ?_
  refine (safe_requireValid hconf hbat.2.1).bind fun _ _ _ _ hmem => ?_
  have hsta : batch.start < 2 ^ 64 := hbat.1 ▸ firstHeight_lt count.toNat_lt
  refine (safe_reconcileReorg hmem hsta).bind fun _ _ outcome hle _ => ?_
  cases outcome with
  | noReorg => exact (safe_add (hle hmem) hsta).bind fun _ _ _ _ _ => safe_pure trivial
  | forkAt _ => exact safe_pure trivial
  | needMoreHistory =>
    exact (safe_walkBackReorg hconf count.toNat_lt).bind fun _ _ _ _ _ => safe_pure trivial
  | badStartingHeaderChain => exact safe_pure trivial

theorem safe_tick :
    Safe sha256 frames conf (fun _ _ => True) store history (tick sha256 frames conf) := by
  refine (safe_syncHeaders hconf).bind fun _ _ goesOn _ _ => ?_
  cases goesOn with
  | false => exact safe_pure trivial
  | true =>
    rw [if_pos rfl]
    split
    · exact safe_pruneOldHeaders
    · exact safe_pure trivial

/-- The header is that of a row, or the batch that was accepted has it too. -/
theorem safe_validBlockHeaderFromStorage (hht : height < 2 ^ 64) :
    Safe sha256 frames conf (fun store header => ValidatedAt store.accepted height header) store
      history (validBlockHeaderFromStorage frames conf height) := by
  refine safe_getBlockHeader.bind fun store' history' found _ hfnd => ?_
  cases found with
  | some header => exact safe_pure (hfnd header rfl)
  | none =>
    intro now _ hinv bytes _
    refine ⟨hinv, List.Subset.refl _, ?_⟩
    rcases decodeHeader_cases frames .serializationError bytes with ⟨header, hhdr, heq⟩ | ⟨e, heq⟩
    · show Safe sha256 frames conf _ now (⟨Call.blockHeader height, bytes⟩ :: history')
        (decodeHeader frames .serializationError bytes >>= _)
      rw [heq]
      refine safe_retrieveLastHeaders.bind fun _ _ batch _ hbat => ?_
      obtain ⟨hfst, hrd, hcn⟩ := hbat
      refine (safe_requireValid hconf hrd).bind fun _ _ _ _ hmem => ?_
      have hsta : batch.start < 2 ^ 64 := hfst ▸ firstHeight_lt hht
      refine (safe_add hmem hsta).bind fun _ _ _ hle _ => safe_pure ?_
      exact ⟨batch, hle hmem, hcn header hhdr⟩
    · show Safe sha256 frames conf _ now (⟨Call.blockHeader height, bytes⟩ :: history')
        (decodeHeader frames .serializationError bytes >>= _)
      rw [heq]
      exact safe_throw

end validated

end calls

/-! ## Runs -/

/-- A request for the header of a height. -/
def headerRequest (frames : ℕ) (conf : SPVConf) (height : ℕ) : Prog (Option (ℕ × Header)) := do
  return some (height, ← validBlockHeaderFromStorage frames conf height)

variable (sha256 : Bytes → H256) (frames : ℕ) (conf : SPVConf)

/-- A turn of the loop. -/
def loopTurn : Prog (Option (ℕ × Header)) := do
  tick sha256 frames conf
  return none

/-- What is started on the table: requests for a header, and turns of the loop. -/
def Starts (program : Prog (Option (ℕ × Header))) : Prop :=
  (∃ height : UInt64, program = headerRequest frames conf height.toNat) ∨
    program = loopTurn sha256 frames conf

/-- The programs that share a table, and the table. -/
abbrev SpvPool := Pool HeaderStore Call Call.Answer GetBlockHeaderError (Option (ℕ × Header))

/-- An empty table, and nothing started. -/
def emptyPool : SpvPool := ⟨⟨∅, [], []⟩, []⟩

/-- All that was written, and all that a request has returned, is validated. -/
structure OnlyValidated (pool : SpvPool) : Prop where
  written : ∀ registry ∈ pool.shared.written, ∀ height header,
    registry.lookup height = some header → ValidatedAt pool.shared.accepted height header
  returned : ∀ job ∈ pool.jobs, ∀ height header, job.program = .ret (some (height, header)) →
    ValidatedAt pool.shared.accepted height header

/-- In a run with offers of the right kind everything is validated. -/
theorem onlyValidated_of_offers (sha256 : Bytes → H256) (frames : ℕ) (conf : SPVConf)
    (hconf : conf.validationParams.isSome)
    (moves : List (PoolMove Call Call.Answer GetBlockHeaderError (Option (ℕ × Header))))
    (hmoves : Guarded (Pool.step (handle sha256 conf))
      ((contract sha256 frames conf).Permits (Starts sha256 frames conf)) emptyPool moves) :
    Always (Pool.step (handle sha256 conf)) OnlyValidated emptyPool moves := by
  let Post (store : HeaderStore) (result : Option (ℕ × Header)) : Prop :=
    ∀ height header, result = some (height, header) → ValidatedAt store.accepted height header
  have hps : ∀ {store store' : HeaderStore} {result}, store.accepted ⊆ store'.accepted →
      Post store result → Post store' result :=
    fun hle h height header heq => (h height header heq).mono hle
  have hst : ∀ program, Starts sha256 frames conf program → ∀ store, AllValidated frames store →
      Safe sha256 frames conf Post store [] program := by
    intro program hpr store _
    rcases hpr with ⟨height, rfl⟩ | rfl
    · refine (safe_validBlockHeaderFromStorage hconf height.toNat_lt).bind fun _ _ header _ h => ?_
      rintro _ _ ⟨⟩
      exact h
    · exact (safe_tick hconf).bind fun _ _ _ _ _ => safe_pure nofun
  have hemp : (contract sha256 frames conf).SafePool Post emptyPool :=
    ⟨⟨nofun, nofun, nofun⟩, nofun⟩
  refine (Contract.SafePool.always hps hst hemp hmoves).mono fun pool hpl => ?_
  refine ⟨hpl.inv.written, fun job hjob height header heq => ?_⟩
  have hsf := hpl.jobs job hjob
  rw [heq] at hsf
  exact hsf height header rfl

/-! ## Headers that are not in the table -/

/-- Batches are checked for their links only. -/
def linksOnly : SPVConf := ⟨0, none, some ⟨false, false⟩⟩

/-- A first block. -/
def genesis : Header := plainHeader 1 (.replicate 32 0)

/-- Another block without a predecessor. -/
def rival : Header := plainHeader 2 (.replicate 32 0)

/-- The server has one header for every height and another one in every batch. -/
def twoFacedServer : (c : Call) → c.Answer :=
  serverWith 0 (fun _ => rival.serialize) fun _ => answerOf [genesis]

set_option maxRecDepth 8000 in
/-- A header is returned that is in no batch. -/
theorem rival_returned : linksOnly.validationParams.isSome ∧ ∀ sha256 : Bytes → H256, ∃ n,
    ¬ Always (Pool.step (handle sha256 linksOnly)) OnlyValidated emptyPool
      (.start (headerRequest 1 linksOnly 5) :: List.replicate n (.reply 0 twoFacedServer)) := by
  refine ⟨rfl, fun sha256 => ⟨5, fun hal => ?_⟩⟩
  -- five answers and the request has returned
  have hl := hal.last
  obtain ⟨batch, hbat, i, hi, _⟩ := hl.returned _ mem_cons_self 5 rival rfl
  obtain rfl := List.mem_singleton.mp hbat
  have hmem : rival ∈ [genesis] := mem_of_getElem? hi
  exact absurd (congrArg (·.version) (List.mem_singleton.mp hmem)) (by decide)

/-- A server of a chain with a single block. -/
def genesisServer : (c : Call) → c.Answer :=
  serverWith 0 (fun height => if height = 0 then genesis.serialize else [])
    fun start => if start = 0 then answerOf [genesis] else ⟨1, []⟩

set_option maxRecDepth 8000 in
/-- The request for the only block is answered with it. -/
theorem genesis_returned : linksOnly.validationParams.isSome ∧
    ∀ sha256 : Bytes → H256, ∃ n history store,
    (List.replicate n (.reply 0 genesisServer)).foldl (Pool.step (handle sha256 linksOnly))
      ⟨emptyPool.shared, [⟨[], headerRequest 1 linksOnly 0⟩]⟩ =
      ⟨store, [⟨history, .ret (some (0, genesis))⟩]⟩ ∧
    Always (Pool.step (handle sha256 linksOnly)) OnlyValidated emptyPool
      (.start (headerRequest 1 linksOnly 0) :: List.replicate n (.reply 0 genesisServer)) := by
  refine ⟨rfl, fun sha256 => ⟨5, _, _, rfl, ?_⟩⟩
  refine onlyValidated_of_offers sha256 1 linksOnly rfl _
    ⟨.inl ⟨0, rfl⟩, ?_, ?_, ?_, ?_, ?_, trivial⟩
  · rintro _ _ _ ⟨⟩
    trivial
  · rintro _ _ _ ⟨⟩
    trivial
  -- only the batch has to continue what was answered before
  · rintro _ _ _ ⟨⟩ headers ⟨rest, hhd⟩
    cases hhd
    refine ⟨fun header hhdr => ?_, fun header hhdr => ?_⟩
    · obtain rfl := List.mem_singleton.mp hhdr
      rfl
    · cases hhdr
      exact ⟨0, rfl, rfl⟩
  · rintro _ _ _ ⟨⟩
    trivial
  · rintro _ _ _ ⟨⟩
    trivial

end CheetahDex.Spv
