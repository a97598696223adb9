import CheetahDex.Chain.HeaderReader
import CheetahDex.Lib.OrderedKeys
import CheetahDex.Lib.Program
import CheetahDex.Spv.HelpersValidation

/-!
# Headers for SPV

Headers come from an Electrum server, in batches of consecutive heights, and are kept in a table
that has one row for a height. Two programs write to the table: the one that gets the header for a
proof, and the loop that follows the chain of the server. Between two calls of one the other may
run.
-/

namespace CheetahDex.Spv

open Lib Chain

/-- A header of the coins that are followed. -/
abbrev Header := BlockHeader Transaction

/-- `HashMap<u64, BlockHeader>`. -/
abbrev Registry := HashMap ℕ Header

/-! ## Configuration -/

def difficultyRetargetInterval : ℕ := 2016

structure SPVValidationParams where
  difficultyCheck : Bool
  constantDifficulty : Bool

/-- `SPVConf`, with the height of the starting header. -/
structure SPVConf where
  anchorHeight : ℕ
  maxStoredBlockHeaders : Option ℕ
  validationParams : Option SPVValidationParams

namespace SPVConf

def difficultyCheck (conf : SPVConf) : Bool :=
  (conf.validationParams.map (·.difficultyCheck)).getD false

def constantDifficulty (conf : SPVConf) : Bool :=
  (conf.validationParams.map (·.constantDifficulty)).getD false

end SPVConf

/-- `GetBlockHeaderError`, with the errors of the table and the server that become one. -/
inductive GetBlockHeaderError where
  | storageError
  | rpcError
  | serializationError (error : Chain.Error)
  | invalidResponse
  | spvError (error : SPVError)
  | internal (message : String)
  | crash

/-! ## Calls -/

/-- The headers of one answer, and the height of the first. -/
structure Batch where
  start : ℕ
  headers : List Header

/-- The loop that puts headers at consecutive heights, which are `u64`. -/
def fill (registry : Registry) (height : ℕ) : List Header → Registry
  | [] => registry
  | header :: headers => fill (registry.insert height header) ((height + 1) % 2 ^ 64) headers

/-- The headers of the batch by height. -/
def Batch.registry (batch : Batch) : Registry := fill ∅ batch.start batch.headers

structure ElectrumBlockHeadersRes where
  count : UInt64
  hex : Bytes

/-- What the programs call: the table, the check of a batch, and the server. -/
inductive Call where
  | getBlockHeaderRaw (height : ℕ)
  | getLastBlockHeight
  | removeBlockHeaders (fromHeight toHeight : ℕ)
  | addBlockHeaders (headers : Registry)
  | validate (batch : Batch)
  | blockCount
  | blockHeader (height : ℕ)
  | blockHeaders (startHeight count : ℕ)

/-- What a call gives if it does not fail. -/
def Call.Answer : Call → Type
  | getBlockHeaderRaw _ => Option Bytes
  | getLastBlockHeight => Option ℕ
  | removeBlockHeaders _ _ => Unit
  | addBlockHeaders _ => Unit
  | validate _ => Except SPVError Unit
  | blockCount => UInt64
  | blockHeader _ => Bytes
  | blockHeaders _ _ => ElectrumBlockHeadersRes

/-- The table. With it, what was accepted by a check so far and what was written so far. -/
structure HeaderStore where
  rows : HashMap ℕ Bytes
  accepted : List Batch
  written : List Registry

/-- A program. -/
abbrev Prog := Program Call Call.Answer GetBlockHeaderError

section calls

variable (sha256 : Bytes → H256) (conf : SPVConf)

/-- `validate_headers` as it is configured. -/
def validateBatch (batch : Batch) : Except SPVError Unit :=
  validateHeaders sha256 conf.difficultyCheck conf.constantDifficulty batch.headers

/-- A check, after which the batch may be among the accepted ones. -/
def runValidate (store : HeaderStore) (batch : Batch) : Except SPVError Unit × HeaderStore :=
  match validateBatch sha256 conf batch with
  | .ok () => (.ok (), { store with accepted := batch :: store.accepted })
  | .error e => (.error e, store)

/-- A call on the table, or to a server that gives what it offers. -/
def handle (store : HeaderStore) : (c : Call) → c.Answer → c.Answer × HeaderStore
  | .getBlockHeaderRaw height, _ => (store.rows.lookup height, store)
  | .getLastBlockHeight, _ => (store.rows.maxKey, store)
  | .removeBlockHeaders fromHeight toHeight, _ =>
    ((), { store with
      rows := store.rows.retain fun height _ => !(fromHeight ≤ height && height ≤ toHeight) })
  | .addBlockHeaders headers, _ =>
    ((), { store with
      rows := store.rows.extend (headers.mapValues BlockHeader.serialize)
      written := headers :: store.written })
  | .validate batch, _ => runValidate sha256 conf store batch
  | .blockCount, offer => (offer, store)
  | .blockHeader _, offer => (offer, store)
  | .blockHeaders _ _, offer => (offer, store)

end calls

def getBlockHeaderRaw (height : ℕ) : Prog (Option Bytes) := .ask (Call.getBlockHeaderRaw height)

def getLastBlockHeight : Prog (Option ℕ) := .ask Call.getLastBlockHeight

def removeBlockHeadersFromToHeight (fromHeight toHeight : ℕ) : Prog Unit :=
  .ask (Call.removeBlockHeaders fromHeight toHeight)

def addBlockHeadersToStorage (headers : Registry) : Prog Unit := .ask (Call.addBlockHeaders headers)

/-- A check of a batch. -/
def validate (batch : Batch) : Prog (Except SPVError Unit) := .ask (Call.validate batch)

def getBlockCount : Prog UInt64 := .ask Call.blockCount

def blockchainBlockHeader (height : ℕ) : Prog Bytes := .ask (Call.blockHeader height)

def blockchainBlockHeaders (startHeight count : ℕ) : Prog ElectrumBlockHeadersRes :=
  .ask (Call.blockHeaders startHeight count)

/-! ## Reading headers -/

section programs

variable (frames : ℕ) (conf : SPVConf)

/-- `deserialize::<BlockHeader>`, in a program that ends with the error as the caller maps it. -/
def decodeHeader (mapErr : Chain.Error → GetBlockHeaderError) (bytes : Bytes) : Prog Header :=
  match (deserialize (BlockHeader.deserialize frames) bytes).outcome with
  | .ok header _ => return header
  | .err error => .throw (mapErr error)
  | .crash => .throw .crash

/-- `read_list::<BlockHeader>`. -/
def readHeaders : Decoder (List Header) :=
  letI : Deserializable Header := ⟨BlockHeader.deserialize frames, blockHeaderSize⟩
  readList Header

/-- The headers in an answer. -/
def decodeHeaders (answer : ElectrumBlockHeadersRes) : Prog (List Header) :=
  let serialized := serialize (⟨answer.count⟩ : CompactInteger) ++ answer.hex
  match (readHeaders frames .standard serialized).outcome with
  | .ok headers _ => return headers
  | .err _ => .throw .invalidResponse
  | .crash => .throw .crash

/-- The first height that `retrieve_last_headers` asks for. -/
def firstHeight (blockHeight : ℕ) : ℕ :=
  if blockHeight < difficultyRetargetInterval then 0 else blockHeight - difficultyRetargetInterval

/-- `ElectrumClient::retrieve_last_headers`, with the limit that all callers have. -/
def retrieveLastHeaders (blockHeight : ℕ) : Prog Batch := do
  let start := firstHeight blockHeight
  let answer ← blockchainBlockHeaders start difficultyRetargetInterval
  if answer.count = 0 then .throw (.internal "No headers available")
  else do
    let headers ← decodeHeaders frames answer
    return ⟨start, headers⟩

def getBlockHeader (height : ℕ) : Prog (Option Header) := do
  match ← getBlockHeaderRaw height with
  | none => return none
  | some bytes => do return some (← decodeHeader frames (fun _ => .storageError) bytes)

/-- The check of a batch, if one is configured. -/
def checkBatch (batch : Batch) : Prog (Except SPVError Unit) :=
  if conf.validationParams.isSome then validate batch else return .ok ()

/-- A check whose failure ends the program. -/
def requireValid (batch : Batch) : Prog Unit := do
  match ← checkBatch conf batch with
  | .ok () => return ()
  | .error e => .throw (.spvError e)

def validBlockHeaderFromStorage (height : ℕ) : Prog Header := do
  match ← getBlockHeader frames height with
  | some header => return header
  | none => do
    let bytes ← blockchainBlockHeader height
    let header ← decodeHeader frames .serializationError bytes
    let batch ← retrieveLastHeaders frames height
    requireValid conf batch
    addBlockHeadersToStorage batch.registry
    return header

end programs

/-! ## Forks -/

inductive ReorgOutcome where
  | noReorg
  | forkAt (height : ℕ)
  | needMoreHistory
  | badStartingHeaderChain

section reorg

variable (sha256 : Bytes → H256) (frames : ℕ) (conf : SPVConf) (stored candidate : Registry)

/-- Both maps have a header for the height, and their hashes differ. -/
def differsAt (height : ℕ) : Bool :=
  match stored.lookup height, candidate.lookup height with
  | some storedHeader, some candidateHeader =>
    storedHeader.hash sha256 ≠ candidateHeader.hash sha256
  | _, _ => false

/-- The heights from the first to the last, both included. -/
def heights (first last : ℕ) : List ℕ := List.range' first (last + 1 - first)

def detectReorg (anchorHeight : ℕ) : ReorgOutcome :=
  match candidate.minKey with
  | none => .noReorg
  | some low =>
    let high := candidate.maxKey.getD low
    match (heights low high).find? (differsAt sha256 stored candidate) with
    | none => .noReorg
    | some divergent =>
      if divergent ≤ anchorHeight then .badStartingHeaderChain
      else
        match stored.lookup (divergent - 1), candidate.lookup divergent with
        | some predecessor, some divergentHeader =>
          if divergentHeader.previousHeaderHash = predecessor.hash sha256 then .forkAt divergent
          else .needMoreHistory
        | _, _ => .needMoreHistory

/-- The loop of `reconcile_reorg` that reads the stored headers. -/
def readStored (stored : Registry) : List ℕ → Prog Registry
  | [] => return stored
  | height :: heights => do
    match ← getBlockHeader frames height with
    | some header => readStored (stored.insert height header) heights
    | none => readStored stored heights

/-- The removal of the stored headers from a fork on. -/
def removeFrom (fork : ℕ) : Prog Unit := do
  match ← getLastBlockHeight with
  | some tip => if fork ≤ tip then removeBlockHeadersFromToHeight fork tip else return ()
  | none => return ()

/-- What `reconcile_reorg` does with the outcome of the detector. -/
def applyOutcome (candidate : Registry) : ReorgOutcome → Prog ReorgOutcome
  | .forkAt fork => do
    removeFrom fork
    addBlockHeadersToStorage candidate
    return .forkAt fork
  | outcome => return outcome

def reconcileReorg (candidate : Registry) : Prog ReorgOutcome :=
  match candidate.minKey with
  | none => return .noReorg
  | some low => do
    let high := candidate.maxKey.getD low
    let stored ← readStored frames ∅ (heights (low - 1) high)
    applyOutcome candidate (detectReorg sha256 stored candidate conf.anchorHeight)

/-- `walk_back_reorg`: the loop, with a bound on the number of its turns. -/
def walkBackReorg : ℕ → ℕ → Prog Unit
  | 0, _ => return ()
  | turns + 1, top =>
    if conf.anchorHeight < top then do
      let batch ← retrieveLastHeaders frames top
      match ← checkBatch conf batch with
      | .error _ => return ()
      | .ok () => do
        match ← reconcileReorg sha256 frames conf batch.registry with
        | .needMoreHistory => do
          let low := batch.registry.minKey.getD conf.anchorHeight
          if low ≤ conf.anchorHeight then return () else walkBackReorg turns (low - 1)
        | _ => return ()
    else return ()

/-- What `block_header_utxo_loop` does with the outcome, and whether it goes on. -/
def resolveOutcome (height : ℕ) (registry : Registry) : ReorgOutcome → Prog Bool
  | .noReorg => do
    addBlockHeadersToStorage registry
    return true
  | .forkAt _ => return true
  | .needMoreHistory => do
    -- each turn ends below the height it started from
    walkBackReorg sha256 frames conf height height
    return true
  | .badStartingHeaderChain => return false

/-- One turn of `block_header_utxo_loop` up to the removal of old headers, and whether the loop goes
on. -/
def syncHeaders : Prog Bool := do
  let height := (← getBlockCount).toNat
  let batch ← retrieveLastHeaders frames height
  requireValid conf batch
  let outcome ← reconcileReorg sha256 frames conf batch.registry
  resolveOutcome sha256 frames conf height batch.registry outcome

def pruneOldHeaders (maxStored : ℕ) : Prog Unit := do
  match ← getLastBlockHeight with
  | some tip =>
    if maxStored < tip then removeBlockHeadersFromToHeight 0 (tip - maxStored) else return ()
  | none => return ()

/-- One turn of `block_header_utxo_loop`. -/
def tick : Prog Unit := do
  if ← syncHeaders sha256 frames conf then
    match conf.maxStoredBlockHeaders with
    | some maxStored => pruneOldHeaders maxStored
    | none => return ()
  else return ()

end reorg

end CheetahDex.Spv
