import CheetahDex.Proof.Tracked
import CheetahDex.Proof.StoredOrders

/-!
# Batches against single operations

A trie operation is a write to the cells of its pubkey and pair: one cell for each uuid, and one for
whether there is a trie at all. Applied one at a time, the last write to a cell stays. A batch
reorders the writes: clear, then insertions, then removals.
-/

namespace CheetahDex.Proof

open Lib Common Ordermatch Orderbook TrieStore List Option TrieHash

variable {H : Type} [DecidableEq H]

/-- The order under a uuid and whether it is tracked; under no uuid, whether there is a trie. -/
abbrev CellValue := Option OrderbookP2PItem × Bool

variable (th : PairHash H)

/-- The cells of a pubkey and pair. -/
def cells (st : TrieStore H) (key : PairKey) : Option Uuid → CellValue
  | some u => ((contents th st key.1 key.2).lookup u, tracked st (key, u))
  | none => (none, rootOf th st key.1 key.2 ≠ th.zero)

abbrev CellWrite := Option Uuid → Option CellValue

def insertWrite (e : Uuid × OrderbookItem) : CellWrite := fun cell =>
  if cell = some e.1 then some (some e.2.toP2P, true)
  else if cell = none then some (none, true) else none

def removeWrite (uuid : Uuid) : CellWrite := fun cell =>
  if cell = some uuid then some (none, false) else none

def clearWrite : CellWrite := fun _ => some (none, false)

/-- What a group writes, in the order in which it is applied. -/
def groupWrites (g : Group) : List CellWrite :=
  (if g.clear then [clearWrite] else []) ++ g.inserts.map insertWrite ++ g.removes.map removeWrite

/-- What a list of operations writes to the cells of a key, one operation at a time. -/
def writesAt (key : PairKey) (ops : List TrieOp) : List CellWrite :=
  ops.flatMap fun op => groupWrites (groupFor key [op])

variable {th}

/-! ## Operations as writes -/

variable {pubkey pair : String} {st : TrieStore H} {w : CellWrite}
  {key : PairKey} {ops : List TrieOp} {cell : Option Uuid} {v : CellValue}

omit [DecidableEq H] in
theorem mem_trackedAt_iff {u : Uuid} : tracked st (key, u) = true ↔ u ∈ trackedAt st key := Iff.rfl

/-- The orders of a pair and the tracked uuids, seen as cells that are overwritten. -/
theorem actsAt_cells {f : TrieStore H → TrieStore H} {g : PairOrders → PairOrders}
    {t : Set Uuid → Set Uuid} {root : TrieStore H → H}
    (hcn : ∀ st, StoreInv th st → Updates th st (f st) key (root st) (g (contentsAt th st key)))
    (htd : ActsAt (fun _ => True) trackedAt key f t)
    (hs : ∀ st u b, (b = true ↔ u ∈ t (trackedAt st key)) →
      ((g (contentsAt th st key)).lookup u, b) = overwrite (cells th st key) w (some u))
    (hn : ∀ st, (none, decide (root st ≠ th.zero)) = overwrite (cells th st key) w none) :
    ActsAt (StoreInv th) (cells th) key f (overwrite · w) := by
  intro st h
  refine ⟨(hcn st h).inv, fun key' => funext fun cell => ?_⟩
  have hlk := (hcn st h).contents h key'
  have hset := (htd st trivial).2 key'
  have hrt := (hcn st h).roots key'
  by_cases hkey : key' = key
  · rw [if_pos hkey] at hlk hset hrt ⊢
    cases cell with
    | none =>
      rw [cells, hrt]
      exact hn st
    | some u =>
      rw [cells, hlk]
      exact hs st u _ (by rw [← hset, mem_trackedAt_iff])
  · rw [if_neg hkey] at hlk hset hrt ⊢
    cases cell with
    | none => rw [cells, cells, hrt]
    | some u =>
      have htr : tracked (f st) (key', u) = tracked st (key', u) :=
        Bool.eq_iff_iff.mpr (Set.ext_iff.mp hset u)
      rw [cells, cells, htr, hlk]

theorem actsAt_cells_insert (th : PairHash H) (clock : Clock) {uuid : Uuid}
    {order : OrderbookItem} (ho : OrderOf pubkey pair uuid order) :
    ActsAt (StoreInv th) (cells th) (pubkey, pair)
      (fun st => applyInsert th clock st pubkey pair uuid order)
      (overwrite · (insertWrite (uuid, order))) := by
  refine actsAt_cells (g := fun c => c.insert uuid order.toP2P) (fun st h => h.applyInsert clock ho)
    (actsAt_applyInsert th clock pubkey pair uuid order) (fun st u b hb => ?_) fun st => ?_
  · rw [HashMap.lookup_insert_ite]
    rw [Set.mem_insert_iff, ← mem_trackedAt_iff] at hb
    by_cases hu : u = uuid
    · simp [overwrite, insertWrite, hu, hb.2 (.inl hu)]
    · rw [or_iff_right hu, ← Bool.eq_iff_iff] at hb
      simp [overwrite, insertWrite, hu, hb, cells, contentsAt]
  · simp [overwrite, insertWrite, th.root_ne_zero]

theorem actsAt_cells_remove (th : PairHash H) (clock : Clock)
    (pubkey pair : String) (uuid : Uuid) :
    ActsAt (StoreInv th) (cells th) (pubkey, pair)
      (fun st => applyRemove th clock st pubkey pair uuid)
      (overwrite · (removeWrite uuid)) := by
  refine actsAt_cells (g := fun c => c.erase uuid)
    (fun st h => h.applyRemove clock pubkey pair uuid)
    (actsAt_applyRemove th clock pubkey pair uuid) (fun st u b hb => ?_) fun st => ?_
  · rw [HashMap.lookup_erase_ite]
    rw [Set.mem_sdiff, Set.mem_singleton_iff, ← mem_trackedAt_iff] at hb
    by_cases hu : u = uuid
    · simpa [overwrite, removeWrite, hu] using fun h => (hb.1 h).2 hu
    · rw [and_iff_left hu, ← Bool.eq_iff_iff] at hb
      simp [overwrite, removeWrite, hu, hb, cells, contentsAt]
  · by_cases hz : rootOf th st pubkey pair = th.zero
    · simp [overwrite, removeWrite, cells, hz]
    · simp [overwrite, removeWrite, cells, hz, th.root_ne_zero]

/-! ## Batches -/

theorem opsAct_cells : OpsAct th (StoreInv th) (cells th) (fun key e => OrderOf key.1 key.2 e.1 e.2)
    (overwrite · clearWrite) (fun s e => overwrite s (insertWrite e))
    (fun s uuid => overwrite s (removeWrite uuid)) where
  clear clock key := by
    refine actsAt_cells (g := fun _ => ∅) (fun st h => h.applyClearPair clock key.1 key.2)
      (actsAt_applyClearPair clock key.1 key.2) (fun st u b hb => ?_) fun st => ?_
    · simpa [overwrite, clearWrite] using fun h => Set.notMem_empty u (hb.1 h)
    · simp [overwrite, clearWrite]
  insert clock _ _ he := actsAt_cells_insert th clock he
  remove clock key uuid := actsAt_cells_remove th clock key.1 key.2 uuid

/-- Each key sees the writes of its group. -/
theorem cells_applyOps (h : StoreInv th st) (env : BatchEnv) (hops : ∀ op ∈ ops, HandlerOp op) :
    StoreInv th (applyOps th env st ops) ∧ ∀ key, cells th (applyOps th env st ops) key =
      replay (cells th st key) (groupWrites (groupFor key ops)) := by
  refine ⟨(h.applyOps env fun op hop => (hops op hop).wellFormed).1, fun key => ?_⟩
  have hrmd : (groupOps ops).2 = ∅ := by
    refine Finset.eq_empty_of_forall_notMem fun pubkey hmem => ?_
    exact hops _ ((mem_groupOps_removed ops pubkey).mp hmem)
  have hsr : applyOps th env st ops = (env.groups.entries (groupOps ops).1).foldl
      (fun st e => applyGroup th (env.clock e.1) st e.1.1 e.1.2 e.2) st := by
    have hre : ∀ m : HashMap String (OrderbookPubkeyState H),
        (m.retain fun pubkey _ => pubkey ∉ (groupOps ops).2) = m := by
      intro m
      refine Finmap.ext_lookup fun pubkey => ?_
      rw [HashMap.lookup_retain, hrmd]
      cases m.lookup pubkey with
      | none => rfl
      | some ps => simp
    rw [applyOps, hre]
  obtain ⟨-, hcl⟩ := opsAct_cells.groups env st ops
    (orderOf_groups env fun op hop => (hops op hop).wellFormed) h
  rw [hsr, hcl key, groupAct, replay, groupWrites]
  simp only [foldl_append, foldl_map]
  cases (groupFor key ops).clear with
  | true => rfl
  | false => rfl

/-- Operations applied one at a time, each as a batch of its own. -/
theorem cells_foldl_applyOps (h : StoreInv th st) (env : TrieOp → BatchEnv)
    (hops : ∀ op ∈ ops, HandlerOp op) :
    StoreInv th (ops.foldl (fun st op => applyOps th (env op) st [op]) st) ∧
      ∀ key, cells th (ops.foldl (fun st op => applyOps th (env op) st [op]) st) key =
        replay (cells th st key) (writesAt key ops) := by
  induction ops generalizing st with
  | nil => exact ⟨h, fun key => rfl⟩
  | cons op ops ih =>
    have hop : ∀ op' ∈ [op], HandlerOp op' := by simpa using hops op mem_cons_self
    obtain ⟨hinv, hcl⟩ := cells_applyOps h (env op) hop
    obtain ⟨hinv', hcl'⟩ := ih hinv fun op' hop' => hops op' (mem_cons_of_mem op hop')
    refine ⟨hinv', fun key => ?_⟩
    rw [foldl_cons, hcl', hcl]
    exact (replay_append _ _ _).symm

/-! ## The last write -/

/-- The last write to a cell. -/
def lastWrite (cell : Option Uuid) : List CellWrite → Option CellValue
  | [] => none
  | w :: ws => (lastWrite cell ws).or (w cell)

theorem replay_apply (s : Option Uuid → CellValue) (ws : List CellWrite) (cell : Option Uuid) :
    replay s ws cell = (lastWrite cell ws).getD (s cell) := by
  induction ws generalizing s with
  | nil => rfl
  | cons w ws ih =>
    have hco : replay s (w :: ws) = replay (overwrite s w) ws := rfl
    rw [hco, ih, lastWrite]
    cases lastWrite cell ws with
    | none => rfl
    | some v => rfl

theorem lastWrite_append (cell : Option Uuid) (ws ws' : List CellWrite) :
    lastWrite cell (ws ++ ws') = (lastWrite cell ws').or (lastWrite cell ws) := by
  induction ws with
  | nil => simp [lastWrite]
  | cons w ws ih => rw [cons_append, lastWrite, ih, lastWrite, Option.or_assoc]

variable {ws : List CellWrite}

theorem lastWrite_eq_none_iff : lastWrite cell ws = none ↔ ∀ w ∈ ws, w cell = none := by
  induction ws with
  | nil => simp [lastWrite]
  | cons w ws ih => rw [lastWrite, or_eq_none_iff, ih, forall_mem_cons, and_comm]

theorem exists_of_lastWrite (h : lastWrite cell ws = some v) : ∃ w ∈ ws, w cell = some v := by
  induction ws with
  | nil => cases h
  | cons w ws ih =>
    rw [lastWrite, or_eq_some_iff] at h
    rcases h with h | ⟨-, h⟩
    · obtain ⟨w', hw', hv⟩ := ih h
      exact ⟨w', mem_cons_of_mem w hw', hv⟩
    · exact ⟨w, mem_cons_self, h⟩

theorem mem_groupWrites :
    w ∈ groupWrites (groupFor key ops) ↔ ∃ op ∈ ops, op = .clearPair key.1 key.2 ∧ w = clearWrite ∨
      (∃ e, insertAt key op = some e ∧ insertWrite e = w) ∨
      ∃ u, removeAt key op = some u ∧ removeWrite u = w := by
  have hclr : w ∈ (if (groupFor key ops).clear then [clearWrite] else []) ↔
      ∃ op ∈ ops, op = .clearPair key.1 key.2 ∧ w = clearWrite := by
    by_cases hmem : .clearPair key.1 key.2 ∈ ops
    · simp [groupFor, hmem]
    · simp [groupFor, hmem]
  rw [groupWrites, mem_append, mem_append, hclr]
  simp only [List.mem_map, groupFor, insertsFor, removesFor, mem_filterMap]
  constructor
  · rintro ((⟨op, hop, h⟩ | ⟨e, ⟨op, hop, h⟩, hw⟩) | ⟨u, ⟨op, hop, h⟩, hw⟩)
    · exact ⟨op, hop, .inl h⟩
    · exact ⟨op, hop, .inr (.inl ⟨e, h, hw⟩)⟩
    · exact ⟨op, hop, .inr (.inr ⟨u, h, hw⟩)⟩
  · rintro ⟨op, hop, h | ⟨e, h, hw⟩ | ⟨u, h, hw⟩⟩
    · exact .inl (.inl ⟨op, hop, h⟩)
    · exact .inl (.inr ⟨e, ⟨op, hop, h⟩, hw⟩)
    · exact .inr ⟨u, ⟨op, hop, h⟩, hw⟩

/-- One at a time or in a batch, the same is written, if maybe in another order. -/
theorem mem_writesAt : w ∈ writesAt key ops ↔ w ∈ groupWrites (groupFor key ops) := by
  simp only [writesAt, mem_flatMap, mem_groupWrites, List.mem_singleton, exists_eq_left]

/-- A write that leaves nothing is a removal or a clear. -/
theorem eq_of_mem_groupWrites {g : Group} (hw : w ∈ groupWrites g) (hv : w cell = some v) :
    v = (none, false) ∨ v.2 = true ∧ ∃ e ∈ g.inserts, cell = some e.1 ∨ cell = none := by
  simp only [groupWrites, mem_append, List.mem_map] at hw
  rcases hw with (hw | ⟨e, he, rfl⟩) | ⟨u, -, rfl⟩
  · left
    split at hw
    · rw [List.mem_singleton.mp hw] at hv
      exact (some.inj hv).symm
    · cases hw
  · right
    simp only [insertWrite] at hv
    split_ifs at hv with h h'
    · exact ⟨some.inj hv ▸ rfl, e, he, .inl h⟩
    · exact ⟨some.inj hv ▸ rfl, e, he, .inr h'⟩
  · left
    simp only [removeWrite] at hv
    split_ifs at hv
    exact (some.inj hv).symm

/-- If every write to a cell writes the same, so does the last one. -/
theorem lastWrite_of_forall (h : ∀ w ∈ ws, ∀ v', w cell = some v' → v' = v) :
    lastWrite cell ws = if ∃ w ∈ ws, w cell ≠ none then some v else none := by
  cases hl : lastWrite cell ws with
  | none => rw [if_neg (by simpa using lastWrite_eq_none_iff.mp hl)]
  | some v' =>
    obtain ⟨w, hw, hv'⟩ := exists_of_lastWrite hl
    rw [h w hw v' hv', if_pos ⟨w, hw, by simp [hv']⟩]

theorem lastWrite_removes (cell : Option Uuid) (uuids : List Uuid) :
    lastWrite cell (uuids.map removeWrite) =
      if ∃ u ∈ uuids, cell = some u then some (none, false) else none := by
  rw [lastWrite_of_forall (v := (none, false)) (by simp +contextual [removeWrite, eq_comm])]
  simp [removeWrite]

/-- The last write of a batch: a removal, or else an insertion, or else the clear. -/
theorem lastWrite_groupWrites (cell : Option Uuid) (g : Group) :
    lastWrite cell (groupWrites g) = if ∃ u ∈ g.removes, cell = some u then some (none, false) else
      (lastWrite cell (g.inserts.map insertWrite)).or
        (if g.clear then some (none, false) else none) := by
  rw [groupWrites, lastWrite_append, lastWrite_append, lastWrite_removes]
  split
  · rfl
  · cases g.clear with
    | true => rfl
    | false => rfl

/-- If the last write to a cell is an insertion, it is the last one among the insertions. -/
theorem lastWrite_inserts (h : lastWrite cell (writesAt key ops) = some v) (hv : v.2 = true) :
    lastWrite cell ((insertsFor key ops).map insertWrite) = some v := by
  induction ops with
  | nil => cases h
  | cons op ops ih =>
    have hco : writesAt key (op :: ops) = groupWrites (groupFor key [op]) ++ writesAt key ops := rfl
    have hins : insertsFor key (op :: ops) = insertsFor key [op] ++ insertsFor key ops := by
      simp [insertsFor, filterMap_cons]
      cases insertAt key op <;> rfl
    rw [hco, lastWrite_append, or_eq_some_iff] at h
    rw [hins, map_append, lastWrite_append, or_eq_some_iff]
    rcases h with h | ⟨hn, h⟩
    · exact .inl (ih h)
    · refine .inr ⟨?_, ?_⟩
      · rw [lastWrite_eq_none_iff] at hn ⊢
        intro w hw
        obtain ⟨e, he, rfl⟩ := List.mem_map.mp hw
        refine hn _ (mem_writesAt.mpr ?_)
        simp only [groupWrites, mem_append]
        exact .inl (.inr hw)
      · rw [lastWrite_groupWrites] at h
        split at h
        · cases some.inj h
          cases hv
        · rw [or_eq_some_iff] at h
          rcases h with h | ⟨-, h⟩
          · exact h
          · split at h
            · cases some.inj h
              cases hv
            · cases h

/-! ## The order of operations -/

/-- The last operation on a cell is an insertion. -/
def EndsInserted (key : PairKey) (cell : Option Uuid) (ops : List TrieOp) : Prop :=
  ∃ v, lastWrite cell (writesAt key ops) = some (v, true)

/-- What a batch inserts and does not remove is not cleared after that; what it inserts and removes
is removed or cleared after that; and a pair into which it inserts is not cleared after all
insertions. -/
def KeepsOrder (ops : List TrieOp) : Prop :=
  ∀ key cell, (∃ e ∈ insertsFor key ops, cell = some e.1 ∨ cell = none) →
    (EndsInserted key cell ops ↔ ¬∃ u ∈ removesFor key ops, cell = some u)

theorem exists_lastWrite_inserts {entries : List (Uuid × OrderbookItem)}
    (h : ∃ e ∈ entries, cell = some e.1 ∨ cell = none) :
    ∃ v, lastWrite cell (entries.map insertWrite) = some (v, true) := by
  obtain ⟨e, he, hce⟩ := h
  cases hl : lastWrite cell (entries.map insertWrite) with
  | none =>
    have hn := lastWrite_eq_none_iff.mp hl _ (List.mem_map_of_mem he)
    rcases hce with hce | hce
    · simp [insertWrite, hce] at hn
    · simp [insertWrite, hce] at hn
  | some v =>
    obtain ⟨w, hw, hv⟩ := exists_of_lastWrite hl
    obtain ⟨e', -, rfl⟩ := List.mem_map.mp hw
    refine ⟨v.1, congrArg some (Prod.ext rfl ?_)⟩
    simp only [insertWrite] at hv
    split_ifs at hv
    · rw [← some.inj hv]
    · rw [← some.inj hv]

/-- The last write to a cell into which something is inserted: it leaves nothing, or it is the last
insertion. -/
theorem lastWrite_writesAt (h : ∃ e ∈ insertsFor key ops, cell = some e.1 ∨ cell = none) :
    lastWrite cell (writesAt key ops) = some (none, false) ∨
      lastWrite cell (writesAt key ops)
        = lastWrite cell ((insertsFor key ops).map insertWrite) := by
  cases hl : lastWrite cell (writesAt key ops) with
  | none =>
    obtain ⟨v, hv⟩ := exists_lastWrite_inserts h
    obtain ⟨w, hw, hwv⟩ := exists_of_lastWrite hv
    have hmem : w ∈ groupWrites (groupFor key ops) := mem_append_left _ (mem_append_right _ hw)
    rw [lastWrite_eq_none_iff.mp hl w (mem_writesAt.mpr hmem)] at hwv
    cases hwv
  | some v =>
    obtain ⟨w, hw, hwv⟩ := exists_of_lastWrite hl
    rcases eq_of_mem_groupWrites (mem_writesAt.mp hw) hwv with rfl | ⟨htru, -⟩
    · exact .inl rfl
    · exact .inr (lastWrite_inserts hl htru).symm

/-- The batch leaves the same in a cell as single operations, whatever was in it before, exactly if
the operations on the cell are in order. -/
theorem cell_eq_iff (key : PairKey) (ops : List TrieOp) (s : Option Uuid → CellValue)
    (cell : Option Uuid) :
    replay s (groupWrites (groupFor key ops)) cell = replay s (writesAt key ops) cell ↔
      ((∃ e ∈ insertsFor key ops, cell = some e.1 ∨ cell = none) →
        (EndsInserted key cell ops ↔ ¬∃ u ∈ removesFor key ops, cell = some u)) := by
  rw [replay_apply, replay_apply]
  by_cases hins : ∃ e ∈ insertsFor key ops, cell = some e.1 ∨ cell = none
  · obtain ⟨x, hx⟩ := exists_lastWrite_inserts hins
    -- the batch removes last, or else its last insertion stays
    have hbat : lastWrite cell (groupWrites (groupFor key ops)) =
        if ∃ u ∈ removesFor key ops, cell = some u then some (none, false) else some (x, true) := by
      rw [lastWrite_groupWrites]
      exact if_congr Iff.rfl rfl (congrArg (Option.or · _) hx)
    rw [imp_iff_right hins, EndsInserted, hbat]
    rcases lastWrite_writesAt hins with hseq | hseq
    · rw [hseq]
      split <;> simp [*]
    · rw [hseq, hx]
      split <;> simp [*]
  · -- everything that is written leaves nothing
    have hws : ∀ w ∈ groupWrites (groupFor key ops), ∀ v, w cell = some v → v = (none, false) :=
      fun w hw v hv => (eq_of_mem_groupWrites hw hv).resolve_right fun h => hins h.2
    refine iff_of_true ?_ fun h => absurd h hins
    rw [lastWrite_of_forall hws, lastWrite_of_forall fun w hw => hws w (mem_writesAt.mp hw)]
    simp only [mem_writesAt]

/-! ## Batches against single operations -/

/-- Stores with the same cells have the same roots and track the same orders. -/
theorem cells_eq_iff {st st' : TrieStore H} (h : StoreInv th st) (h' : StoreInv th st') :
    (∀ key, cells th st key = cells th st' key) ↔
      (∀ pubkey pair, rootOf th st pubkey pair = rootOf th st' pubkey pair) ∧
        ∀ pubkey, ordersUuidsOf st pubkey = ordersUuidsOf st' pubkey := by
  constructor
  · intro hcl
    constructor
    · intro pubkey pair
      have h0 : rootOf th st pubkey pair = th.zero ↔ rootOf th st' pubkey pair = th.zero := by
        simpa [cells] using congrFun (hcl (pubkey, pair)) none
      by_cases hz : rootOf th st pubkey pair = th.zero
      · rw [hz, h0.mp hz]
      · rw [h.rootOf_eq hz, h'.rootOf_eq (mt h0.mpr hz)]
        exact congrArg th.root (Finmap.ext_lookup fun u =>
          congrArg Prod.fst (congrFun (hcl (pubkey, pair)) (some u)))
    · refine fun pubkey => Finset.ext fun ⟨u, pair⟩ => ?_
      have htd := congrArg Prod.snd (congrFun (hcl (pubkey, pair)) (some u))
      simpa [cells, tracked] using htd
  · rintro ⟨hro, hud⟩ ⟨pubkey, pair⟩
    have hcn : contents th st pubkey pair = contents th st' pubkey pair :=
      h'.contents_congr h (hro pubkey pair)
    funext cell
    cases cell with
    | none => simp [cells, hro]
    | some u => simp [cells, tracked, hcn, hud]

/-- Applied as a batch, the operations of an answer have the same effect on roots and tracked orders
as one at a time exactly if they are in order. -/
theorem batch_eq_single_iff (th : PairHash H) {st : TrieStore H}
    (h : StoreInv th st) (env : BatchEnv) (envs : TrieOp → BatchEnv) (iter : SyncIteration)
    (ob : Orderbook) (fromPubkey : String) (res : SyncPubkeyOrderbookStateRes) :
    let ops := (processSyncResponse iter ob fromPubkey res).2
    let batched := applyOps th env st ops
    let single := ops.foldl (fun st op => applyOps th (envs op) st [op]) st
    ((∀ pubkey pair, rootOf th batched pubkey pair = rootOf th single pubkey pair) ∧
      ∀ pubkey, ordersUuidsOf batched pubkey = ordersUuidsOf single pubkey) ↔ KeepsOrder ops := by
  intro ops batched single
  have hops : ∀ op ∈ ops, HandlerOp op :=
    handlerOp_foldEmit (fun ob entry => handlerOp_processPairDiff iter res fromPubkey ob entry) ob _
  obtain ⟨hbat, hbt⟩ := cells_applyOps h env hops
  obtain ⟨hsn, hsi⟩ := cells_foldl_applyOps h envs hops
  rw [← cells_eq_iff hbat hsn]
  simp only [hbt, hsi, funext_iff, cell_eq_iff, KeepsOrder]

def fullAnswer (orders : List (Uuid × OrderbookP2PItem)) : SyncPubkeyOrderbookStateRes :=
  ⟨Finmap.singleton "BTC:KMD" (.fullTrie orders), ∅, ∅⟩

def plainSync : SyncIteration := ⟨sortedPairs, fun _ => sortedUuids, fun _ _ => sortedUuids⟩

def volumeOf (volume : MmNumber) : OrderbookP2PItem :=
  { ((smallOrder 1).toItem "P").toP2P with maxVolume := volume }

/-- What a node has heard that holds one order of `P`. -/
def heardOrder : Orderbook × List TrieOp :=
  processSyncResponse plainSync Orderbook.default "P" (fullAnswer [(2, volumeOf 1)])

/-- The next answer has another order in its place. -/
theorem nextOrder_same :
    let st := applyOps plain plainBatch .default heardOrder.2
    let ops := (processSyncResponse plainSync heardOrder.1 "P" (fullAnswer [(1, volumeOf 1)])).2
    let batched := applyOps plain plainBatch st ops
    let single := ops.foldl (fun st op => applyOps plain plainBatch st [op]) st
    (∀ pubkey pair, rootOf plain batched pubkey pair =
      rootOf plain single pubkey pair) ∧
      ∀ pubkey, ordersUuidsOf batched pubkey = ordersUuidsOf single pubkey := by
  intro st
  have hst : StoreInv plain st := (cells_applyOps storeInv_default plainBatch
    (handlerOp_foldEmit (fun ob entry => handlerOp_processPairDiff _ _ _ ob entry) _ _)).1
  refine (batch_eq_single_iff plain hst plainBatch (fun _ => plainBatch) plainSync
    heardOrder.1 "P" (fullAnswer [(1, volumeOf 1)])).mpr ?_
  have hops : (processSyncResponse plainSync heardOrder.1 "P" (fullAnswer [(1, volumeOf 1)])).2 =
      [.clearPair "P" "BTC:KMD",
        .insert "P" "BTC:KMD" 1 ((fullAnswer []).item 1 (volumeOf 1))] := by decide +kernel
  rw [hops]
  rintro key cell ⟨e, he, hce⟩
  by_cases hkey : ("P", "BTC:KMD") = key
  · subst hkey
    refine iff_of_true ?_ (by simp [removesFor, removeAt])
    have he' : (1, (fullAnswer []).item 1 (volumeOf 1)) = e := by
      simpa [insertsFor, insertAt] using he
    rw [← he'] at hce
    rcases hce with rfl | rfl
    · exact ⟨_, rfl⟩
    · exact ⟨_, rfl⟩
  · simp [insertsFor, insertAt, hkey] at he

/-- The answer lists an order, then the same one without a volume, then the order again. The removal
in between comes last in a batch. -/
theorem repeatedUuid_lost :
    let ops := (processSyncResponse plainSync Orderbook.default "P"
      (fullAnswer [(1, volumeOf 1), (1, volumeOf 0), (1, volumeOf 1)])).2
    let batched := applyOps plain plainBatch .default ops
    let single := ops.foldl (fun st op => applyOps plain plainBatch st [op]) .default
    ordersUuidsOf batched "P" = ∅ ∧ ordersUuidsOf single "P" = {(1, "BTC:KMD")} ∧
      rootOf plain batched "P" "BTC:KMD" ≠ rootOf plain single "P" "BTC:KMD" := by
  decide +kernel

end CheetahDex.Proof
