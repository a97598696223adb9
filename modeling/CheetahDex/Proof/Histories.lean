import CheetahDex.Proof.StoreRuns
import CheetahDex.Proof.SyncAnswer

/-!
# The histories of the store

Whatever sequence of insertions, removals and resets the store has seen, and whatever has expired on
the way, the diffs of a history never lead in a circle. So following them ends, and what they add up
to leads from the orders of the first root to the orders of the last.
-/

namespace CheetahDex.Proof

open Lib Common Ordermatch TrieStore

variable {H : Type} [DecidableEq H] {history : TrieOrderHistory H} {rank : H → ℕ}

/-! ## Ranks -/

/-- The history has a diff from one root to the next. -/
def PointsTo (history : TrieOrderHistory H) (root next : H) : Prop :=
  ∃ diff, history.get root = some diff ∧ diff.nextRoot = next

section

variable (hrn : history.All fun root diff => rank diff.nextRoot < rank root)

include hrn

theorem rank_lt_of_transGen {root last : H} (h : Relation.TransGen (PointsTo history) root last) :
    rank last < rank root := by
  induction h with
  | single h =>
    obtain ⟨diff, hget, rfl⟩ := h
    exact hrn _ _ hget
  | tail _ h ih =>
    obtain ⟨diff, hget, rfl⟩ := h
    exact (hrn _ _ hget).trans ih

/-- Following a ranked history ends, with as many turns as it has roots below the next one. -/
theorem followHistory_isSome {fuel : Nat}
    {diff : TrieDiff H} {total : HashMap Uuid (Option OrderbookItem)}
    (hfl : (history.map.keys.filter fun r => rank r ≤ rank diff.nextRoot).card < fuel) :
    (followHistory history fuel diff total).isSome := by
  induction fuel generalizing diff total with
  | zero => exact absurd hfl (Nat.not_lt_zero _)
  | succ fuel ih =>
    unfold followHistory
    split
    · rename_i cur hcur
      have hlt := hrn _ _ hcur
      refine ih (Nat.lt_of_lt_of_le (Finset.card_lt_card ?_) (Nat.le_of_lt_succ hfl))
      -- the root that has just been passed is not below the next one
      obtain ⟨e, he, -⟩ := Option.map_eq_some_iff.mp hcur
      refine (Finset.ssubset_iff_of_subset fun r hr => ?_).mpr ⟨diff.nextRoot, ?_, ?_⟩
      · rw [Finset.mem_filter] at hr ⊢
        exact ⟨hr.1, hr.2.trans hlt.le⟩
      · rw [Finset.mem_filter, Finmap.mem_keys]
        exact ⟨Finmap.mem_of_lookup_eq_some he, le_rfl⟩
      · rw [Finset.mem_filter, not_and, not_le]
        exact fun _ => hlt
    · rfl

end

variable (th : PairHash H)

/-- The diffs lead from contents to contents, and down in some ranking of the roots. -/
def Sequential (history : TrieOrderHistory H) : Prop :=
  ∃ rank : H → ℕ, history.All fun root diff => rank diff.nextRoot < rank root ∧
    ∃ c, root = th.root c ∧ diff.nextRoot = th.root (applyDelta c diff.delta)

variable {th}

/-- A diff is recorded only if nothing leads on from its end, so its end can rank lowest. -/
theorem Sequential.insertNewDiff (h : Sequential th history) (clock : Nat → Instant)
    {c : PairOrders} {diff : TrieDiff H}
    (hx : diff.nextRoot = th.root (applyDelta c diff.delta)) :
    Sequential th (history.insertNewDiff clock (th.root c) diff) := by
  obtain ⟨rank, hall⟩ := h
  rcases insertNewDiff_cases clock history (th.root c) diff with
    hkp | ⟨hne, h', hn, hkp, heq⟩
  · exact ⟨rank, hkp hall⟩
  · refine ⟨fun r => if r = diff.nextRoot then 0 else rank r + 1, ?_⟩
    rw [heq]
    refine TimeCache.All.insert _ (fun r d hget => ?_) ⟨by simp [hne], c, rfl, hx⟩
    obtain ⟨hlt, hd⟩ := hkp hall r d hget
    have hr : r ≠ diff.nextRoot := by
      rintro rfl
      exact absurd hget (by simp [hn])
    refine ⟨?_, hd⟩
    simp only [if_neg hr]
    split_ifs <;> omega

/-! ## Runs -/

variable (th)

/-- The calls that change histories. -/
inductive HistoryCall where
  | insert (clock : Clock) (pubkey pair : String) (uuid : Uuid) (order : OrderbookItem)
  | remove (clock : Clock) (pubkey pair : String) (uuid : Uuid)
  | clearPair (clock : Clock) (pubkey pair : String)

def HistoryCall.apply (st : TrieStore H) : HistoryCall → TrieStore H
  | .insert clock pubkey pair uuid order => applyInsert th clock st pubkey pair uuid order
  | .remove clock pubkey pair uuid => applyRemove th clock st pubkey pair uuid
  | .clearPair clock pubkey pair => applyClearPair clock st pubkey pair

structure HistoriesInv (st : TrieStore H) : Prop where
  sound : th.Sound st.memoryDb
  sequential : ∀ pubkey ps, st.pubkeysState.lookup pubkey = some ps →
    ps.orderPairsTrieStateHistory.All fun _ => Sequential th

variable {th} {st : TrieStore H} {ps : OrderbookPubkeyState H}

theorem sequential_recordDiff (h : ps.orderPairsTrieStateHistory.All fun _ => Sequential th)
    (clock : Clock) (pair : AlbOrderedOrderbookPair) {c : PairOrders} {diff : TrieDiff H}
    (hx : diff.nextRoot = th.root (applyDelta c diff.delta)) :
    (recordDiff clock ps pair (th.root c) diff).orderPairsTrieStateHistory.All
      fun _ => Sequential th :=
  h.modifyOrInsert _ (Sequential.insertNewDiff ⟨fun _ => 0, TimeCache.all_new _⟩ _ hx)
    fun _ hv => hv.insertNewDiff _ hx

section

variable (h : HistoriesInv th st)

include h

theorem HistoriesInv.pubkeyState (nowMs : Nat) (pubkey : String) :
    (st.pubkeyState nowMs pubkey).orderPairsTrieStateHistory.All fun _ => Sequential th := by
  unfold TrieStore.pubkeyState HashMap.getD
  cases hp : st.pubkeysState.lookup pubkey with
  | some ps => exact h.sequential pubkey ps hp
  | none => exact TimeCache.all_new _

theorem HistoriesInv.write (pubkey : String)
    (hps : ps.orderPairsTrieStateHistory.All fun _ => Sequential th)
    {db : PairTries H} (hsnd : th.Sound db) :
    HistoriesInv th ⟨st.pubkeysState.insert pubkey ps, db⟩ := by
  refine ⟨hsnd, fun pubkey' ps' hl => ?_⟩
  rw [HashMap.lookup_insert_ite] at hl
  split at hl
  · exact Option.some.inj hl ▸ hps
  · exact h.sequential pubkey' ps' hl

/-- Every call keeps each history in sequence. -/
theorem HistoriesInv.apply (call : HistoryCall) : HistoriesInv th (call.apply th st) := by
  cases call with
  | insert clock pubkey pair uuid order =>
    have hps := h.pubkeyState clock.nowMs pubkey
    simp only [HistoryCall.apply, applyInsert]
    split
    · refine h.write pubkey ?_ h.sound
      exact hps
    · rename_i trie htr
      refine h.write pubkey ?_ (h.sound.commit _)
      split
      · exact hps
      · rename_i hz
        rw [getTrieMut, if_neg hz] at htr
        rw [(h.sound.holds_of_open htr).1]
        refine sequential_recordDiff ?_ clock pair rfl
        exact hps
  | remove clock pubkey pair uuid =>
    have hps := h.pubkeyState clock.nowMs pubkey
    simp only [HistoryCall.apply, applyRemove]
    split
    · refine h.write pubkey ?_ h.sound
      exact hps
    · rename_i trie htr
      refine h.write pubkey ?_ (h.sound.commit _)
      split
      · rw [(h.sound.holds_of_open htr).1]
        refine sequential_recordDiff ?_ clock pair rfl
        exact hps
      · exact hps
  | clearPair clock pubkey pair =>
    simp only [HistoryCall.apply, applyClearPair, HashMap.modify]
    cases hp : st.pubkeysState.lookup pubkey with
    | none => exact h
    | some ps =>
      refine h.write pubkey ?_ h.sound
      exact (h.sequential pubkey ps hp).remove _ _

end

variable (th) (calls : List HistoryCall)

/-- The store after a run of calls. -/
def runCalls : TrieStore H := calls.foldl (HistoryCall.apply th) TrieStore.default

theorem historiesInv_run : HistoriesInv th (runCalls th calls) := by
  refine List.foldlRecOn calls _ ⟨TrieHash.sound_empty, fun pubkey ps h => ?_⟩ fun _ h call _ =>
    h.apply call
  simp [TrieStore.default] at h

/-- **No history leads in a circle**, so asking for the changes since a root is answered. If the
answer is a delta, it changes the orders of that root to the orders of the actual root. -/
theorem history_answers (calls : List HistoryCall) {pubkey : String} {ps : OrderbookPubkeyState H}
    (hps : (runCalls th calls).pubkeysState.lookup pubkey = some ps)
    {pair : AlbOrderedOrderbookPair} {history : TrieOrderHistory H}
    (hhistory : ps.orderPairsTrieStateHistory.get pair = some history) :
    (∀ root, ¬Relation.TransGen (PointsTo history) root root) ∧
    ∀ iter fromHash actual db getter, ∃ answer,
      fromHistory th iter history fromHash actual db getter = some answer ∧
      ∀ total, answer = .ok (.delta total) → ∃ c c', fromHash = th.root c ∧ actual = th.root c' ∧
        ∀ u, c'.lookup u = saysOrElse (total.lookup u) (c.lookup u) := by
  obtain ⟨rank, hall⟩ := (historiesInv_run th calls).sequential pubkey ps hps pair history hhistory
  have hrn : history.All fun root diff => rank diff.nextRoot < rank root :=
    fun root diff hget => (hall root diff hget).1
  refine ⟨fun root h => Nat.lt_irrefl _ (rank_lt_of_transGen hrn h), ?_⟩
  intro iter fromHash actual db getter
  obtain ⟨answer, hans⟩ : ∃ answer,
      fromHistory th iter history fromHash actual db getter = some answer := by
    unfold fromHistory
    split
    · rename_i diff hdf
      have hs := @followHistory_isSome _ _ _ _ hrn (history.map.keys.card + 1) diff
        (extendDelta ∅ diff.delta) (Nat.lt_succ_of_le (Finset.card_filter_le _ _))
      obtain ⟨⟨total, last⟩, hfo⟩ := Option.isSome_iff_exists.mp hs
      rw [hfo]
      dsimp only
      split <;> exact ⟨_, rfl⟩
    · exact ⟨_, rfl⟩
  refine ⟨answer, hans, ?_⟩
  rintro total rfl
  rcases fromHistory_ok hans with ⟨delta, hld, hdel⟩ | ⟨-, hfu⟩
  · obtain rfl : total = extendDelta ∅ delta := by simpa using hdel
    obtain ⟨c, hrt, hla⟩ := hld.adds_up fun root diff hget => (hall root diff hget).2
    exact ⟨c, _, hrt, hla, lookup_applyDelta c c ∅ delta fun u => by simp [saysOrElse]⟩
  · obtain ⟨orders, -, h⟩ := of_map_ok hfu
    cases h

/-- Two orders of one maker. -/
def twoInserts : List HistoryCall :=
  [.insert stoppedClock "P" "BTC:KMD" 1 ((smallOrder 1).toItem "P"),
    .insert stoppedClock "P" "BTC:KMD" 2 ((smallOrder 2).toItem "P")]

/-- The second one is recorded as a diff. -/
theorem twoInserts_recorded : ∃ ps history,
    (runCalls .plain twoInserts).pubkeysState.lookup "P" = some ps ∧
    ps.orderPairsTrieStateHistory.get "BTC:KMD" = some history ∧ history.map.keys.card = 1 ∧
    ∀ root, ¬Relation.TransGen (PointsTo history) root root := by
  have hone : (((runCalls .plain twoInserts).pubkeysState.lookup "P").bind fun ps =>
      (ps.orderPairsTrieStateHistory.get "BTC:KMD").map (·.map.keys.card)) = some 1 := by
    decide +kernel
  obtain ⟨ps, hps, hget⟩ := Option.bind_eq_some_iff.mp hone
  obtain ⟨history, hhistory, hcr⟩ := Option.map_eq_some_iff.mp hget
  exact ⟨ps, history, hps, hhistory, hcr, (history_answers .plain twoInserts hps hhistory).1⟩

end CheetahDex.Proof
