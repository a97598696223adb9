import CheetahDex.Ordermatch.ProcessMsg
import CheetahDex.Proof.TrieContents

/-!
# What the book stores and what it sends

Whatever way the book is changed, an order in it stands under its own uuid and has acceptable
numbers. And the operations a change emits for the trie worker are well formed: an insertion is sent
to the pubkey and pair of its own order, and no message removes a pubkey.
-/

namespace CheetahDex.Proof

open Lib Common Ordermatch Orderbook

/-! ## Stored orders -/

/-- An order is stored under its own uuid, and with numbers the book accepts. -/
def StoredOk (ob : Orderbook) : Prop :=
  ∀ u o, ob.orderSet.lookup u = some o → o.uuid = u ∧ Accepts o

theorem storedOk_default : StoredOk Orderbook.default := by
  intro u o h
  simp [Orderbook.default] at h

theorem StoredOk.indexRemove {ob : Orderbook} (h : StoredOk ob) (uuid : Uuid) :
    StoredOk (ob.indexRemove uuid).1 := forall_indexRemove h uuid

theorem StoredOk.indexInsertOrUpdate {ob : Orderbook} (h : StoredOk ob)
    (order : OrderbookItem) : StoredOk (ob.indexInsertOrUpdate order).1 :=
  forall_indexInsertOrUpdate h fun _ hacc => ⟨rfl, hacc⟩

variable (ob : Orderbook)

theorem storedOk_step (op : BookOp) (h : StoredOk ob) : StoredOk (op.apply ob) := by
  cases op with
  | index op =>
    cases op with
    | insertOrUpdate order => exact h.indexInsertOrUpdate order
    | remove uuid => exact h.indexRemove uuid
    | removePubkeyPairOrders iter pubkey albPair =>
      exact removePairOrders_induction (fun _ uuid _ h _ _ => h.indexRemove uuid) iter albPair h
  | rememberCancelled now uuid pubkey => exact h
  | setMyP2pPubkeys keys => exact h

theorem storedOk_run (ops : List BookOp) : StoredOk (ops.foldl BookOp.apply Orderbook.default) :=
  List.foldlRecOn ops BookOp.apply storedOk_default fun ob h op _ => storedOk_step ob op h

/-! ## Emitted operations -/

/-- The operations a message handler sends. Only the sweep of stale orders removes a pubkey. -/
def HandlerOp : TrieOp → Prop
  | .insert pubkey albPair uuid order => OrderOf pubkey albPair uuid order
  | .clearPair _ _ => True
  | .remove _ _ _ => True
  | .removePubkey _ => False

theorem HandlerOp.wellFormed {op : TrieOp} (h : HandlerOp op) : WellFormedOp op := by
  cases op with
  | insert pubkey albPair uuid order => exact h
  | clearPair pubkey albPair | remove pubkey albPair uuid | removePubkey pubkey => trivial

theorem handlerOp_indexRemove (uuid : Uuid) :
    ∀ op ∈ ((ob.indexRemove uuid).2.map (·.2)).toList, HandlerOp op := by
  intro op hop
  cases ho : ob.orderSet.lookup uuid with
  | none =>
    rw [indexRemove_of_absent ho] at hop
    simp at hop
  | some order =>
    rw [indexRemove_of_lookup ho] at hop
    simp only [Option.map_some, Option.toList_some, List.mem_singleton] at hop
    rw [hop]
    trivial

theorem handlerOp_indexInsertOrUpdate (order : OrderbookItem) :
    ∀ op ∈ (ob.indexInsertOrUpdate order).2, HandlerOp op := by
  rcases indexInsertOrUpdate_cases ob order with ⟨-, he⟩ | ⟨-, ha, he⟩ | ⟨-, -, he⟩
  · rw [he]
    simp
  · rw [he]
    intro op hop
    rw [List.mem_singleton] at hop
    rw [hop]
    exact ⟨rfl, rfl, rfl, ha⟩
  · rw [he]
    exact handlerOp_indexRemove ob order.uuid

theorem handlerOp_foldEmit {α : Type} {f : Orderbook → α → Orderbook × List TrieOp}
    (hf : ∀ ob a, ∀ op ∈ (f ob a).2, HandlerOp op) (ob : Orderbook) (as : List α) :
    ∀ op ∈ (foldEmit f ob as).2, HandlerOp op := by
  induction as generalizing ob with
  | nil => simp [foldEmit]
  | cons a as ih =>
    intro op hop
    rcases List.mem_append.1 hop with hop | hop
    · exact hf ob a op hop
    · exact ih _ op hop

theorem handlerOp_processPairDiff (iter : SyncIteration) (res : SyncPubkeyOrderbookStateRes)
    (fromPubkey : String) (ob : Orderbook)
    (diff : AlbOrderedOrderbookPair × PairAnswer) :
    ∀ op ∈ (processPairDiff iter res fromPubkey ob diff).2, HandlerOp op := by
  obtain ⟨pair, orders | orders⟩ := diff
  · refine handlerOp_foldEmit ?_ ob _
    rintro ob ⟨uuid, order | _⟩
    · exact handlerOp_indexRemove ob uuid
    · exact handlerOp_indexInsertOrUpdate ob _
  · intro op hop
    rcases List.mem_cons.1 hop with rfl | hop
    · trivial
    · exact handlerOp_foldEmit (fun ob e => handlerOp_indexInsertOrUpdate ob _) _ _ op hop

/-- **Every operation a message makes the book send is one of these.** -/
theorem handlerOp_processMsg (banned : Bool) (fromPubkey : String) (input : P2PInput) :
    ∀ op ∈ (processMsg ob banned fromPubkey input).2, HandlerOp op := by
  cases banned with
  | true => simp [processMsg]
  | false =>
    cases input with
    | makerOrderCreated msg => exact handlerOp_indexInsertOrUpdate ob _
    | makerOrderUpdated msg =>
      simp only [processMsg, Bool.false_eq_true, ↓reduceIte, processMakerOrderUpdated]
      split
      · exact handlerOp_indexInsertOrUpdate ob _
      · simp
    | makerOrderCancelled now uuid =>
      simp only [processMsg, Bool.false_eq_true, ↓reduceIte, deleteOrder]
      split
      · split
        · exact handlerOp_indexRemove _ uuid
        · simp
      · simp
    | syncResponse iter res =>
      exact handlerOp_foldEmit (handlerOp_processPairDiff iter res fromPubkey) ob _

end CheetahDex.Proof
