import CheetahDex.Lib.Run
import CheetahDex.Ordermatch.Orderbook

/-!
# The three indices describe the same orders

`orderSet`, `unordered` and `ordered` are three views of one set of orders. Removing an order clears
it out of all three, because `indexRemove` takes the pair and the price from the order it removes.
Inserting looks for an earlier version of the order under the *new* pair only, so the views stay
together exactly as long as no insertion moves a stored uuid to another pair.

When an insertion does move a uuid, the old pair keeps an entry nobody removes any more. Once the
order itself is gone, answering a request for the old pair hits the `expect` in `getPubkeysOrders`.
-/

namespace CheetahDex.Proof

open Lib Common Ordermatch Orderbook List IndexOp Finset SetIndex

/-- The indices describe the same orders, and no empty set is stored. -/
structure Consistent (ob : Orderbook) : Prop where
  /-- A pair lists the uuids of exactly its orders. -/
  mem_unordered : ∀ b r u, u ∈ ob.unordered.members (b, r) ↔
    ∃ o, ob.orderSet.lookup u = some o ∧ o.base = b ∧ o.rel = r
  /-- A pair lists exactly its orders by their prices. -/
  mem_ordered : ∀ b r p u, ⟨p, u⟩ ∈ ob.ordered.members (b, r) ↔
    ∃ o, ob.orderSet.lookup u = some o ∧ o.base = b ∧ o.rel = r ∧ o.price = p
  ordered_noEmpty : ob.ordered.NoEmpty
  unordered_noEmpty : ob.unordered.NoEmpty

theorem consistent_default : Consistent Orderbook.default where
  mem_unordered := by simp [Orderbook.default]
  mem_ordered := by simp [Orderbook.default]
  ordered_noEmpty := noEmpty_empty
  unordered_noEmpty := noEmpty_empty

/-! ## Removing keeps the indices together -/

section

variable {ob : Orderbook} (h : Consistent ob)

include h

/-- Taking an order out of all three indices keeps them consistent. -/
theorem Consistent.dropOrder {uuid : Uuid}
    {order : OrderbookItem} (ho : ob.orderSet.lookup uuid = some order) :
    Consistent (ob.dropOrder uuid order) where
  mem_unordered := by
    intro b r u
    simp only [Orderbook.dropOrder, members_remove, HashMap.lookup_erase_ite]
    by_cases hu : u = uuid
    · -- the removed uuid was listed under its own pair only
      subst hu
      simp only [↓reduceIte, reduceCtorEq, false_and, exists_false, iff_false]
      split
      · exact notMem_erase _ _
      · rename_i hpr
        intro hmem
        obtain ⟨o, hlk, rfl, rfl⟩ := (h.mem_unordered b r u).1 hmem
        rw [ho] at hlk
        injection hlk with hlk
        exact hpr (by rw [OrderbookItem.baseRel, hlk])
    · simp only [hu, ↓reduceIte]
      rw [← h.mem_unordered b r u]
      split
      · rename_i hpr
        rw [mem_erase, ← hpr]
        exact and_iff_right hu
      · rfl
  mem_ordered := by
    intro b r p u
    simp only [Orderbook.dropOrder, members_remove, HashMap.lookup_erase_ite]
    by_cases hu : u = uuid
    · subst hu
      simp only [↓reduceIte, reduceCtorEq, false_and, exists_false, iff_false]
      -- an entry of the removed uuid has the removed order's pair and price
      have key : ∀ b r p, ⟨p, u⟩ ∈ ob.ordered.members (b, r) →
          order.baseRel = (b, r) ∧ order.price = p := by
        intro b r p hmem
        obtain ⟨o, hlk, rfl, rfl, rfl⟩ := (h.mem_ordered b r p u).1 hmem
        rw [ho] at hlk
        injection hlk with hlk
        exact hlk ▸ ⟨rfl, rfl⟩
      split
      · rename_i hpr
        intro hmem
        rw [mem_erase, ← hpr] at hmem
        exact hmem.1 (by rw [(key b r p hmem.2).2])
      · rename_i hpr
        exact fun hmem => hpr (key b r p hmem).1.symm
    · simp only [hu, ↓reduceIte]
      rw [← h.mem_ordered b r p u]
      split
      · rename_i hpr
        rw [mem_erase, ← hpr]
        exact and_iff_right fun he => hu (congrArg OrderedByPriceOrder.uuid he)
      · rfl
  ordered_noEmpty := h.ordered_noEmpty.remove _ _
  unordered_noEmpty := h.unordered_noEmpty.remove _ _

theorem Consistent.indexRemove (uuid : Uuid) : Consistent (ob.indexRemove uuid).1 := by
  cases ho : ob.orderSet.lookup uuid with
  | some order =>
    rw [indexRemove_of_lookup ho]
    exact h.dropOrder ho
  | none =>
    rw [indexRemove_of_absent ho]
    exact h

/-! ## Inserting keeps them together unless the pair changes -/

/-- Taking out the entry that `findExisting` finds takes out every entry of that uuid: consistent
indices have at most one. -/
theorem Consistent.mem_eraseExisting (pair : String × String)
    (uuid : Uuid) (e : OrderedByPriceOrder) :
    e ∈ eraseExisting (ob.ordered.members pair) uuid ↔
      e ∈ ob.ordered.members pair ∧ e.uuid ≠ uuid := by
  obtain ⟨b, r⟩ := pair
  unfold eraseExisting
  rcases findExisting_spec (ob.ordered.members (b, r)) uuid with
    ⟨e', hmem', hu', hfn⟩ | ⟨hn, hfn⟩
  · simp only [hfn, mem_erase]
    constructor
    · rintro ⟨hne, hmem⟩
      refine ⟨hmem, fun hu => hne ?_⟩
      obtain ⟨p, u⟩ := e
      obtain ⟨p', u'⟩ := e'
      simp only at hu hu'
      subst hu hu'
      obtain ⟨o, hlk, -, -, rfl⟩ := (h.mem_ordered _ _ _ _).1 hmem
      obtain ⟨o', hlk', -, -, rfl⟩ := (h.mem_ordered _ _ _ _).1 hmem'
      rw [hlk] at hlk'
      injection hlk' with hlk'
      rw [hlk']
    · rintro ⟨hmem, hu⟩
      exact ⟨fun he => hu (he ▸ hu'), hmem⟩
  · simp only [hfn]
    exact ⟨fun hmem => ⟨hmem, hn e hmem⟩, fun hmem => hmem.1⟩

end

section StoreOrder

variable {ob : Orderbook} {order : OrderbookItem}

variable (h : Consistent ob)
  (hsa : ∀ o, ob.orderSet.lookup order.uuid = some o → o.baseRel = order.baseRel) (b r : String)

include h hsa

theorem Consistent.mem_unordered_inner (u : Uuid) :
    u ∈ (ob.indexInsertOrUpdateInner order).unordered.members (b, r) ↔
      ∃ o, (ob.indexInsertOrUpdateInner order).orderSet.lookup u = some o ∧
        o.base = b ∧ o.rel = r := by
  simp only [indexInsertOrUpdateInner, members_add, HashMap.lookup_insert_ite]
  by_cases hu : u = order.uuid
  · subst hu
    simp only [↓reduceIte, Option.some.injEq, exists_eq_left']
    split
    · rename_i hpr
      injection hpr with hb hr
      simp [hb, hr]
    · -- another pair does not list the uuid, neither before nor after
      rename_i hpr
      rw [h.mem_unordered b r]
      constructor
      · rintro ⟨o, ho, rfl, rfl⟩
        exact absurd (hsa o ho) hpr
      · rintro ⟨rfl, rfl⟩
        exact absurd rfl hpr
  · simp only [hu, ↓reduceIte, ← h.mem_unordered b r u]
    split
    · rename_i hpr
      rw [mem_insert, ← hpr]
      exact or_iff_right hu
    · rfl

theorem Consistent.mem_ordered_inner (p : MmNumber) (u : Uuid) :
    ⟨p, u⟩ ∈ (ob.indexInsertOrUpdateInner order).ordered.members (b, r) ↔
      ∃ o, (ob.indexInsertOrUpdateInner order).orderSet.lookup u = some o ∧
        o.base = b ∧ o.rel = r ∧ o.price = p := by
  simp only [indexInsertOrUpdateInner, members_insert, HashMap.lookup_insert_ite]
  by_cases hpr : (b, r) = order.baseRel
  · rw [if_pos hpr, mem_insert, h.mem_eraseExisting, ← hpr, h.mem_ordered]
    injection hpr with hb hr
    subst hb hr
    by_cases hu : u = order.uuid
    · subst hu
      simp [eq_comm]
    · simp [hu]
  · rw [if_neg hpr, h.mem_ordered]
    by_cases hu : u = order.uuid
    · subst hu
      simp only [↓reduceIte, Option.some.injEq, exists_eq_left']
      constructor
      · rintro ⟨o, ho, rfl, rfl, rfl⟩
        exact absurd (hsa o ho) hpr
      · rintro ⟨rfl, rfl, rfl⟩
        exact absurd rfl hpr
    · simp [hu]

end StoreOrder

variable {ob : Orderbook}

/-- **Storing an order keeps the indices together exactly when the uuid stays in its pair.** -/
theorem Consistent.indexInsertOrUpdateInner_iff (h : Consistent ob)
    (order : OrderbookItem) :
    Consistent (ob.indexInsertOrUpdateInner order) ↔
      ∀ o, ob.orderSet.lookup order.uuid = some o → o.baseRel = order.baseRel := by
  constructor
  · -- the old pair still lists the uuid, so the new order must be in that pair
    intro h' o ho
    have hold : order.uuid ∈ ob.unordered.members (o.base, o.rel) :=
      (h.mem_unordered _ _ _).2 ⟨o, ho, rfl, rfl⟩
    have hnew : order.uuid ∈
        (ob.indexInsertOrUpdateInner order).unordered.members (o.base, o.rel) := by
      simp only [indexInsertOrUpdateInner, members_add]
      split
      · exact mem_insert_self _ _
      · exact hold
    obtain ⟨o', ho', hb, hr⟩ := (h'.mem_unordered _ _ _).1 hnew
    rw [indexInsertOrUpdateInner_orderSet, Finmap.lookup_insert] at ho'
    injection ho' with ho'
    rw [OrderbookItem.baseRel, ← hb, ← hr, ← ho', OrderbookItem.baseRel]
  · intro hsa
    exact ⟨h.mem_unordered_inner hsa, h.mem_ordered_inner hsa,
      h.ordered_noEmpty.insert (insert_nonempty _ _), h.unordered_noEmpty.add _ _⟩

/-! ## Runs of index operations -/

/-- The operation does not store an order under a uuid that is in use for another pair. -/
def KeepsPair (ob : Orderbook) : IndexOp → Prop
  | .insertOrUpdate order => ¬ob.RecentlyCancelled order → Accepts order →
      ∀ o, ob.orderSet.lookup order.uuid = some o → o.baseRel = order.baseRel
  | .remove _ => True
  | .removePubkeyPairOrders _ _ _ => True

/-- Only an order that comes back under another pair spoils the indices. -/
theorem Consistent.apply_iff (h : Consistent ob) (op : IndexOp) :
    Consistent (op.apply ob) ↔ KeepsPair ob op := by
  cases op with
  | insertOrUpdate order =>
    rcases indexInsertOrUpdate_cases ob order with ⟨hc, he⟩ | ⟨hc, ha, he⟩ | ⟨hc, ha, he⟩
    · simp only [apply, he, KeepsPair, hc, not_true_eq_false, false_implies, h]
    · simp only [apply, he, KeepsPair, hc, ha, not_false_eq_true, forall_const]
      exact h.indexInsertOrUpdateInner_iff order
    · simp only [apply, he, KeepsPair, hc, ha, false_implies, implies_true,
        h.indexRemove order.uuid]
  | remove uuid => exact iff_of_true (h.indexRemove uuid) trivial
  | removePubkeyPairOrders iter pubkey albPair =>
    exact iff_of_true (removePairOrders_induction
      (fun _ uuid _ h _ _ => h.indexRemove uuid) iter albPair h) trivial

/-! ## The `expect` of `getPubkeysOrders` -/

theorem collectOrder_isSome {uuids : List Uuid}
    (h : ∀ u ∈ uuids, (ob.orderSet.lookup u).isSome) (res : GetPubkeysOrdersRes) :
    (uuids.foldlM (collectOrder ob) res).isSome := by
  induction uuids generalizing res with
  | nil => rfl
  | cons uuid uuids ih =>
    obtain ⟨order, ho⟩ := Option.isSome_iff_exists.1 (h uuid mem_cons_self)
    rw [foldlM_cons, collectOrder, ho]
    exact ih (fun u hu => h u (mem_cons_of_mem _ hu)) _

/-- A listed uuid without an order is a panic. -/
theorem collectOrder_eq_none {uuids : List Uuid} {uuid : Uuid}
    (hmem : uuid ∈ uuids) (h : ob.orderSet.lookup uuid = none) (res : GetPubkeysOrdersRes) :
    uuids.foldlM (collectOrder ob) res = none := by
  induction uuids generalizing res with
  | nil => cases hmem
  | cons u uuids ih =>
    rw [foldlM_cons]
    cases hu : collectOrder ob res u with
    | none => rfl
    | some res' =>
      rcases mem_cons.1 hmem with rfl | hmem
      · rw [collectOrder, h] at hu
        cases hu
      · exact ih hmem res'

theorem Consistent.getPubkeysOrders_isSome (h : Consistent ob)
    (iter : String × String → Iteration Uuid) (base rel : String) :
    (getPubkeysOrders iter ob base rel).isSome := by
  refine collectOrder_isSome ?_ _
  intro u hu
  rw [mem_append, Iteration.mem_toList, Iteration.mem_toList] at hu
  have hsto : ∃ o, ob.orderSet.lookup u = some o := by
    rcases hu with hu | hu
    · exact ((h.mem_unordered _ _ _).1 hu).imp fun _ ho => ho.1
    · exact ((h.mem_unordered _ _ _).1 hu).imp fun _ ho => ho.1
  exact Option.isSome_iff_exists.2 hsto

/-- What is promised of the indices: they agree, and no request makes the `expect` fail. -/
def IndexPromise (ob : Orderbook) : Prop :=
  Consistent ob ∧ ∀ iter base rel, (getPubkeysOrders iter ob base rel).isSome

/-- **The indices agree in every state of a run from the empty book exactly when no operation of the
run stores an order under a uuid in use for another pair.** -/
theorem indexPromise_always_iff (ops : List IndexOp) :
    Always apply IndexPromise Orderbook.default ops ↔
      Guarded apply KeepsPair Orderbook.default ops := by
  have hps : ∀ ob, Consistent ob ↔ IndexPromise ob := fun ob =>
    ⟨fun h => ⟨h, h.getPubkeysOrders_isSome⟩, fun h => h.1⟩
  refine always_iff_guarded ?_ ((hps _).1 consistent_default)
  intro ob op h
  rw [← hps]
  exact h.1.apply_iff op

/-- One uuid, announced first for one pair and then for another one, and removed again. -/
def movedUuidRun : List IndexOp :=
  let order (base rel : String) : OrderbookItem :=
    { pubkey := "P", base, rel, price := 1, maxVolume := 1, minVolume := 0, uuid := 7,
      createdAt := 0,
      baseProtocolInfo := [], relProtocolInfo := [], confSettings := none }
  [.insertOrUpdate (order "KMD" "BTC"), .insertOrUpdate (order "LTC" "BTC"), .remove 7]

/-- The old pair still lists the uuid after the order is gone, and a request for it panics. -/
theorem movedUuidRun_panics :
    ¬Always apply IndexPromise Orderbook.default movedUuidRun ∧
      ∀ iter, getPubkeysOrders iter (movedUuidRun.foldl apply Orderbook.default)
        "KMD" "BTC" = none := by
  have hls : (7 : Uuid) ∈ (movedUuidRun.foldl apply Orderbook.default).unordered.members
      ("KMD", "BTC") := by decide
  have hgn : (movedUuidRun.foldl apply Orderbook.default).orderSet.lookup 7 = none := by decide
  constructor
  · intro h
    obtain ⟨o, ho, -⟩ := (h.last.1.mem_unordered _ _ _).1 hls
    cases hgn.symm.trans ho
  · intro iter
    refine collectOrder_eq_none (?_ : (7 : Uuid) ∈ _) hgn _
    rw [mem_append, Iteration.mem_toList]
    exact .inl hls

end CheetahDex.Proof
