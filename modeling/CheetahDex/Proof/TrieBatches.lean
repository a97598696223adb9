import CheetahDex.Lib.Keyed
import CheetahDex.Proof.TrieContents

/-!
# What a batch does to the contents

`applyOps` sorts a batch by pubkey and pair and applies the groups in an order nobody controls,
within a group first the reset, then the insertions, then the removals. The outcome for one key is
`groupResult` of the operations on that key. A pubkey removed by the batch loses everything at the
end.
-/

namespace CheetahDex.Proof

open Lib Common Ordermatch Orderbook TrieStore List HashMap

variable {H : Type} [DecidableEq H]

/-! ## The groups of a batch -/

variable (key : PairKey)

/-- What an operation inserts at a key. -/
def insertAt : TrieOp → Option (Uuid × OrderbookItem)
  | .insert pubkey pair uuid order => if (pubkey, pair) = key then some (uuid, order) else none
  | .clearPair _ _ => none
  | .remove _ _ _ => none
  | .removePubkey _ => none

/-- What an operation removes at a key. -/
def removeAt : TrieOp → Option Uuid
  | .remove pubkey pair uuid => if (pubkey, pair) = key then some uuid else none
  | .clearPair _ _ => none
  | .insert _ _ _ _ => none
  | .removePubkey _ => none

variable (ops : List TrieOp)

/-- The insertions of a batch for one key, in order. -/
def insertsFor : List (Uuid × OrderbookItem) := ops.filterMap (insertAt key)

/-- The removals of a batch for one key, in order. -/
def removesFor : List Uuid := ops.filterMap (removeAt key)

/-- The group of a batch for one key. -/
def groupFor : Group :=
  { clear := decide (.clearPair key.1 key.2 ∈ ops), inserts := insertsFor key ops,
    removes := removesFor key ops }

variable {pair : AlbOrderedOrderbookPair} {ops : List TrieOp} {pubkey : String}

theorem mem_insertsFor {uuid : Uuid} {order : OrderbookItem} :
    (uuid, order) ∈ insertsFor (pubkey, pair) ops ↔ .insert pubkey pair uuid order ∈ ops := by
  simp only [insertsFor, mem_filterMap]
  constructor
  · rintro ⟨op, hop, h⟩
    cases op with
    | insert p a u o =>
      simp only [insertAt, Prod.mk.injEq, Option.ite_none_right_eq_some, Option.some.injEq] at h
      obtain ⟨⟨rfl, rfl⟩, rfl, rfl⟩ := h
      exact hop
    | clearPair p a | remove p a u | removePubkey p => exact absurd h (by simp [insertAt])
  · exact fun h => ⟨_, h, by simp [insertAt]⟩

theorem mem_removesFor {uuid : Uuid} :
    uuid ∈ removesFor (pubkey, pair) ops ↔ .remove pubkey pair uuid ∈ ops := by
  simp only [removesFor, mem_filterMap]
  constructor
  · rintro ⟨op, hop, h⟩
    cases op with
    | remove p a u =>
      simp only [removeAt, Prod.mk.injEq, Option.ite_none_right_eq_some, Option.some.injEq] at h
      obtain ⟨⟨rfl, rfl⟩, rfl⟩ := h
      exact hop
    | clearPair p a | insert p a u o | removePubkey p => exact absurd h (by simp [removeAt])
  · exact fun h => ⟨_, h, by simp [removeAt]⟩

/-- What one operation adds to the group of a key. -/
def Group.add (g : Group) : TrieOp → Group
  | .clearPair pubkey pair => if (pubkey, pair) = key then { g with clear := true } else g
  | .insert pubkey pair uuid order =>
    if (pubkey, pair) = key then { g with inserts := g.inserts ++ [(uuid, order)] } else g
  | .remove pubkey pair uuid =>
    if (pubkey, pair) = key then { g with removes := g.removes ++ [uuid] } else g
  | .removePubkey _ => g

theorem groupOp_getD (acc : HashMap PairKey Group × Finset String)
    (op : TrieOp) (key : PairKey) :
    getD (groupOp acc op).1 key {} = Group.add key (getD acc.1 key {}) op := by
  have hset : ∀ (k : PairKey) (g : Group),
      getD (acc.1.insert k g) key {} = if k = key then g else getD acc.1 key {} := by
    intro k g
    rw [HashMap.getD, HashMap.lookup_insert_ite]
    by_cases hk : key = k
    · simp [hk]
    · simp [hk, Ne.symm hk, HashMap.getD]
  cases op with
  | clearPair pubkey pair | insert pubkey pair uuid order | remove pubkey pair uuid =>
    simp only [groupOp, hset, Group.add]
    split
    · rename_i hk
      rw [hk]
    · rfl
  | removePubkey pubkey => rfl

theorem foldl_add_eq (ops : List TrieOp) (g : Group) :
    ops.foldl (Group.add key) g =
      { clear := g.clear || decide (.clearPair key.1 key.2 ∈ ops),
        inserts := g.inserts ++ insertsFor key ops
        removes := g.removes ++ removesFor key ops } := by
  induction ops generalizing g with
  | nil => simp [insertsFor, removesFor]
  | cons op ops ih =>
    rw [foldl_cons, ih]
    obtain ⟨kp, ka⟩ := key
    cases op with
    | clearPair pubkey pair =>
      by_cases hk : (pubkey, pair) = (kp, ka)
      · obtain ⟨rfl, rfl⟩ := Prod.mk.inj hk
        simp [Group.add, insertsFor, removesFor, filterMap_cons, insertAt, removeAt]
      · have hne : ¬(kp = pubkey ∧ ka = pair) := fun h => hk (by rw [h.1, h.2])
        simp [Group.add, insertsFor, removesFor, filterMap_cons, insertAt, removeAt, hk, hne]
    | insert pubkey pair uuid order | remove pubkey pair uuid =>
      by_cases hk : (pubkey, pair) = (kp, ka)
      · simp [Group.add, insertsFor, removesFor, filterMap_cons, insertAt, removeAt, hk]
      · simp [Group.add, insertsFor, removesFor, filterMap_cons, insertAt, removeAt, hk]
    | removePubkey pubkey =>
      simp [Group.add, insertsFor, removesFor, filterMap_cons, insertAt, removeAt]

/-- The group under a key holds the batch's operations on that key. -/
theorem groupOps_getD (ops : List TrieOp) (key : PairKey) :
    HashMap.getD (groupOps ops).1 key {} = groupFor key ops := by
  rw [groupOps, ← foldl_hom (fun acc => getD acc.1 key {})
    fun acc op => (groupOp_getD acc op key).symm, foldl_add_eq]
  simp [HashMap.getD, groupFor]

theorem mem_groupOps_removed (ops : List TrieOp) (pubkey : String) :
    pubkey ∈ (groupOps ops).2 ↔ .removePubkey pubkey ∈ ops := by
  have hfl : ∀ (ops : List TrieOp) acc, pubkey ∈ (ops.foldl groupOp acc).2 ↔
      pubkey ∈ acc.2 ∨ .removePubkey pubkey ∈ ops := by
    intro ops
    induction ops with
    | nil => simp
    | cons op ops ih =>
      intro acc
      rw [foldl_cons, ih]
      cases op with
      | removePubkey p =>
        simp only [groupOp, Finset.mem_insert, mem_cons, TrieOp.removePubkey.injEq]
        rw [or_assoc]
        exact or_left_comm
      | clearPair p a | insert p a u o | remove p a u => simp [groupOp]
  rw [groupOps, hfl]
  simp

/-! ## Applying the groups -/

/-- A group applied to the contents of its key. -/
def groupResult (g : Group) (c : PairOrders) : PairOrders :=
  g.removes.foldl (fun c uuid => c.erase uuid)
    (g.inserts.foldl (fun c e => c.insert e.1 e.2.toP2P) (if g.clear then ∅ else c))

variable {th : PairHash H}

variable (th) in
/-- The contents by pubkey and pair. -/
def contentsAt (st : TrieStore H) (key : PairKey) : PairOrders := contents th st key.1 key.2

theorem actsAt_contents {f : TrieStore H → TrieStore H} {g : PairOrders → PairOrders}
    {root : TrieStore H → H}
    (h : ∀ st, StoreInv th st → Updates th st (f st) key (root st) (g (contentsAt th st key))) :
    ActsAt (StoreInv th) (contentsAt th) key f g :=
  fun st hst => ⟨(h st hst).inv, (h st hst).contents hst⟩

theorem foldl_zipIdx_fst {α β : Type} (g : β → α → β) (as : List α) (i : Nat) (b : β) :
    (as.zipIdx i).foldl (fun b e => g b e.1) b = as.foldl g b := by
  rw [← foldl_map, zipIdx_map_fst]

section View

variable {α : Type} {inv : TrieStore H → Prop}
  {view : TrieStore H → PairKey → α}
  {Ok : PairKey → Uuid × OrderbookItem → Prop} {clear : α → α}
  {insert : α → Uuid × OrderbookItem → α} {remove : α → Uuid → α}

/-- A group applied to what is seen under its key. -/
def groupAct (clear : α → α) (insert : α → Uuid × OrderbookItem → α) (remove : α → Uuid → α)
    (g : Group) (a : α) : α :=
  g.removes.foldl remove (g.inserts.foldl insert (if g.clear then clear a else a))

variable (th inv view Ok clear insert remove) in
/-- What the operations do to what is seen under their key, insertions of orders that are `Ok`. -/
structure OpsAct : Prop where
  clear : ∀ clock key, ActsAt inv view key (fun st => applyClearPair clock st key.1 key.2) clear
  insert : ∀ clock key e, Ok key e →
    ActsAt inv view key (fun st => applyInsert th clock st key.1 key.2 e.1 e.2) (insert · e)
  remove : ∀ clock key uuid,
    ActsAt inv view key (fun st => applyRemove th clock st key.1 key.2 uuid) (remove · uuid)

theorem OpsAct.applyGroup (h : OpsAct th inv view Ok clear insert remove) (clock : Nat → Clock)
    {g : Group} (hg : ∀ e ∈ g.inserts, Ok key e) :
    ActsAt inv view key (fun st => applyGroup th clock st key.1 key.2 g)
      (groupAct clear insert remove g) := by
  -- the reset, the insertions and the removals, each with its own loop
  have hclr := (h.clear (clock 0) key).ite g.clear
  have hin := ActsAt.foldl (g := fun a e => insert a e.1) g.inserts.zipIdx fun e he =>
    h.insert (clock (e.2 + 1)) key e.1 (hg e.1 (fst_mem_of_mem_zipIdx he))
  have hrm := ActsAt.foldl (g := fun a e => remove a e.1) g.removes.zipIdx fun e _ =>
    h.remove (clock (e.2 + 1 + g.inserts.length)) key e.1
  have hall := (hclr.comp hin).comp hrm
  simp only [foldl_zipIdx_fst] at hall
  exact hall

/-- The groups have different keys, so every key sees its own group. -/
theorem OpsAct.groups (h : OpsAct th inv view Ok clear insert remove) (env : BatchEnv)
    (st : TrieStore H) (ops : List TrieOp)
    (hops : ∀ e ∈ env.groups.entries (groupOps ops).1, ∀ x ∈ e.2.inserts, Ok e.1 x)
    (hst : inv st) :
    let st' := (env.groups.entries (groupOps ops).1).foldl
      (fun st e => TrieStore.applyGroup th (env.clock e.1) st e.1.1 e.1.2 e.2) st
    inv st' ∧ ∀ key, view st' key =
      groupAct clear insert remove (groupFor key ops) (view st key) := by
  obtain ⟨hinv, hvw⟩ := foldl_actsAt (g := fun a g => groupAct clear insert remove g a)
    (env.groups.nodup_keys_entries (groupOps ops).1)
    (fun e he => h.applyGroup e.1 (env.clock e.1) (hops e he)) hst
  refine ⟨hinv, fun key => ?_⟩
  rw [hvw key, env.groups.lookup_entries, ← groupOps_getD, HashMap.getD]
  cases (groupOps ops).1.lookup key with
  | none => rfl
  | some g => rfl

end View

theorem opsAct_contents : OpsAct th (StoreInv th) (contentsAt th)
    (fun key e => OrderOf key.1 key.2 e.1 e.2) (fun _ => ∅) (fun c e => c.insert e.1 e.2.toP2P)
    (fun c uuid => c.erase uuid) where
  clear clock key := actsAt_contents key fun _ hst => hst.applyClearPair clock key.1 key.2
  insert clock key _ he := actsAt_contents key fun _ hst => hst.applyInsert clock he
  remove clock key uuid := actsAt_contents key fun _ hst => hst.applyRemove clock key.1 key.2 uuid

omit [DecidableEq H] in
theorem rootOf_retain (th : PairHash H) (st : TrieStore H) (p : String → Bool)
    (pubkey pair : String) :
    rootOf th { st with pubkeysState := st.pubkeysState.retain fun pubkey _ => p pubkey } pubkey
      pair = if p pubkey then rootOf th st pubkey pair else th.zero := by
  unfold rootOf
  rw [lookup_retain]
  cases st.pubkeysState.lookup pubkey with
  | none => simp
  | some ps =>
    cases p pubkey with
    | true => rfl
    | false => rfl

/-- The orders in the groups of a batch. -/
theorem orderOf_groups (env : BatchEnv) (hops : ∀ op ∈ ops, WellFormedOp op) :
    ∀ e ∈ env.groups.entries (groupOps ops).1, ∀ x ∈ e.2.inserts, OrderOf e.1.1 e.1.2 x.1 x.2 := by
  rintro ⟨⟨pubkey, pair⟩, g⟩ he ⟨uuid, order⟩ hx
  rw [Iteration.mem_entries] at he
  have hg := groupOps_getD ops (pubkey, pair)
  rw [HashMap.getD, he, Option.getD_some] at hg
  rw [hg] at hx
  exact hops _ (mem_insertsFor.1 hx)

/-- **What a batch does.** A pubkey the batch removes loses its contents; otherwise the contents of
a key change by the batch's operations on that key. -/
theorem StoreInv.applyOps {st : TrieStore H} (h : StoreInv th st) (env : BatchEnv)
    (hops : ∀ op ∈ ops, WellFormedOp op) :
    StoreInv th (applyOps th env st ops) ∧ ∀ pubkey pair,
      contents th (applyOps th env st ops) pubkey pair =
        if .removePubkey pubkey ∈ ops then ∅
        else groupResult (groupFor (pubkey, pair) ops) (contents th st pubkey pair) := by
  obtain ⟨hinv, hcn⟩ := opsAct_contents.groups env st ops (orderOf_groups env hops) h
  unfold TrieStore.applyOps
  refine ⟨⟨hinv.sound, ?_⟩, ?_⟩
  · intro pubkey ps hps
    rw [lookup_retain, Option.filter_eq_some_iff] at hps
    exact hinv.pubkeys pubkey ps hps.1
  · intro pubkey pair
    have hrt := rootOf_retain th ((env.groups.entries (groupOps ops).1).foldl
      (fun st e => TrieStore.applyGroup th (env.clock e.1) st e.1.1 e.1.2 e.2) st)
      (fun pubkey => pubkey ∉ (groupOps ops).2) pubkey pair
    by_cases hrem : .removePubkey pubkey ∈ ops
    · rw [if_pos hrem]
      rw [← mem_groupOps_removed] at hrem
      rw [if_neg (by simpa using hrem)] at hrt
      exact contents_of_rootOf_eq_zero hrt
    · rw [if_neg hrem]
      rw [← mem_groupOps_removed] at hrem
      rw [if_pos (by simpa using hrem)] at hrt
      rw [contents, hrt]
      exact hcn (pubkey, pair)

end CheetahDex.Proof
