import CheetahDex.Proof.HeaderAnswers

/-!
# A stored chain against a served one

The table holds a chain from the anchor on, and the server has another one. What the programs that
look for a fork do is determined by the first height at which the two differ and by the heights that
a batch covers.
-/

namespace CheetahDex.Spv

open Lib Chain List Option RawBlockHeader HashMap

variable {sha256 : Bytes → H256} {frames : ℕ} {conf : SPVConf} {store : HeaderStore}
  {server : (c : Call) → c.Answer} {stored chain : ℕ → Header} {top tip height fork : ℕ}

/-! ## Chains -/

/-- Each header of the chain between two heights has the hash of the one below it. -/
def Linked (sha256 : Bytes → H256) (chain : ℕ → Header) (first last : ℕ) : Prop :=
  ∀ height, first ≤ height → height < last →
    (chain (height + 1)).previousHeaderHash = (chain height).hash sha256

/-- The table holds the chain between two heights, and nothing else. -/
structure Stores (frames : ℕ) (store : HeaderStore) (chain : ℕ → Header) (first last : ℕ) :
    Prop where
  rows : ∀ height, store.rows.lookup height =
    if first ≤ height ∧ height ≤ last then some (chain height).serialize else none
  readable : ∀ height, first ≤ height → height ≤ last → ReadsBack frames (chain height)

/-- The headers of a chain from a height on. -/
def slice (chain : ℕ → Header) (first count : ℕ) : List Header :=
    (List.range' first count).map chain

/-- The server has the chain up to a tip, and sends as much of it as it is asked for. -/
structure Serves (frames : ℕ) (server : (c : Call) → c.Answer) (chain : ℕ → Header) (tip : ℕ) :
    Prop where
  count : (show UInt64 from server .blockCount).toNat = tip
  headers : ∀ start ≤ tip, ∃ answer : ElectrumBlockHeadersRes,
    server (.blockHeaders start difficultyRetargetInterval) = answer ∧ answer.count ≠ 0 ∧
    HoldsHeaders frames answer
      (slice chain start (min difficultyRetargetInterval (tip + 1 - start)))

theorem hash_eq {header header' : Header} (h : header.serialize = header'.serialize) :
    header.hash sha256 = header'.hash sha256 := congrArg (dhash256 sha256) h

/-- A stored and a served chain with the same anchor. No two of their headers at one height have one
hash. -/
structure Chains (sha256 : Bytes → H256) (stored chain : ℕ → Header) (anchor top tip : ℕ) :
    Prop where
  storedLinked : Linked sha256 stored anchor top
  chainLinked : Linked sha256 chain 0 tip
  anchor_le_top : anchor ≤ top
  anchor_le_tip : anchor ≤ tip
  sameAnchor : stored anchor = chain anchor
  collisionFree : ∀ height, anchor ≤ height → height ≤ top → height ≤ tip →
    (stored height).hash sha256 = (chain height).hash sha256 →
    (stored height).serialize = (chain height).serialize

/-- The first height that both chains have and at which they differ. -/
structure FirstDifference (stored chain : ℕ → Header) (anchor top tip fork : ℕ) : Prop where
  anchor_le : anchor ≤ fork
  le_top : fork ≤ top
  le_tip : fork ≤ tip
  differs : (stored fork).serialize ≠ (chain fork).serialize
  same : ∀ height, anchor ≤ height → height < fork →
    (stored height).serialize = (chain height).serialize

section chains

variable {anchor : ℕ} (hch : Chains sha256 stored chain anchor top tip)

/-- The chains are the same where both have a header, or there is a first difference. -/
theorem same_or_differ (stored chain : ℕ → Header) (anchor top tip : ℕ) :
    (∀ height, anchor ≤ height → height ≤ top → height ≤ tip →
      (stored height).serialize = (chain height).serialize) ∨
    ∃ fork, FirstDifference stored chain anchor top tip fork := by
  classical
  by_cases h : ∃ height, anchor ≤ height ∧ height ≤ top ∧ height ≤ tip ∧
      (stored height).serialize ≠ (chain height).serialize
  · obtain ⟨hanc, htop, htip, hdif⟩ := Nat.find_spec h
    refine .inr ⟨Nat.find h, hanc, htop, htip, hdif, fun height hle hlt => ?_⟩
    by_contra hne
    exact Nat.find_min h hlt ⟨hle, by omega, by omega, hne⟩
  · refine .inl fun height hanc htop htip => ?_
    by_contra hne
    exact h ⟨height, hanc, htop, htip, hne⟩

theorem FirstDifference.unique {fork' : ℕ} (h : FirstDifference stored chain anchor top tip fork)
    (h' : FirstDifference stored chain anchor top tip fork') : fork = fork' := by
  rcases Nat.lt_trichotomy fork fork' with hlt | heq | hgt
  · exact absurd (h'.same fork h.anchor_le hlt) h.differs
  · exact heq
  · exact absurd (h.same fork' h'.anchor_le hgt) h'.differs

include hch

section

variable (h : FirstDifference stored chain anchor top tip fork)

include h

theorem FirstDifference.anchor_lt : anchor < fork := by
  rcases Nat.lt_or_eq_of_le h.anchor_le with hlt | heq
  · exact hlt
  · have he := congrArg BlockHeader.serialize hch.sameAnchor
    rw [heq] at he
    exact absurd he h.differs

/-- From the first difference on the chains differ everywhere. -/
theorem FirstDifference.hash_ne
    (hfr : fork ≤ height) (htop : height ≤ top) (htip : height ≤ tip) :
    (stored height).hash sha256 ≠ (chain height).hash sha256 := by
  have hanc : anchor ≤ fork := h.anchor_le
  induction height, hfr using Nat.le_induction with
  | base => exact fun heq => h.differs (hch.collisionFree fork hanc htop htip heq)
  | succ height hfr ih =>
    intro heq
    have he := hch.collisionFree (height + 1) (by omega) htop htip heq
    have hraw : ofHeader (stored (height + 1)) = .ofHeader (chain (height + 1)) := by
      simp only [ofHeader, he]
    have hpr := congrArg parent hraw
    rw [parent_ofHeader, parent_ofHeader,
      hch.storedLinked height (by omega) (by omega),
      hch.chainLinked height (by omega) (by omega)] at hpr
    exact ih (by omega) (by omega) hpr

end

end chains

/-! ## Batches -/

/-- The last height of the batch that is asked for at a height. -/
def lastHeight (tip height : ℕ) : ℕ := min (firstHeight height + difficultyRetargetInterval - 1) tip

/-- The batch that is asked for at a height. -/
def fetched (chain : ℕ → Header) (tip height : ℕ) : Batch :=
  ⟨firstHeight height, slice chain (firstHeight height)
    (min difficultyRetargetInterval (tip + 1 - firstHeight height))⟩

theorem firstHeight_le : firstHeight height ≤ height := by
  unfold firstHeight
  split <;> omega

theorem alone_fetch (hsrv : Serves frames server chain tip) (hht : height ≤ tip) :
    alone sha256 conf server (retrieveLastHeaders frames height) store =
      (.ok (fetched chain tip height), store) := by
  obtain ⟨answer, hans, hcnt, hhd⟩ := hsrv.headers (firstHeight height) (firstHeight_le.trans hht)
  exact alone_retrieveLastHeaders hans hcnt hhd

variable {registry : Registry}

theorem lookup_fill_slice {first count k : ℕ} (hlt : first + count ≤ 2 ^ 64) :
    (fill registry first (slice chain first count)).lookup k =
      if first ≤ k ∧ k < first + count then some (chain k) else registry.lookup k := by
  induction count generalizing registry first with
  | zero =>
    rw [if_neg (by omega)]
    rfl
  | succ count ih =>
    -- after the last header the height may wrap, but nothing is put there
    have hwr : fill (registry.insert first (chain first)) ((first + 1) % 2 ^ 64)
        (slice chain (first + 1) count) =
        fill (registry.insert first (chain first)) (first + 1) (slice chain (first + 1) count) := by
      cases count with
      | zero => rfl
      | succ count => rw [Nat.mod_eq_of_lt (by omega)]
    show (fill (registry.insert first (chain first)) ((first + 1) % 2 ^ 64)
      (slice chain (first + 1) count)).lookup k = _
    rw [hwr, ih (by omega), lookup_insert_ite]
    by_cases hk : k = first
    · subst hk
      rw [if_neg (by omega), if_pos rfl, if_pos (by omega)]
    · rw [if_neg hk]
      have hrn : (first + 1 ≤ k ∧ k < first + 1 + count) ↔
        (first ≤ k ∧ k < first + (count + 1)) := by
        omega
      rw [if_congr hrn rfl rfl]

theorem firstHeight_le_lastHeight (hht : height ≤ tip) :
    firstHeight height ≤ lastHeight tip height := by
  have hfst : firstHeight height ≤ height := firstHeight_le
  have hint : difficultyRetargetInterval = 2016 := rfl
  unfold lastHeight
  omega

section batch

variable (htip : tip < 2 ^ 64) (hht : height ≤ tip)

include htip hht

/-- What the batch holds. -/
theorem lookup_fetched (k : ℕ) : (fetched chain tip height).registry.lookup k =
    if firstHeight height ≤ k ∧ k ≤ lastHeight tip height then some (chain k) else none := by
  have hfst : firstHeight height ≤ height := firstHeight_le
  have hint : difficultyRetargetInterval = 2016 := rfl
  show (fill ∅ (firstHeight height) (slice chain (firstHeight height)
    (min difficultyRetargetInterval (tip + 1 - firstHeight height)))).lookup k = _
  rw [lookup_fill_slice (by omega), lastHeight]
  have hrn : (firstHeight height ≤ k ∧ k < firstHeight height +
      min difficultyRetargetInterval (tip + 1 - firstHeight height)) ↔
      (firstHeight height ≤ k ∧ k ≤ min
        (firstHeight height + difficultyRetargetInterval - 1) tip) := by
    omega
  exact if_congr hrn rfl rfl

theorem keys_fetched : HashMap.Keys (fetched chain tip height).registry =
    Set.Icc (firstHeight height) (lastHeight tip height) := by
  ext k
  show (∃ header, (fetched chain tip height).registry.lookup k = some header) ↔ _
  rw [lookup_fetched htip hht, Set.mem_Icc]
  by_cases hk : firstHeight height ≤ k ∧ k ≤ lastHeight tip height
  · rw [if_pos hk]
    exact ⟨fun _ => hk, fun _ => ⟨_, rfl⟩⟩
  · rw [if_neg hk]
    exact ⟨nofun, fun h => absurd h hk⟩

theorem minKey_fetched :
    (fetched chain tip height).registry.minKey = some (firstHeight height) := by
  rw [minKey_eq_some, keys_fetched htip hht]
  exact isLeast_Icc (firstHeight_le_lastHeight hht)

theorem maxKey_fetched :
    (fetched chain tip height).registry.maxKey = some (lastHeight tip height) := by
  rw [maxKey_eq_some, keys_fetched htip hht]
  exact isGreatest_Icc (firstHeight_le_lastHeight hht)

/-- The rows of the batch replace what stood there. -/
theorem lookup_afterAdd {rows : HashMap ℕ Bytes} (k : ℕ) :
    (rows.extend ((fetched chain tip height).registry.mapValues BlockHeader.serialize)).lookup k =
      if firstHeight height ≤ k ∧ k ≤ lastHeight tip height then some (chain k).serialize
      else rows.lookup k := by
  rw [lookup_extend, lookup_mapValues, lookup_fetched htip hht]
  split <;> rfl

end batch

/-! ## Reading the stored headers -/

/-- The stored headers of the heights are read. -/
theorem alone_readStored {anchor : ℕ} (hsts : Stores frames store stored anchor top)
    {hs : List ℕ} :
    ∃ registry', alone sha256 conf server (readStored frames registry hs) store =
      (.ok registry', store) ∧ ∀ k, registry'.lookup k =
        if k ∈ hs ∧ anchor ≤ k ∧ k ≤ top then some (stored k) else registry.lookup k := by
  induction hs generalizing registry with
  | nil => exact ⟨registry, rfl, fun k => by rw [if_neg (by simp)]⟩
  | cons h hs ih =>
    by_cases hin : anchor ≤ h ∧ h ≤ top
    · have hrow : store.rows.lookup h = some (stored h).serialize := by rw [hsts.rows, if_pos hin]
      obtain ⟨registry', hrun, hlk⟩ := @ih (registry.insert h (stored h))
      refine ⟨registry', ?_, fun k => ?_⟩
      · rw [readStored, alone_bind (alone_getBlockHeader_some hrow (hsts.readable h hin.1 hin.2))]
        exact hrun
      · rw [hlk, lookup_insert_ite]
        by_cases hk : k = h
        · subst hk
          rw [if_pos rfl, ite_self, if_pos ⟨mem_cons_self, hin⟩]
        · simp only [mem_cons, hk, false_or, if_false]
    · have hrow : store.rows.lookup h = none := by rw [hsts.rows, if_neg hin]
      obtain ⟨registry', hrun, hlk⟩ := @ih registry
      refine ⟨registry', ?_, fun k => ?_⟩
      · rw [readStored, alone_bind (alone_getBlockHeader_none hrow)]
        exact hrun
      · rw [hlk]
        by_cases hk : k = h
        · subst hk
          rw [if_neg fun h => hin h.2, if_neg fun h => hin h.2]
        · simp only [mem_cons, hk, false_or]

/-! ## The detector -/

section detect

/-- The stored headers as they are read for a batch: one below it, and those of its heights. -/
def IsContext (storedMap : Registry) (stored : ℕ → Header) (anchor top low high : ℕ) : Prop :=
  ∀ k, storedMap.lookup k =
    if k ∈ heights (low - 1) high ∧ anchor ≤ k ∧ k ≤ top then some (stored k) else none

theorem mem_heights {first last k : ℕ} : k ∈ heights first last ↔ first ≤ k ∧ k ≤ last := by
  unfold heights
  rw [mem_range'_1]
  omega

variable {anchor : ℕ} {storedMap : Registry} (htip : tip < 2 ^ 64) (hht : height ≤ tip)
  (hsto : IsContext storedMap stored anchor top (firstHeight height) (lastHeight tip height))

include htip hht hsto

theorem differsAt_iff {k : ℕ} (hlow : firstHeight height ≤ k) (hhg : k ≤ lastHeight tip height) :
    differsAt sha256 storedMap (fetched chain tip height).registry k = true ↔
      (anchor ≤ k ∧ k ≤ top) ∧ (stored k).hash sha256 ≠ (chain k).hash sha256 := by
  have hsr : (fetched chain tip height).registry.lookup k = some (chain k) := by
    rw [lookup_fetched htip hht, if_pos ⟨hlow, hhg⟩]
  unfold differsAt
  by_cases hin : anchor ≤ k ∧ k ≤ top
  · have hkp : storedMap.lookup k = some (stored k) := by
      rw [hsto, if_pos ⟨mem_heights.mpr (by omega), hin⟩]
    simp only [hkp, hsr, hin, and_self, true_and, decide_eq_true_eq]
  · have hkp : storedMap.lookup k = none := by rw [hsto, if_neg fun h => hin h.2]
    simp only [hkp, hsr, hin, false_and, Bool.false_eq_true]

/-- There is no difference in the batch. -/
theorem detectReorg_noReorg
    (he : ∀ k, firstHeight height ≤ k → k ≤ lastHeight tip height → anchor ≤ k → k ≤ top →
      (stored k).hash sha256 = (chain k).hash sha256) :
    detectReorg sha256 storedMap (fetched chain tip height).registry anchor = .noReorg := by
  have hn : (heights (firstHeight height) (lastHeight tip height)).find?
      (differsAt sha256 storedMap (fetched chain tip height).registry) = none := by
    rw [find?_eq_none]
    intro k hk
    obtain ⟨hlow, hhg⟩ := mem_heights.mp hk
    rw [differsAt_iff htip hht hsto hlow hhg]
    exact fun h => h.2 (he k hlow hhg h.1.1 h.1.2)
  simp only [detectReorg, minKey_fetched htip hht, maxKey_fetched htip hht, getD_some, hn]

/-- There is a difference in the batch, and the header below it is stored. -/
theorem detectReorg_differs {d : ℕ} (hlow : firstHeight height ≤ d)
    (hhg : d ≤ lastHeight tip height) (hanc : anchor < d) (htop : d ≤ top)
    (hdif : (stored d).hash sha256 ≠ (chain d).hash sha256)
    (he : ∀ k, firstHeight height ≤ k → k < d → anchor ≤ k →
      (stored k).hash sha256 = (chain k).hash sha256) :
    detectReorg sha256 storedMap (fetched chain tip height).registry anchor =
      if (chain d).previousHeaderHash = (stored (d - 1)).hash sha256 then .forkAt d
      else .needMoreHistory := by
  have hfn : (heights (firstHeight height) (lastHeight tip height)).find?
      (differsAt sha256 storedMap (fetched chain tip height).registry) = some d := by
    unfold heights
    rw [find?_range'_eq_some]
    refine ⟨?_, mem_heights.mpr ⟨hlow, hhg⟩, fun k hk hlt => ?_⟩
    · rw [differsAt_iff htip hht hsto hlow hhg]
      exact ⟨⟨hanc.le, htop⟩, hdif⟩
    · rw [Bool.not_eq_true', ← Bool.not_eq_true, differsAt_iff htip hht hsto hk (by omega)]
      exact fun h => h.2 (he k hk hlt h.1.1)
  have hbel : storedMap.lookup (d - 1) = some (stored (d - 1)) := by
    rw [hsto, if_pos ⟨mem_heights.mpr (by omega), by omega, by omega⟩]
  have hsr : (fetched chain tip height).registry.lookup d = some (chain d) := by
    rw [lookup_fetched htip hht, if_pos ⟨hlow, hhg⟩]
  simp only [detectReorg, minKey_fetched htip hht, maxKey_fetched htip hht,
    getD_some, hfn, hbel, hsr, if_neg (Nat.not_le.mpr hanc)]

end detect

/-! ## Reconciling a batch -/

section reconcile

variable (sha256 server chain) (hsts : Stores frames store stored conf.anchorHeight top)

include hsts

/-- The stored headers from a fork on are removed. -/
theorem alone_removeFrom (hanc : conf.anchorHeight ≤ fork) (htop : fork ≤ top) :
    ∃ store', alone sha256 conf server (removeFrom fork) store = (.ok (), store') ∧
      ∀ k, store'.rows.lookup k =
        if conf.anchorHeight ≤ k ∧ k < fork then some (stored k).serialize else none := by
  have hl : store.rows.maxKey = some top := by
    rw [maxKey_eq_some]
    refine ⟨⟨_, by rw [hsts.rows, if_pos (by omega)]⟩, fun k hk => ?_⟩
    obtain ⟨bytes, hbs⟩ := hk
    rw [hsts.rows] at hbs
    by_contra hlt
    rw [if_neg (by omega)] at hbs
    cases hbs
  have hask : alone sha256 conf server getLastBlockHeight store = (.ok (some top), store) :=
    congrArg (fun last => (Except.ok last, store)) hl
  refine ⟨{ store with rows := store.rows.retain fun k _ => !(fork ≤ k && k ≤ top) }, ?_, fun k =>
    ?_⟩
  · rw [removeFrom, alone_bind hask]
    dsimp only
    rw [if_pos htop]
    rfl
  · rw [lookup_retain, hsts.rows]
    by_cases hin : conf.anchorHeight ≤ k ∧ k ≤ top
    · rw [if_pos hin]
      by_cases hlt : k < fork
      · rw [if_pos ⟨hin.1, hlt⟩, filter_some_pos (by simp; omega)]
      · rw [if_neg fun h => hlt h.2, filter_some_neg (by simp; omega)]
    · rw [if_neg hin, if_neg (by omega)]
      rfl

variable (htip : tip < 2 ^ 64) (hht : height ≤ tip)

include htip hht

/-- The detector is run on the batch and what is read for it. -/
theorem reconcile_context : ∃ storedMap,
    IsContext storedMap stored conf.anchorHeight top (firstHeight height) (lastHeight tip height) ∧
    alone sha256 conf server
      (reconcileReorg sha256 frames conf (fetched chain tip height).registry) store =
    alone sha256 conf server
      (applyOutcome (fetched chain tip height).registry (detectReorg sha256 storedMap
        (fetched chain tip height).registry conf.anchorHeight)) store := by
  obtain ⟨storedMap, hrd, hlk⟩ : ∃ storedMap, alone sha256 conf server
      (readStored frames ∅ (heights (firstHeight height - 1) (lastHeight tip height))) store =
      (.ok storedMap, store) ∧ _ := alone_readStored hsts
  refine ⟨storedMap, hlk, ?_⟩
  simp only [reconcileReorg, minKey_fetched htip hht, maxKey_fetched htip hht, getD_some]
  rw [alone_bind hrd]

end reconcile

end CheetahDex.Spv
