import CheetahDex.Proof.ReorgSteps

/-!
# Following a server after a reorganisation

A turn of the loop looks for the first difference in batches that go down from the tip of the
server. A batch at a height ends one below it, and the next batch is asked for one below its first
height. So one height in 2017 is in no batch, and a stored chain that ends below the first batch is
never compared.
-/

namespace CheetahDex.Spv

open Lib Lib.Decoder Chain Option Nat BlockHeader

variable {sha256 : Bytes → H256} {frames : ℕ} {conf : SPVConf} {store : HeaderStore}
  {server : (c : Call) → c.Answer} {stored chain : ℕ → Header} {top tip height fork : ℕ}

/-- Where the server has a header the stored one is the same, and stored headers at adjacent heights
are linked. -/
structure Converged (sha256 : Bytes → H256) (chain : ℕ → Header) (tip : ℕ)
    (rows : HashMap ℕ Bytes) : Prop where
  agrees : ∀ height ≤ tip, ∀ bytes, rows.lookup height = some bytes →
    bytes = (chain height).serialize
  linked : ∀ height below above, rows.lookup height = some below →
    rows.lookup (height + 1) = some above → ∃ header : Header, above = header.serialize ∧
      header.previousHeaderHash = dhash256 sha256 below

theorem not_converged {rows : HashMap ℕ Bytes}
    (hfr : FirstDifference stored chain conf.anchorHeight top tip fork)
    (hrow : rows.lookup fork = some (stored fork).serialize) : ¬ Converged sha256 chain tip rows :=
  fun h => hfr.differs (h.agrees fork hfr.le_tip _ hrow)

/-- The served chain up to the tip, and above it a stored chain that it leads to. -/
theorem converged_of_rows {rows : HashMap ℕ Bytes}
    (hch : Chains sha256 stored chain conf.anchorHeight top tip)
    (hsr : ∀ k ≤ tip, ∀ bytes, rows.lookup k = some bytes → bytes = (chain k).serialize)
    (hsto : ∀ k, tip < k → ∀ bytes, rows.lookup k = some bytes →
      k ≤ top ∧ bytes = (stored k).serialize ∧ (stored tip).serialize = (chain tip).serialize) :
    Converged sha256 chain tip rows := by
  refine ⟨hsr, fun k below above hbel hab => ?_⟩
  have hanc := hch.anchor_le_tip
  rcases lt_trichotomy k tip with hlt | rfl | hgt
  · obtain rfl := hsr k hlt.le below hbel
    obtain rfl := hsr (k + 1) hlt above hab
    exact ⟨chain (k + 1), rfl, hch.chainLinked k (zero_le k) hlt⟩
  · obtain rfl := hsr k (le_refl k) below hbel
    obtain ⟨htop, rfl, hsa⟩ := hsto (k + 1) (lt_succ_self k) above hab
    refine ⟨stored (k + 1), rfl, ?_⟩
    rw [hch.storedLinked k hanc htop, ← hsa]
    rfl
  · obtain ⟨_, rfl, _⟩ := hsto k hgt below hbel
    obtain ⟨htop, rfl, _⟩ := hsto (k + 1) (by omega) above hab
    exact ⟨stored (k + 1), rfl, hch.storedLinked k (by omega) htop⟩

/-- The height of a batch that reaches the first difference. -/
theorem lastHeight_eq (hht : height ≤ tip) : lastHeight tip height =
    if height < difficultyRetargetInterval then min (difficultyRetargetInterval - 1) tip
    else height - 1 := by
  unfold lastHeight firstHeight
  split <;> omega

section outcomes

variable (hst : Stores frames store stored conf.anchorHeight top) (htip : tip < 2 ^ 64)
  (hht : height ≤ tip)

include hst htip hht

/-- There is nothing to compare, or it is the same. -/
theorem reconcile_noReorg
    (hsa : ∀ k, firstHeight height ≤ k → k ≤ lastHeight tip height → conf.anchorHeight ≤ k →
      k ≤ top → (stored k).serialize = (chain k).serialize) :
    alone sha256 conf server
      (reconcileReorg sha256 frames conf (fetched chain tip height).registry) store =
      (.ok .noReorg, store) := by
  obtain ⟨storedMap, hco, hrun⟩ := reconcile_context sha256 server chain hst htip hht
  rw [hrun, detectReorg_noReorg htip hht hco fun k hlow hhg hanc htop =>
    hash_eq (hsa k hlow hhg hanc htop)]
  rfl

variable (hch : Chains sha256 stored chain conf.anchorHeight top tip)
  (hfr : FirstDifference stored chain conf.anchorHeight top tip fork)

include hch hfr

variable (server) in
/-- The first difference is in the batch. -/
theorem reconcile_forkAt (hlow : firstHeight height ≤ fork) (hhg : fork ≤ lastHeight tip height) :
    ∃ store', alone sha256 conf server
      (reconcileReorg sha256 frames conf (fetched chain tip height).registry) store =
      (.ok (.forkAt fork), store') ∧ Converged sha256 chain tip store'.rows := by
  have hanc := hfr.anchor_lt hch
  have htop := hfr.le_top
  have hle := hfr.le_tip
  have hln := hch.chainLinked (fork - 1) (zero_le _) (by omega)
  rw [Nat.sub_add_cancel (by omega : 1 ≤ fork)] at hln
  obtain ⟨storedMap, hco, hrun⟩ := reconcile_context sha256 server chain hst htip hht
  obtain ⟨store', hrm, hkp⟩ := alone_removeFrom sha256 server hst hanc.le htop
  rw [hrun, detectReorg_differs htip hht hco hlow hhg hanc htop
    (hfr.hash_ne hch (le_refl _) htop hle)
    fun k _ hlt hk => hash_eq (hfr.same k hk hlt), hln,
    hash_eq (hfr.same (fork - 1) (by omega) (by omega)), if_pos rfl, applyOutcome,
    alone_bind hrm]
  -- the batch stands on what was stored below the fork
  have hrw (k : ℕ) : (store'.rows.extend
      ((fetched chain tip height).registry.mapValues serialize)).lookup k = _ :=
    (lookup_afterAdd htip hht k).trans (by rw [hkp])
  refine ⟨_, rfl, converged_of_rows hch (fun k _ bytes hbs => ?_) fun k hk bytes hbs => ?_⟩
  · replace hbs := (hrw k).symm.trans hbs
    split at hbs
    · exact (some.inj hbs).symm
    · split at hbs
      · next hk =>
        rw [← hfr.same k hk.1 hk.2]
        exact (some.inj hbs).symm
      · cases hbs
  · have hl : lastHeight tip height ≤ tip := min_le_right _ _
    replace hbs := (hrw k).symm.trans hbs
    rw [if_neg (by omega), if_neg (by omega)] at hbs
    cases hbs

/-- The first difference is below the batch, and the stored chain reaches it. -/
theorem reconcile_needMoreHistory (hlow : fork < firstHeight height)
    (hfst : firstHeight height ≤ top) :
    alone sha256 conf server
      (reconcileReorg sha256 frames conf (fetched chain tip height).registry) store =
      (.ok .needMoreHistory, store) := by
  have hanc := hfr.anchor_lt hch
  have hfst' : firstHeight height ≤ tip := firstHeight_le.trans hht
  obtain ⟨storedMap, hco, hrun⟩ := reconcile_context sha256 server chain hst htip hht
  have hln := hch.chainLinked (firstHeight height - 1) (zero_le _) (by omega)
  rw [Nat.sub_add_cancel (by omega : 1 ≤ firstHeight height)] at hln
  rw [hrun, detectReorg_differs htip hht hco (le_refl _)
    (firstHeight_le_lastHeight hht) (hanc.trans hlow) hfst
    (hfr.hash_ne hch hlow.le hfst hfst') fun k hk hlt _ => absurd hlt (not_lt.mpr hk),
    hln, if_neg (hfr.hash_ne hch (by omega) (by omega) (by omega)).symm]
  rfl

end outcomes

/-! ## Going down -/

/-- Going down from a height the batches reach the first difference: it is not one of the heights
that are left out, and all batches down to it pass. -/
structure Reaches (sha256 : Bytes → H256) (conf : SPVConf) (chain : ℕ → Header)
    (tip height fork : ℕ) : Prop where
  covered : ¬ (difficultyRetargetInterval ≤ fork ∧ difficultyRetargetInterval + 1 ∣ height - fork)
  passes : ∀ j, fork + (difficultyRetargetInterval + 1) * j ≤ height →
    Passes sha256 conf (fetched chain tip (height - (difficultyRetargetInterval + 1) * j))

/-- The batch at the height is the first, and must pass. -/
theorem Reaches.first (h : Reaches sha256 conf chain tip height fork) (hfr : fork ≤ height) :
    Passes sha256 conf (fetched chain tip height) := h.passes 0 hfr

theorem reaches_of_mem (hps : Passes sha256 conf (fetched chain tip height))
    (hht : height ≤ tip) (hfr : fork ≤ height) (hlow : firstHeight height ≤ fork)
    (hhg : fork ≤ lastHeight tip height) : Reaches sha256 conf chain tip height fork := by
  have hint : difficultyRetargetInterval = 2016 := rfl
  have hcl : height - fork ≤ 2016 := by
    unfold firstHeight at hlow
    split at hlow <;> omega
  refine ⟨fun ⟨hle, hdvd⟩ => ?_, fun j hj => ?_⟩
  · have hz : height - fork = 0 := eq_zero_of_dvd_of_lt hdvd (by omega)
    rw [lastHeight_eq hht, if_neg (by omega)] at hhg
    omega
  · obtain rfl : j = 0 := by
      rw [hint] at hj
      omega
    exact hps

/-- The height that no batch has. -/
theorem not_reaches_of_gt (hht : height ≤ tip) (hfr : fork ≤ height)
    (hhg : lastHeight tip height < fork) : ¬ Reaches sha256 conf chain tip height fork := by
  rw [lastHeight_eq hht] at hhg
  split at hhg
  · omega
  · obtain rfl : fork = height := by omega
    exact fun h => h.covered ⟨by omega, by rw [Nat.sub_self]; exact dvd_zero _⟩

/-- What the batch at the height does not reach is left to the next one. -/
theorem reaches_next (hps : Passes sha256 conf (fetched chain tip height))
    (hlow : fork < firstHeight height) : Reaches sha256 conf chain tip height fork ↔
      Reaches sha256 conf chain tip (firstHeight height - 1) fork := by
  have hint : difficultyRetargetInterval = 2016 := rfl
  have hx : firstHeight height - 1 = height - (difficultyRetargetInterval + 1) ∧
      fork + (difficultyRetargetInterval + 1) ≤ height := by
    unfold firstHeight at hlow ⊢
    split at hlow
    · omega
    · rw [if_neg (by assumption)]
      omega
  obtain ⟨hx, hle⟩ := hx
  rw [hx]
  have hdvd : difficultyRetargetInterval + 1 ∣ height - fork ↔
      difficultyRetargetInterval + 1 ∣ height - (difficultyRetargetInterval + 1) - fork := by
    rw [hint] at hle ⊢
    omega
  constructor
  · intro h
    refine ⟨fun hsk => h.covered ⟨hsk.1, hdvd.mpr hsk.2⟩, fun j hj => ?_⟩
    have hpa := h.passes (j + 1) (by rw [mul_succ]; omega)
    rwa [Nat.mul_succ, Nat.add_comm, ← Nat.sub_sub] at hpa
  · intro h
    refine ⟨fun hsk => h.covered ⟨hsk.1, hdvd.mp hsk.2⟩, fun j hj => ?_⟩
    cases j with
    | zero => exact hps
    | succ j =>
      rw [mul_succ] at hj
      have hpa := h.passes j (by omega)
      rwa [Nat.sub_sub, Nat.add_comm, ← Nat.mul_succ] at hpa

theorem Stores.checked {anchor : ℕ} (h : Stores frames store stored anchor top) (conf : SPVConf)
    (batch : Batch) : Stores frames (store.checked conf batch) stored anchor top :=
  ⟨by rw [HeaderStore.rows_checked]; exact h.rows, h.readable⟩

section walk

variable (htip : tip < 2 ^ 64) (hsv : Serves frames server chain tip)
  (hch : Chains sha256 stored chain conf.anchorHeight top tip)
  (hfr : FirstDifference stored chain conf.anchorHeight top tip fork)

include htip hsv hch hfr

/-- The loop goes down until a batch has the first difference, and then the chains agree. Otherwise
nothing is changed. Each turn ends below its height, so that many turns are enough. -/
theorem alone_walkBackReorg {turns : ℕ}
    (hst : Stores frames store stored conf.anchorHeight top)
    (htr : height ≤ turns) (hht : height ≤ tip) (hle : fork ≤ height)
    (hfst : firstHeight height ≤ top) :
    ∃ store', alone sha256 conf server (walkBackReorg sha256 frames conf turns height) store =
      (.ok (), store') ∧
      (Converged sha256 chain tip store'.rows ↔ Reaches sha256 conf chain tip height fork) := by
  have hanc := hfr.anchor_lt hch
  induction turns generalizing height store with
  | zero => omega
  | succ turns ih =>
    have hrow : ∀ {rows : HashMap ℕ Bytes}, rows = store.rows →
        ¬ Converged sha256 chain tip rows := by
      rintro _ rfl
      refine not_converged hfr ?_
      rw [hst.rows, if_pos ⟨hfr.anchor_le, hfr.le_top⟩]
    rw [walkBackReorg, if_pos (hanc.trans_le hle), alone_bind (alone_fetch hsv hht)]
    by_cases hps : Passes sha256 conf (fetched chain tip height)
    · rw [alone_bind (alone_checkBatch hps)]
      have hsts' := hst.checked conf (fetched chain tip height)
      rcases lt_or_ge (lastHeight tip height) fork with hhg | hhg
      · -- the first difference is the height itself, and is passed over
        rw [alone_bind (reconcile_noReorg hsts' htip hht fun k _ hk hanc htop =>
          hfr.same k hanc (hk.trans_lt hhg))]
        refine ⟨_, rfl, ?_⟩
        exact iff_of_false (hrow HeaderStore.rows_checked) (not_reaches_of_gt hht hle hhg)
      · rcases lt_or_ge fork (firstHeight height) with hlow | hlow
        · -- the first difference is further down
          rw [alone_bind (reconcile_needMoreHistory hsts' htip hht hch hfr hlow hfst)]
          have hfst' : firstHeight height ≤ height := firstHeight_le
          rw [minKey_fetched htip hht, Option.getD_some, if_neg (by omega), reaches_next hps hlow]
          refine ih hsts' (by omega) (by omega) (by omega) ?_
          exact firstHeight_le.trans (by omega)
        · obtain ⟨store', hrun, hcn⟩ := reconcile_forkAt server hsts' htip hht hch hfr hlow hhg
          rw [alone_bind hrun]
          refine ⟨store', rfl, ?_⟩
          exact iff_of_true hcn (reaches_of_mem hps hht hle hlow hhg)
    · obtain ⟨e, he⟩ := alone_checkBatch_of_not store server hps
      rw [alone_bind he]
      exact ⟨store, rfl, iff_of_false (hrow rfl) fun h => hps (h.first hle)⟩

end walk

/-! ## One turn -/

theorem Serves.tip_lt (h : Serves frames server chain tip) : tip < 2 ^ 64 := by
  rw [← h.count]
  exact UInt64.toNat_lt _

section turn

variable (hsv : Serves frames server chain tip)
  (hst : Stores frames store stored conf.anchorHeight top)

include hsv

theorem alone_syncHeaders (hps : Passes sha256 conf (fetched chain tip tip)) :
    alone sha256 conf server (syncHeaders sha256 frames conf) store =
      alone sha256 conf server
        (reconcileReorg sha256 frames conf (fetched chain tip tip).registry >>=
          resolveOutcome sha256 frames conf tip (fetched chain tip tip).registry)
        (store.checked conf (fetched chain tip tip)) := by
  have hcnt : alone sha256 conf server getBlockCount store =
      (.ok (server .blockCount), store) := rfl
  rw [syncHeaders, alone_bind hcnt, hsv.count,
    alone_bind (alone_fetch hsv le_rfl),
    alone_bind (alone_requireValid hps)]

/-- A batch that does not pass changes nothing. -/
theorem rows_syncHeaders_of_not_passes (hps : ¬ Passes sha256 conf (fetched chain tip tip)) :
    (alone sha256 conf server (syncHeaders sha256 frames conf) store).2.rows = store.rows := by
  have hcnt : alone sha256 conf server getBlockCount store =
      (.ok (server .blockCount), store) := rfl
  obtain ⟨e, he⟩ := alone_requireValid_of_not store server hps
  rw [syncHeaders, alone_bind hcnt, hsv.count,
    alone_bind (alone_fetch hsv le_rfl), alone, Program.run_bind_of_error he]

include hst

/-- If nothing differs in the batch it is put on top of the stored chain. -/
theorem rows_syncHeaders_of_same (hps : Passes sha256 conf (fetched chain tip tip))
    (hsa : ∀ k, firstHeight tip ≤ k → k ≤ lastHeight tip tip → conf.anchorHeight ≤ k → k ≤ top →
      (stored k).serialize = (chain k).serialize) (k : ℕ) :
    (alone sha256 conf server (syncHeaders sha256 frames conf) store).2.rows.lookup k =
      if firstHeight tip ≤ k ∧ k ≤ lastHeight tip tip then some (chain k).serialize
      else store.rows.lookup k := by
  have hsts' := hst.checked conf (fetched chain tip tip)
  rw [alone_syncHeaders hsv hps, alone_bind (reconcile_noReorg hsts' hsv.tip_lt le_rfl hsa)]
  show ((store.checked conf (fetched chain tip tip)).rows.extend
    ((fetched chain tip tip).registry.mapValues serialize)).lookup k = _
  rw [lookup_afterAdd hsv.tip_lt le_rfl, HeaderStore.rows_checked]

variable (hch : Chains sha256 stored chain conf.anchorHeight top tip)

include hch

/-- Chains without a difference have converged, whether the batch passes or not. -/
theorem converged_of_same
    (hsa : ∀ k, conf.anchorHeight ≤ k → k ≤ top → k ≤ tip →
      (stored k).serialize = (chain k).serialize) :
    Converged sha256 chain tip
      (alone sha256 conf server (syncHeaders sha256 frames conf) store).2.rows := by
  have hanc := hch.anchor_le_tip
  have hl : lastHeight tip tip ≤ tip := min_le_right _ _
  -- a row is of the batch at the tip, or it was there before
  have hrw : ∀ k bytes,
      (alone sha256 conf server (syncHeaders sha256 frames conf) store).2.rows.lookup k =
        some bytes →
      (k ≤ tip ∧ bytes = (chain k).serialize) ∨ store.rows.lookup k = some bytes := by
    intro k bytes hbs
    by_cases hps : Passes sha256 conf (fetched chain tip tip)
    · rw [rows_syncHeaders_of_same hsv hst hps
        fun k _ hk hanc htop => hsa k hanc htop (hk.trans hl)] at hbs
      split at hbs
      · next hk => exact .inl ⟨hk.2.trans hl, (some.inj hbs).symm⟩
      · exact .inr hbs
    · rw [rows_syncHeaders_of_not_passes hsv hps] at hbs
      exact .inr hbs
  have hkp : ∀ k bytes, store.rows.lookup k = some bytes →
      conf.anchorHeight ≤ k ∧ k ≤ top ∧ bytes = (stored k).serialize := by
    intro k bytes hbs
    rw [hst.rows] at hbs
    split at hbs
    · next hk => exact ⟨hk.1, hk.2, (some.inj hbs).symm⟩
    · cases hbs
  refine converged_of_rows hch (fun k hk bytes hbs => ?_) fun k hk bytes hbs => ?_
  · rcases hrw k bytes hbs with ⟨_, heq⟩ | hbs
    · exact heq
    · obtain ⟨hle, htop, rfl⟩ := hkp k bytes hbs
      exact hsa k hle htop hk
  · rcases hrw k bytes hbs with ⟨hle, _⟩ | hbs
    · omega
    · obtain ⟨_, htop, heq⟩ := hkp k bytes hbs
      exact ⟨htop, heq, hsa tip hanc (by omega) le_rfl⟩

/-- A difference is resolved if the stored chain reaches the first batch and the batches reach the
difference. -/
theorem converged_iff_of_differ
    (hfr : FirstDifference stored chain conf.anchorHeight top tip fork) :
    Converged sha256 chain tip
      (alone sha256 conf server (syncHeaders sha256 frames conf) store).2.rows ↔
    firstHeight tip ≤ top ∧ Reaches sha256 conf chain tip tip fork := by
  have hrow : store.rows.lookup fork = some (stored fork).serialize := by
    rw [hst.rows, if_pos ⟨hfr.anchor_le, hfr.le_top⟩]
  by_cases hps : Passes sha256 conf (fetched chain tip tip)
  · have hsts' := hst.checked conf (fetched chain tip tip)
    -- a batch without the first difference, above or below it, leaves the difference
    have hms : (∀ k, firstHeight tip ≤ k → k ≤ lastHeight tip tip → k ≤ top → k < fork) →
        ¬ (firstHeight tip ≤ fork ∧ fork ≤ lastHeight tip tip) → ¬ Converged sha256 chain tip
          (alone sha256 conf server (syncHeaders sha256 frames conf) store).2.rows := by
      intro hbel hout
      refine not_converged hfr ?_
      rw [rows_syncHeaders_of_same hsv hst hps fun k hlow hhg hanc htop =>
        hfr.same k hanc (hbel k hlow hhg htop), if_neg hout, hrow]
    rcases lt_or_ge top (firstHeight tip) with hsh | hfst
    · have htop := hfr.le_top
      exact iff_of_false (hms (fun k _ _ _ => by omega) (by omega)) fun h => by omega
    · rcases lt_or_ge (lastHeight tip tip) fork with hhg | hhg
      · exact iff_of_false (hms (fun k _ hk _ => hk.trans_lt hhg) (by omega))
          fun h => not_reaches_of_gt le_rfl hfr.le_tip hhg h.2
      · rw [alone_syncHeaders hsv hps]
        rcases lt_or_ge fork (firstHeight tip) with hlow | hlow
        · obtain ⟨store', hwl, hiff⟩ := alone_walkBackReorg hsv.tip_lt hsv hch
            hfr hsts' (le_refl tip) le_rfl hfr.le_tip hfst
          rw [alone_bind (reconcile_needMoreHistory hsts' hsv.tip_lt le_rfl hch hfr
            hlow hfst), resolveOutcome, alone_bind hwl]
          exact hiff.trans (and_iff_right hfst).symm
        · obtain ⟨store', hrun, hcn⟩ :=
            reconcile_forkAt server hsts' hsv.tip_lt le_rfl hch hfr hlow hhg
          rw [alone_bind hrun]
          exact iff_of_true hcn ⟨hfst, reaches_of_mem hps le_rfl hfr.le_tip hlow hhg⟩
  · rw [rows_syncHeaders_of_not_passes hsv hps]
    exact iff_of_false (not_converged hfr hrow) fun h => hps (h.2.first hfr.le_tip)

end turn

/-- After a turn the table has converged to the chain of the server exactly if there was no
difference, or the stored chain reaches the first batch and the batches reach the difference. -/
theorem syncHeaders_converges_iff (sha256 : Bytes → H256) (frames : ℕ) (conf : SPVConf)
    (store : HeaderStore) (server : (c : Call) → c.Answer) (stored chain : ℕ → Header) (top tip : ℕ)
    (hst : Stores frames store stored conf.anchorHeight top)
    (hsv : Serves frames server chain tip)
    (hch : Chains sha256 stored chain conf.anchorHeight top tip) :
    Converged sha256 chain tip
      (alone sha256 conf server (syncHeaders sha256 frames conf) store).2.rows ↔
    ∀ fork, FirstDifference stored chain conf.anchorHeight top tip fork →
      firstHeight tip ≤ top ∧ Reaches sha256 conf chain tip tip fork := by
  rcases same_or_differ stored chain conf.anchorHeight top tip with hsa | ⟨fork, hfr⟩
  · refine iff_of_true (converged_of_same hsv hst hch hsa) fun fork hfr => ?_
    exact absurd (hsa fork hfr.anchor_le hfr.le_top hfr.le_tip) hfr.differs
  · rw [converged_iff_of_differ hsv hst hch hfr]
    refine ⟨fun h fork' hfr' => ?_, fun h => h fork hfr⟩
    obtain rfl := hfr.unique hfr'
    exact h

/-! ## Two branches -/

/-- A chain of plain headers. -/
def plainChain (sha256 : Bytes → H256) : ℕ → Header
  | 0 => plainHeader 1 (.replicate 32 0)
  | height + 1 => plainHeader 1 ((plainChain sha256 height).hash sha256)

/-- The same chain up to a height, where it has another header. -/
def plainBranch (sha256 : Bytes → H256) (last height : ℕ) : Header :=
  if height = last then plainHeader 2 ((plainChain sha256 (height - 1)).hash sha256)
  else plainChain sha256 height

/-- A table with a chain. -/
def chainStore (chain : ℕ → Header) (last : ℕ) : HeaderStore :=
  ⟨(fill ∅ 0 (slice chain 0 (last + 1))).mapValues serialize, [], []⟩

/-- A server of a chain. -/
def chainServer (chain : ℕ → Header) (tip : ℕ) : (c : Call) → c.Answer :=
  serverWith (.ofNat tip) (fun height => (chain height).serialize) fun start =>
    answerOf (slice chain start (min difficultyRetargetInterval (tip + 1 - start)))

/-- Batches are not checked. -/
def trusting : SPVConf := ⟨0, none, none⟩

theorem stores_chainStore (hlt : top + 1 ≤ 2 ^ 64)
    (hrd : ∀ height ≤ top, ReadsBack frames (chain height)) :
    Stores frames (chainStore chain top) chain 0 top := by
  refine ⟨fun height => ?_, fun height _ hle => hrd height hle⟩
  show ((fill ∅ 0 (slice chain 0 (top + 1))).mapValues serialize).lookup height = _
  rw [HashMap.lookup_mapValues, lookup_fill_slice (by omega)]
  by_cases hle : height ≤ top
  · rw [if_pos (by omega), if_pos ⟨zero_le _, hle⟩]
    rfl
  · rw [if_neg (by omega), if_neg (by omega)]
    rfl

theorem length_slice {first count : ℕ} : (slice chain first count).length = count := by
  unfold slice
  rw [List.length_map, List.length_range']

theorem serves_chainServer (htip : tip < 2 ^ 64)
    (hre : ∀ height, ∀ rest, Reads (deserialize frames) .standard
      ((chain height).serialize ++ rest) (chain height) rest) :
    Serves frames (chainServer chain tip) chain tip := by
  refine ⟨UInt64.toNat_ofNat_of_lt htip, fun start hsta => ?_⟩
  have hint : difficultyRetargetInterval = 2016 := rfl
  have hlen : (slice chain start (min difficultyRetargetInterval (tip + 1 - start))).length ≤
      difficultyRetargetInterval := by
    rw [length_slice]
    exact min_le_left _ _
  refine ⟨answerOf _, rfl, fun hz => ?_, holdsHeaders_of_reads hlen fun header hhdr rest => ?_⟩
  · have hcnt := toNat_count_answerOf hlen
    rw [hz, length_slice, UInt64.toNat_zero] at hcnt
    omega
  · obtain ⟨height, _, rfl⟩ := List.mem_map.mp hhdr
    exact hre height rest

variable (sha256 : Bytes → H256)

theorem reads_plainChain (height : ℕ) (rest : Bytes) :
    Reads (deserialize 1) .standard ((plainChain sha256 height).serialize ++ rest)
      (plainChain sha256 height) rest := by
  cases height with
  | zero | succ height => exact reads_plainHeader 0 (.inl rfl) _ rest

theorem readsBack_plainBranch (last height : ℕ) : ReadsBack 1 (plainBranch sha256 last height) := by
  unfold plainBranch
  split
  · have h := reads_plainHeader 0 (.inr rfl) ((plainChain sha256 (height - 1)).hash sha256) []
    rwa [List.append_nil] at h
  · have h := reads_plainChain sha256 height []
    rwa [List.append_nil] at h

theorem linked_plainChain (first last : ℕ) :
    Linked sha256 (plainChain sha256) first last := fun _ _ _ => rfl

theorem linked_plainBranch (first last : ℕ) :
    Linked sha256 (plainBranch sha256 last) first last := by
  intro height _ hlt
  have hbel : plainBranch sha256 last height = plainChain sha256 height := if_neg (by omega)
  rw [hbel]
  unfold plainBranch
  split <;> rfl

theorem headD_plainHeader (version : UInt32) (previous : H256) :
    (plainHeader version previous).serialize.headD 0 = (serialize version).headD 0 := by
  rw [serialize_parts, headBytes]
  rfl

theorem serialize_plainHeader_ne {previous previous' : H256} :
    (plainHeader 2 previous).serialize ≠ (plainHeader 1 previous').serialize := by
  intro h
  have hver := congrArg (List.headD · 0) h
  rw [headD_plainHeader, headD_plainHeader] at hver
  exact absurd hver (by decide)

/-- A hash that only looks at the first byte. -/
def firstByte (bytes : Bytes) : H256 := .replicate 32 (bytes.headD 0)

theorem dhash256_firstByte (bytes : Bytes) :
    dhash256 firstByte bytes = .replicate 32 (bytes.headD 0) := rfl

theorem hash_plainHeader_ne {previous previous' : H256} :
    (plainHeader 2 previous).hash firstByte ≠ (plainHeader 1 previous').hash firstByte := by
  intro h
  rw [BlockHeader.hash, BlockHeader.hash, dhash256_firstByte, dhash256_firstByte,
    headD_plainHeader, headD_plainHeader] at h
  exact absurd h (by decide)

/-- Two branches that differ at height 1. -/
theorem plainBranch_replaced :
    FirstDifference (plainBranch firstByte 1) (plainChain firstByte) 0 1 1 1 ∧
    Converged firstByte (plainChain firstByte) 1
      (alone firstByte trusting (chainServer (plainChain firstByte) 1)
        (syncHeaders firstByte 1 trusting) (chainStore (plainBranch firstByte 1) 1)).2.rows := by
  have hdif : FirstDifference (plainBranch firstByte 1) (plainChain firstByte) 0 1 1 1 := by
    refine ⟨zero_le 1, le_rfl, le_rfl, serialize_plainHeader_ne, fun height _ hlt => ?_⟩
    obtain rfl : height = 0 := by omega
    rfl
  have hst : Stores 1 (chainStore (plainBranch firstByte 1) 1) (plainBranch firstByte 1)
      trusting.anchorHeight 1 :=
    stores_chainStore (by norm_num) fun height _ => readsBack_plainBranch firstByte 1 height
  have hsv : Serves 1 (chainServer (plainChain firstByte) 1) (plainChain firstByte) 1 :=
    serves_chainServer (by norm_num) (reads_plainChain firstByte)
  have hch : Chains firstByte (plainBranch firstByte 1) (plainChain firstByte)
      trusting.anchorHeight 1 1 := by
    refine ⟨linked_plainBranch firstByte 0 1, linked_plainChain firstByte 0 1, zero_le 1,
      zero_le 1, rfl, fun height _ hle _ hhs => ?_⟩
    obtain rfl | rfl : height = 0 ∨ height = 1 := by omega
    · rfl
    · exact absurd hhs hash_plainHeader_ne
  refine ⟨hdif, (syncHeaders_converges_iff firstByte 1 trusting _ _ _ _ 1 1 hst hsv
    hch).mpr fun fork hfr => ?_⟩
  obtain rfl := hdif.unique hfr
  exact ⟨zero_le 1, ⟨by decide, fun _ _ => nofun⟩⟩

/-- Two branches that differ at the tip of the server, which is in no batch. -/
theorem tip_not_replaced : lastHeight 2016 2016 < 2016 ∧ ∀ sha256 : Bytes → H256,
    Stores 1 (chainStore (plainBranch sha256 2016) 2016) (plainBranch sha256 2016) 0 2016 ∧
    Serves 1 (chainServer (plainChain sha256) 2016) (plainChain sha256) 2016 ∧
    Linked sha256 (plainBranch sha256 2016) 0 2016 ∧ Linked sha256 (plainChain sha256) 0 2016 ∧
    plainBranch sha256 2016 0 = plainChain sha256 0 ∧
    ¬ Converged sha256 (plainChain sha256) 2016
      (alone sha256 trusting (chainServer (plainChain sha256) 2016)
        (syncHeaders sha256 1 trusting) (chainStore (plainBranch sha256 2016) 2016)).2.rows := by
  have hl : lastHeight 2016 2016 = 2015 := by decide
  refine ⟨by omega, fun sha256 => ?_⟩
  have hst : Stores 1 (chainStore (plainBranch sha256 2016) 2016) (plainBranch sha256 2016)
      trusting.anchorHeight 2016 :=
    stores_chainStore (by norm_num) fun height _ => readsBack_plainBranch sha256 2016 height
  have hsv : Serves 1 (chainServer (plainChain sha256) 2016) (plainChain sha256) 2016 :=
    serves_chainServer (by norm_num) (reads_plainChain sha256)
  have hsa : ∀ k < 2016, plainBranch sha256 2016 k = plainChain sha256 k :=
    fun k hk => if_neg (by omega)
  refine ⟨hst, hsv, linked_plainBranch sha256 0 2016, linked_plainChain sha256 0 2016,
    hsa 0 (by decide), ?_⟩
  have hps : Passes sha256 trusting (fetched (plainChain sha256) 2016 2016) := nofun
  have hrow := rows_syncHeaders_of_same hsv hst hps
    (fun k _ hk _ _ => congrArg BlockHeader.serialize (hsa k (by omega))) 2016
  rw [hl, if_neg (by omega), hst.rows, if_pos (by decide)] at hrow
  intro hcn
  exact serialize_plainHeader_ne (hcn.agrees 2016 le_rfl _ hrow)

end CheetahDex.Spv
