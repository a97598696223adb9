import CheetahDex.Proof.MakerRecovery
import CheetahDex.Swap.DexFee

/-!
# When both sides compute the same fee

The taker computes the fee from the exact amount, the maker from that amount cut to a number of
digits. Every part of the fee grows with the amount, so the two agree exactly if no amount between
theirs is one from which a part has a whole unit more: a breakpoint.
-/

namespace CheetahDex.Proof

open Lib Ordermatch Swap DexFee MakerRecovery

/-- The parts of two fees are the same number of smallest units. -/
def SameUnits (digits : ℕ) (coin : FeeCoin) (fee fee' : DexFee) : Prop :=
  units coin.decimals (toDecimal digits fee.feeAmount) =
      units coin.decimals (toDecimal digits fee'.feeAmount) ∧
    units coin.decimals (toDecimal digits fee.burnAmount) =
      units coin.decimals (toDecimal digits fee'.burnAmount)

instance (digits : ℕ) (coin : FeeCoin) (fee fee' : DexFee) :
    Decidable (SameUnits digits coin fee fee') :=
  inferInstanceAs (Decidable (_ ∧ _))

/-! ## Breakpoints -/

section parts

variable (digits : ℕ) (cfg : NetConfig) (coin : FeeCoin)

/-- A part of the fee goes to an account that burns it. -/
def BurnsToAccount : Prop := cfg.burnEnabled ∧ coin.shouldBurnDexFee ∧ ¬ coin.shouldBurnDirectly

/-- Both parts of a fee may be sent. -/
def Splits (total : MmNumber) : Prop :=
  coin.minTxAmount digits ≤ total * cfg.dexFeeShare ∧
    coin.minTxAmount digits ≤ total * (1 - cfg.dexFeeShare)

/-- A total from which a part has a whole unit more. -/
def WholePart (total : MmNumber) : Prop :=
  (BurnsToAccount cfg coin ∧ Splits digits cfg coin total ∧
      (IsWhole digits coin.decimals (total * cfg.dexFeeShare) ∨
        IsWhole digits coin.decimals (total * (1 - cfg.dexFeeShare)))) ∨
    (¬ (BurnsToAccount cfg coin ∧ Splits digits cfg coin total) ∧
      IsWhole digits coin.decimals total)

/-- An amount, above those the least fee is taken for, from which a part of the fee has a whole unit
more. -/
def Breakpoint (makerCoin : String) (amount : MmNumber) : Prop :=
  dexFeeThreshold cfg (coin.minTxAmount digits) < amount * dexFeeRate cfg coin.ticker makerCoin ∧
    WholePart digits cfg coin (amount * dexFeeRate cfg coin.ticker makerCoin)

end parts

section totals

variable {digits : ℕ} {cfg : NetConfig} {coin : FeeCoin} {total total' : MmNumber}

theorem minTxAmount_nonneg (digits : ℕ) (coin : FeeCoin) : 0 ≤ coin.minTxAmount digits :=
  truncDigits_nonneg (by positivity)

theorem Splits.mono (h : Splits digits cfg coin total') (hle : total' ≤ total) :
    Splits digits cfg coin total := by
  have hbr : 0 ≤ 1 - cfg.dexFeeShare := sub_nonneg.2 cfg.share_le_one
  exact ⟨h.1.trans (mul_le_mul_of_nonneg_right hle cfg.share_nonneg),
    h.2.trans (mul_le_mul_of_nonneg_right hle hbr)⟩

theorem share_pos {least share : MmNumber} (hpos : 0 < least) (hnn : 0 ≤ total)
    (h : least ≤ total * share) : 0 < share := by
  by_contra hsh
  have hle : total * share ≤ 0 := mul_nonpos_of_nonneg_of_nonpos hnn (not_lt.1 hsh)
  exact absurd (hpos.trans_le h) (not_lt.2 hle)

/-- Between a total that does not split and one that does is the least one that does. -/
theorem exists_least_splits (hpos : 0 < coin.minTxAmount digits) (hnn : 0 ≤ total)
    (hspl : Splits digits cfg coin total) (hnot : ¬ Splits digits cfg coin total') :
    ∃ least, total' < least ∧ least ≤ total ∧ Splits digits cfg coin least ∧
      (least * cfg.dexFeeShare = coin.minTxAmount digits ∨
        least * (1 - cfg.dexFeeShare) = coin.minTxAmount digits) := by
  have hfee : 0 < cfg.dexFeeShare := share_pos hpos hnn hspl.1
  have hbr : 0 < 1 - cfg.dexFeeShare := share_pos hpos hnn hspl.2
  set minTx := coin.minTxAmount digits with hmin
  refine ⟨max (minTx / cfg.dexFeeShare) (minTx / (1 - cfg.dexFeeShare)), ?_, ?_, ⟨?_, ?_⟩, ?_⟩
  · refine not_le.1 fun hle => hnot ⟨?_, ?_⟩
    · exact (div_le_iff₀ hfee).1 ((le_max_left _ _).trans hle)
    · exact (div_le_iff₀ hbr).1 ((le_max_right _ _).trans hle)
  · exact max_le ((div_le_iff₀ hfee).2 hspl.1) ((div_le_iff₀ hbr).2 hspl.2)
  · exact (div_le_iff₀ hfee).1 (le_max_left _ _)
  · exact (div_le_iff₀ hbr).1 (le_max_right _ _)
  · rcases le_total (minTx / (1 - cfg.dexFeeShare)) (minTx / cfg.dexFeeShare) with hle | hle
    · rw [max_eq_left hle]
      exact .inl (div_mul_cancel₀ _ hfee.ne')
    · rw [max_eq_right hle]
      exact .inr (div_mul_cancel₀ _ hbr.ne')

/-! ## The parts of a total -/

theorem newFromTakerCoin_directly (h : cfg.burnEnabled ∧ coin.shouldBurnDirectly)
    (hmin : coin.minTxAmount digits ≤ total) :
    newFromTakerCoin digits coin cfg total = .withBurn 0 total .kmdOpReturn := by
  have hbr : coin.shouldBurnDexFee := (Bool.and_eq_true_iff.1 h.2).1
  rw [newFromTakerCoin, if_neg (by simp [h.1, hbr]), if_pos h.2, calcDexFeeForOpReturn,
    if_neg (not_lt.2 hmin)]

theorem newFromTakerCoin_splits (h : BurnsToAccount cfg coin)
    (hspl : Splits digits cfg coin total) :
    newFromTakerCoin digits coin cfg total =
      .withBurn (total * cfg.dexFeeShare) (total * (1 - cfg.dexFeeShare))
        (.preBurnAccount (burnKey cfg coin)) := by
  obtain ⟨hen, hbr, hdir⟩ := h
  rw [newFromTakerCoin, if_neg (by simp [hen, hbr]), if_neg hdir, calcDexFeeForBurnAccount]
  rw [← mul_one_sub, if_neg]
  rw [not_or, not_lt, not_lt]
  exact ⟨hspl.2, hspl.1⟩

theorem newFromTakerCoin_standard (hdir : ¬ (cfg.burnEnabled ∧ coin.shouldBurnDirectly))
    (h : ¬ (BurnsToAccount cfg coin ∧ Splits digits cfg coin total)) :
    newFromTakerCoin digits coin cfg total = .standard total := by
  unfold newFromTakerCoin
  split
  · rfl
  · rename_i hbr
    simp only [Bool.or_eq_true, Bool.not_eq_true', not_or, Bool.not_eq_false] at hbr
    have hnot : ¬ coin.shouldBurnDirectly := fun hd => hdir ⟨hbr.1, hd⟩
    rw [if_neg hnot, calcDexFeeForBurnAccount]
    rw [← mul_one_sub, if_pos]
    by_contra hpr
    rw [not_or, not_lt, not_lt] at hpr
    exact h ⟨⟨hbr.1, hbr.2, hnot⟩, hpr.2, hpr.1⟩

/-! ## Two totals -/

theorem wholePart_of_splits (h : BurnsToAccount cfg coin) (hspl : Splits digits cfg coin total) :
    WholePart digits cfg coin total ↔
      IsWhole digits coin.decimals (total * cfg.dexFeeShare) ∨
        IsWhole digits coin.decimals (total * (1 - cfg.dexFeeShare)) := by
  refine ⟨?_, fun hwh => .inl ⟨h, hspl, hwh⟩⟩
  rintro (⟨-, -, hwh⟩ | ⟨hnot, -⟩)
  · exact hwh
  · exact absurd ⟨h, hspl⟩ hnot

/-- One amount each. -/
theorem units_totals_iff (hnn : 0 ≤ total') (hle : total' ≤ total)
    (h : ¬ (BurnsToAccount cfg coin ∧ Splits digits cfg coin total)) :
    units coin.decimals (toDecimal digits total) = units coin.decimals (toDecimal digits total') ↔
      ∀ y, WholePart digits cfg coin y → total' < y → ¬ y ≤ total := by
  rw [toDecimal, toDecimal, units_eq_iff hnn hle]
  refine forall_congr' fun y => ⟨fun hn hwh hlt hle' => ?_, fun hn hwh hlt hle' => ?_⟩
  all_goals
    have hnot : ¬(BurnsToAccount cfg coin ∧ Splits digits cfg coin y) :=
      fun hbt => h ⟨hbt.1, hbt.2.mono hle'⟩
  · rcases hwh with ⟨hbu, hspl, -⟩ | ⟨-, hwh⟩
    · exact hnot ⟨hbu, hspl⟩
    · exact hn hwh hlt hle'
  · exact hn (.inr ⟨hnot, hwh⟩) hlt hle'

/-- Two parts each. -/
theorem units_parts_iff (hbu : BurnsToAccount cfg coin)
    (hspl : Splits digits cfg coin total') (hnn : 0 ≤ total') (hle : total' ≤ total) :
    (units coin.decimals (toDecimal digits (total * cfg.dexFeeShare)) =
        units coin.decimals (toDecimal digits (total' * cfg.dexFeeShare)) ∧
      units coin.decimals (toDecimal digits (total * (1 - cfg.dexFeeShare))) =
        units coin.decimals (toDecimal digits (total' * (1 - cfg.dexFeeShare)))) ↔
      ∀ y, WholePart digits cfg coin y → total' < y → ¬ y ≤ total := by
  have hbr : 0 ≤ 1 - cfg.dexFeeShare := sub_nonneg.2 cfg.share_le_one
  rw [toDecimal, toDecimal, toDecimal, toDecimal, units_mul_eq_iff cfg.share_nonneg hnn hle,
    units_mul_eq_iff hbr hnn hle, ← forall_and]
  refine forall_congr' fun y => ⟨fun hn hwh hlt hle' => ?_, fun hn => ⟨?_, ?_⟩⟩
  · rcases (wholePart_of_splits hbu (hspl.mono hlt.le)).1 hwh with hwh | hwh
    · exact hn.1 hwh hlt hle'
    · exact hn.2 hwh hlt hle'
  · exact fun hwh hlt => hn ((wholePart_of_splits hbu (hspl.mono hlt.le)).2 (.inl hwh)) hlt
  · exact fun hwh hlt => hn ((wholePart_of_splits hbu (hspl.mono hlt.le)).2 (.inr hwh)) hlt

/-- The greater one splits and the other does not: the parts differ, and the least total that splits
is between them. -/
theorem not_sameUnits_of_splits (hbu : BurnsToAccount cfg coin)
    (hspl : Splits digits cfg coin total) (hnot : ¬ Splits digits cfg coin total')
    (hnn : 0 ≤ total') (hle : total' ≤ total) :
    ¬ SameUnits digits coin (newFromTakerCoin digits coin cfg total)
        (newFromTakerCoin digits coin cfg total') ∧
      ∃ y, WholePart digits cfg coin y ∧ total' < y ∧ y ≤ total := by
  have hbr : 0 ≤ 1 - cfg.dexFeeShare := sub_nonneg.2 cfg.share_le_one
  -- a coin without a least amount splits every total
  have hpos : 0 < coin.minTxAmount digits := by
    refine lt_of_le_of_ne (minTxAmount_nonneg digits coin) fun hz => hnot ⟨?_, ?_⟩
    · exact hz ▸ mul_nonneg hnn cfg.share_nonneg
    · exact hz ▸ mul_nonneg hnn hbr
  -- the least amount of a transaction is a whole number of units
  have hwh : IsWhole digits coin.decimals (coin.minTxAmount digits) := isWhole_truncDigits hpos
  refine ⟨fun he => ?_, ?_⟩
  · -- there is something to burn for the one, and nothing for the other
    have hun := he.2
    rw [newFromTakerCoin_splits hbu hspl,
      newFromTakerCoin_standard (fun h => hbu.2.2 h.2) fun h => hnot h.2] at hun
    have hlt : units coin.decimals (toDecimal digits 0) <
        units coin.decimals (toDecimal digits (total * (1 - cfg.dexFeeShare))) :=
      (units_lt_iff le_rfl (mul_nonneg (hnn.trans hle) hbr)).2 ⟨_, hwh, hpos, hspl.2⟩
    exact absurd hun.symm hlt.ne
  · obtain ⟨least, hlt, hle', hls, heq⟩ := exists_least_splits hpos (hnn.trans hle) hspl hnot
    refine ⟨least, (wholePart_of_splits hbu hls).2 (heq.imp ?_ ?_), hlt, hle'⟩
    · exact fun h => h ▸ hwh
    · exact fun h => h ▸ hwh

/-- **The fees of two totals have the same parts exactly if there is no total between them from
which a part has a whole unit more.** -/
theorem sameUnits_totals_iff (hmin : coin.minTxAmount digits ≤ total') (hle : total' ≤ total) :
    SameUnits digits coin (newFromTakerCoin digits coin cfg total)
        (newFromTakerCoin digits coin cfg total') ↔
      ∀ y, WholePart digits cfg coin y → total' < y → ¬ y ≤ total := by
  have hnn : 0 ≤ total' := (minTxAmount_nonneg digits coin).trans hmin
  by_cases hdir : cfg.burnEnabled ∧ coin.shouldBurnDirectly
  · rw [newFromTakerCoin_directly hdir hmin,
      newFromTakerCoin_directly hdir (hmin.trans hle), SameUnits]
    refine (and_iff_right rfl).trans (units_totals_iff hnn hle ?_)
    exact fun hbt => hbt.1.2.2 hdir.2
  by_cases hbt : BurnsToAccount cfg coin ∧ Splits digits cfg coin total
  · obtain ⟨hac, hspl⟩ := hbt
    by_cases hspl' : Splits digits cfg coin total'
    · rw [newFromTakerCoin_splits hac hspl, newFromTakerCoin_splits hac hspl']
      exact units_parts_iff hac hspl' hnn hle
    · obtain ⟨hnot, y, hwh, hlt, hle'⟩ := not_sameUnits_of_splits hac hspl hspl' hnn hle
      exact iff_of_false hnot fun hn => hn y hwh hlt hle'
  · rw [newFromTakerCoin_standard hdir hbt,
      newFromTakerCoin_standard hdir fun h => hbt ⟨h.1, h.2.mono hle⟩, SameUnits]
    exact (and_iff_left rfl).trans (units_totals_iff hnn hle hbt)

end totals

/-! ## Two amounts -/

section amounts

variable {digits : ℕ} {cfg : NetConfig} {coin : FeeCoin} {makerCoin : String}
  {amount amount' : MmNumber}

theorem minTxAmount_le_threshold (digits : ℕ) (cfg : NetConfig) (coin : FeeCoin) :
    coin.minTxAmount digits ≤ dexFeeThreshold cfg (coin.minTxAmount digits) := by
  unfold dexFeeThreshold
  split
  · exact le_rfl
  · rename_i hge
    exact not_lt.1 hge

theorem threshold_pos (digits : ℕ) (cfg : NetConfig) (coin : FeeCoin) :
    0 < dexFeeThreshold cfg (coin.minTxAmount digits) := by
  unfold dexFeeThreshold
  split
  · rename_i hlt
    exact cfg.threshold_pos.trans hlt
  · exact cfg.threshold_pos

/-- Cutting an amount to digits does not raise the fee: a negative amount has the least fee. -/
theorem total_toDecimal_le :
    dexFeeAmountFromTakerCoin digits cfg coin makerCoin (toDecimal digits amount) ≤
      dexFeeAmountFromTakerCoin digits cfg coin makerCoin amount := by
  have hrt := (dexFeeRate_pos cfg coin.ticker makerCoin).le
  rw [dexFeeAmountFromTakerCoin, dexFeeAmountFromTakerCoin, dexFeeAmount_eq_max,
    dexFeeAmount_eq_max]
  refine max_le (le_max_left _ _) ?_
  rcases le_or_gt 0 amount with hnn | hneg
  · exact le_max_of_le_right (mul_le_mul_of_nonneg_right (truncDigits_le hnn) hrt)
  · refine le_max_of_le_left (le_trans ?_ (threshold_pos digits cfg coin).le)
    exact mul_nonpos_of_nonpos_of_nonneg (truncDigits_nonpos hneg) hrt

/-- The totals between two fees are those of the amounts between. -/
theorem forall_wholePart_iff :
    (∀ y, WholePart digits cfg coin y →
      dexFeeAmountFromTakerCoin digits cfg coin makerCoin amount' < y →
      ¬ y ≤ dexFeeAmountFromTakerCoin digits cfg coin makerCoin amount) ↔
      ∀ x, Breakpoint digits cfg coin makerCoin x → amount' < x → ¬ x ≤ amount := by
  have hrt := dexFeeRate_pos cfg coin.ticker makerCoin
  rw [dexFeeAmountFromTakerCoin, dexFeeAmountFromTakerCoin, dexFeeAmount_eq_max,
    dexFeeAmount_eq_max]
  constructor
  · intro h x hbk hlt hle
    refine h _ hbk.2 (max_lt hbk.1 (mul_lt_mul_of_pos_right hlt hrt)) ?_
    exact le_max_of_le_right (mul_le_mul_of_nonneg_right hle hrt.le)
  · intro h y hwh hlt hle
    obtain ⟨hth, hlt'⟩ := max_lt_iff.1 hlt
    have hcn : y / dexFeeRate cfg coin.ticker makerCoin *
        dexFeeRate cfg coin.ticker makerCoin = y := div_mul_cancel₀ y hrt.ne'
    refine h (y / dexFeeRate cfg coin.ticker makerCoin) ⟨?_, ?_⟩ ((lt_div_iff₀ hrt).2 hlt') ?_
    · rwa [hcn]
    · rwa [hcn]
    · rw [div_le_iff₀ hrt]
      exact (le_max_iff.1 hle).resolve_left (not_le.2 hth)

end amounts

/-! ## The two sides -/

theorem takerAmount_foldl (now : UInt64) (events : List MakerSwapEvent) (swap : MakerSwap) :
    (events.foldl (MakerSwap.applyEvent now) swap).takerAmount = swap.takerAmount := by
  refine List.foldlRecOn events _
    (motive := fun (swap' : MakerSwap) => swap'.takerAmount = swap.takerAmount) rfl ?_
  intro swap' h event _
  cases event <;> exact h

/-- **The taker's and the maker's fee have the same parts exactly if the taker pays no fee, or if
there is no breakpoint between the amount and that amount cut to digits.** -/
theorem dexFee_agree_iff (digits : ℕ) (cfg : NetConfig) (coin : FeeCoin) (makerTicker : String)
    (takerPubkey : Bytes) (amount : MmNumber) (ctx : SwapCtx) (taker : Hash 32)
    (makerAmount : MmNumber) (myPersistentPub : Hash 33) (uuid : Uuid) (myOrderUuid : Option Uuid)
    (confSettings : SwapConfirmationsSettings) (makerCoin takerCoin : SwapCoin)
    (paymentLocktime : UInt64) (p2pPrivkey : Option KeyPair) (env : MakerEnv)
    (next : Option MakerSwapCommand) (data : MakerSwapData) (saved : MakerSavedSwap) (now : UInt64)
    (restored : MakerSwap) (command : Option MakerSwapCommand) :
    let live := MakerSwap.new ctx taker makerAmount (toDecimal digits amount) myPersistentPub uuid
      myOrderUuid confSettings makerCoin takerCoin paymentLocktime p2pPrivkey
    live.start env = .returned next [.started data] →
    saved.events.head? = some (.started data) →
    MakerSwap.loadFromSaved now ctx makerCoin takerCoin saved = .ok (restored, command) →
    ∀ maker ∈ [live, restored],
      (SameUnits digits coin
          (computeDexFeeWithTakerPubkey digits cfg coin makerTicker amount takerPubkey)
          (computeDexFeeWithTakerPubkey digits cfg coin makerTicker maker.takerAmount takerPubkey) ↔
        (burnKey cfg coin ≠ [] ∧ burnKey cfg coin = takerPubkey) ∨
          ∀ x, Breakpoint digits cfg coin makerTicker x → toDecimal digits amount < x →
            ¬ x ≤ amount) := by
  intro live hsta hsav hld maker hmk
  have hamt : maker.takerAmount = toDecimal digits amount := by
    have hdt : data.takerAmount = toDecimal digits amount :=
      (MakerReturns.started_of_start hsta).takerAmount
    rcases List.mem_pair.1 hmk with rfl | rfl
    · rfl
    · obtain ⟨rest, hevs⟩ := List.head?_eq_some_iff.1 hsav
      unfold MakerSwap.loadFromSaved at hld
      rw [hevs] at hld
      obtain ⟨rfl, -⟩ := Prod.mk.inj (Except.ok.inj hld)
      exact (takerAmount_foldl now _ _).trans hdt
  rw [hamt, computeDexFeeWithTakerPubkey, computeDexFeeWithTakerPubkey,
    newWithTakerPubkey, newWithTakerPubkey]
  by_cases hfr : burnKey cfg coin ≠ [] ∧ burnKey cfg coin = takerPubkey
  · rw [if_pos hfr, if_pos hfr]
    exact iff_of_true ⟨rfl, rfl⟩ (.inl hfr)
  · rw [if_neg hfr, if_neg hfr, or_iff_right hfr, ← forall_wholePart_iff]
    refine sameUnits_totals_iff ?_ total_toDecimal_le
    rw [dexFeeAmountFromTakerCoin, dexFeeAmount_eq_max]
    exact (minTxAmount_le_threshold digits cfg coin).trans (le_max_left _ _)

/-- A coin with eight decimals. -/
def docCoin : FeeCoin := ⟨"DOC", 8, 1000, true⟩

/-- A third of a coin, of which the maker keeps a hundred digits. -/
theorem dexFee_agree_third : ∃ restored : MakerSwap,
    SameUnits 100 docCoin (computeDexFeeWithTakerPubkey 100 netid8762 docCoin "KMD" (1 / 3) [])
      (computeDexFeeWithTakerPubkey 100 netid8762 docCoin "KMD" restored.takerAmount []) ∧
    ∀ x, Breakpoint 100 netid8762 docCoin "KMD" x → toDecimal 100 (1 / 3) < x → ¬ x ≤ 1 / 3 := by
  have hiff := dexFee_agree_iff 100 netid8762 docCoin "KMD" [] (1 / 3) plainSwapCtx
    (.replicate 32 9) 1 (.replicate 33 2) 1 none ⟨1, false, 1, false⟩ plainSwapCoin
    plainSwapCoin 7800 none lostPaymentEnv (some .negotiate) _
    ⟨1, none, [.started _]⟩ 200 _ (some .negotiate) rfl rfl rfl _
    (List.mem_cons_of_mem _ List.mem_cons_self)
  have he := hiff.1 ?_
  · exact ⟨_, hiff.2 he, he.resolve_left fun h => h.1 h.2⟩
  · decide +kernel

/-- The taker pays 2590/3, of which the fee is a whole coin; cut to digits the amount is a little
less, and so is the fee. -/
theorem cutAmount_fee_differs : netConfigFor false 8762 = some netid8762 ∧
    ¬ SameUnits 100 docCoin
      (computeDexFeeWithTakerPubkey 100 netid8762 docCoin "KMD" (2590 / 3) [])
      (computeDexFeeWithTakerPubkey 100 netid8762 docCoin "KMD" (toDecimal 100 (2590 / 3)) []) :=
  ⟨rfl, by decide +kernel⟩

end CheetahDex.Proof
