import CheetahDex.Proof.MatchAgreement

/-!
# Orders that the builder would accept

The builder couples the price, the least volume and the volume of an order. An update that names no
least volume compares the old one neither with the new price nor with the new volume. A taker order
that becomes a maker order keeps its terms.
-/

namespace CheetahDex.Proof

open Lib Common Ordermatch Except

/-- What `MakerOrderBuilder::build` enforces, and that so much is available. -/
structure Valid (baseCoin relCoin : Coin) (order : MakerOrder) : Prop where
  price_pos : 0 < order.price
  base_le : baseCoin.minTradingVol ≤ order.minBaseVol
  rel_le : relCoin.minTradingVol ≤ order.minBaseVol * order.price
  min_le_max : order.minBaseVol ≤ order.maxBaseVol
  min_le_available : order.minBaseVol ≤ order.availableAmount

variable {order : MakerOrder} {newUuid : Uuid} {random : H256} {req : MakerOrderUpdateReq}
  {minBaseAmount minRelAmount price : MmNumber}

theorem validateAndGetMinVol_ok {minBaseVol : Option MmNumber} {minVol : MmNumber}
    (hpr : 0 < price)
    (h : validateAndGetMinVol minBaseAmount minRelAmount minBaseVol price = .ok minVol) :
    minVol = minBaseVol.getD (max minBaseAmount (minRelAmount / price)) ∧
      minBaseAmount ≤ minVol ∧ minRelAmount ≤ minVol * price := by
  obtain ⟨_, hmin, h⟩ := of_bind_ok h
  cases h
  have hle := not_lt.1 (not_of_check hmin)
  exact ⟨rfl, (le_max_left _ _).trans hle, (div_le_iff₀ hpr).1 ((le_max_right _ _).trans hle)⟩

variable {nowMs : Nat} {b : TakerOrderBuilder} {taker : TakerOrder}

theorem valid_of_build {b : MakerOrderBuilder} (h : b.build newUuid nowMs random = .ok order) :
    Valid b.baseCoin b.relCoin order := by
  obtain ⟨-, -, -, -, _, hpr, h⟩ := of_bind₃_ok h
  obtain ⟨minVol, hmin, _, hmax, h⟩ := of_bind₂_ok h
  cases h
  have hpos := minPrice_pos.trans_le (le_of_validatePrice hpr)
  obtain ⟨hmn, hbs, hrel⟩ := validateAndGetMinVol_ok hpos hmin
  obtain ⟨hgi, hbs', hrel'⟩ := validateMaxVol_ok hmax
  have hle : minVol ≤ b.maxBaseVol := by
    rw [hmn]
    cases hb : b.minBaseVol with
    | none => exact max_le hbs' ((div_le_iff₀ hpos).2 hrel')
    | some min => exact hgi min hb
  -- nothing is reserved
  exact ⟨hpos, hbs, hrel, hle, hle.trans (sub_zero _).ge⟩

theorem valid_iff {baseCoin relCoin : Coin} (hpr : 0 < order.price)
    (hrsv : 0 ≤ order.reservedAmount) :
    Valid baseCoin relCoin order ↔ baseCoin.minTradingVol ≤ order.minBaseVol ∧
      relCoin.minTradingVol ≤ order.minBaseVol * order.price ∧
        order.minBaseVol ≤ order.availableAmount :=
  ⟨fun h => ⟨h.base_le, h.rel_le, h.min_le_available⟩, fun ⟨hbs, hrel, hle⟩ =>
    ⟨hpr, hbs, hrel, hle.trans (sub_le_self _ hrsv), hle⟩⟩

/-! ## Updates -/

theorem price_ok {original : MmNumber} (h : req.price original = .ok price) (hpos : 0 < original) :
    price = req.newPrice.getD original ∧ 0 < price := by
  have hnew := @price_pos_of_price req original price h
  unfold MakerOrderUpdateReq.price at h
  cases hpr : req.newPrice with
  | none =>
    rw [hpr] at h
    cases h
    exact ⟨rfl, hpos⟩
  | some newPrice =>
    rw [hpr] at h
    obtain ⟨_, -, rfl⟩ := of_map_ok h
    exact ⟨rfl, hnew hpr⟩

theorem minVol_ok {minVol : Option MmNumber} (hpr : 0 < price)
    (h : req.minVol minBaseAmount minRelAmount price = .ok minVol) :
    minVol = req.minVolume ∧
      ∀ min, req.minVolume = some min → minBaseAmount ≤ min ∧ minRelAmount ≤ min * price := by
  unfold MakerOrderUpdateReq.minVol at h
  cases hmin : req.minVolume with
  | none =>
    rw [hmin] at h
    exact ⟨(ok.inj h).symm, by simp⟩
  | some min =>
    rw [hmin] at h
    obtain ⟨actual, hval, rfl⟩ := of_map_ok h
    obtain ⟨rfl, hle⟩ := validateAndGetMinVol_ok hpr (of_mapError_ok hval)
    exact ⟨rfl, fun _ heq => Option.some.inj heq ▸ hle⟩

/-- What is left for takers once the request has gone through. -/
def offered (env : UpdateEnv) (order : MakerOrder) (req : MakerOrderUpdateReq) : MmNumber :=
  if req.max.getD false then env.getMaxVolume.toOption.getD 0
  else order.availableAmount + req.volumeDelta.getD 0

/-- What is kept of the old order has to suit what is new. -/
def KeepsMinimum (relCoin : Coin) (env : UpdateEnv) (order : MakerOrder)
    (req : MakerOrderUpdateReq) : Prop :=
  req.minVolume = none →
    relCoin.minTradingVol ≤ order.minBaseVol * req.newPrice.getD order.price ∧
      order.minBaseVol ≤ offered env order req

/-- **An update that succeeds leaves a valid order exactly if it names a least volume, or the old
one suits the new price and what is left for takers.** -/
theorem updated_valid_iff (b : MakerOrderBuilder) :
    (∀ newUuid nowMs random order, b.build newUuid nowMs random = .ok order →
      Committed order ∧ Valid b.baseCoin b.relCoin order) ∧
    ∀ order env req update nowMs saved order', Committed order →
      b.baseCoin.minTradingVol ≤ order.minBaseVol →
      env.coins.findPair order.base order.rel = some (b.baseCoin, b.relCoin) →
      order.prepareUpdate env req = .ok update →
      order.commitUpdate nowMs saved update = .ok order' →
      (Valid b.baseCoin b.relCoin order' ↔ KeepsMinimum b.relCoin env order req) := by
  refine ⟨fun _ _ _ _ h => ⟨committed_of_build h, valid_of_build h⟩, ?_⟩
  intro order env req update nowMs saved order' hord hbs hcs hprp hco
  -- what the checks of the update have found
  obtain ⟨-, rfl⟩ := commitUpdate_ok hco
  obtain ⟨-, -, pair, hpa, h⟩ := of_bind₂_ok hprp
  cases hcs.symm.trans (orError_ok_iff.1 hpa)
  obtain ⟨_, -, price, hpr, minVol, hmin, h⟩ := of_bind₃_ok h
  obtain ⟨⟨volume, maxVol⟩, hvol, -, -, _, hmax, h⟩ := of_bind₃_ok h
  cases h
  obtain ⟨rfl, hpos⟩ := price_ok hpr hord.price_pos
  obtain ⟨rfl, hgi⟩ := minVol_ok hpos hmin
  obtain ⟨rfl, hof⟩ := volume_ok hvol
  obtain ⟨hft, -, -⟩ := validateMaxVol_ok (of_mapError_ok hmax)
  refine (valid_iff (by exact hpos) (by exact hord.reserved_nonneg)).trans ?_
  cases hgv : req.minVolume with
  | none =>
    exact ⟨fun ⟨_, hrel, hle⟩ _ => ⟨hrel, hle.trans_eq hof⟩,
      fun h => ⟨hbs, (h hgv).1, (h hgv).2.trans_eq hof.symm⟩⟩
  | some min =>
    obtain ⟨hba, hrl⟩ := hgi min hgv
    exact iff_of_true ⟨hba, hrl, hft min hgv⟩ (by simp [KeepsMinimum, hgv])

/-- The order that is built and then updated. -/
def plainUpdate : UpdateEnv := ⟨plainCoins, .ok 10, fun _ => .ok ()⟩

def updatedBy (b : MakerOrderBuilder) (req : MakerOrderUpdateReq) : Option MakerOrder := do
  let order ← (b.build 1 0 0).toOption
  let update ← (order.prepareUpdate plainUpdate req).toOption
  (order.commitUpdate 0 true update).toOption

/-- The price is raised, so that the old least volume is worth more. -/
theorem raised_valid :
    updatedBy plainBuilder ⟨some 3, none, none, none, none, none, none, none⟩ =
      some { plainOrder with price := 3 } ∧
    Valid (plainCoin "KMD") (plainCoin "DOC") { plainOrder with price := 3 } := by
  have hbuild : plainBuilder.build 1 0 0 = .ok plainOrder := by decide +kernel
  have hord := ((updated_valid_iff plainBuilder).1 1 0 0 plainOrder hbuild).1
  have hupd : updatedBy plainBuilder ⟨some 3, none, none, none, none, none, none, none⟩ =
      some { plainOrder with price := 3 } := by decide +kernel
  refine ⟨hupd, ?_⟩
  rw [updatedBy, hbuild] at hupd
  obtain ⟨_, ⟨⟩, hupd⟩ := Option.bind_eq_some_iff.1 hupd
  obtain ⟨update, hprp, hco⟩ := Option.bind_eq_some_iff.1 hupd
  refine ((updated_valid_iff plainBuilder).2 plainOrder plainUpdate _ update 0 true _ hord
    (by decide +kernel) rfl (ok_of_toOption hprp)
    (ok_of_toOption hco)).2 fun _ => ⟨?_, ?_⟩
  · decide +kernel
  · decide +kernel

/-- The price is lowered below what the least volume allows, and the volume below the least. -/
theorem halfUpdated_invalid :
    updatedBy plainBuilder ⟨some (1 / 2), none, none, none, none, none, none, none⟩ =
        some { plainOrder with price := 1 / 2 } ∧
      ¬Valid (plainCoin "KMD") (plainCoin "DOC") { plainOrder with price := 1 / 2 } ∧
    updatedBy { plainBuilder with minBaseVol := some 5 }
        ⟨none, none, some (-9), none, none, none, none, none⟩ =
        some { plainOrder with minBaseVol := 5, maxBaseVol := 1 } ∧
      ¬Valid (plainCoin "KMD") (plainCoin "DOC")
        { plainOrder with minBaseVol := 5, maxBaseVol := 1 } := by
  refine ⟨by decide +kernel, fun h => ?_, by decide +kernel, fun h => ?_⟩
  · exact absurd h.rel_le (by decide +kernel)
  · exact absurd h.min_le_max (by decide +kernel)

/-! ## Taker orders that become maker orders -/

/-- The coin the taker gets. -/
def otherCoin (b : TakerOrderBuilder) : Coin :=
  match b.action with
  | .buy => b.baseCoin
  | .sell => b.relCoin

/-- What the taker pays and what it gets for that, each with the orderbook ticker of the coin. -/
def spentSide (order : TakerOrder) : String × Option String × MmNumber :=
  match order.request.action with
  | .buy => (order.request.rel, order.relOrderbookTicker, order.request.relAmount)
  | .sell => (order.request.base, order.baseOrderbookTicker, order.request.baseAmount)

@[inherit_doc spentSide]
def wantedSide (order : TakerOrder) : String × Option String × MmNumber :=
  match order.request.action with
  | .buy => (order.request.base, order.baseOrderbookTicker, order.request.baseAmount)
  | .sell => (order.request.rel, order.relOrderbookTicker, order.request.relAmount)

theorem valid_toMakerOrder (h : b.build newUuid random = .ok taker) (nowMs : Nat) :
    Valid b.myCoin (otherCoin b) (taker.toMakerOrder nowMs) := by
  have hcm := committed_toMakerOrder h nowMs
  obtain ⟨hact, hbase_pos, hrel_pos, hbs, hrel, hmin⟩ := takerTerms_of_build h
  rw [valid_iff hcm.price_pos hcm.reserved_nonneg]
  unfold TakerOrder.toMakerOrder TakerOrderBuilder.myCoin otherCoin
  rw [hact]
  dsimp only
  cases taker.request.action with
  | sell => exact ⟨hbs, hrel, hmin.trans (sub_zero _).ge⟩
  | buy =>
    have hpr := div_pos hbase_pos hrel_pos
    refine ⟨?_, hbs.trans (div_mul_cancel₀ _ hpr.ne').ge, le_trans ?_ (sub_zero _).ge⟩
    · rwa [div_div_eq_mul_div, mul_div_assoc]
    · rwa [div_le_iff₀ hpr, mul_div_cancel₀ _ hrel_pos.ne']

theorem terms_toMakerOrder (h : TakerTerms b taker) (nowMs : Nat) :
    let order := taker.toMakerOrder nowMs
    0 < order.maxBaseVol ∧
      (order.base, order.baseOrderbookTicker, order.maxBaseVol) = spentSide taker ∧
      (order.rel, order.relOrderbookTicker, order.maxBaseVol * order.price) = wantedSide taker := by
  unfold TakerOrder.toMakerOrder spentSide wantedSide
  dsimp only
  cases taker.request.action with
  | buy => exact ⟨h.rel_pos, rfl, by rw [mul_div_cancel₀ _ h.rel_pos.ne']⟩
  | sell => exact ⟨h.base_pos, rfl, by rw [mul_div_cancel₀ _ h.base_pos.ne']⟩

/-- **A taker order that becomes a maker order sells what the taker pays for what it wants, under
the same tickers. The order is valid, and without an update every match is at the rate of the
request and not for more.** -/
theorem toMakerOrder_keeps_trade (b : TakerOrderBuilder) (newUuid : Uuid) (random : H256)
    (taker : TakerOrder) (hbuild : b.build newUuid random = .ok taker) (nowMs : Nat)
    (events : List OrderEvent)
    (hevents : Guarded OrderState.step (fun _ => NoUpdate) ⟨taker.toMakerOrder nowMs, []⟩ events) :
    let order := taker.toMakerOrder nowMs
    (order.base, order.baseOrderbookTicker, order.maxBaseVol) = spentSide taker ∧
    (order.rel, order.relOrderbookTicker, order.maxBaseVol * order.price) = wantedSide taker ∧
    Valid b.myCoin (otherCoin b) order ∧
    Always OrderState.step (fun s => ∀ request baseAmount relAmount,
      s.order.matchWithRequest request = .matched baseAmount relAmount →
      (wantedSide taker).2.2 / (spentSide taker).2.2 ≤ relAmount / baseAmount ∧
        baseAmount ≤ (spentSide taker).2.2) ⟨order, []⟩ events := by
  intro order
  obtain ⟨hmax, hsp, hwn⟩ := terms_toMakerOrder (takerTerms_of_build hbuild) nowMs
  refine ⟨hsp, hwn, valid_toMakerOrder hbuild nowMs, ?_⟩
  have hsta : OrderInv ⟨order, []⟩ :=
    ⟨committed_toMakerOrder hbuild nowMs, by simp [UpdatesPrepared]⟩
  have hrun := Always.of_guarded (P := fun s => OrderInv s ∧ s.order.price = order.price ∧
    s.order.maxBaseVol ≤ order.maxBaseVol) (fun s event h hev => ?_) ⟨hsta, rfl, le_rfl⟩
    hevents
  · refine hrun.mono ?_
    rintro s ⟨hinv, hpr, hvol⟩ request baseAmount relAmount hmt
    have hft := fits_of_matchWithRequest hmt
    have hpos := hft.baseAmount_pos hinv.order.price_pos
    obtain rfl := hft.relAmount_eq hinv.order.price_pos
    rw [← hsp, ← hwn, mul_div_cancel_left₀ _ hmax.ne', mul_div_cancel_left₀ _ hpos.ne']
    exact ⟨hpr.ge, hft.available.trans ((sub_le_self _ hinv.order.reserved_nonneg).trans hvol)⟩
  · obtain ⟨hpr, hvol⟩ := (orderMove_step s event).lowers hev
    exact ⟨h.1.move (orderMove_step s event), hpr.trans h.2.1, hvol.trans h.2.2⟩

def docRequest (uuid : Uuid) (amount : MmNumber) : TakerRequest :=
  { plainRequest uuid amount with base := "DOC", rel := "KMD", relAmount := amount / 2 }

/-- A taker of a third of the order, and then one of the rest. -/
theorem plainTaker_keeps_trade :
    (plainTakerBuilder .any).build 11 0 = .ok (plainTaker .any) ∧
    let s := OrderState.step ⟨(plainTaker .any).toMakerOrder 0, []⟩
      (.request plainCoins 0 3 11 (docRequest 12 4))
    s.order.reservedAmount = 4 ∧ s.order.matchWithRequest (docRequest 13 8) = .matched 8 4 ∧
      (wantedSide (plainTaker .any)).2.2 / (spentSide (plainTaker .any)).2.2 ≤ 4 / 8 := by
  have hbuild : (plainTakerBuilder .any).build 11 0 = .ok (plainTaker .any) := by decide +kernel
  refine ⟨hbuild, by decide +kernel, by decide +kernel, ?_⟩
  exact ((toMakerOrder_keeps_trade _ _ _ _ hbuild 0
    [.request plainCoins 0 3 11 (docRequest 12 4)] ⟨trivial, trivial⟩).2.2.2.2
    (docRequest 13 8) 8 4 (by decide +kernel)).1

end CheetahDex.Proof
