import CheetahDex.Proof.Commitment

/-!
# Maker and taker agree on a match

A maker that reserves has matched the taker's request against its own order; the taker matches the
reservation against its own order again. They agree on the amounts. They may disagree in two places:
the maker compares its node key with the keys the taker accepts, while the taker compares the key
that signed, which for some orders is another one; and an orderbook ticker that is itself the ticker
of a coin with an orderbook ticker is resolved twice on one side and once on the other.
-/

namespace CheetahDex.Proof

open Lib Common Ordermatch Option TakerOrder

/-! ## Tickers -/

/-- The orderbook ticker of the taker's coin is the maker's ticker, and that has an orderbook ticker
of its own only if it is one of the two again. -/
def NoDetour (tickers : String → Option String) (maker taker : String) : Prop :=
  tickers taker = some maker →
    ∀ ticker, tickers maker = some ticker → ticker = maker ∨ ticker = taker

/-- When the maker recognises the taker's ticker, the taker recognises the maker's, but for a
detour. -/
theorem tickerMatches_back_iff {tickers : String → Option String} {maker taker : String}
    (h : tickerMatches maker (tickers maker) ((tickers taker).getD taker)) :
    tickerMatches taker (tickers taker) ((tickers maker).getD maker) ↔
      NoDetour tickers maker taker := by
  simp only [tickerMatches, decide_eq_true_eq] at h ⊢
  unfold NoDetour
  cases htaker : tickers taker with
  | none =>
    rw [htaker, getD_none] at h
    rcases h with rfl | h
    · simp [htaker]
    · simp [h]
  | some ticker =>
    rw [htaker, getD_some] at h
    cases hmaker : tickers maker with
    | none =>
      rw [hmaker] at h
      rcases h with rfl | h
      · simp
      · cases h
    | some ticker' =>
      rw [hmaker] at h
      -- both have orderbook tickers: the detour is the only way to disagree
      rw [getD_some]
      rcases h with rfl | h
      · constructor
        · rintro (rfl | h) _ c hc
          · exact .inr (some.inj hc).symm
          · exact .inl ((some.inj hc).symm.trans (some.inj h).symm)
        · intro h
          rcases h rfl ticker' rfl with rfl | rfl
          · exact .inr rfl
          · exact .inl rfl
      · cases h
        constructor
        · rintro - hc c hc'
          exact .inl ((some.inj hc').symm.trans (some.inj hc))
        · intro
          exact .inr rfl

/-- The orderbook tickers of an order are those of the node. -/
structure UsesTickers (tickers : String → Option String) (base rel : String)
    (baseOrderbookTicker relOrderbookTicker : Option String) : Prop where
  base : baseOrderbookTicker = tickers base
  rel : relOrderbookTicker = tickers rel

/-! ## What arrives -/

variable {request : TakerRequest} {takerOrder : TakerOrder} {reserved : MakerReserved}
  {order : MakerOrder}

theorem received_request {nodeKey : H256} (h : takerOrder.received nodeKey = some request) :
    takerOrder.request.confSettings.isSome ∧
    request = { takerOrder.request with
      base := takerOrder.baseTicker
      rel := takerOrder.relTicker
      senderPubkey := signingKey takerOrder.p2pPrivkey nodeKey
      destPubKey := 0 } := by
  obtain ⟨message, hms, rfl⟩ := map_eq_some_iff.1 h
  obtain ⟨settings, hset, rfl⟩ := map_eq_some_iff.1 hms
  dsimp only [TakerRequest.fromNewProtoAndPubkey]
  rw [hset]
  exact ⟨rfl, rfl⟩

theorem received_reserved (h : reserved.confSettings.isSome) (order : MakerOrder) (nodeKey : H256) :
    reserved.received order nodeKey = some { reserved with
      senderPubkey := signingKey order.p2pPrivkey nodeKey
      destPubKey := 0 } := by
  obtain ⟨settings, hset⟩ := isSome_iff_exists.1 h
  unfold MakerReserved.received MakerReserved.toMessage
  rw [hset]
  rfl

/-! ## The reservation -/

/-- The amounts of a reservation respect the limits of both sides. -/
structure WithinLimits (order : MakerOrder) (takerOrder : TakerOrder) (reserved : MakerReserved) :
    Prop where
  price : reserved.relAmount = reserved.baseAmount * order.price
  minimum : order.minBaseVol ≤ reserved.baseAmount
  available : reserved.baseAmount ≤ order.availableAmount
  buy : takerOrder.request.action = .buy →
    reserved.baseAmount = takerOrder.request.baseAmount ∧
    reserved.relAmount ≤ takerOrder.request.relAmount
  sell : takerOrder.request.action = .sell →
    reserved.relAmount = takerOrder.request.baseAmount ∧
    takerOrder.request.relAmount ≤ reserved.baseAmount

/-- The reservation is signed with a key the taker accepts, and no ticker is resolved twice. -/
structure Agreeable (tickers : String → Option String) (order : MakerOrder) (ourPublicId : H256)
    (takerOrder : TakerOrder) : Prop where
  key : ∀ pubkeys, takerOrder.request.matchBy = .pubkeys pubkeys →
    signingKey order.p2pPrivkey ourPublicId ∈ pubkeys
  makerCoin : NoDetour tickers order.base takerOrder.makerCoinTicker
  takerCoin : NoDetour tickers order.rel takerOrder.takerCoinTicker

theorem Fits.withinLimits (h : Fits order request reserved.baseAmount reserved.relAmount)
    (hprice : 0 < order.price) (hact : request.action = takerOrder.request.action)
    (hbs : request.baseAmount = takerOrder.request.baseAmount)
    (hrel : request.relAmount = takerOrder.request.relAmount) :
    WithinLimits order takerOrder reserved := by
  refine ⟨h.relAmount_eq hprice, h.minimum, h.available, fun hbuy => ?_, fun hsl => ?_⟩
  · obtain ⟨-, -, hb, hr, hle⟩ := h.buy (hact.trans hbuy)
    rw [hb, hr, ← hbs, ← hrel, mul_comm]
    exact ⟨rfl, (le_div_iff₀ h.base_pos).1 hle⟩
  · obtain ⟨-, -, hb, hr, hle⟩ := h.sell (hact.trans hsl)
    rw [hb, hr, ← hbs, ← hrel, le_div_iff₀ hprice, mul_comm]
    exact ⟨rfl, (le_div_iff₀ h.rel_pos).1 hle⟩

/-- The uuids are looked at by both sides alike, the keys are not. -/
theorem canMatchWith_iff (hma : request.matchBy = takerOrder.request.matchBy)
    (hud : request.canMatchWithUuid reserved.makerOrderUuid) :
    takerOrder.canMatchWith reserved ↔
      ∀ pubkeys, takerOrder.request.matchBy = .pubkeys pubkeys →
        reserved.senderPubkey ∈ pubkeys := by
  unfold TakerRequest.canMatchWithUuid at hud
  rw [hma] at hud
  unfold canMatchWith
  cases hby : takerOrder.request.matchBy with
  | any => simp
  | orders uuids =>
    rw [hby] at hud
    simpa using hud
  | pubkeys pubkeys => simp

/-- Of a reservation within the limits only the key, the uuid and the tickers are looked at. -/
theorem matchReserved_iff {tickers : String → Option String} {takerKey : H256}
    (hreq : takerOrder.received takerKey = some request)
    (hmaker : UsesTickers tickers order.base order.rel order.baseOrderbookTicker
      order.relOrderbookTicker)
    (htaker : UsesTickers tickers takerOrder.request.base takerOrder.request.rel
      takerOrder.baseOrderbookTicker takerOrder.relOrderbookTicker)
    {baseAmount relAmount : MmNumber} (h : Fits order request baseAmount relAmount)
    (hlm : WithinLimits order takerOrder reserved) (hbs : reserved.base = order.baseTicker)
    (hrel : reserved.rel = order.relTicker) :
    takerOrder.matchReserved reserved = .matched ↔ takerOrder.canMatchWith reserved ∧
      NoDetour tickers order.base takerOrder.makerCoinTicker ∧
      NoDetour tickers order.rel takerOrder.takerCoinTicker := by
  obtain ⟨-, rfl⟩ := received_request hreq
  unfold matchReserved makerCoinTicker takerCoinTicker
  rw [hbs, hrel, MakerOrder.baseTicker, MakerOrder.relTicker, hmaker.base, hmaker.rel,
    htaker.base, htaker.rel]
  cases hact : takerOrder.request.action with
  | buy =>
    obtain ⟨hb, hr, -⟩ := h.buy hact
    dsimp only [baseTicker, relTicker] at hb hr
    rw [hmaker.base, htaker.base] at hb
    rw [hmaker.rel, htaker.rel] at hr
    rw [← tickerMatches_back_iff hb, ← tickerMatches_back_iff hr]
    cases takerOrder.canMatchWith reserved <;> simp [hlm.buy hact]
  | sell =>
    obtain ⟨hb, hr, -⟩ := h.sell hact
    dsimp only [baseTicker, relTicker] at hb hr
    rw [hmaker.base, htaker.rel] at hb
    rw [hmaker.rel, htaker.base] at hr
    rw [← tickerMatches_back_iff hb, ← tickerMatches_back_iff hr]
    cases takerOrder.canMatchWith reserved <;> simp [hlm.sell hact, and_comm]

/-- A reservation comes from the order it names, which it fits. -/
theorem processTakerRequest_reserved {env : RequestEnv} {ourPublicId fromPubkey : H256}
    {orders orders' : MakerOrders}
    (h : processTakerRequest env ourPublicId orders fromPubkey request = (orders', some reserved))
    (horder : orders.lookup reserved.makerOrderUuid = some order) :
    request.canMatchWithUuid reserved.makerOrderUuid ∧
      Fits order request reserved.baseAmount reserved.relAmount ∧
      reserved.base = order.baseTicker ∧ reserved.rel = order.relTicker ∧
      reserved.confSettings.isSome := by
  rcases processTakerRequest_cases env ourPublicId orders fromPubkey request with hn | hs
  · exact absurd (congrArg Prod.snd (hn.symm.trans h)) (by simp)
  · obtain ⟨uuid, found, found', msg, -, hud, han, heq⟩ := hs
    obtain rfl : msg = reserved := some.inj (congrArg Prod.snd (heq.symm.trans h))
    obtain ⟨baseAmount, relAmount, baseCoin, relCoin, hmt, -, rfl, -⟩ :=
      requestTurn_reserved han.turn
    obtain rfl : found = order := some.inj (han.lookup.symm.trans horder)
    refine ⟨hud, fits_of_matchWithRequest hmt, rfl, rfl, ?_⟩
    dsimp only [MakerOrder.reservedMsg, confSettingsOf]
    cases found.confSettings <;> rfl

/-- **The taker accepts the reservation a maker has answered with exactly if it is signed with a key
the taker accepts and no ticker is resolved twice. The amounts always respect both limits.** -/
theorem matched_iff_agreeable (tickers : String → Option String) (env : RequestEnv)
    (ourPublicId takerKey : H256) (orders orders' : MakerOrders) (takerOrder : TakerOrder)
    (request : TakerRequest) (reserved : MakerReserved) (order : MakerOrder)
    (hreq : takerOrder.received takerKey = some request)
    (hreserved : processTakerRequest env ourPublicId orders request.senderPubkey request =
      (orders', some reserved))
    (horder : orders.lookup reserved.makerOrderUuid = some order) (hprice : 0 < order.price)
    (hmaker : UsesTickers tickers order.base order.rel order.baseOrderbookTicker
      order.relOrderbookTicker)
    (htaker : UsesTickers tickers takerOrder.request.base takerOrder.request.rel
      takerOrder.baseOrderbookTicker takerOrder.relOrderbookTicker) :
    ∃ received, reserved.received order ourPublicId = some received ∧
      (takerOrder.matchReserved received = .matched ∧ WithinLimits order takerOrder received ↔
        Agreeable tickers order ourPublicId takerOrder) := by
  obtain ⟨hud, hft, hbs, hrel, hset⟩ := processTakerRequest_reserved hreserved horder
  obtain ⟨-, rfl⟩ := received_request hreq
  refine ⟨_, received_reserved hset order ourPublicId, ?_⟩
  -- the limits hold anyway, so only the key and the tickers decide
  have hlm : WithinLimits order takerOrder { reserved with
      senderPubkey := signingKey order.p2pPrivkey ourPublicId, destPubKey := 0 } :=
    Fits.withinLimits hft hprice rfl rfl rfl
  rw [and_iff_left hlm, matchReserved_iff hreq hmaker htaker hft hlm hbs hrel]
  refine (and_congr_left' (canMatchWith_iff rfl ?_)).trans ?_
  · exact hud
  · exact ⟨fun ⟨hkey, hmk, htk⟩ => ⟨hkey, hmk, htk⟩, fun h => ⟨h.key, h.makerCoin, h.takerCoin⟩⟩

/-- What `plainTakerBuilder` builds; it is sent as `plainRequest`. -/
def plainTaker (matchBy : MatchBy) : TakerOrder where
  request := { plainRequest 11 6 with
    matchBy
    confSettings := some { baseConfs := 1, baseNota := false, relConfs := 1, relNota := false } }
  «matches» := ∅
  minVolume := 1 / 1000
  baseOrderbookTicker := none
  relOrderbookTicker := none
  p2pPrivkey := none

def plainTakerBuilder (matchBy : MatchBy) : TakerOrderBuilder where
  baseCoin := plainCoin "KMD"
  relCoin := plainCoin "DOC"
  baseOrderbookTicker := none
  relOrderbookTicker := none
  baseAmount := 6
  relAmount := 12
  senderPubkey := 7
  action := .buy
  matchBy := matchBy
  confSettings := some { baseConfs := 1, baseNota := false, relConfs := 1, relNota := false }
  minVolume := none
  swapVersion := {}

def plainEnv : RequestEnv := { coins := plainCoins, nowMs := 0, orders := sortedUuids }

def oneOrder (order : MakerOrder) : MakerOrders := (∅ : MakerOrders).insert order.uuid order

theorem matched_iff_agreeable_plain :
    ∃ request reserved received orders',
      (plainTaker .any).received 7 = some request ∧
      processTakerRequest plainEnv 3 (oneOrder plainOrder) request.senderPubkey request =
        (orders', some reserved) ∧
      reserved.received plainOrder 3 = some received ∧
      (plainTaker .any).matchReserved received = .matched ∧
      WithinLimits plainOrder (plainTaker .any) received := by
  let request : TakerRequest := { (plainTaker .any).request with senderPubkey := 7 }
  let reserved := plainOrder.reservedMsg 3 1 (plainCoin "KMD") (plainCoin "DOC") 6 12 request
  have hreq : (plainTaker .any).received 7 = some request := by decide +kernel
  have hreserved : processTakerRequest plainEnv 3
    (oneOrder plainOrder) request.senderPubkey request =
      (oneOrder (plainOrder.reserve 0 request reserved), some reserved) := by decide +kernel
  obtain ⟨received, hrc, hiff⟩ := matched_iff_agreeable (fun _ => none) plainEnv 3 7
    (oneOrder plainOrder) _ (plainTaker .any) request reserved plainOrder hreq hreserved
    (by decide +kernel) (by decide +kernel) ⟨rfl, rfl⟩ ⟨rfl, rfl⟩
  have hag : Agreeable (fun _ => none) plainOrder 3 (plainTaker .any) :=
    ⟨by simp [plainTaker], by simp [NoDetour], by simp [NoDetour]⟩
  exact ⟨request, reserved, received, _, hreq, hreserved, hrc, hiff.2 hag⟩

/-! ## An order with a key of its own -/

/-- The base coin is a privacy coin. -/
def privacyBuilder : MakerOrderBuilder :=
  { plainBuilder with baseCoin := { plainCoin "KMD" with isPrivacy := true } }

/-- **The maker with the key 3 is the one the taker asks for, and it reserves. The reservation is
signed with the key 9 of the order, and the taker turns it down.** -/
theorem privacyOrder_notMatched :
    privacyBuilder.build 1 0 9 = .ok { plainOrder with p2pPrivkey := some 9 } ∧
    (plainTakerBuilder (.pubkeys {3})).build 11 0 = .ok (plainTaker (.pubkeys {3})) ∧
    (((plainTaker (.pubkeys {3})).received 7).bind fun request =>
      (processTakerRequest plainEnv 3
        (oneOrder { plainOrder with p2pPrivkey := some 9 }) 7 request).2.bind
        fun reserved => (reserved.received { plainOrder with p2pPrivkey := some 9 } 3).map
          (plainTaker (.pubkeys {3})).matchReserved) = some .notMatched := by
  decide +kernel

end CheetahDex.Proof
