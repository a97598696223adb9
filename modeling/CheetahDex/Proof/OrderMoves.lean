import CheetahDex.Proof.MakerCases

/-!
# What can happen to an own order

`OrderMove` says once what an event can do to an order and its pending updates, with everything the
code has checked before. The invariants of an order are proved over these moves (`orderMove_step`).
-/

namespace CheetahDex.Proof

open Lib Common Ordermatch Except

/-! ## Checks -/

theorem minPrice_pos : 0 < minPrice := by norm_num [minPrice]

theorem le_of_validatePrice {price : MmNumber} {u : Unit} (h : validatePrice price = .ok u) :
    minPrice ≤ price :=
  not_lt.1 (not_of_check h)

variable {coin : Coin} {env : BalanceEnv} {vol : MmNumber} {update : PendingUpdate}

theorem calcMaxMakerVol_nonneg (h : calcMaxMakerVol env coin = .ok vol) : 0 ≤ vol := by
  obtain ⟨fee, -, vol', -, _, hmin, h⟩ := of_bind₃_ok h
  cases h
  exact coin.minTxAmount_nonneg.trans (not_lt.1 (not_of_check hmin))

theorem balanceVolume_nonneg (h : balanceVolume env coin = some vol) : 0 ≤ vol := by
  unfold balanceVolume at h
  split at h
  · rename_i volume hvol
    cases h
    exact calcMaxMakerVol_nonneg hvol
  · split at h
    · exact (Option.some.inj h).le
    · cases h

/-! ## Updates -/

/-- What an update that has passed its checks has been checked against. -/
structure Prepared (order : MakerOrder) (update : PendingUpdate) : Prop where
  before : update.orderBeforeUpdate = order
  idle : order.hasOngoingMatches = false
  price_pos : ∀ price, update.updateMsg.newPrice = some price → 0 < price
  reserved_lt : ∀ volume, update.updateMsg.newMaxVolume = some volume →
    order.reservedAmount < volume

variable {req : MakerOrderUpdateReq}

theorem price_pos_of_price {original price : MmNumber} (h : req.price original = .ok price)
    {newPrice : MmNumber} (hnew : req.newPrice = some newPrice) : 0 < newPrice := by
  unfold MakerOrderUpdateReq.price at h
  rw [hnew] at h
  obtain ⟨_, hval, -⟩ := of_map_ok h
  exact minPrice_pos.trans_le (le_of_validatePrice (of_mapError_ok hval))

/-- The volume that was checked is the one the order gets, and what is not reserved of it. -/
theorem volume_ok {env : UpdateEnv} {original reserved newVolume : MmNumber}
    {newMaxVolume : Option MmNumber}
    (h : req.volume env original reserved = .ok (newVolume, newMaxVolume)) :
    newMaxVolume.getD original = newVolume ∧ newVolume - reserved =
      if req.max.getD false then env.getMaxVolume.toOption.getD 0
      else original - reserved + req.volumeDelta.getD 0 := by
  unfold MakerOrderUpdateReq.volume at h
  split at h
  · rename_i hfl
    obtain ⟨maxVolume, hmax, h⟩ := of_bind_ok h
    obtain ⟨rfl, rfl⟩ := Prod.mk.inj (ok.inj h)
    rw [of_mapError_ok hmax, if_pos hfl]
    exact ⟨rfl, add_sub_cancel_right _ _⟩
  · rename_i hfl
    rw [if_neg hfl]
    split at h
    · rename_i delta hdel
      obtain ⟨-, -, -, -, h⟩ := of_bind₂_ok h
      obtain ⟨rfl, rfl⟩ := Prod.mk.inj (ok.inj h)
      rw [hdel]
      exact ⟨rfl, add_sub_right_comm _ _ _⟩
    · rename_i hdel
      obtain ⟨rfl, rfl⟩ := Prod.mk.inj (ok.inj h)
      rw [hdel]
      exact ⟨rfl, (add_zero _).symm⟩

theorem prepared_of_prepareUpdate {env : UpdateEnv} {order : MakerOrder}
    (h : order.prepareUpdate env req = .ok update) : Prepared order update := by
  obtain ⟨_, hid, ⟨baseCoin, relCoin⟩, -, original, -, h⟩ := of_bind₃_ok h
  obtain ⟨newPrice, hpr, newMinVolume, -, h⟩ := of_bind₂_ok h
  obtain ⟨⟨newVolume, newMaxVolume⟩, hvl, _, hrsv, -, -, h⟩ := of_bind₃_ok h
  cases h
  refine ⟨rfl, Bool.eq_false_iff.2 (not_of_check hid),
    fun price hnew => price_pos_of_price hpr hnew, ?_⟩
  rintro volume rfl
  obtain ⟨rfl, -⟩ := volume_ok hvl
  exact not_le.1 (not_of_check hrsv)

/-- An update goes through only if nothing has happened to the order since it was checked. -/
theorem commitUpdate_ok {order order' : MakerOrder} {nowMs : Nat} {saved : Bool}
    (h : order.commitUpdate nowMs saved update = .ok order') :
    order = update.orderBeforeUpdate ∧ order' = order.applyUpdated nowMs update.updateMsg := by
  unfold MakerOrder.commitUpdate at h
  split at h
  · cases h
  · rename_i he
    split at h
    · exact ⟨not_not.1 he, (ok.inj h).symm⟩
    · cases h

/-! ## Moves -/

/-- The owner does not update the order. -/
def NoUpdate : OrderEvent → Prop
  | .commitUpdate _ _ _ => False
  | _ => True

/-- A move of an order and its pending updates. -/
inductive OrderMove (event : OrderEvent) (s : OrderState) : OrderState → Prop where
  | stay : OrderMove event s s
  | reserve {nowMs : Nat} {request : TakerRequest} {msg : MakerReserved} {baseCoin relCoin : Coin}
      (hft : Fits s.order request msg.baseAmount msg.relAmount)
      (hnew : request.uuid ∉ s.order.matches)
      (hset : msg.confSettings = confSettingsOf s.order baseCoin relCoin) :
      OrderMove event s { s with order := s.order.reserve nowMs request msg }
  | start {connectMsg : TakerConnect} {ourPublicId : H256} {m : MakerMatch}
      (hlk : s.order.matches.lookup connectMsg.takerOrderUuid = some m) :
      OrderMove event s { s with
        order := s.order.startSwap connectMsg.takerOrderUuid
          (m.connectedBy ourPublicId connectMsg) }
  | timeout (now : Nat) : OrderMove event s { s with order := s.order.dropTimedOut now }
  | prepare {update : PendingUpdate} (hpp : Prepared s.order update) :
      OrderMove event s { s with updates := s.updates ++ [update] }
  | commit {update : PendingUpdate} {nowMs : Nat} {updates : List PendingUpdate}
      (hmem : update ∈ s.updates) (he : s.order = update.orderBeforeUpdate)
      (hsub : updates ⊆ s.updates) (hev : ¬NoUpdate event) :
      OrderMove event s ⟨s.order.applyUpdated nowMs update.updateMsg, updates⟩
  | forget {updates : List PendingUpdate} (hsub : updates ⊆ s.updates) :
      OrderMove event s { s with updates }
  | setVolume {volume : MmNumber} (hvl : 0 ≤ volume)
      (hlow : volume < s.order.availableAmount) :
      OrderMove event s { s with
        order := { s.order with maxBaseVol := s.order.reservedAmount + volume } }

/-- **Every event is one of the moves.** -/
theorem orderMove_step (s : OrderState) (event : OrderEvent) :
    OrderMove event s (s.step event) := by
  unfold OrderState.step
  cases event with
  | request coins nowMs ourPublicId uuid takerRequest =>
    dsimp only
    -- only a request that is reserved for changes the order
    split
    · rename_i msg order htr
      obtain ⟨baseAmount, relAmount, baseCoin, relCoin, hmt, hnew, rfl, rfl⟩ :=
        requestTurn_reserved htr
      exact .reserve (fits_of_matchWithRequest hmt) hnew rfl
    · exact .stay
    · exact .stay
  | connect ourPublicId senderPubkey connectMsg =>
    rcases processConnect_cases ourPublicId s.order senderPubkey connectMsg with heq | hsta
    · simp only [heq]
      exact .stay
    · obtain ⟨m, hlk, -, -, heq⟩ := hsta
      simp only [heq]
      exact .start hlk
  | timeout nowMs => exact .timeout nowMs
  | prepareUpdate env req =>
    dsimp only
    split
    · rename_i update hprp
      exact .prepare (prepared_of_prepareUpdate hprp)
    · exact .stay
  | commitUpdate i nowMs saved =>
    -- the update is gone from the pending ones, whether it passes its second check or not
    have hsub : s.updates.eraseIdx i ⊆ s.updates := List.eraseIdx_subset
    dsimp only
    split
    · rename_i update hget
      split
      · rename_i order hcm
        obtain ⟨he, rfl⟩ := commitUpdate_ok hcm
        exact .commit (List.mem_of_getElem? hget) he hsub id
      · exact .forget hsub
    · exact .stay
  | balanceUpdated env coin removed =>
    dsimp only
    split
    · rename_i newVolume hvl
      -- the volume is only ever lowered here
      unfold MakerOrder.balanceUpdated
      split_ifs with _ _ hlow
      · exact .stay
      · exact .stay
      · exact .setVolume (balanceVolume_nonneg hvl) hlow
      · exact .stay
    · exact .stay
  | kickstart env coin =>
    dsimp only
    split
    · rename_i maxVol hvl
      unfold MakerOrder.kickstart
      split_ifs with hlow
      · exact .setVolume (calcMaxMakerVol_nonneg hvl) hlow
      · exact .stay
    · exact .stay

/-- The pending updates have passed the checks on the orders they were made for. -/
def UpdatesPrepared (s : OrderState) : Prop :=
  ∀ update ∈ s.updates, Prepared update.orderBeforeUpdate update

variable {s s' : OrderState} {event : OrderEvent}

theorem UpdatesPrepared.move (h : UpdatesPrepared s) (hmv : OrderMove event s s') :
    UpdatesPrepared s' := by
  cases hmv with
  | stay | reserve _ _ _ | start _ | timeout _ => exact h
  | prepare hpp =>
    refine List.forall_mem_append.2 ⟨h, List.forall_mem_singleton.2 ?_⟩
    rw [hpp.before]
    exact hpp
  | commit _ _ hsub _ | forget hsub => exact fun update hup => h update (hsub hup)
  | setVolume _ _ => exact h

/-- What is not an update lowers the volume at most. -/
theorem OrderMove.lowers (h : OrderMove event s s') (hev : NoUpdate event) :
    s'.order.price = s.order.price ∧ s'.order.maxBaseVol ≤ s.order.maxBaseVol := by
  cases h with
  | stay | reserve _ _ _ | start _ | timeout _ | prepare _ | forget _ => exact ⟨rfl, le_rfl⟩
  | commit _ _ _ hup => exact absurd hev hup
  | setVolume _ hlow =>
    rw [MakerOrder.availableAmount] at hlow
    exact ⟨rfl, (lt_sub_iff_add_lt'.1 hlow).le⟩

end CheetahDex.Proof
