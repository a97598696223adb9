import CheetahDex.Swap.LockedAmount

/-!
# What is locked, by all swaps and by all but one

Both functions add up the same amounts for swaps of the first protocol. What swaps of the second
protocol lock is only in the first sum, and there it is what the table has under the ticker: a fee
is counted for the coin of the volume, also if it is to be paid in another one.

What a swap of the second protocol locks itself is kept in a ledger beside the table, with the fee
as the coin stated it. The table is the ledger with the coin of each fee replaced.
-/

namespace CheetahDex.Proof

open Lib Ordermatch Swap List Option

/-! ## Sums -/

/-- What an amount that is locked is of a coin. -/
def lockedOf (coin : String) (locked : LockedAmount) : MmNumber :=
  (if locked.coin = coin then locked.amount else 0) + addTradeFee coin 0 locked.tradeFee

/-- What a swap of the first protocol locks of a coin. -/
def lockedBySwap (digits : ℕ) (coin : String) (swap : AtomicSwap) : MmNumber :=
  ((swap.lockedAmount digits).map (lockedOf coin)).sum

variable {α : Type*} (f : α → MmNumber)

theorem foldl_add_sum (l : List α) (total : MmNumber) :
    l.foldl (fun total a => total + f a) total = total + (l.map f).sum := by
  induction l generalizing total with
  | nil => rw [foldl_nil, map_nil, sum_nil, add_zero]
  | cons a l ih => rw [foldl_cons, ih, map_cons, sum_cons, add_assoc]

theorem sum_filter_add_sum_filter_not (p : α → Bool) (l : List α) :
    ((l.filter p).map f).sum + ((l.filter fun a => !p a).map f).sum = (l.map f).sum := by
  induction l with
  | nil => rw [filter_nil, filter_nil, map_nil, sum_nil, add_zero]
  | cons a l ih =>
    rw [map_cons, sum_cons, ← ih]
    by_cases hp : p a
    · rw [filter_cons_of_pos hp, filter_cons_of_neg (by simp [hp]), map_cons, sum_cons, add_assoc]
    · rw [filter_cons_of_neg hp, filter_cons_of_pos (by simpa using hp), map_cons, sum_cons]
      ring

variable (coin : String)

theorem addTradeFee_eq (total : MmNumber) (fee : Option SavedTradeFee) :
    addTradeFee coin total fee = total + addTradeFee coin 0 fee := by
  cases fee with
  | none => exact (add_zero total).symm
  | some fee =>
    by_cases hfee : fee.coin = coin ∧ !fee.paidFromTradingVol
    · simp only [addTradeFee, if_pos hfee, zero_add]
    · simp only [addTradeFee, if_neg hfee, add_zero]

theorem addLocked_eq (total : MmNumber) (locked : LockedAmount) :
    addLocked coin total locked = total + lockedOf coin locked := by
  rw [addLocked, addTradeFee_eq, lockedOf, ← add_assoc]
  congr 1
  split
  · rfl
  · rw [add_zero]

/-- What swaps of the first protocol lock is the sum of what each of them does. -/
theorem foldl_addLocked (digits : ℕ) (coin : String) (swaps : List AtomicSwap) :
    (swaps.flatMap (·.lockedAmount digits)).foldl (addLocked coin) 0 =
      (swaps.map (lockedBySwap digits coin)).sum := by
  have hfun : addLocked coin = fun total locked => total + lockedOf coin locked :=
    funext fun total => funext fun locked => addLocked_eq coin total locked
  rw [hfun, foldl_add_sum, zero_add]
  induction swaps with
  | nil => rfl
  | cons swap swaps ih =>
    rw [flatMap_cons, map_append, sum_append, ih, map_cons, sum_cons, lockedBySwap]

/-! ## The ledger of the second protocol -/

/-- A volume that a swap of the second protocol is going to spend, and the fee of the payment. -/
structure Reserve where
  uuid : Uuid
  coin : String
  volume : MmNumber
  fee : SavedTradeFee

namespace Reserve

variable (r : Reserve)

def locked : LockedAmount := ⟨r.coin, r.volume, some r.fee⟩

/-- What is written to the table. -/
def booked : LockedAmountV2Info := ⟨r.uuid, r.coin, r.volume, some ⟨r.coin, r.fee.amount, false⟩⟩

/-- The fee is to be paid in the coin. -/
def FeeIn : Prop := r.fee.coin = coin ∧ !r.fee.paidFromTradingVol

instance : Decidable (r.FeeIn coin) := inferInstanceAs (Decidable (_ ∧ _))

/-- The fee, where it is counted for the coin and not to be paid in it. -/
def strayFee : MmNumber := if r.coin = coin ∧ ¬r.FeeIn coin then r.fee.amount else 0

/-- The fee, where it is to be paid in the coin and not counted for it. -/
def missedFee : MmNumber := if r.coin ≠ coin ∧ r.FeeIn coin then r.fee.amount else 0

theorem lockedOf_booked :
    lockedOf coin r.booked.lockedAmount + r.missedFee coin =
      lockedOf coin r.locked + r.strayFee coin := by
  by_cases hcn : r.coin = coin <;> by_cases hfee : r.FeeIn coin <;>
    simp_all [lockedOf, booked, locked, addTradeFee, strayFee, missedFee, FeeIn]

end Reserve

/-- What a maker locks from its first event on. -/
def makerReserve (swap : MakerSwapV2) : Reserve :=
  ⟨swap.uuid, swap.makerCoin, swap.makerVolume, swap.makerPaymentTradeFee⟩

/-- What a taker locks from its first event on. -/
def takerReserve (swap : TakerSwapV2) : Reserve :=
  ⟨swap.uuid, swap.takerCoin, swap.takerVolume + swap.takerPremium, swap.takerPaymentTradeFee⟩

abbrev Ledger := List Reserve

namespace Ledger

variable (ledger : Ledger)

/-- The swap has spent what it locked of a coin, or is at its end. -/
def settle (ticker : String) (uuid : Uuid) : Ledger :=
  ledger.filter fun r => r.uuid ≠ uuid ∨ r.coin ≠ ticker

/-- A swap locks from its first event, or its restart before it has paid, until it has paid or
ends. -/
def step : SwapsMove → Ledger
  | .makerV2Event swap .initialized | .makerV2Kickstart swap .initialized
  | .makerV2Kickstart swap .waitingForTakerFunding
  | .makerV2Kickstart swap .takerFundingReceived => ledger ++ [makerReserve swap]
  | .makerV2Event swap .makerPaymentSentFundingSpendGenerated =>
    ledger.settle swap.makerCoin swap.uuid
  | .makerV2CleanUp swap => (ledger.settle swap.makerCoin swap.uuid).settle swap.takerCoin swap.uuid
  | .takerV2Event swap .initialized | .takerV2Kickstart swap .initialized
  | .takerV2Kickstart swap .negotiated => ledger ++ [takerReserve swap]
  | .takerV2Event swap .takerFundingSent => ledger.settle swap.takerCoin swap.uuid
  | .takerV2CleanUp swap => (ledger.settle swap.makerCoin swap.uuid).settle swap.takerCoin swap.uuid
  | _ => ledger

/-- The table has what is in the ledger, by the ticker of the volume. -/
def Booked (locked : LockedAmountsV2) : Prop :=
  ∀ ticker, locked.getD ticker [] = (ledger.filter (·.coin = ticker)).map Reserve.booked

variable {ledger : Ledger}

section

variable {locked : LockedAmountsV2} (h : ledger.Booked locked)

include h

theorem Booked.lock (r : Reserve) :
    Booked (ledger ++ [r]) (locked.lock r.uuid r.coin r.volume r.fee.amount) := by
  intro ticker
  rw [LockedAmountsV2.lock, LockedAmountsV2.push, HashMap.getD, HashMap.lookup_insert_ite,
    filter_append, map_append, ← h ticker]
  split
  · rename_i heq
    subst heq
    have hkp : [r].filter (·.coin = r.coin) = [r] := filter_cons_of_pos (decide_eq_true rfl)
    rw [hkp]
    rfl
  · rename_i hne
    have hkp : [r].filter (·.coin = ticker) = [] :=
      filter_cons_of_neg fun heq => hne (of_decide_eq_true heq).symm
    rw [hkp]
    exact (append_nil _).symm

/-- Releasing takes the entries of one swap out of the list of one coin. -/
theorem Booked.release (ticker : String) (uuid : Uuid) :
    Booked (ledger.settle ticker uuid) (locked.release ticker uuid) := by
  intro ticker'
  have hlc : (locked.release ticker uuid).getD ticker' [] =
      (locked.getD ticker' []).filter fun info => info.swapUuid ≠ uuid ∨ ticker' ≠ ticker := by
    rw [LockedAmountsV2.release, HashMap.modify, HashMap.getD, HashMap.getD]
    by_cases heq : ticker' = ticker
    · subst heq
      cases hget : locked.lookup ticker' with
      | none => simp [hget]
      | some infos => simp
    · cases hget : locked.lookup ticker with
      | none => simp [heq]
      | some infos => simp [heq]
  rw [hlc, h ticker', List.filter_map, settle, List.filter_filter, List.filter_filter]
  refine congrArg _ (filter_congr fun r _ => ?_)
  by_cases hr : r.coin = ticker' <;> simp [hr, Reserve.booked]

/-- The amount a coin has in the table is what the ledger has under its ticker. -/
theorem Booked.foldl_eq :
    ((locked.lookup coin).map fun infos => infos.foldl (fun total info =>
      addTradeFee coin (total + info.lockedAmount.amount) info.lockedAmount.tradeFee) 0).getD 0 =
      (ledger.map (lockedOf coin ·.booked.lockedAmount)).sum := by
  have hoth : ((ledger.filter fun r => !decide (r.coin = coin)).map
      (lockedOf coin ·.booked.lockedAmount)).sum = 0 := by
    refine sum_eq_zero fun amount hamt => ?_
    obtain ⟨r, hr, rfl⟩ := List.mem_map.1 hamt
    have hne : r.coin ≠ coin := by simpa using (mem_filter.1 hr).2
    simp [lockedOf, addTradeFee, Reserve.booked, hne]
  have htr : ∀ total, ∀ r ∈ ledger.filter (·.coin = coin),
      addTradeFee coin (total + r.booked.lockedAmount.amount) r.booked.lockedAmount.tradeFee =
        total + lockedOf coin r.booked.lockedAmount := by
    intro total r hr
    have hcn : r.booked.lockedAmount.coin = coin := of_decide_eq_true (mem_filter.1 hr).2
    rw [addTradeFee_eq, lockedOf, if_pos hcn, add_assoc]
  -- no entry and no entries are the same sum
  refine (getD_map _ [] (locked.lookup coin)).trans ?_
  rw [← sum_filter_add_sum_filter_not _ (·.coin = coin), hoth, add_zero]
  change foldl _ 0 (locked.getD coin []) = _
  rw [h coin, foldl_map, foldl_ext _ _ _ htr, foldl_add_sum, zero_add]

end

/-- Every handler does to the table what the swap does to the ledger. -/
theorem Booked.step {ctx : SwapsContext} (h : ledger.Booked ctx.lockedAmountsV2)
    (move : SwapsMove) : (ledger.step move).Booked (ctx.step move).lockedAmountsV2 := by
  cases move with
  | run swap | event index now event | drop index => exact h
  | makerV2Event swap event =>
    cases event with
    | initialized => exact h.lock (makerReserve swap)
    | makerPaymentSentFundingSpendGenerated => exact h.release swap.makerCoin swap.uuid
    | _ => exact h
  | makerV2Kickstart swap event =>
    cases event with
    | initialized | waitingForTakerFunding | takerFundingReceived =>
      exact h.lock (makerReserve swap)
    | _ => exact h
  | takerV2Event swap event =>
    cases event with
    | initialized => exact h.lock (takerReserve swap)
    | takerFundingSent => exact h.release swap.takerCoin swap.uuid
    | _ => exact h
  | takerV2Kickstart swap event =>
    cases event with
    | initialized | negotiated => exact h.lock (takerReserve swap)
    | _ => exact h
  | makerV2CleanUp swap | takerV2CleanUp swap =>
    exact (h.release swap.makerCoin swap.uuid).release swap.takerCoin swap.uuid

theorem Booked.run {ctx : SwapsContext} (h : ledger.Booked ctx.lockedAmountsV2)
    (moves : List SwapsMove) : (moves.foldl Ledger.step ledger).Booked
      (moves.foldl SwapsContext.step ctx).lockedAmountsV2 := by
  induction moves generalizing ledger ctx with
  | nil => exact h
  | cons move moves ih => exact ih (h.step move)

end Ledger

/-! ## All swaps, all swaps but one -/

/-- What the table has of other swaps for a coin. -/
def bookedByOthers (ledger : Ledger) (uuid : Uuid) (coin : String) : MmNumber :=
  ((ledger.filter (·.uuid ≠ uuid)).map (lockedOf coin ·.booked.lockedAmount)).sum

/-- What a swap locks of a coin, whatever protocol it is of: its volumes in the coin, and the fees
that are to be paid in the coin, whatever coin the volume is in. -/
def lockedByUuid (digits : ℕ) (ctx : SwapsContext) (ledger : Ledger) (uuid : Uuid)
    (coin : String) : MmNumber :=
  (((ctx.runningSwaps.filterMap id).filter (·.uuid = uuid)).map (lockedBySwap digits coin)).sum +
    ((ledger.filter (·.uuid = uuid)).map (lockedOf coin ·.locked)).sum

variable (ledger : Ledger) (uuid : Uuid) (coin : String)

/-- What is counted for a coin of the fees of a swap that are to be paid in other coins. -/
def strayFees : MmNumber := ((ledger.filter (·.uuid = uuid)).map (·.strayFee coin)).sum

/-- What is not counted for a coin of the fees of a swap that are to be paid in it. -/
def missedFees : MmNumber := ((ledger.filter (·.uuid = uuid)).map (·.missedFee coin)).sum

/-- The amount locked by all is what the others and the swap itself lock, and what the table has of
others, but for the fees that it has under another coin. -/
theorem getLockedAmount_eq (digits : ℕ) {ctx : SwapsContext} {ledger : Ledger}
    (h : ledger.Booked ctx.lockedAmountsV2) (uuid : Uuid) (coin : String) :
    getLockedAmount digits ctx coin + missedFees ledger uuid coin =
      getLockedAmountByOtherSwaps digits ctx uuid coin +
        lockedByUuid digits ctx ledger uuid coin +
        (bookedByOthers ledger uuid coin + strayFees ledger uuid coin) := by
  have hv1 := sum_filter_add_sum_filter_not (lockedBySwap digits coin) (·.uuid = uuid)
    (ctx.runningSwaps.filterMap id)
  have hv2 := sum_filter_add_sum_filter_not (lockedOf coin ·.booked.lockedAmount) (·.uuid = uuid)
    ledger
  have hown : ((ledger.filter (·.uuid = uuid)).map (lockedOf coin ·.booked.lockedAmount)).sum +
        missedFees ledger uuid coin =
      ((ledger.filter (·.uuid = uuid)).map (lockedOf coin ·.locked)).sum +
        strayFees ledger uuid coin := by
    rw [missedFees, strayFees, ← sum_map_add, ← sum_map_add]
    simp only [Reserve.lockedOf_booked]
  simp only [getLockedAmount, getLockedAmountByOtherSwaps, lockedByUuid, bookedByOthers]
  rw [h.foldl_eq, foldl_addLocked, foldl_addLocked, ← hv1, ← hv2]
  simp only [decide_not]
  linarith

/-- After every run, and for every swap and coin, the amount locked by all swaps is the amount
locked by the others and by the swap itself exactly if what the table has of other swaps of the
second protocol, together with the swap's own fees that are counted for the wrong coin, makes up
for those of its fees that are not counted. -/
theorem lockedAmount_split_iff (digits : ℕ) (moves : List SwapsMove) (uuid : Uuid) (coin : String) :
    let ctx := moves.foldl SwapsContext.step .init
    let ledger := moves.foldl Ledger.step []
    getLockedAmount digits ctx coin =
        getLockedAmountByOtherSwaps digits ctx uuid coin +
          lockedByUuid digits ctx ledger uuid coin ↔
      bookedByOthers ledger uuid coin + strayFees ledger uuid coin =
        missedFees ledger uuid coin := by
  intro ctx ledger
  have hemp : Ledger.Booked [] SwapsContext.init.lockedAmountsV2 := fun ticker => rfl
  have hsum := getLockedAmount_eq digits (hemp.run moves) uuid coin
  constructor
  · intro h
    rw [h] at hsum
    exact (add_left_cancel hsum).symm
  · intro h
    rw [h] at hsum
    exact add_right_cancel hsum

/-- A maker of the second protocol that sells five of a coin and pays a fee of one in some coin. -/
def sellFive (makerCoin feeCoin : String) : MakerSwapV2 where
  uuid := 1
  makerCoin := makerCoin
  takerCoin := "BTC"
  makerVolume := 5
  makerPaymentTradeFee := ⟨feeCoin, 1, false⟩

/-- A swap of the second protocol has locked KMD. Another swap that asks what the others lock is
told that it is nothing. And the only swap there is sells a token: its fee is counted for the token
and not for the coin it is paid in. -/
theorem sellFive_not_counted :
    (let moves := [SwapsMove.makerV2Event (sellFive "KMD" "KMD") .initialized]
     let ctx := moves.foldl SwapsContext.step .init
     getLockedAmount 50 ctx "KMD" = 6 ∧ getLockedAmountByOtherSwaps 50 ctx 2 "KMD" = 0 ∧
       lockedByUuid 50 ctx (moves.foldl Ledger.step []) 2 "KMD" = 0) ∧
    (let moves := [SwapsMove.makerV2Event (sellFive "USDT" "ETH") .initialized]
     let ctx := moves.foldl SwapsContext.step .init
     let own := lockedByUuid 50 ctx (moves.foldl Ledger.step []) 1
     getLockedAmountByOtherSwaps 50 ctx 1 "USDT" = 0 ∧
       getLockedAmount 50 ctx "USDT" = 6 ∧ own "USDT" = 5 ∧
       getLockedAmount 50 ctx "ETH" = 0 ∧ own "ETH" = 1) := by
  decide +kernel

end CheetahDex.Proof
