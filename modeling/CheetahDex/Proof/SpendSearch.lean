import CheetahDex.Proof.PaymentsV2

/-!
# Where a taker looks for the maker's spend

A taker of the second version notes the heights of both chains when it starts. Its payment is on the
chain of the taker coin, but the spend of it is looked for from the height that the chain of the
maker coin had.
-/

namespace CheetahDex.SwapV2

open Lib Turn
open Ordermatch (Uuid)

variable {MC TC : CoinTypes}

/-- How a coin finds the spend of an output. -/
inductive SpendSearch where
  | electrum
  | native
  | evm

namespace SpendSearch

/-- The blocks after the start of the swap are those that are looked at, or some of them. -/
def Reaches (mb tb : UInt64) : SpendSearch → Prop
  | electrum => True
  | native => mb.toNat ≤ tb.toNat
  | evm => mb.toNat ≤ tb.toNat + 1

end SpendSearch

namespace Taker

/-- The heights of the two chains at the start, in the states that have them. -/
def State.startBlocks : State → Option (UInt64 × UInt64)
  | .initialized m t .. | .negotiated m t .. | .takerFundingSent m t ..
  | .makerPaymentAndFundingSpendPreimgReceived m t .. | .makerPaymentConfirmed m t ..
  | .takerPaymentSent m t .. | .takerPaymentSentPreimageSendingSkipped m t ..
  | .takerPaymentSpent m t .. | .makerPaymentSpent m t .. | .takerFundingRefundRequired m t .. =>
    some (m, t)
  | _ => none

/-- The search from the height that the state carries reaches the blocks after the start. -/
def Reaching (search : SpendSearch) (state : State) : Prop :=
  ∀ mb tb, state.startBlocks = some (mb, tb) → search.Reaches mb tb

variable {search : SpendSearch} {env : Env MC TC} {sm : Machine MC TC} {state : State}

/-- What a turn leads to is fine. -/
def Reach (search : SpendSearch) (turn : TakerTurn MC TC) : Prop :=
  turn.Leads fun _ next => Reaching search next

/-- A state without heights does not search. -/
theorem reach_none {next : State} {sent : List (Action MC TC)} (h : next.startBlocks = none) :
    Reach search (⟨sent, some next⟩ : TakerTurn MC TC) :=
  leads_some fun _ _ hblk => absurd (h.symm.trans hblk) (Option.some_ne_none _).symm

section carried

variable {mb tb : UInt64} {data : StoredTakerNegotiationData} {payment makerPayment : Swap.Bytes}

theorem reach_sendTakerPayment {answer : Broadcast TC.Tx}
    (h : Reaching search (.takerFundingSent mb tb data payment)) : Reach search
      (sendTakerPayment sm mb tb data payment makerPayment answer) := by
  refine leads_some ?_
  cases answer.result with
  | ok tx =>
    dsimp only
    split
    · exact h
    · exact h
  | error e => exact h

theorem reach_awaitSpend {tx : TC.Tx}
    (h : Reaching search (.takerPaymentSent mb tb data payment makerPayment)) :
    Reach search (awaitSpend env sm mb tb data payment makerPayment tx) := by
  unfold awaitSpend
  split
  · exact leads_some h
  · exact reach_none rfl

end carried

/-- A state hands its start block on to the state after it. -/
theorem Reaching.onChanged (h : Reaching search state) : Reach search (onChanged env sm state) := by
  cases state with
  | initialized _ _ _ _ =>
    iterate 4 refine collapse_try (fun _ => reach_none rfl) fun _ => ?_
    exact collapse_check (fun _ => reach_none rfl) fun _ => leads_some h
  | negotiated _ _ _ _ _ =>
    iterate 2 refine collapse_try (fun _ => reach_none rfl) fun _ => ?_
    exact leads_some h
  | takerFundingSent _ _ _ _ =>
    iterate 4 refine collapse_try (fun _ => leads_some h) fun _ => ?_
    exact leads_some h
  | makerPaymentAndFundingSpendPreimgReceived _ _ _ _ _ _ =>
    iterate 9 refine collapse_try (fun _ => leads_some h) fun _ => ?_
    split
    · exact collapse_try (fun _ => leads_some h) fun _ => reach_sendTakerPayment h
    · exact reach_sendTakerPayment h
  | makerPaymentConfirmed _ _ _ _ _ _ =>
    iterate 5 refine collapse_try (fun _ => leads_some h) fun _ => ?_
    exact reach_sendTakerPayment h
  | takerPaymentSent _ _ _ _ _ =>
    iterate 2 refine collapse_try (fun _ => reach_none rfl) fun _ => ?_
    exact reach_awaitSpend h
  | takerPaymentSentPreimageSendingSkipped _ _ _ _ _ =>
    exact collapse_try (fun _ => reach_none rfl) fun _ => reach_awaitSpend h
  | takerPaymentSpent _ _ _ _ _ =>
    iterate 5 refine collapse_try (fun _ => reach_none rfl) fun _ => ?_
    exact leads_some h
  | _ =>
    -- no state that these lead to has the heights
    intro next hx mb tb hblk
    have hmv := onChanged_advances _ next hx
    generalize (Taker.onChanged env sm _).sent = sent at hmv
    cases next <;> cases hblk <;> cases hmv

variable (search : SpendSearch) (ctx : Ctx) (makerCoin : Coin MC) (takerCoin : Coin TC)
  (uuid : Uuid)

end Taker

end CheetahDex.SwapV2
