import CheetahDex.Proof.PaymentsV2

/-!
# No money is left on the chain in a swap of the second version

A side that has come to its end, or is about to refund, has dealt with what it broadcast, in every
run in which everything is as it should (`Orderly`) and no crash falls between the broadcast of the
own money and the storing of its event. What was broadcast by then is known from the stage alone.
-/

namespace CheetahDex.SwapV2

open Lib List
open Lib.Storable (Holds Past)
open Ordermatch (Uuid)
open Swap (Bytes)

variable {MC TC : CoinTypes} (ctx : Ctx) (makerCoin : Coin MC) (takerCoin : Coin TC) (uuid : Uuid)

/-! ## The taker -/

namespace Taker

section journey

variable (hex : TC.Tx → Bytes)

/-- A funding was sent and then only refunds of it. -/
def FundingTried (funding : Bytes) (t : List (Action MC TC)) : Prop :=
  ∃ tx tries, funding = hex tx ∧ t = .funded tx :: tries ∧
    ∀ a ∈ tries, ∃ refund, a = .refundFunding funding refund

/-- A funding was sent, the payment from it, and then only refunds of the payment. -/
def PaymentTried (payment : Bytes) (t : List (Action MC TC)) : Prop :=
  ∃ funding tx tries, payment = hex tx ∧ t = .funded funding :: .paid (hex funding) tx :: tries ∧
    ∀ a ∈ tries, ∃ refund, a = .refundPayment payment refund

/-- A funding was sent, the payment from it, and then only claims of the maker's payment. -/
def ClaimTried (t : List (Action MC TC)) : Prop :=
  ∃ funding tx claims, t = .funded funding :: .paid (hex funding) tx :: claims ∧
    ∀ a ∈ claims, ∃ makerPayment spend, a = .claimed makerPayment spend

/-- What was broadcast when a stage is reached. -/
def Journey : Stage → List (Action MC TC) → Prop
  | .unfunded, t => t = []
  | .funded funding, t => ∃ tx, funding = hex tx ∧ t = [.funded tx]
  | .paid payment, t =>
    ∃ funding tx, payment = hex tx ∧ t = [.funded funding, .paid (hex funding) tx]
  | .spent, t => ClaimTried hex t
  | .claimed, t => ClaimTried hex t ∧ ∃ makerPayment spend, .claimed makerPayment spend ∈ t
  | .refundFunding funding, t => FundingTried hex funding t
  | .refundPayment payment, t => PaymentTried hex payment t
  | .refunded, t =>
    (∃ funding tx, FundingTried hex funding t ∧ .refundFunding funding (some tx) ∈ t) ∨
    ∃ payment tx, PaymentTried hex payment t ∧ .refundPayment payment (some tx) ∈ t
  | .completed, t => ClaimTried hex t ∧ ∃ makerPayment spend, .claimed makerPayment spend ∈ t
  | .aborted, t => t = [] ∨
    (∃ funding tx, FundingTried hex funding t ∧ .refundFunding funding tx ∈ t) ∨
    ∃ payment tx, PaymentTried hex payment t ∧ .refundPayment payment tx ∈ t

/-- A funding was turned into the payment, or a refund of it was made or tried; a refund of the
payment was made or tried; or the maker's payment was claimed. -/
def Settled (t : List (Action MC TC)) : Prop :=
  (∃ makerPayment spend, .claimed makerPayment spend ∈ t) ∨
  (∀ tx, .funded tx ∈ t → (∃ payment, .paid (hex tx) payment ∈ t) ∨
    ∃ refund, .refundFunding (hex tx) refund ∈ t) ∧
  ∀ funding tx, .paid funding tx ∈ t → ∃ refund, .refundPayment (hex tx) refund ∈ t

/-- What is to hold in each state: the own money is dealt with when the machine ends, a state that
requires a refund has the transaction that was broadcast, and `Aborted` is reached with nothing
broadcast or after a refund was tried. -/
structure Safe (t : List (Action MC TC)) (state : State) : Prop where
  settled : state.isLast = true → Settled hex t
  funding : ∀ funding, state.stage = .refundFunding funding → ∃ tx, .funded tx ∈ t ∧
    funding = hex tx
  payment : ∀ payment, state.stage = .refundPayment payment → ∃ funding tx, .paid funding tx ∈ t ∧
    payment = hex tx
  aborted : state.stage = .aborted → (∀ tx, .funded tx ∉ t) ∨
    (∃ funding refund, .refundFunding funding refund ∈ t) ∨
    ∃ payment refund, .refundPayment payment refund ∈ t

end journey

variable {hex : TC.Tx → Bytes} {t sent : List (Action MC TC)}

variable {funding : Bytes} {payment : Bytes} {refund : Option TC.Tx} {state : State}

theorem FundingTried.append (h : FundingTried hex funding t) (refund : Option TC.Tx) :
    FundingTried hex funding (t ++ [.refundFunding funding refund]) := by
  obtain ⟨tx, tries, hfn, rfl, htr⟩ := h
  exact ⟨tx, tries ++ [.refundFunding funding refund], hfn, rfl,
    forall_mem_append.mpr ⟨htr, forall_mem_singleton.mpr ⟨refund, rfl⟩⟩⟩

theorem PaymentTried.append (h : PaymentTried hex payment t) (refund : Option TC.Tx) :
    PaymentTried hex payment (t ++ [.refundPayment payment refund]) := by
  obtain ⟨funding, tx, tries, hpay, rfl, htr⟩ := h
  exact ⟨funding, tx, tries ++ [.refundPayment payment refund], hpay, rfl,
    forall_mem_append.mpr ⟨htr, forall_mem_singleton.mpr ⟨refund, rfl⟩⟩⟩

theorem ClaimTried.append (h : ClaimTried hex t) (makerPayment : Bytes) (spend : MC.Tx) :
    ClaimTried hex (t ++ [.claimed makerPayment spend]) := by
  obtain ⟨funding, tx, claims, rfl, hcl⟩ := h
  exact ⟨funding, tx, claims ++ [.claimed makerPayment spend], rfl,
    forall_mem_append.mpr ⟨hcl, forall_mem_singleton.mpr ⟨makerPayment, spend, rfl⟩⟩⟩

theorem FundingTried.settled (h : FundingTried hex funding t)
    (href : .refundFunding funding refund ∈ t) : Settled hex t := by
  obtain ⟨tx, tries, rfl, rfl, htr⟩ := h
  refine .inr ⟨fun tx' hfu => .inr ⟨refund, ?_⟩, fun funding' tx' hpd => ?_⟩
  · cases hfu with
    | head => exact href
    | tail _ hmem => obtain ⟨_, ⟨⟩⟩ := htr _ hmem
  · cases hpd with
    | tail _ hmem => obtain ⟨_, ⟨⟩⟩ := htr _ hmem

theorem PaymentTried.settled (h : PaymentTried hex payment t)
    (href : .refundPayment payment refund ∈ t) : Settled hex t := by
  obtain ⟨funding, tx, tries, rfl, rfl, htr⟩ := h
  refine .inr ⟨fun tx' hfu => .inl ⟨tx, ?_⟩, fun funding' tx' hpd => ⟨refund, ?_⟩⟩
  · cases hfu with
    | head => exact mem_cons_of_mem _ mem_cons_self
    | tail _ hr =>
      cases hr with
      | tail _ hmem => obtain ⟨_, ⟨⟩⟩ := htr _ hmem
  · cases hpd with
    | tail _ hr =>
      cases hr with
      | head => exact href
      | tail _ hmem => obtain ⟨_, ⟨⟩⟩ := htr _ hmem

/-- A stage from which the own money is still to be sent. -/
def Stage.Paying : Stage → Prop
  | .unfunded => True
  | .funded _ => True
  | _ => False

variable {orderly : Prop} {stage stage' : Stage}

section

variable (hord : orderly) (hmv : Moves hex orderly stage sent stage')

include hord hmv

/-- A move that is as it should goes on with the journey. -/
theorem Journey.step (h : Journey hex stage t) : Journey hex stage' (t ++ sent) := by
  cases hmv with
  | negotiate => exact (append_nil t).trans h
  | giveUp => exact .inl ((append_nil t).trans h)
  | fund tx =>
    obtain rfl : t = [] := h
    exact ⟨tx, rfl, rfl⟩
  | wait funding =>
    rw [append_nil]
    exact h
  | leaveFunding funding =>
    obtain ⟨tx, hfn, rfl⟩ := h
    exact ⟨tx, [], hfn, rfl, fun a ha => absurd ha not_mem_nil⟩
  | pay funding tx =>
    obtain ⟨tx', rfl, rfl⟩ := h
    exact ⟨tx', tx, rfl, rfl⟩
  | find payment =>
    obtain ⟨funding, tx, -, rfl⟩ := h
    exact ⟨funding, tx, [], rfl, fun a ha => absurd ha not_mem_nil⟩
  | leavePayment payment =>
    obtain ⟨funding, tx, hpay, rfl⟩ := h
    exact ⟨funding, tx, [], hpay, rfl, fun a ha => absurd ha not_mem_nil⟩
  | claim makerPayment tx =>
    exact ⟨ClaimTried.append h makerPayment tx, makerPayment, tx, mem_concat_self⟩
  | complete =>
    rw [append_nil]
    exact h
  | refundFunding funding tx =>
    exact .inl ⟨funding, tx, FundingTried.append h (some tx), mem_concat_self⟩
  | failToRefundFunding funding tx =>
    exact .inr (.inl ⟨funding, tx, FundingTried.append h tx, mem_concat_self⟩)
  | refundPayment payment tx =>
    exact .inr ⟨payment, tx, PaymentTried.append h (some tx), mem_concat_self⟩
  | failToRefundPayment payment tx =>
    exact .inr (.inr ⟨payment, tx, PaymentTried.append h tx, mem_concat_self⟩)
  | fundUnnoticed _ hdis | payUnnoticed _ _ hdis | missSecret hdis
  | claimUnnoticed _ _ hdis | loseConfirmation hdis | giveUpFunding _ hdis
  | giveUpPayment _ hdis => exact absurd hord hdis

/-- What is sent once the own money is on the chain may be sent again from the same stage. -/
theorem Journey.again
    (hps : ¬stage.Paying) (h : Journey hex stage t) : Journey hex stage (t ++ sent) := by
  cases hmv with
  | negotiate | giveUp | fund _ | wait _ | leaveFunding _ | pay _ _ => exact absurd trivial hps
  | find payment | leavePayment payment =>
    rw [append_nil]
    exact h
  | claim makerPayment tx => exact ClaimTried.append h makerPayment tx
  | complete =>
    rw [append_nil]
    exact h
  | refundFunding funding tx => exact FundingTried.append h (some tx)
  | failToRefundFunding funding tx => exact FundingTried.append h tx
  | refundPayment payment tx => exact PaymentTried.append h (some tx)
  | failToRefundPayment payment tx => exact PaymentTried.append h tx
  | fundUnnoticed _ hdis | payUnnoticed _ _ hdis | missSecret hdis
  | claimUnnoticed _ _ hdis | loseConfirmation hdis | giveUpFunding _ hdis
  | giveUpPayment _ hdis => exact absurd hord hdis

end

theorem Journey.safe (h : Journey hex state.stage t) : Safe hex t state where
  settled := by
    intro hl
    have hrf : Journey hex .refunded t → Settled hex t := by
      intro h
      rcases h with ⟨funding, tx, htd, hmem⟩ | ⟨payment, tx, htd, hmem⟩
      · exact htd.settled hmem
      · exact htd.settled hmem
    cases state with
    | takerFundingRefunded _ _ _ => exact hrf h
    | takerPaymentRefunded _ _ _ => exact hrf h
    | completed => exact .inl h.2
    | aborted _ =>
      rcases h with rfl | ⟨funding, tx, htd, hmem⟩ | ⟨payment, tx, htd, hmem⟩
      · exact .inr ⟨fun _ h => absurd h not_mem_nil, fun _ _ h => absurd h not_mem_nil⟩
      · exact htd.settled hmem
      · exact htd.settled hmem
    | _ => cases hl
  funding := by
    intro funding hst
    rw [hst] at h
    obtain ⟨tx, tries, hfn, rfl, -⟩ := h
    exact ⟨tx, mem_cons_self, hfn⟩
  payment := by
    intro payment hst
    rw [hst] at h
    obtain ⟨funding, tx, tries, hpay, rfl, -⟩ := h
    exact ⟨hex funding, tx, mem_cons_of_mem _ mem_cons_self, hpay⟩
  aborted := by
    intro hst
    rw [hst] at h
    rcases h with rfl | ⟨funding, tx, -, hmem⟩ | ⟨payment, tx, -, hmem⟩
    · exact .inl fun tx => not_mem_nil
    · exact .inr (.inl ⟨funding, tx, hmem⟩)
    · exact .inr (.inr ⟨payment, tx, hmem⟩)

/-- The own money is still to be sent from the state. -/
def Paying (state : State) : Prop := state.stage.Paying

/-- Everything is as it should, in the state that runs. -/
def OrderlyAt (env : Env MC TC) (_ : List (Action MC TC)) (sm : Machine MC TC) : Phase State → Prop
  | .running state => Orderly env sm state
  | _ => True

theorem journey_rule :
    (storable ctx makerCoin takerCoin uuid).Rule OrderlyAt (fun _ _ _ phase => Past Paying phase)
      (fun sm => sm.takerCoin = takerCoin)
      (fun t state => Journey takerCoin.txHex state.stage t) := by
  refine .of_states (fun _ => rfl) ?_ ?_ ?_
  · rintro env sm rfl next hx
    have hmv : Moves sm.takerCoin.txHex True .unfunded (init env sm).sent next.stage :=
      init_advances next hx
    exact Journey.step trivial hmv rfl
  · rintro env t sm state rfl hjou hord next hx
    exact Journey.step hord (onChanged_advances state next hx) hjou
  · rintro env t sm state rfl hjou hord hps next hx
    exact Journey.again hord (onChanged_advances state next hx) hps hjou

end Taker

/-! ## The maker -/

namespace Maker

section journey

variable (hex : MC.Tx → Bytes)

/-- A payment was sent, and then only spends of the taker's payment and refunds of the own. -/
def Held (payment : Bytes) (t : List (Action MC TC)) : Prop :=
  ∃ tx rest, payment = hex tx ∧ t = .paid tx :: rest ∧
    ∀ a ∈ rest, (∃ args spend, a = .spentTakerPayment args spend) ∨
      ∃ refund, a = .refund payment refund

/-- What was broadcast when a stage is reached. -/
def Journey : Stage → List (Action MC TC) → Prop
  | .unpaid, t => t = []
  | .paid payment, t => Held hex payment t
  | .spent payment, t => Held hex payment t ∧ ∃ args spend, .spentTakerPayment args spend ∈ t
  | .refund payment, t => Held hex payment t
  | .refunded, t => ∃ payment tx, Held hex payment t ∧ .refund payment (some tx) ∈ t
  | .completed, t =>
    (∃ payment, Held hex payment t) ∧ ∃ args spend, .spentTakerPayment args spend ∈ t
  | .aborted, t => t = [] ∨ ∃ payment tx, Held hex payment t ∧ .refund payment tx ∈ t

/-- A refund of the payment was made or tried, or the taker's payment was spent. -/
def Settled (t : List (Action MC TC)) : Prop :=
  (∃ args spend, .spentTakerPayment args spend ∈ t) ∨
    ∀ tx, .paid tx ∈ t → ∃ refund, .refund (hex tx) refund ∈ t

@[inherit_doc Taker.Safe]
structure Safe (t : List (Action MC TC)) (state : State) : Prop where
  settled : state.isLast = true → Settled hex t
  payment : ∀ payment, state.stage = .refund payment → ∃ tx, .paid tx ∈ t ∧ payment = hex tx
  aborted : state.stage = .aborted → (∀ tx, .paid tx ∉ t) ∨
    ∃ payment refund, .refund payment refund ∈ t

end journey

variable {hex : MC.Tx → Bytes} {t sent : List (Action MC TC)} {orderly : Prop}
  {stage stage' : Stage}

theorem Held.append {payment : Bytes} {a : Action MC TC} (h : Held hex payment t)
    (ha : (∃ args spend, a = .spentTakerPayment args spend) ∨
      ∃ refund, a = .refund payment refund) :
    Held hex payment (t ++ [a]) := by
  obtain ⟨tx, rest, hpay, rfl, hr⟩ := h
  exact ⟨tx, rest ++ [a], hpay, rfl, forall_mem_append.mpr ⟨hr, forall_mem_singleton.mpr ha⟩⟩

theorem Held.settled {payment : Bytes} {refund : Option MC.Tx} (h : Held hex payment t)
    (href : .refund payment refund ∈ t) : Settled hex t := by
  obtain ⟨tx, rest, rfl, rfl, hr⟩ := h
  refine .inr fun tx' hpd => ⟨refund, ?_⟩
  cases hpd with
  | head => exact href
  | tail _ hmem => rcases hr _ hmem with ⟨_, _, ⟨⟩⟩ | ⟨_, ⟨⟩⟩

theorem Journey.step (hord : orderly) (hmv : Moves hex orderly stage sent stage')
    (h : Journey hex stage t) : Journey hex stage' (t ++ sent) := by
  cases hmv with
  | negotiate => exact (append_nil t).trans h
  | giveUp => exact .inl ((append_nil t).trans h)
  | pay tx =>
    obtain rfl : t = [] := h
    exact ⟨tx, [], rfl, rfl, fun a ha => absurd ha not_mem_nil⟩
  | payUnnoticed _ hdis => exact absurd hord hdis
  | wait payment | leave payment =>
    rw [append_nil]
    exact h
  | spend payment args tx => exact ⟨Held.append h (.inl ⟨args, tx, rfl⟩), args, tx, mem_concat_self⟩
  | spendUnnoticed payment args tx => exact Held.append h (.inl ⟨args, tx, rfl⟩)
  | complete payment =>
    rw [append_nil]
    exact ⟨⟨payment, h.1⟩, h.2⟩
  | loseConfirmation payment =>
    rw [append_nil]
    exact h.1
  | refund payment tx => exact ⟨payment, tx, Held.append h (.inr ⟨some tx, rfl⟩), mem_concat_self⟩
  | failToRefund payment tx =>
    exact .inr ⟨payment, tx, Held.append h (.inr ⟨tx, rfl⟩), mem_concat_self⟩

theorem Journey.again (hmv : Moves hex orderly stage sent stage') (hps : stage ≠ .unpaid)
    (h : Journey hex stage t) : Journey hex stage (t ++ sent) := by
  cases hmv with
  | negotiate | giveUp | pay _ | payUnnoticed _ _ => exact absurd rfl hps
  | spend payment args tx | spendUnnoticed payment args tx =>
    exact Held.append h (.inl ⟨args, tx, rfl⟩)
  | refund payment tx => exact Held.append h (.inr ⟨some tx, rfl⟩)
  | failToRefund payment tx => exact Held.append h (.inr ⟨tx, rfl⟩)
  | _ =>
    rw [append_nil]
    exact h

theorem Journey.safe {state : State} (h : Journey hex state.stage t) : Safe hex t state where
  settled := by
    intro hl
    cases state with
    | makerPaymentRefunded _ _ _ =>
      obtain ⟨payment, tx, hhl, hmem⟩ := h
      exact hhl.settled hmem
    | completed => exact .inl h.2
    | aborted _ =>
      rcases h with rfl | ⟨payment, tx, hhl, hmem⟩
      · exact .inr fun _ hmem => absurd hmem not_mem_nil
      · exact hhl.settled hmem
    | _ => cases hl
  payment := by
    intro payment hst
    rw [hst] at h
    obtain ⟨tx, rest, hpay, rfl, -⟩ := h
    exact ⟨tx, mem_cons_self, hpay⟩
  aborted := by
    intro hst
    rw [hst] at h
    rcases h with rfl | ⟨payment, tx, -, hmem⟩
    · exact .inl fun tx => not_mem_nil
    · exact .inr ⟨payment, tx, hmem⟩

/-- Everything is as it should, in the state that runs. -/
def OrderlyAt (env : Env MC TC) (_ : List (Action MC TC)) (_ : Machine MC TC) : Phase State → Prop
  | .running state => Orderly env state
  | _ => True

theorem journey_rule :
    (storable ctx makerCoin takerCoin uuid).Rule OrderlyAt (fun _ _ _ phase => Past Unpaid phase)
      (fun sm => sm.makerCoin = makerCoin)
      (fun t state => Journey makerCoin.txHex state.stage t) := by
  refine .of_states (fun _ => rfl) ?_ ?_ ?_
  · rintro env sm rfl next hx
    have hmv : Moves sm.makerCoin.txHex True .unpaid (init env sm).sent next.stage :=
      init_advances next hx
    exact Journey.step trivial hmv rfl
  · rintro env t sm state rfl hjou hord next hx
    exact Journey.step hord (onChanged_advances state next hx) hjou
  · rintro env t sm state rfl hjou hord hps next hx
    exact Journey.again (onChanged_advances state next hx) hps hjou

end Maker

/-- **Neither side abandons its money, in every run in which each step is orderly and no crash falls
between the broadcast of the own money and the storing of its event.** -/
theorem fundsV2_not_abandoned :
    (∀ (sm : Maker.Machine MC TC) (moves : List (Move (Maker.Env MC TC))),
      sm.makerCoin = makerCoin →
      Guarded (Maker.storable ctx makerCoin takerCoin uuid).durable.step
        (Durable.Allowed Maker.OrderlyAt fun _ _ _ phase => Past Maker.Unpaid phase)
        (.init sm .starting) moves →
      Always (Maker.storable ctx makerCoin takerCoin uuid).durable.step
        ((Maker.storable ctx makerCoin takerCoin uuid).Holds (Maker.Safe makerCoin.txHex))
        (.init sm .starting) moves) ∧
    ∀ (sm : Taker.Machine MC TC) (moves : List (Move (Taker.Env MC TC))),
      sm.takerCoin = takerCoin →
      Guarded (Taker.storable ctx makerCoin takerCoin uuid).durable.step
        (Durable.Allowed Taker.OrderlyAt fun _ _ _ phase => Past Taker.Paying phase)
        (.init sm .starting) moves →
      Always (Taker.storable ctx makerCoin takerCoin uuid).durable.step
        ((Taker.storable ctx makerCoin takerCoin uuid).Holds (Taker.Safe takerCoin.txHex))
        (.init sm .starting) moves := by
  refine ⟨fun sm moves hcn hok => ?_, fun sm moves hcn hok => ?_⟩
  · refine ((Maker.journey_rule ctx makerCoin takerCoin uuid).always hcn hok).mono
      fun node hnd => hnd.mono fun t state hjou => ?_
    exact Maker.Journey.safe hjou
  · refine ((Taker.journey_rule ctx makerCoin takerCoin uuid).always hcn hok).mono
      fun node hnd => hnd.mono fun t state hjou => ?_
    exact Taker.Journey.safe hjou

/-! ## Plain runs -/

theorem makerEnv_orderly (t : List (Maker.Action plainTypes plainTypes))
    (phase : Phase Maker.State) : Maker.OrderlyAt makerEnv t (plainMaker 1000 7800) phase := by
  cases phase with
  | starting => trivial
  | initial => trivial
  | running state =>
    cases state with
    | takerFundingReceived _ _ _ _ _ =>
      intro args tx err hans
      cases hans
    | _ => trivial

theorem takerEnv_orderly (t : List (Taker.Action plainTypes plainTypes))
    (phase : Phase Taker.State) : Taker.OrderlyAt takerEnv t (plainTaker 1000 7800) phase := by
  cases phase with
  | starting => trivial
  | initial => trivial
  | running state =>
    cases state with
    | negotiated _ _ _ _ _ =>
      intro args tx err hans
      cases hans
    | makerPaymentAndFundingSpendPreimgReceived _ _ _ _ _ _ | makerPaymentConfirmed _ _ _ _ _ _ =>
      intro preimage args data tx err hans
      cases hans
    | takerPaymentSpent _ _ spend payment data =>
      exact ⟨⟨spend, _, rfl, rfl⟩, ⟨payment, rfl⟩, ⟨data.makerCoinHtlcPub, rfl⟩,
        fun _ => ⟨[12], rfl⟩⟩
    | makerPaymentSpent _ _ _ _ => exact fun _ => rfl
    | takerFundingRefundRequired _ _ data funding _ =>
      exact ⟨⟨funding, rfl⟩, ⟨data.takerCoinHtlcPub, rfl⟩, ⟨[2], rfl⟩⟩
    | takerPaymentRefundRequired _ _ _ => exact ⟨[2], rfl⟩
    | _ => trivial

/-- Both machines run to their end. -/
theorem plainRuns_not_abandoned :
    Always plainMakerStorable.durable.step (plainMakerStorable.Holds (Maker.Safe id))
      (.init (plainMaker 1000 7800) .starting) (List.replicate 10 (.execute makerEnv)) ∧
    Always plainTakerStorable.durable.step (plainTakerStorable.Holds (Taker.Safe id))
      (.init (plainTaker 1000 7800) .starting) (List.replicate 10 (.execute takerEnv)) := by
  have hsf := fundsV2_not_abandoned plainCtx (plainCoin "RICK") (plainCoin "MORTY") 0
  refine ⟨hsf.1 _ _ rfl (Storable.guarded_executes makerEnv_orderly 10 ?_),
    hsf.2 _ _ rfl (Storable.guarded_executes takerEnv_orderly 10 ?_)⟩
  · intro s phase hlv
    exact (Prod.mk.inj (Option.some.inj hlv)).1.symm
  · intro s phase hlv
    exact (Prod.mk.inj (Option.some.inj hlv)).1.symm

/-- The claim of the maker's payment is not confirmed in time. -/
def unconfirmedEnv : Taker.Env plainTypes plainTypes :=
  { takerEnv with makerCoin :=
      { plainMakerCoin with waitForConfirmations := fun _ => .error "timeout" } }

def unconfirmedRun : List (Move (Taker.Env plainTypes plainTypes)) :=
  List.replicate 8 (.execute takerEnv) ++ [.execute unconfirmedEnv]

/-- Whether a payment that was broadcast has bytes. -/
def Taker.Action.paysSomething : Taker.Action plainTypes plainTypes → Bool
  | .paid _ tx => tx ≠ []
  | _ => true

/-- A taker whose claim is not confirmed in time is to refund a payment of no bytes. -/
theorem unconfirmedClaim_abandoned :
    ¬ Always plainTakerStorable.durable.step (plainTakerStorable.Holds (Taker.Safe id))
      (.init (plainTaker 1000 7800) .starting) unconfirmedRun := by
  intro hsf
  have hend := hsf.last
  have hph : (unconfirmedRun.foldl plainTakerStorable.durable.step
      (.init (plainTaker 1000 7800) .starting)).live.map Prod.snd = some (.running
        (.takerPaymentRefundRequired [] ⟨(plainMaker 1000 7800).secretHash, [2], [2], none, none,
          16600, "R"⟩ (.makerPaymentSpendNotConfirmedInTime "timeout"))) := by
    decide +kernel
  have hpy : (unconfirmedRun.foldl plainTakerStorable.durable.step
      (.init (plainTaker 1000 7800) .starting)).sent.all Taker.Action.paysSomething = true := by
    decide +kernel
  obtain ⟨⟨s, phase⟩, hlv, rfl⟩ := Option.map_eq_some_iff.mp hph
  obtain ⟨funding, tx, hpd, hnil⟩ := (hend.of_live hlv).payment [] rfl
  have hs := List.all_eq_true.mp hpy _ hpd
  have hemp : tx = [] := hnil.symm
  rw [hemp] at hs
  cases hs

end CheetahDex.SwapV2
