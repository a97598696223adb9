import CheetahDex.SwapV2.Maker
import CheetahDex.SwapV2.Taker

/-!
# The stages of a swap of the second version

What a machine is about, without its data: where its own money is. Some moves are made only if
something is not as it should be; they are marked, and `Orderly` says what has to be as it should.
-/

namespace CheetahDex.SwapV2

open Lib Broadcast Turn
open Swap (Bytes)

variable {MC TC : CoinTypes}

namespace Broadcast

variable {Tx : Type} {answer : Broadcast Tx}

/-- An error means that nothing was sent. -/
def Noticed (answer : Broadcast Tx) : Prop := ∀ tx err, answer ≠ .sentUnnoticed tx err

theorem result_eq_ok {tx : Tx} (h : answer.result = .ok tx) : answer = .sent tx := by
  cases answer with
  | sent tx' =>
    cases h
    rfl
  | sentUnnoticed _ _ => cases h
  | failed _ => cases h

@[elab_as_elim]
theorem reached_of_error {P : Option Tx → Prop} {err : String} (h : answer.result = .error err)
    (hfl : P none) (hun : ∀ tx, ¬answer.Noticed → P (some tx)) : P answer.reached := by
  cases answer with
  | sent _ => cases h
  | sentUnnoticed tx err' => exact hun tx fun hnt => hnt tx err' rfl
  | failed _ => exact hfl

end Broadcast

/-! ## The taker -/

namespace Taker

/-- Where the money of a taker is. -/
inductive Stage where
  | unfunded
  | funded (takerFunding : Bytes)
  | paid (takerPayment : Bytes)
  /-- The maker has spent the payment. -/
  | spent
  | claimed
  | refundFunding (takerFunding : Bytes)
  | refundPayment (takerPayment : Bytes)
  | refunded
  | completed
  | aborted
  deriving DecidableEq

/-- The stage that a state is in. -/
def State.stage : State → Stage
  | .initialized .. => .unfunded
  | .negotiated .. => .unfunded
  | .takerFundingSent _ _ _ takerFunding => .funded takerFunding
  | .makerPaymentAndFundingSpendPreimgReceived _ _ _ takerFunding _ _ => .funded takerFunding
  | .makerPaymentConfirmed _ _ _ takerFunding _ _ => .funded takerFunding
  | .takerPaymentSent _ _ _ takerPayment _ => .paid takerPayment
  | .takerPaymentSentPreimageSendingSkipped _ _ _ takerPayment _ => .paid takerPayment
  | .takerPaymentSpent .. => .spent
  | .makerPaymentSpent .. => .claimed
  | .takerFundingRefundRequired _ _ _ takerFunding _ => .refundFunding takerFunding
  | .takerPaymentRefundRequired takerPayment _ _ => .refundPayment takerPayment
  | .takerFundingRefunded .. => .refunded
  | .takerPaymentRefunded .. => .refunded
  | .completed => .completed
  | .aborted _ => .aborted

/-- How a taker moves, and what it broadcasts. -/
inductive Moves (hex : TC.Tx → Bytes) (orderly : Prop) :
    Stage → List (Action MC TC) → Stage → Prop
  | negotiate : Moves hex orderly .unfunded [] .unfunded
  | giveUp : Moves hex orderly .unfunded [] .aborted
  | fund (tx : TC.Tx) : Moves hex orderly .unfunded [.funded tx] (.funded (hex tx))
  | fundUnnoticed (tx : TC.Tx) : ¬orderly → Moves hex orderly .unfunded [.funded tx] .aborted
  | wait (funding : Bytes) : Moves hex orderly (.funded funding) [] (.funded funding)
  | leaveFunding (funding : Bytes) : Moves hex orderly (.funded funding) [] (.refundFunding funding)
  | pay (funding : Bytes) (tx : TC.Tx) :
      Moves hex orderly (.funded funding) [.paid funding tx] (.paid (hex tx))
  | payUnnoticed (funding : Bytes) (tx : TC.Tx) :
      ¬orderly → Moves hex orderly (.funded funding) [.paid funding tx] (.refundFunding funding)
  | find (payment : Bytes) : Moves hex orderly (.paid payment) [] .spent
  | leavePayment (payment : Bytes) : Moves hex orderly (.paid payment) [] (.refundPayment payment)
  | claim (makerPayment : Bytes) (tx : MC.Tx) :
      Moves hex orderly .spent [.claimed makerPayment tx] .claimed
  | missSecret : ¬orderly → Moves hex orderly .spent [] .aborted
  | claimUnnoticed (makerPayment : Bytes) (tx : MC.Tx) :
      ¬orderly → Moves hex orderly .spent [.claimed makerPayment tx] .aborted
  | complete : Moves hex orderly .claimed [] .completed
  | loseConfirmation : ¬orderly → Moves hex orderly .claimed [] (.refundPayment [])
  | refundFunding (funding : Bytes) (tx : TC.Tx) :
      Moves hex orderly (.refundFunding funding) [.refundFunding funding (some tx)] .refunded
  | failToRefundFunding (funding : Bytes) (tx : Option TC.Tx) :
      Moves hex orderly (.refundFunding funding) [.refundFunding funding tx] .aborted
  | giveUpFunding (funding : Bytes) :
      ¬orderly → Moves hex orderly (.refundFunding funding) [] .aborted
  | refundPayment (payment : Bytes) (tx : TC.Tx) :
      Moves hex orderly (.refundPayment payment) [.refundPayment payment (some tx)] .refunded
  | failToRefundPayment (payment : Bytes) (tx : Option TC.Tx) :
      Moves hex orderly (.refundPayment payment) [.refundPayment payment tx] .aborted
  | giveUpPayment (payment : Bytes) :
      ¬orderly → Moves hex orderly (.refundPayment payment) [] .aborted

/-- What has to be as it should: an error of a broadcast means that nothing was sent, the maker's
payment can be claimed and the claim is confirmed, and a refund that is required can be tried. -/
def Orderly (env : Env MC TC) (sm : Machine MC TC) : State → Prop
  | .negotiated .. => ∀ args, (env.takerCoin.sendTakerFunding args).Noticed
  | .makerPaymentAndFundingSpendPreimgReceived .. =>
    ∀ preimage args data, (env.takerCoin.signAndSendTakerFundingSpend preimage args data).Noticed
  | .makerPaymentConfirmed .. =>
    ∀ preimage args data, (env.takerCoin.signAndSendTakerFundingSpend preimage args data).Noticed
  | .takerPaymentSpent _ _ takerPaymentSpend makerPayment data =>
    (∃ tx secret, sm.takerCoin.parseTx takerPaymentSpend = .ok tx ∧
      env.takerCoin.extractSecretV2 data.makerSecretHash tx = .ok secret) ∧
    (∃ tx, sm.makerCoin.parseTx makerPayment = .ok tx) ∧
    (∃ pub, sm.makerCoin.parsePubkey data.makerCoinHtlcPub = .ok pub) ∧
    ∀ args, ∃ tx, env.makerCoin.spendMakerPaymentV2 args = .sent tx
  | .makerPaymentSpent .. => ∀ args, env.makerCoin.waitForConfirmations args = .ok ()
  | .takerFundingRefundRequired _ _ data takerFunding _ =>
    (∃ tx, sm.takerCoin.parseTx takerFunding = .ok tx) ∧
    (∃ pub, sm.takerCoin.parsePubkey data.takerCoinHtlcPub = .ok pub) ∧
    ∃ pub, env.takerCoin.deriveHtlcPubkey sm.uniqueData = .ok pub
  | .takerPaymentRefundRequired .. => ∃ pub, env.takerCoin.deriveHtlcPubkey sm.uniqueData = .ok pub
  | _ => True

/-- A turn moves from the given stage. -/
def Advances (sm : Machine MC TC) (orderly : Prop) (stage : Stage) (turn : TakerTurn MC TC) :
    Prop :=
  turn.Leads fun sent next => Moves sm.takerCoin.txHex orderly stage sent next.stage

section advances

variable {env : Env MC TC} {sm : Machine MC TC} {orderly : Prop} {stage : Stage}
  {mb tb : UInt64} {data : StoredTakerNegotiationData}

theorem advances_to {next : State}
    (h : Moves sm.takerCoin.txHex orderly stage ([] : List (Action MC TC)) next.stage) :
    Advances sm orderly stage (changeState next) :=
  leads_some h

theorem init_advances : Advances sm orderly .unfunded (init env sm) := by
  iterate 5 refine collapse_try (fun _ => advances_to .giveUp) fun _ => ?_
  refine collapse_check (fun _ => advances_to .giveUp) fun _ => ?_
  exact advances_to .negotiate

variable {makerPayment takerFunding takerPayment : Bytes}

theorem sendTakerPayment_advances {answer : Broadcast TC.Tx} (hord : orderly → answer.Noticed) :
    Advances sm orderly (.funded takerFunding)
      (sendTakerPayment sm mb tb data takerFunding makerPayment answer) := by
  refine leads_some ?_
  cases answer with
  | sent tx =>
    dsimp only [result]
    split
    · exact .pay takerFunding tx
    · exact .pay takerFunding tx
  | sentUnnoticed tx e => exact .payUnnoticed takerFunding tx fun h => hord h tx e rfl
  | failed e => exact .leaveFunding takerFunding

theorem awaitSpend_advances {tx : TC.Tx} :
    Advances sm orderly (.paid takerPayment)
      (awaitSpend env sm mb tb data takerPayment makerPayment tx) := by
  unfold awaitSpend
  split
  · exact advances_to (.find _)
  · exact advances_to (.leavePayment _)

theorem takerPaymentSpent_advances {takerPaymentSpend : Bytes} (hord : orderly →
      Orderly env sm (.takerPaymentSpent mb tb takerPaymentSpend makerPayment data)) :
    Advances sm orderly .spent
      (takerPaymentSpent env sm mb tb takerPaymentSpend makerPayment data) := by
  refine collapse_mapError (fun e he => advances_to (.missSecret fun h => ?_)) fun spendTx hsx => ?_
  · obtain ⟨⟨tx, _, htx, -⟩, -⟩ := hord h
    cases he.symm.trans htx
  refine collapse_mapError (fun e he => advances_to (.missSecret fun h => ?_)) fun secret _ => ?_
  · obtain ⟨⟨tx, secret, htx, hsec⟩, -⟩ := hord h
    cases hsx.symm.trans htx
    cases he.symm.trans hsec
  refine collapse_mapError (fun e he => advances_to (.missSecret fun h => ?_)) fun paymentTx _ => ?_
  · obtain ⟨-, ⟨tx, htx⟩, -⟩ := hord h
    cases he.symm.trans htx
  refine collapse_mapError (fun e he => advances_to (.missSecret fun h => ?_)) fun pub _ => ?_
  · obtain ⟨-, -, ⟨pub, hpub⟩, -⟩ := hord h
    cases he.symm.trans hpub
  refine collapse_mapError (fun e he => leads_some ?_) fun tx htx => leads_some ?_
  · have hdis : ¬orderly := by
      intro h
      obtain ⟨-, -, -, hsp⟩ := hord h
      obtain ⟨tx, htx⟩ := hsp _
      rw [htx] at he
      cases he
    exact reached_of_error he (.missSecret hdis) fun tx _ => .claimUnnoticed makerPayment tx hdis
  · rw [result_eq_ok htx]
    exact .claim makerPayment tx

/-- **A state of the taker moves as its stage does.** -/
theorem onChanged_advances (state : State) :
    Advances sm (Orderly env sm state) state.stage (onChanged env sm state) := by
  cases state with
  | initialized _ _ _ _ =>
    iterate 4 refine collapse_try (fun _ => advances_to .giveUp) fun _ => ?_
    refine collapse_check (fun _ => advances_to .giveUp) fun _ => ?_
    exact advances_to .negotiate
  | negotiated _ _ _ _ _ =>
    refine collapse_try (fun _ => advances_to .giveUp) fun pub => ?_
    refine collapse_mapError (fun e he => leads_some ?_) fun tx htx => leads_some ?_
    · exact reached_of_error he .giveUp fun tx hun => .fundUnnoticed tx fun h => hun (h _)
    · rw [result_eq_ok htx]
      exact .fund tx
  | takerFundingSent _ _ _ _ =>
    iterate 4 refine collapse_try (fun _ => advances_to (.leaveFunding _)) fun _ => ?_
    exact advances_to (.wait _)
  | makerPaymentAndFundingSpendPreimgReceived _ _ _ _ _ _ =>
    iterate 9 refine collapse_try (fun _ => advances_to (.leaveFunding _)) fun _ => ?_
    split
    · refine collapse_try (fun _ => advances_to (.leaveFunding _)) fun _ => ?_
      exact sendTakerPayment_advances fun h => h _ _ _
    · exact sendTakerPayment_advances fun h => h _ _ _
  | makerPaymentConfirmed _ _ _ _ _ _ =>
    iterate 5 refine collapse_try (fun _ => advances_to (.leaveFunding _)) fun _ => ?_
    exact sendTakerPayment_advances fun h => h _ _ _
  | takerPaymentSent _ _ _ _ _ =>
    iterate 2 refine collapse_try (fun _ => advances_to (.leavePayment _)) fun _ => ?_
    exact awaitSpend_advances
  | takerPaymentSentPreimageSendingSkipped _ _ _ _ _ =>
    refine collapse_try (fun _ => advances_to (.leavePayment _)) fun _ => ?_
    exact awaitSpend_advances
  | takerPaymentSpent _ _ _ _ _ => exact takerPaymentSpent_advances id
  | makerPaymentSpent _ _ _ _ =>
    dsimp only [onChanged, makerPaymentSpent]
    split
    · refine collapse_mapError
        (fun e he => advances_to (.loseConfirmation fun h => ?_))
        fun _ _ => advances_to .complete
      cases he.symm.trans (h _)
    · exact advances_to .complete
  | takerFundingRefundRequired _ _ _ _ _ =>
    refine collapse_mapError (fun e he => advances_to (.giveUpFunding _ fun h => ?_)) fun _ _ => ?_
    · obtain ⟨⟨tx, htx⟩, -⟩ := h
      cases he.symm.trans htx
    refine collapse_mapError (fun e he => advances_to (.giveUpFunding _ fun h => ?_)) fun _ _ => ?_
    · obtain ⟨-, ⟨pub, hpub⟩, -⟩ := h
      cases he.symm.trans hpub
    refine collapse_mapError (fun e he => advances_to (.giveUpFunding _ fun h => ?_))
      fun pub _ => leads_some ?_
    · obtain ⟨-, -, ⟨pub, hpub⟩⟩ := h
      rw [CoinAnswers.deriveHtlcPubkeyBytes, hpub] at he
      cases he
    split
    · rename_i tx htx
      rw [result_eq_ok htx]
      exact .refundFunding _ tx
    · exact .failToRefundFunding _ _
  | takerPaymentRefundRequired _ _ _ =>
    refine collapse_check (fun _ => leads_none) fun _ => ?_
    refine collapse_mapError (fun e he => advances_to (.giveUpPayment _ fun h => ?_))
      fun pub _ => leads_some ?_
    · obtain ⟨pub, hpub⟩ := h
      rw [CoinAnswers.deriveHtlcPubkeyBytes, hpub] at he
      cases he
    split
    · rename_i tx htx
      rw [result_eq_ok htx]
      exact .refundPayment _ tx
    · exact .failToRefundPayment _ _
  | takerFundingRefunded _ _ _ | takerPaymentRefunded _ _ _ | completed | aborted _ =>
    exact leads_none

end advances

end Taker

/-! ## The maker -/

namespace Maker

/-- Where the money of a maker is. -/
inductive Stage where
  | unpaid
  | paid (makerPayment : Bytes)
  /-- The maker has spent the taker's payment. -/
  | spent (makerPayment : Bytes)
  | refund (makerPayment : Bytes)
  | refunded
  | completed
  | aborted
  deriving DecidableEq

/-- The stage that a state is in. -/
def State.stage : State → Stage
  | .initialized .. => .unpaid
  | .waitingForTakerFunding .. => .unpaid
  | .takerFundingReceived .. => .unpaid
  | .makerPaymentSentFundingSpendGenerated _ _ _ makerPayment _ _ => .paid makerPayment
  | .takerPaymentReceived _ _ _ makerPayment _ => .paid makerPayment
  | .takerPaymentReceivedPreimageSkipped _ _ _ makerPayment _ => .paid makerPayment
  | .takerPaymentSpent _ _ makerPayment _ _ _ => .spent makerPayment
  | .makerPaymentRefundRequired _ _ _ makerPayment _ => .refund makerPayment
  | .makerPaymentRefunded .. => .refunded
  | .completed => .completed
  | .aborted _ => .aborted

/-- How a maker moves, and what it broadcasts. -/
inductive Moves (hex : MC.Tx → Bytes) (orderly : Prop) :
    Stage → List (Action MC TC) → Stage → Prop
  | negotiate : Moves hex orderly .unpaid [] .unpaid
  | giveUp : Moves hex orderly .unpaid [] .aborted
  | pay (tx : MC.Tx) : Moves hex orderly .unpaid [.paid tx] (.paid (hex tx))
  | payUnnoticed (tx : MC.Tx) : ¬orderly → Moves hex orderly .unpaid [.paid tx] .aborted
  | wait (payment : Bytes) : Moves hex orderly (.paid payment) [] (.paid payment)
  | leave (payment : Bytes) : Moves hex orderly (.paid payment) [] (.refund payment)
  | spend (payment : Bytes) (args : GenTakerPaymentSpendArgs TC) (tx : TC.Tx) :
      Moves hex orderly (.paid payment) [.spentTakerPayment args tx] (.spent payment)
  | spendUnnoticed (payment : Bytes) (args : GenTakerPaymentSpendArgs TC) (tx : TC.Tx) :
      Moves hex orderly (.paid payment) [.spentTakerPayment args tx] (.refund payment)
  | complete (payment : Bytes) : Moves hex orderly (.spent payment) [] .completed
  | loseConfirmation (payment : Bytes) : Moves hex orderly (.spent payment) [] (.refund payment)
  | refund (payment : Bytes) (tx : MC.Tx) :
      Moves hex orderly (.refund payment) [.refund payment (some tx)] .refunded
  | failToRefund (payment : Bytes) (tx : Option MC.Tx) :
      Moves hex orderly (.refund payment) [.refund payment tx] .aborted

/-- What has to be as it should: an error of the broadcast of the payment means that it was not
sent. -/
def Orderly (env : Env MC TC) : State → Prop
  | .takerFundingReceived .. => ∀ args, (env.makerCoin.sendMakerPaymentV2 args).Noticed
  | _ => True

/-- A turn moves from the given stage. -/
def Advances (sm : Machine MC TC) (orderly : Prop) (stage : Stage) (turn : MakerTurn MC TC) :
    Prop :=
  turn.Leads fun sent next => Moves sm.makerCoin.txHex orderly stage sent next.stage

section advances

variable {env : Env MC TC} {sm : Machine MC TC} {orderly : Prop} {stage : Stage}
  {mb tb : UInt64} {data : StoredMakerNegotiationData}

theorem advances_to {next : State}
    (h : Moves sm.makerCoin.txHex orderly stage ([] : List (Action MC TC)) next.stage) :
    Advances sm orderly stage (changeState next) :=
  leads_some h

theorem init_advances : Advances sm orderly .unpaid (init env sm) := by
  iterate 5 refine collapse_try (fun _ => advances_to .giveUp) fun _ => ?_
  refine collapse_check (fun _ => advances_to .giveUp) fun _ => ?_
  exact advances_to .negotiate

variable {makerPayment takerPayment : Bytes}

theorem pollFundingSpend_advances {takerFunding : TC.Tx} (polls : List (FundingPoll TC)) :
    Advances sm orderly (.paid makerPayment)
      (pollFundingSpend sm mb tb data makerPayment takerFunding polls) := by
  induction polls with
  | nil => exact leads_none
  | cons poll polls ih =>
    unfold pollFundingSpend
    split
    · exact advances_to (.leave _)
    · split
      · split
        · exact advances_to (.wait _)
        · exact advances_to (.wait _)
      · exact advances_to (.leave _)
      · exact advances_to (.leave _)
      · exact ih
      · exact ih
      · exact advances_to (.leave _)

theorem spendTakerPayment_advances {args : GenTakerPaymentSpendArgs TC} {answer : Broadcast TC.Tx} :
    Advances sm orderly (.paid makerPayment)
      (spendTakerPayment sm mb tb data makerPayment takerPayment args answer) := by
  refine leads_some ?_
  cases answer with
  | sent tx => exact .spend makerPayment args tx
  | sentUnnoticed tx e => exact .spendUnnoticed makerPayment args tx
  | failed e => exact .leave makerPayment

/-- **A state of the maker moves as its stage does.** -/
theorem onChanged_advances (state : State) :
    Advances sm (Orderly env state) state.stage (onChanged env sm state) := by
  cases state with
  | initialized _ _ _ _ =>
    iterate 4 refine collapse_try (fun _ => advances_to .giveUp) fun _ => ?_
    exact advances_to .negotiate
  | waitingForTakerFunding _ _ _ _ =>
    iterate 2 refine collapse_try (fun _ => advances_to .giveUp) fun _ => ?_
    exact advances_to .negotiate
  | takerFundingReceived _ _ _ _ _ =>
    iterate 3 refine collapse_try (fun _ => advances_to .giveUp) fun _ => ?_
    -- with and without the wait for the funding the rest is the same
    split
    on_goal 1 => refine collapse_try (fun _ => advances_to .giveUp) fun _ => ?_
    all_goals
      iterate 3 refine collapse_try (fun _ => advances_to .giveUp) fun _ => ?_
      refine collapse_mapError (fun e he => leads_some ?_) fun tx htx => leads_some ?_
      · exact reached_of_error he .giveUp fun tx hun => .payUnnoticed tx fun h => hun (h _)
      · rw [result_eq_ok htx]
        exact .pay tx
  | makerPaymentSentFundingSpendGenerated _ _ _ _ _ _ =>
    refine collapse_try (fun _ => advances_to (.leave _)) fun _ => ?_
    exact pollFundingSpend_advances _
  | takerPaymentReceived _ _ _ _ _ =>
    iterate 6 refine collapse_try (fun _ => advances_to (.leave _)) fun _ => ?_
    exact spendTakerPayment_advances
  | takerPaymentReceivedPreimageSkipped _ _ _ _ _ =>
    iterate 2 refine collapse_try (fun _ => advances_to (.leave _)) fun _ => ?_
    exact spendTakerPayment_advances
  | takerPaymentSpent _ _ _ _ _ _ =>
    dsimp only [onChanged, takerPaymentSpent]
    split
    · exact collapse_mapError (fun _ _ => advances_to (.loseConfirmation _))
        fun _ _ => advances_to (.complete _)
    · exact advances_to (.complete _)
  | makerPaymentRefundRequired _ _ _ _ _ =>
    dsimp only [onChanged, makerPaymentRefundRequired]
    split
    · refine leads_some ?_
      split
      · rename_i tx htx
        rw [result_eq_ok htx]
        exact .refund _ tx
      · exact .failToRefund _ _
    · exact leads_none
  | makerPaymentRefunded _ _ _ | completed | aborted _ => exact leads_none

end advances

end Maker

end CheetahDex.SwapV2
