import CheetahDex.Swap.TakerSwap

/-!
# What the taker's commands return

The list of the results that the commands of the taker's swap can have. It has two entries,
`secretNotFound` and `makerPaymentSpendFailed`, that finish the live swap where the table of a
restart goes on with a refund.
-/

namespace CheetahDex.Proof

open Lib Ordermatch Swap

/-- What the data of a start take over from the swap, and how the lock time is computed. -/
structure TakerStarted (swap : TakerSwap) (data : TakerSwapData) : Prop where
  makerContract : data.makerCoinSwapContractAddress = swap.makerCoin.swapContractAddress
  takerContract : data.takerCoinSwapContractAddress = swap.takerCoin.swapContractAddress
  lockDuration : data.lockDuration = swap.paymentLocktime
  takerPaymentLock : data.takerPaymentLock = data.startedAt + data.lockDuration

/-- The results of each command. -/
inductive TakerReturns (swap : TakerSwap) : TakerSwapCommand → TakerOutcome → Prop where
  | waiting : TakerReturns swap .refundTakerPayment .waiting
  | panicked (command : TakerSwapCommand) : TakerReturns swap command .panicked
  | started {data : TakerSwapData} (h : TakerStarted swap data) :
    TakerReturns swap .start (.returned (some .negotiate) [.started data])
  | startFailed (e : String) : TakerReturns swap .start (.finish .startFailed e)
  | negotiated (data : MakerNegotiationData) :
    TakerReturns swap .negotiate (.returned (some .sendTakerFee) [.negotiated data])
  | negotiateFailed (e : String) : TakerReturns swap .negotiate (.finish .negotiateFailed e)
  | takerFeeSent (tx : TransactionIdentifier) :
    TakerReturns swap .sendTakerFee (.returned (some .waitForMakerPayment) [.takerFeeSent tx])
  | takerFeeSendFailed (e : String) :
    TakerReturns swap .sendTakerFee (.finish .takerFeeSendFailed e)
  | makerPaymentReceived (tx : TransactionIdentifier) :
    TakerReturns swap .waitForMakerPayment (.returned (some .validateMakerPayment)
      [.makerPaymentReceived tx, .makerPaymentWaitConfirmStarted])
  | makerPaymentNotReceived (e : String) :
    TakerReturns swap .waitForMakerPayment (.finish .makerPaymentValidateFailed e)
  | makerPaymentValidatedAndConfirmed : TakerReturns swap .validateMakerPayment
      (.returned (some .sendTakerPayment) [.makerPaymentValidatedAndConfirmed])
  | makerPaymentWaitConfirmFailed (e : String) :
    TakerReturns swap .validateMakerPayment (.finish .makerPaymentWaitConfirmFailed e)
  | makerPaymentValidateFailed (e : String) :
    TakerReturns swap .validateMakerPayment (.finish .makerPaymentValidateFailed e)
  | takerPaymentSent (tx : TransactionIdentifier) :
    TakerReturns swap .sendTakerPayment (.returned (some .waitForTakerPaymentSpend)
      [.takerPaymentSent tx])
  | takerPaymentTransactionFailed (e : String) :
    TakerReturns swap .sendTakerPayment (.finish .takerPaymentTransactionFailed e)
  | takerPaymentSpent (data : TakerPaymentSpentData) :
    TakerReturns swap .waitForTakerPaymentSpend (.returned (some .spendMakerPayment)
      [.takerPaymentSpent data])
  | takerPaymentWaitConfirmFailed (e : String) :
    TakerReturns swap .waitForTakerPaymentSpend (.refund swap .takerPaymentWaitConfirmFailed e)
  | takerPaymentWaitForSpendFailed (e : String) :
    TakerReturns swap .waitForTakerPaymentSpend (.refund swap .takerPaymentWaitForSpendFailed e)
  | secretNotFound (e : String) :
    TakerReturns swap .waitForTakerPaymentSpend (.finish .takerPaymentWaitForSpendFailed e)
  | makerPaymentSpent (tx : TransactionIdentifier) :
    TakerReturns swap .spendMakerPayment (.returned (some .finish) [.makerPaymentSpent tx])
  | makerPaymentSpendFailed (e : String) :
    TakerReturns swap .spendMakerPayment (.finish .makerPaymentSpendFailed e)
  | takerPaymentRefunded (tx : TransactionIdentifier) :
    TakerReturns swap .refundTakerPayment (.returned (some .finish) [.takerPaymentRefunded tx])
  | takerPaymentRefundFailed (e : String) :
    TakerReturns swap .refundTakerPayment (.finish .takerPaymentRefundFailed e)
  | finished : TakerReturns swap .finish (.returned none [.finished])

namespace TakerReturns

/-- **Every result of every command is in the list:** one case for each place that a command returns
from. -/
theorem handleCommand (env : TakerEnv) (swap : TakerSwap) (command : TakerSwapCommand) :
    TakerReturns swap command (swap.handleCommand env command) := by
  cases command with
  | start =>
    iterate 6 refine collapse_try (fun _ => .startFailed _) fun _ => ?_
    exact .started ⟨rfl, rfl, rfl, rfl⟩
  | negotiate =>
    refine collapse_try (fun _ => .negotiateFailed _) fun _ => ?_
    iterate 2 refine collapse_check (fun _ => .negotiateFailed _) fun _ => ?_
    iterate 3 refine collapse_try (fun _ => .negotiateFailed _) fun _ => ?_
    refine collapse_check (fun _ => .negotiateFailed _) fun _ => ?_
    -- a hash or a public key that is too short panics
    iterate 3 refine collapse_orError (.panicked _) fun _ => ?_
    exact .negotiated _
  | sendTakerFee =>
    refine collapse_check (fun _ => .takerFeeSendFailed _) fun _ => ?_
    refine collapse_try (fun _ => .takerFeeSendFailed _) fun _ => ?_
    exact .takerFeeSent _
  | waitForMakerPayment =>
    refine collapse_orError (.panicked _) fun _ => ?_
    iterate 2 refine collapse_try (fun _ => .makerPaymentNotReceived _) fun _ => ?_
    exact .makerPaymentReceived _
  | validateMakerPayment =>
    refine collapse_orError (.panicked _) fun _ => ?_
    refine collapse_try (fun _ => .makerPaymentWaitConfirmFailed _) fun _ => ?_
    refine collapse_try (fun _ => .makerPaymentValidateFailed _) fun _ => ?_
    exact .makerPaymentValidatedAndConfirmed
  | sendTakerPayment =>
    refine collapse_check (fun _ => .takerPaymentTransactionFailed _) fun _ => ?_
    refine collapse_try (fun _ => .takerPaymentTransactionFailed _) fun _ => ?_
    exact .takerPaymentSent _
  | waitForTakerPaymentSpend =>
    refine collapse_orError (.panicked _) fun _ => ?_
    refine collapse_try (fun _ => .takerPaymentWaitConfirmFailed _) fun _ => ?_
    refine collapse_try (fun _ => .takerPaymentWaitForSpendFailed _) fun _ => ?_
    refine collapse_try (fun _ => .secretNotFound _) fun _ => ?_
    refine collapse_orError (.panicked _) fun _ => ?_
    exact .takerPaymentSpent _
  | spendMakerPayment =>
    refine collapse_orError (.panicked _) fun _ => ?_
    refine collapse_try (fun _ => .makerPaymentSpendFailed _) fun _ => ?_
    exact .makerPaymentSpent _
  | refundTakerPayment =>
    refine collapse_check (fun _ => .waiting) fun _ => ?_
    refine collapse_orError (.panicked _) fun _ => ?_
    refine collapse_try (fun _ => .takerPaymentRefundFailed _) fun _ => ?_
    exact .takerPaymentRefunded _
  | finish => exact .finished

variable {swap : TakerSwap} {command : TakerSwapCommand} {next : Option TakerSwapCommand}
  {events : List TakerSwapEvent}

theorem started_of_start {env : TakerEnv} {data : TakerSwapData}
    (h : swap.start env = .returned next [.started data]) : TakerStarted swap data := by
  have hrt := handleCommand env swap .start
  change TakerReturns swap .start (swap.start env) at hrt
  rw [h] at hrt
  cases hrt with
  | started hdt => exact hdt

theorem of_handle {env : TakerEnv}
    (h : TakerSwap.process.handle env swap command = .returned next events) :
    TakerReturns swap command (.returned next events) := by
  rw [← h]
  exact handleCommand env swap command

section

variable (h : TakerReturns swap command (.returned next events))

include h

theorem events_ne_nil : events ≠ [] := by cases h <;> exact List.cons_ne_nil _ _

/-- The table of a restart agrees with a result, or it refunds what the live swap has given up. -/
theorem getCommand_eq :
    (∀ event ∈ events, event.getCommand = next) ∨
      ((∀ event ∈ events, event.getCommand = some .refundTakerPayment) ∧ next = some .finish ∧
        command ∈ [.waitForTakerPaymentSpend, .spendMakerPayment]) := by
  cases h with
  | secretNotFound e | makerPaymentSpendFailed e =>
    exact .inr ⟨List.forall_mem_singleton.2 rfl, rfl, by decide⟩
  | _ => exact .inl (by simp [TakerSwapEvent.getCommand])

end

end TakerReturns

end CheetahDex.Proof
