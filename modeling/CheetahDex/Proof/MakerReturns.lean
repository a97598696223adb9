import CheetahDex.Swap.MakerSwap

/-!
# What the maker's commands return

`MakerReturns` lists, once, every result of a command: the events it produces together with the
command that is next. What is proved about a maker's swap elsewhere goes through this list and not
through the commands.
-/

namespace CheetahDex.Proof

open Lib Ordermatch Swap

/-- What the data of a start take over from the swap, and how the lock time is computed. -/
structure MakerStarted (swap : MakerSwap) (data : MakerSwapData) : Prop where
  makerContract : data.makerCoinSwapContractAddress = swap.makerCoin.swapContractAddress
  takerContract : data.takerCoinSwapContractAddress = swap.takerCoin.swapContractAddress
  takerAmount : data.takerAmount = swap.takerAmount
  lockDuration : data.lockDuration = swap.paymentLocktime
  makerPaymentLock : data.makerPaymentLock = data.startedAt + data.lockDuration * 2

/-- The results of each command. -/
inductive MakerReturns (swap : MakerSwap) : MakerSwapCommand → MakerOutcome → Prop where
  | waiting : MakerReturns swap .refundMakerPayment .waiting
  | panicked (command : MakerSwapCommand) : MakerReturns swap command .panicked
  | started {data : MakerSwapData} (h : MakerStarted swap data) (hsec : data.secretHash.isSome) :
    MakerReturns swap .start (.returned (some .negotiate) [.started data])
  | startFailed (e : String) : MakerReturns swap .start (.finish .startFailed e)
  | negotiated (data : TakerNegotiationData) :
    MakerReturns swap .negotiate (.returned (some .waitForTakerFee) [.negotiated data])
  | negotiateFailed (e : String) : MakerReturns swap .negotiate (.finish .negotiateFailed e)
  | takerFeeValidated (tx : TransactionIdentifier) :
    MakerReturns swap .waitForTakerFee (.returned (some .sendPayment) [.takerFeeValidated tx])
  | takerFeeValidateFailed (e : String) :
    MakerReturns swap .waitForTakerFee (.finish .takerFeeValidateFailed e)
  | makerPaymentSent (tx : TransactionIdentifier) :
    MakerReturns swap .sendPayment (.returned (some .waitForTakerPayment) [.makerPaymentSent tx])
  | makerPaymentTransactionFailed (e : String) :
    MakerReturns swap .sendPayment (.finish .makerPaymentTransactionFailed e)
  | takerPaymentReceived (tx : TransactionIdentifier) :
    MakerReturns swap .waitForTakerPayment (.returned (some .validateTakerPayment)
      [.takerPaymentReceived tx, .takerPaymentWaitConfirmStarted])
  | makerPaymentWaitConfirmFailed (e : String) :
    MakerReturns swap .waitForTakerPayment (.refund swap .makerPaymentWaitConfirmFailed e)
  | takerPaymentNotReceived (e : String) :
    MakerReturns swap .waitForTakerPayment (.refund swap .takerPaymentValidateFailed e)
  | takerPaymentValidatedAndConfirmed : MakerReturns swap .validateTakerPayment
      (.returned (some .spendTakerPayment) [.takerPaymentValidatedAndConfirmed])
  | takerPaymentWaitConfirmFailed (e : String) :
    MakerReturns swap .validateTakerPayment (.refund swap .takerPaymentWaitConfirmFailed e)
  | takerPaymentValidateFailed (e : String) :
    MakerReturns swap .validateTakerPayment (.refund swap .takerPaymentValidateFailed e)
  | takerPaymentSpent (tx : TransactionIdentifier) :
    MakerReturns swap .spendTakerPayment (.returned (some .confirmTakerPaymentSpend)
      [.takerPaymentSpent tx, .takerPaymentSpendConfirmStarted])
  | takerPaymentSpendFailed (e : String) :
    MakerReturns swap .spendTakerPayment (.refund swap .takerPaymentSpendFailed e)
  | takerPaymentSpendConfirmed : MakerReturns swap .confirmTakerPaymentSpend
      (.returned (some .finish) [.takerPaymentSpendConfirmed])
  | takerPaymentSpendConfirmFailed (e : String) :
    MakerReturns swap .confirmTakerPaymentSpend (.refund swap .takerPaymentSpendConfirmFailed e)
  | makerPaymentRefunded (tx : TransactionIdentifier) :
    MakerReturns swap .refundMakerPayment (.returned (some .finish) [.makerPaymentRefunded tx])
  | makerPaymentRefundFailed (e : String) :
    MakerReturns swap .refundMakerPayment (.finish .makerPaymentRefundFailed e)
  | finished : MakerReturns swap .finish (.returned none [.finished])

namespace MakerReturns

/-- **Every result of every command is in the list:** one case for each place that a command returns
from. -/
theorem handleCommand (env : MakerEnv) (swap : MakerSwap) (command : MakerSwapCommand) :
    MakerReturns swap command (swap.handleCommand env command) := by
  cases command with
  | start =>
    iterate 5 refine collapse_try (fun _ => .startFailed _) fun _ => ?_
    exact .started ⟨rfl, rfl, rfl, rfl, rfl⟩ rfl
  | negotiate =>
    refine collapse_try (fun _ => .negotiateFailed _) fun _ => ?_
    iterate 2 refine collapse_check (fun _ => .negotiateFailed _) fun _ => ?_
    iterate 2 refine collapse_try (fun _ => .negotiateFailed _) fun _ => ?_
    -- a public key that is too short panics
    iterate 2 refine collapse_orError (.panicked _) fun _ => ?_
    exact .negotiated _
  | waitForTakerFee =>
    iterate 3 refine collapse_try (fun _ => .takerFeeValidateFailed _) fun _ => ?_
    exact .takerFeeValidated _
  | sendPayment =>
    refine collapse_check (fun _ => .makerPaymentTransactionFailed _) fun _ => ?_
    refine collapse_try (fun _ => .makerPaymentTransactionFailed _) fun _ => ?_
    exact .makerPaymentSent _
  | waitForTakerPayment =>
    refine collapse_orError (.panicked _) fun _ => ?_
    refine collapse_try (fun _ => .makerPaymentWaitConfirmFailed _) fun _ => ?_
    iterate 2 refine collapse_try (fun _ => .takerPaymentNotReceived _) fun _ => ?_
    exact .takerPaymentReceived _
  | validateTakerPayment =>
    refine collapse_orError (.panicked _) fun _ => ?_
    refine collapse_try (fun _ => .takerPaymentWaitConfirmFailed _) fun _ => ?_
    refine collapse_try (fun _ => .takerPaymentValidateFailed _) fun _ => ?_
    exact .takerPaymentValidatedAndConfirmed
  | spendTakerPayment =>
    refine collapse_check (fun _ => .takerPaymentSpendFailed _) fun _ => ?_
    refine collapse_orError (.panicked _) fun _ => ?_
    refine collapse_try (fun _ => .takerPaymentSpendFailed _) fun _ => ?_
    exact .takerPaymentSpent _
  | confirmTakerPaymentSpend =>
    refine collapse_orError (.panicked _) fun _ => ?_
    refine collapse_try (fun _ => .takerPaymentSpendConfirmFailed _) fun _ => ?_
    exact .takerPaymentSpendConfirmed
  | refundMakerPayment =>
    refine collapse_check (fun _ => .waiting) fun _ => ?_
    refine collapse_orError (.panicked _) fun _ => ?_
    refine collapse_try (fun _ => .makerPaymentRefundFailed _) fun _ => ?_
    exact .makerPaymentRefunded _
  | finish => exact .finished

variable {swap : MakerSwap} {command : MakerSwapCommand} {next : Option MakerSwapCommand}
  {events : List MakerSwapEvent}

theorem started_of_start {env : MakerEnv} {data : MakerSwapData}
    (h : swap.start env = .returned next [.started data]) : MakerStarted swap data := by
  have hrt := handleCommand env swap .start
  change MakerReturns swap .start (swap.start env) at hrt
  rw [h] at hrt
  cases hrt with
  | started hdt _ => exact hdt

theorem of_handle {env : MakerEnv}
    (h : MakerSwap.process.handle env swap command = .returned next events) :
    MakerReturns swap command (.returned next events) := by
  rw [← h]
  exact handleCommand env swap command

section

variable (h : MakerReturns swap command (.returned next events))

include h

theorem events_ne_nil : events ≠ [] := by cases h <;> exact List.cons_ne_nil _ _

/-- **The table of a restart agrees with every result.** -/
theorem getCommand_eq : ∀ event ∈ events, event.getCommand = next := by
  cases h <;> simp [MakerSwapEvent.getCommand]

end

end MakerReturns

end CheetahDex.Proof
