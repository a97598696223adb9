import CheetahDex.Lib.Paths
import CheetahDex.Proof.MakerRestarts
import CheetahDex.Proof.TakerRestarts

/-!
# The logs of swaps

The order in which the events of a swap are saved. It is the same with and without restarts, up to
one thing: a taker that could not spend the maker's payment finishes, or, restarted before that is
saved, tries to get its own payment back.
-/

namespace CheetahDex.Proof

open Lib Ordermatch Swap

/-! ## The taker -/

/-- How far the log of a taker has come. -/
inductive TakerPhase where
  | fresh
  | started
  | negotiated
  | feeSent
  | received
  | validated
  | paid
  | spent
  | spendFailed
  | refunding
  | ending
  | ended

namespace TakerPhase

/-- The command a restart goes on with. -/
def command : TakerPhase → Option TakerSwapCommand
  | fresh => some .start
  | started => some .negotiate
  | negotiated => some .sendTakerFee
  | feeSent => some .waitForMakerPayment
  | received => some .validateMakerPayment
  | validated => some .sendTakerPayment
  | paid => some .waitForTakerPaymentSpend
  | spent => some .spendMakerPayment
  | spendFailed => some .refundTakerPayment
  | refunding => some .refundTakerPayment
  | ending => some .finish
  | ended => none

/-- The live swap may finish where a restart refunds. -/
def Runs (phase : TakerPhase) (next : Option TakerSwapCommand) : Prop :=
  phase.command = next ∨ (phase.command = some .refundTakerPayment ∧ next = some .finish)

/-- Where each event leads. -/
inductive Emits : TakerPhase → TakerSwapEvent → TakerPhase → Prop where
  | started (data : TakerSwapData) : Emits fresh (.started data) started
  | startFailed (error : SwapError) : Emits fresh (.startFailed error) ending
  | negotiated (data : MakerNegotiationData) : Emits started (.negotiated data) negotiated
  | negotiateFailed (error : SwapError) : Emits started (.negotiateFailed error) ending
  | feeSent (tx : TransactionIdentifier) : Emits negotiated (.takerFeeSent tx) feeSent
  | feeSendFailed (error : SwapError) : Emits negotiated (.takerFeeSendFailed error) ending
  | received (tx : TransactionIdentifier) : Emits feeSent (.makerPaymentReceived tx) received
  | notReceived (error : SwapError) : Emits feeSent (.makerPaymentValidateFailed error) ending
  | waitConfirmStarted : Emits received .makerPaymentWaitConfirmStarted received
  | validated : Emits received .makerPaymentValidatedAndConfirmed validated
  | waitConfirmFailed (error : SwapError) :
    Emits received (.makerPaymentWaitConfirmFailed error) ending
  | validateFailed (error : SwapError) : Emits received (.makerPaymentValidateFailed error) ending
  | paid (tx : TransactionIdentifier) : Emits validated (.takerPaymentSent tx) paid
  | notPaid (error : SwapError) : Emits validated (.takerPaymentTransactionFailed error) ending
  | spent (data : TakerPaymentSpentData) : Emits paid (.takerPaymentSpent data) spent
  | notConfirmed (error : SwapError) : Emits paid (.takerPaymentWaitConfirmFailed error) refunding
  | notSpent (error : SwapError) : Emits paid (.takerPaymentWaitForSpendFailed error) refunding
  | waitRefundStarted (waitUntil : UInt64) :
    Emits refunding (.takerPaymentWaitRefundStarted waitUntil) refunding
  | makerPaymentSpent (tx : TransactionIdentifier) : Emits spent (.makerPaymentSpent tx) ending
  | spendFailed (error : SwapError) : Emits spent (.makerPaymentSpendFailed error) spendFailed
  | refunded {phase : TakerPhase} (h : phase.command = some .refundTakerPayment)
    (tx : TransactionIdentifier) : Emits phase (.takerPaymentRefunded tx) ending
  | refundFailed {phase : TakerPhase} (h : phase.command = some .refundTakerPayment)
    (error : SwapError) : Emits phase (.takerPaymentRefundFailed error) ending
  | givenUp {phase : TakerPhase} (h : phase.command = some .refundTakerPayment) :
    Emits phase .finished ended
  | finished : Emits ending .finished ended

theorem Emits.getCommand_eq {p q : TakerPhase} {event : TakerSwapEvent} (h : Emits p event q) :
    event.getCommand = q.command := by
  cases h <;> rfl

end TakerPhase

namespace TakerFollows

open TakerPhase Outcome

variable {swap : TakerSwap} {p : TakerPhase} {event : SwapError → TakerSwapEvent} {error : String}

theorem finish (h : Emits p (event ⟨error⟩) ending) :
    (TakerOutcome.finish event error).Follows Emits Runs p :=
  follows_one h (.inl rfl)

theorem refund (h : Emits p (event ⟨error⟩) refunding) :
    (TakerOutcome.refund swap event error).Follows Emits Runs p :=
  follows_two h (.waitRefundStarted _) (.inl rfl)

/-- The events of a result are steps of the phase that its command belongs to. -/
theorem of_command {command : TakerSwapCommand} {o : TakerOutcome}
    (h : TakerReturns swap command o) (hcmd : p.command = some command) :
    o.Follows Emits Runs p := by
  cases h with
  | waiting | panicked => exact trivial
  | startFailed | negotiateFailed | takerFeeSendFailed | makerPaymentNotReceived
  | makerPaymentWaitConfirmFailed | makerPaymentValidateFailed | takerPaymentTransactionFailed =>
    cases p <;> cases hcmd
    exact finish (by constructor)
  | takerPaymentWaitConfirmFailed | takerPaymentWaitForSpendFailed =>
    cases p <;> cases hcmd
    exact refund (by constructor)
  | secretNotFound | makerPaymentSpendFailed =>
    -- the live swap finishes after an event that a restart refunds after
    cases p <;> cases hcmd
    exact follows_one (by constructor) (by exact .inr ⟨rfl, rfl⟩)
  | makerPaymentReceived tx =>
    cases p <;> cases hcmd
    exact follows_two (.received tx) .waitConfirmStarted (.inl rfl)
  | started | negotiated | takerFeeSent | makerPaymentValidatedAndConfirmed | takerPaymentSent
  | takerPaymentSpent | makerPaymentSpent =>
    cases p <;> cases hcmd
    exact follows_one (by constructor) (by exact .inl rfl)
  | takerPaymentRefunded tx => exact follows_one (.refunded hcmd tx) (.inl rfl)
  | takerPaymentRefundFailed e => exact finish (.refundFailed hcmd _)
  | finished =>
    cases p <;> cases hcmd
    exact follows_one .finished (.inl rfl)

theorem handleCommand (env : TakerEnv) (swap : TakerSwap) {command : TakerSwapCommand}
    (h : p.Runs (some command)) : (swap.handleCommand env command).Follows Emits Runs p := by
  rcases h with hcmd | ⟨href, hfin⟩
  · exact of_command (TakerReturns.handleCommand env swap command) hcmd
  · cases hfin
    exact follows_one (.givenUp href) (.inl rfl)

end TakerFollows

/-- The swap of a taker, restarted or not, follows the phases. -/
theorem takerPhases (ctx : SwapCtx) (makerCoin takerCoin : SwapCoin) (uuid : Uuid) :
    (TakerSwap.durable ctx makerCoin takerCoin uuid).Phases TakerPhase.Emits TakerPhase.Runs
      .fresh where
  handle := fun env swap _ _ hrn => TakerFollows.handleCommand env swap hrn
  writes := fun hret => (TakerReturns.of_handle hret).events_ne_nil
  load := by
    intro env journal swap command phase hpt hld
    have hcmd := hpt.commandAt_eq (fun h => TakerPhase.Emits.getCommand_eq h) rfl
    exact .inl (hcmd.symm.trans (TakerRestarts.load_started hld).1)

/-! ## The maker -/

/-- How far the log of a maker has come. -/
inductive MakerPhase where
  | fresh
  | started
  | negotiated
  | feeValidated
  | paid
  | received
  | validated
  | spent
  | refunding
  | ending
  | ended

namespace MakerPhase

/-- The command a restart goes on with. -/
def command : MakerPhase → Option MakerSwapCommand
  | fresh => some .start
  | started => some .negotiate
  | negotiated => some .waitForTakerFee
  | feeValidated => some .sendPayment
  | paid => some .waitForTakerPayment
  | received => some .validateTakerPayment
  | validated => some .spendTakerPayment
  | spent => some .confirmTakerPaymentSpend
  | refunding => some .refundMakerPayment
  | ending => some .finish
  | ended => none

/-- The live swap goes on as a restart does. -/
def Runs (phase : MakerPhase) (next : Option MakerSwapCommand) : Prop := phase.command = next

/-- Where each event leads. -/
inductive Emits : MakerPhase → MakerSwapEvent → MakerPhase → Prop where
  | started (data : MakerSwapData) (h : data.secretHash.isSome) :
    Emits fresh (.started data) started
  | startFailed (error : SwapError) : Emits fresh (.startFailed error) ending
  | negotiated (data : TakerNegotiationData) : Emits started (.negotiated data) negotiated
  | negotiateFailed (error : SwapError) : Emits started (.negotiateFailed error) ending
  | feeValidated (tx : TransactionIdentifier) :
    Emits negotiated (.takerFeeValidated tx) feeValidated
  | feeValidateFailed (error : SwapError) : Emits negotiated (.takerFeeValidateFailed error) ending
  | paid (tx : TransactionIdentifier) : Emits feeValidated (.makerPaymentSent tx) paid
  | notPaid (error : SwapError) : Emits feeValidated (.makerPaymentTransactionFailed error) ending
  | notConfirmed (error : SwapError) : Emits paid (.makerPaymentWaitConfirmFailed error) refunding
  | received (tx : TransactionIdentifier) : Emits paid (.takerPaymentReceived tx) received
  | notReceived (error : SwapError) : Emits paid (.takerPaymentValidateFailed error) refunding
  | waitConfirmStarted : Emits received .takerPaymentWaitConfirmStarted received
  | validated : Emits received .takerPaymentValidatedAndConfirmed validated
  | waitConfirmFailed (error : SwapError) :
    Emits received (.takerPaymentWaitConfirmFailed error) refunding
  | validateFailed (error : SwapError) :
    Emits received (.takerPaymentValidateFailed error) refunding
  | spent (tx : TransactionIdentifier) : Emits validated (.takerPaymentSpent tx) spent
  | spendFailed (error : SwapError) : Emits validated (.takerPaymentSpendFailed error) refunding
  | spendConfirmStarted : Emits spent .takerPaymentSpendConfirmStarted spent
  | spendConfirmed : Emits spent .takerPaymentSpendConfirmed ending
  | spendConfirmFailed (error : SwapError) :
    Emits spent (.takerPaymentSpendConfirmFailed error) refunding
  | waitRefundStarted (waitUntil : UInt64) :
    Emits refunding (.makerPaymentWaitRefundStarted waitUntil) refunding
  | refunded (tx : TransactionIdentifier) : Emits refunding (.makerPaymentRefunded tx) ending
  | refundFailed (error : SwapError) : Emits refunding (.makerPaymentRefundFailed error) ending
  | finished : Emits ending .finished ended

theorem Emits.getCommand_eq {p q : MakerPhase} {event : MakerSwapEvent} (h : Emits p event q) :
    event.getCommand = q.command := by
  cases h <;> rfl

end MakerPhase

namespace MakerFollows

open MakerPhase Outcome

variable {swap : MakerSwap} {p : MakerPhase} {event : SwapError → MakerSwapEvent} {error : String}

theorem finish (h : Emits p (event ⟨error⟩) ending) :
    (MakerOutcome.finish event error).Follows Emits Runs p :=
  follows_one h rfl

theorem refund (h : Emits p (event ⟨error⟩) refunding) :
    (MakerOutcome.refund swap event error).Follows Emits Runs p :=
  follows_two h (.waitRefundStarted _) rfl

@[inherit_doc TakerFollows.of_command]
theorem of_command {command : MakerSwapCommand} {o : MakerOutcome}
    (h : MakerReturns swap command o) (hcmd : p.Runs (some command)) :
    o.Follows Emits Runs p := by
  cases h with
  | waiting | panicked => exact trivial
  | startFailed | negotiateFailed | takerFeeValidateFailed | makerPaymentTransactionFailed
  | makerPaymentRefundFailed =>
    cases p <;> cases hcmd
    exact finish (by constructor)
  | makerPaymentWaitConfirmFailed | takerPaymentNotReceived | takerPaymentWaitConfirmFailed
  | takerPaymentValidateFailed | takerPaymentSpendFailed | takerPaymentSpendConfirmFailed =>
    cases p <;> cases hcmd
    exact refund (by constructor)
  | started _ hsec =>
    cases p <;> cases hcmd
    exact follows_one (.started _ hsec) rfl
  | takerPaymentReceived | takerPaymentSpent =>
    cases p <;> cases hcmd
    exact follows_two (by constructor) (by constructor) (by exact rfl)
  | negotiated | takerFeeValidated | makerPaymentSent | takerPaymentValidatedAndConfirmed
  | takerPaymentSpendConfirmed | makerPaymentRefunded | finished =>
    cases p <;> cases hcmd
    exact follows_one (by constructor) (by exact rfl)

end MakerFollows

/-- The swap of a maker, restarted or not, follows the phases. -/
theorem makerPhases (ctx : SwapCtx) (makerCoin takerCoin : SwapCoin) (uuid : Uuid)
    (myOrderUuid : Option Uuid) :
    (MakerSwap.durable ctx makerCoin takerCoin uuid myOrderUuid).Phases MakerPhase.Emits
      MakerPhase.Runs .fresh where
  handle := fun env swap command _ hrn =>
    MakerFollows.of_command (MakerReturns.handleCommand env swap command) hrn
  writes := fun hret => (MakerReturns.of_handle hret).events_ne_nil
  load := by
    intro env journal swap command phase hpt hld
    have hcmd := hpt.commandAt_eq (fun h => MakerPhase.Emits.getCommand_eq h) rfl
    exact hcmd.symm.trans (MakerRestarts.load_started hld).1

/-! ## Milestones -/

/-- The place of an event in a swap that succeeds, from one on. -/
def makerMilestone : MakerSwapEvent → ℕ
  | .started _ => 1
  | .negotiated _ => 2
  | .takerFeeValidated _ => 3
  | .makerPaymentSent _ => 4
  | .takerPaymentReceived _ => 5
  | .takerPaymentValidatedAndConfirmed => 6
  | .takerPaymentSpent _ => 7
  | .takerPaymentSpendConfirmed => 8
  | _ => 0

def takerMilestone : TakerSwapEvent → ℕ
  | .started _ => 1
  | .negotiated _ => 2
  | .takerFeeSent _ => 3
  | .makerPaymentReceived _ => 4
  | .makerPaymentValidatedAndConfirmed => 5
  | .takerPaymentSent _ => 6
  | .takerPaymentSpent _ => 7
  | .makerPaymentSpent _ => 8
  | _ => 0

/-- **However often a swap crashes, its log has the milestones in order and without gaps.** -/
theorem milestones_in_order (ctx : SwapCtx) (makerCoin takerCoin : SwapCoin) (uuid : Uuid)
    (myOrderUuid : Option Uuid) :
    (∀ swap (moves : List (Move MakerEnv)), ∃ n, ((moves.foldl
      (MakerSwap.durable ctx makerCoin takerCoin uuid myOrderUuid).step
      (.init swap .start)).journal.map makerMilestone).filter (0 < ·) = List.range' 1 n) ∧
    ∀ swap (moves : List (Move TakerEnv)), ∃ n, ((moves.foldl
      (TakerSwap.durable ctx makerCoin takerCoin uuid).step
      (.init swap .start)).journal.map takerMilestone).filter (0 < ·) = List.range' 1 n := by
  -- the phases before a swap goes wrong are declared first, in the order of the milestones
  constructor <;> intro swap moves
  · refine ((makerPhases ..).path_of_run swap rfl moves).elim fun _ h =>
      h.milestones (A := fun p n => p.ctorIdx < 8 → n = p.ctorIdx) ?_ fun _ => rfl
    rintro p e q n ⟨⟩ hn <;> simp_all [makerMilestone, MakerPhase.ctorIdx]
  · refine ((takerPhases ..).path_of_run swap (.inl rfl) moves).elim fun _ h =>
      h.milestones (A := fun p n => p.ctorIdx < 8 → n = p.ctorIdx) ?_ fun _ => rfl
    rintro p e q n ⟨⟩ hn <;> simp_all [takerMilestone, TakerPhase.ctorIdx]

end CheetahDex.Proof
