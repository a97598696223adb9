import CheetahDex.Lib.SendOnce
import CheetahDex.Proof.MakerRecovery
import CheetahDex.Swap.Restarts

/-!
# The maker's payment across restarts

A maker that is interrupted between the broadcast of its payment and the saving of the event
executes `maker_payment` again. The arguments it then looks for a payment with are those it was sent
with, because the state is rebuilt from the same events. It is looked for only after the time limit
has been checked: a restart that comes late gives the payment up. So does a maker that is told of an
error although the payment was broadcast.
-/

namespace CheetahDex.Proof.MakerRestarts

open Lib Ordermatch Swap MakerRecovery MakerSwap MakerReturns

/-! ## What is saved and what is resumed -/

/-- A swap as `MakerSwap.new` makes it, whatever else it was given. -/
def Fresh (fresh : MakerSwap) : Prop :=
  ∀ saved data, SameMaker (.ofData fresh.ctx fresh.makerCoin fresh.takerCoin saved data) fresh

variable {ctx : SwapCtx} {myOrderUuid : Option Uuid} {uuid : Uuid} {swap : MakerSwap}
  {command : MakerSwapCommand} {env : MakerEnv}

theorem fresh_new {taker : Hash 32} {makerAmount takerAmount : MmNumber} {myPersistentPub : Hash 33}
    {confSettings : SwapConfirmationsSettings} {makerCoin takerCoin : SwapCoin}
    {paymentLocktime : UInt64} {p2pPrivkey : Option KeyPair} :
    Fresh (.new ctx taker makerAmount takerAmount myPersistentPub uuid myOrderUuid confSettings
      makerCoin takerCoin paymentLocktime p2pPrivkey) :=
  fun _ _ => ⟨rfl, rfl, rfl, rfl⟩

/-- A journal that is loaded begins with a start, whose data are refreshed. -/
theorem load_started {makerCoin takerCoin : SwapCoin} {journal : List MakerSwapEvent}
    (hld : (durable ctx makerCoin takerCoin uuid myOrderUuid).load env journal =
      some (swap, command)) :
    commandAt .start MakerSwapEvent.getCommand journal = some command ∧
      ∃ data rest, journal = .started data :: rest ∧
      let data := data.refreshContracts makerCoin takerCoin
      swap = (.started data :: rest).foldl (applyEvent env.now)
        (.ofData ctx makerCoin takerCoin ⟨uuid, myOrderUuid, journal⟩ data) := by
  cases journal with
  | nil => cases hld
  | cons event rest =>
    cases event with
    | started data =>
      simp only [durable] at hld
      split at hld <;> cases hld
      next hsav =>
      obtain ⟨rfl, hcmd⟩ := Prod.mk.inj (Except.ok.inj hsav)
      refine ⟨?_, data, rest, rfl, rfl⟩
      -- the table does not see the data
      exact (commandAt_cons_congr _ (by rfl) rest).trans ((commandAt_cons ..).trans hcmd)
    | _ => cases hld

section runs

variable {fresh swap : MakerSwap} {uuid : Uuid} {myOrderUuid : Option Uuid}
  {command : MakerSwapCommand} {events : List MakerSwapEvent}

/-- A swap whose events are saved, with its own coins. -/
abbrev durable (fresh : MakerSwap) (uuid : Uuid) (myOrderUuid : Option Uuid) :=
  MakerSwap.durable fresh.ctx fresh.makerCoin fresh.takerCoin uuid myOrderUuid

/-- A restart applies the saved events again, and the table knows how to go on. -/
def replaying (hfr : Fresh fresh) (uuid : Uuid) (myOrderUuid : Option Uuid) :
    Replaying (durable fresh uuid myOrderUuid) .start MakerSwapEvent.getCommand where
  fresh := fresh
  replay := MakerSwap.applyEvent 0
  Same := SameMaker
  Inv := fun swap => swap.ctx = fresh.ctx ∧ MadeOf fresh.makerCoin fresh.takerCoin swap
  Good := FromCoins fresh.makerCoin fresh.takerCoin
  Goes := Eq
  goes_refl := fun _ => rfl
  same_apply := fun event h => sameMaker_applyEvent _ 0 event h
  inv_apply := fun _ _ event h => by cases event <;> exact h
  load := by
    intro env journal swap command hld hcs
    obtain ⟨hcmd, data, rest, rfl, rfl⟩ := load_started hld
    rw [refreshContracts_eq (hcs _ List.mem_cons_self)]
    exact ⟨hcmd, _, hfr _ data, ⟨rfl, rfl, rfl⟩, rfl⟩
  writes := fun hret => (of_handle hret).events_ne_nil
  good := by
    intro env swap command next events hret hinv
    rw [← hinv.2.1, ← hinv.2.2]
    exact fromCoins_returned (of_handle hret)
  goes := fun hret => (of_handle hret).getCommand_eq

/-! ## At most one payment -/

/-- The sending of the payment fails, and the payment is with the network. -/
def Unnoticed (env : MakerEnv) (swap : MakerSwap) : Prop :=
  env.sentUnnoticed ∧ !(env.sendMakerPayment swap.paymentArgs swap.makerAmount).isOk

theorem attempt (env : MakerEnv) (swap : MakerSwap) :
    Attempt (env.now > swap.paymentTimeout) (Unnoticed env swap)
      (env.checkIfMyPaymentSent swap.paymentArgs swap.mutable.data.makerCoinStartBlock)
      (fun tx => .returned (some .waitForTakerPayment) [.makerPaymentSent tx])
      (.finish .makerPaymentTransactionFailed) swap.paymentArgs (swap.makerPayment env)
      (swap.broadcastPayment env) := by
  unfold makerPayment broadcastPayment paymentTimeout
  refine collapse_check (P := (Attempt _ _ _ _ _ _ · _)) (fun hlt => ?_) fun htm => ?_
  · rw [if_pos hlt]
    exact .failed _ (.inl hlt)
  · rw [if_neg htm]
    cases env.checkIfMyPaymentSent swap.paymentArgs swap.mutable.data.makerCoinStartBlock with
    | error e => exact .failed e (.inr (by simp))
    | ok found =>
      cases found with
      | some tx => exact .found tx
      | none =>
        cases hse : env.sendMakerPayment swap.paymentArgs swap.makerAmount with
        | ok tx => exact .sent tx rfl
        | error e =>
          cases hrc : env.sentUnnoticed with
          | false => exact .failed e (.inr (by simp))
          | true => exact .unnoticed e rfl ⟨hrc, by simp [hse, Except.isOk, Except.toBool]⟩

/-- The payment is broadcast by `maker_payment`, after the fee was received. -/
def sendingPayment (hfr : Fresh fresh) (uuid : Uuid) (myOrderUuid : Option Uuid) :
    Sending (replaying hfr uuid myOrderUuid) PaymentArgs where
  pick := some
  send := .sendPayment
  before := (· ∈ [MakerSwapCommand.start, .negotiate, .waitForTakerFee])
  send_not_before := by decide
  sends_of_ne := by
    intro env swap command hcmd
    cases command <;> first | rfl | exact absurd rfl hcmd
  sends_length := fun env swap => (List.length_filterMap_le ..).trans (attempt env swap).length_le
  eq_of_goes := fun hgs _ => hgs
  before_of_next := by
    intro env swap command next events event command' hret hev hcmd' hor
    have hrt := of_handle hret
    obtain rfl := (hrt.getCommand_eq event hev).symm.trans hcmd'
    cases hrt <;> first | decide | exact absurd hor (by decide)

@[simp]
theorem sent_sendingPayment (hfr : Fresh fresh) (sent : List PaymentArgs) :
    (sendingPayment hfr uuid myOrderUuid).sent sent = sent :=
  List.filterMap_some

/-- `check_if_my_payment_sent` finds every payment that was broadcast. -/
def Finds (env : MakerEnv) (sent : List PaymentArgs) (swap : MakerSwap) (_ : MakerSwapCommand) :
    Prop :=
  ∀ args ∈ sent, ∃ tx,
    env.checkIfMyPaymentSent args swap.mutable.data.makerCoinStartBlock = .ok (some tx)

/-- `maker_payment` looks for its payment, with arguments that the saved events determine. -/
def paymentGuard (hfr : Fresh fresh) (uuid : Uuid) (myOrderUuid : Option Uuid) :
    Guard (sendingPayment hfr uuid myOrderUuid) Finds where
  key := paymentArgs
  keyAt := fun journal => paymentArgs
    { fresh with mutable := (journal.foldl (MakerSwap.applyEvent 0) fresh).mutable }
  key_eq := by
    intro journal _ swap hrs
    have he : SameMaker swap (journal.foldl (applyEvent 0) fresh) := hrs.same
    simp only [paymentArgs, he.mutable, hrs.inv.1]
  sends_or := by
    intro env sent swap hfn
    rw [sent_sendingPayment, sent_sendingPayment]
    refine (attempt env swap).broadcast.imp_right fun ⟨hone, hn⟩ => ⟨hone, fun hsn => ?_⟩
    obtain ⟨tx, htx⟩ := hfn _ hsn
    exact absurd (hn.symm.trans htx) (by simp)

/-! ## No payment is given up -/

/-- Where a payment was broadcast already, the time limit of `maker_payment` has not passed. -/
def InTime (env : MakerEnv) (sent : List PaymentArgs) (swap : MakerSwap)
    (command : MakerSwapCommand) : Prop :=
  command = .sendPayment → sent ≠ [] → env.now ≤ swap.paymentTimeout

/-- The counter-payment was spent, or the own payment was refunded or could not be. -/
def Settles : MakerSwapEvent → Prop
  | .takerPaymentSpent _ => True
  | .takerPaymentSpendConfirmed => True
  | .makerPaymentRefunded _ => True
  | .makerPaymentRefundFailed _ => True
  | _ => False

instance : DecidablePred Settles := fun event => by
  cases event <;> unfold Settles <;> infer_instance

/-- How a swap comes to its end. -/
theorem returns_finish (h : MakerReturns swap command (.returned (some .finish) events)) :
    command ∈ [MakerSwapCommand.start, .negotiate, .waitForTakerFee] ∨
      (∃ error, command = .sendPayment ∧ events = [.makerPaymentTransactionFailed error]) ∨
      ∀ event ∈ events, Settles event := by
  cases h with
  | startFailed | negotiateFailed | takerFeeValidateFailed => exact .inl (by decide)
  | makerPaymentTransactionFailed e => exact .inr (.inl ⟨⟨e⟩, rfl, rfl⟩)
  | takerPaymentSpendConfirmed | makerPaymentRefunded | makerPaymentRefundFailed =>
    exact .inr (.inr (by simp [Settles]))

/-- What is assumed of a command for its payment not to be given up. -/
def Kept (env : MakerEnv) (sent : List PaymentArgs) (swap : MakerSwap)
    (command : MakerSwapCommand) : Prop :=
  Finds env sent swap command ∧ InTime env sent swap command ∧
    (command = .sendPayment → ¬Unnoticed env swap)

section decidable

variable (env : MakerEnv) (sent : List PaymentArgs) (swap : MakerSwap) (command : MakerSwapCommand)

instance : Decidable (Finds env sent swap command) :=
  inferInstanceAs (Decidable (∀ args ∈ sent, _))

instance : Decidable (InTime env sent swap command) := inferInstanceAs (Decidable (_ → _ → _))

instance : Decidable (Unnoticed env swap) := inferInstanceAs (Decidable (_ ∧ _))

instance : Decidable (Kept env sent swap command) := inferInstanceAs (Decidable (_ ∧ _ ∧ _))

end decidable

theorem settling (hfr : Fresh fresh) (uuid : Uuid) (myOrderUuid : Option Uuid) :
    Settling ((paymentGuard hfr uuid myOrderUuid).mono (fun h : Kept _ _ _ _ => h.1))
      .finish Settles where
  finish_ne := MakerSwapCommand.noConfusion
  eq_of_goes := Eq.symm
  ends := by
    intro env sent swap command events hkp hret
    -- the end comes before the payment, with its failure, or with an event that settles it
    rcases returns_finish (of_handle hret) with
      hbef | ⟨error, rfl, rfl⟩ | hst
    · exact .inl hbef
    · obtain ⟨hn, hwhy⟩ := (attempt env swap).of_ne (by
        intro tx hmd
        cases hmd.trans hret) (hkp.2.2 rfl)
      refine .inr (.inl ⟨rfl, ?_, ?_⟩)
      · rw [sent_sendingPayment]
        exact hn
      · rw [sent_sendingPayment]
        intro hsn
        obtain ⟨tx, htx⟩ := hkp.1 _ hsn
        -- a payment that was sent is not given up: it is not too late, and it is found
        rcases hwhy with hlt | hnot
        · exact absurd (hkp.2.1 rfl (List.ne_nil_of_mem hsn)) (UInt64.not_le.2 hlt)
        · exact hnot tx htx
    · exact .inr (.inr hst)

/-! ## Runs -/

/-- A swap that has paid is about to finish only with an event that settles. -/
def Closed (node : Running MakerSwap MakerSwapEvent MakerSwapCommand PaymentArgs) : Prop :=
  ∀ swap, node.live = some (swap, .finish) → node.sent ≠ [] → ∃ event ∈ node.journal, Settles event

instance : DecidablePred Closed := fun node =>
  decidable_of_iff (∀ swap command, node.live = some (swap, command) → command = .finish →
      node.sent ≠ [] → ∃ event ∈ node.journal, Settles event)
    ⟨fun h swap hlv => h swap .finish hlv rfl, fun h swap _ hlv hfin => h swap (hfin ▸ hlv)⟩

theorem resumed_init (hfr : Fresh fresh) :
    (replaying hfr uuid myOrderUuid).Resumed [] [] fresh .start :=
  ⟨rfl, ⟨rfl, rfl, rfl, rfl⟩, rfl, rfl, rfl⟩

end runs

end CheetahDex.Proof.MakerRestarts
