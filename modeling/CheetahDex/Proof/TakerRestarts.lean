import CheetahDex.Lib.SendOnce
import CheetahDex.Proof.TakerRecovery
import CheetahDex.Swap.Restarts

/-!
# The taker's fee and payment across restarts

The taker's payment is guarded as the maker's is. The fee is not looked for: a taker that is
interrupted before the event is saved pays it again. There is a second way to give a payment up,
without any restart: the maker has spent it, and the secret is not found in the transaction, so the
live swap finishes although the maker's payment is still there.
-/

namespace CheetahDex.Proof.TakerRestarts

open Lib Ordermatch Swap TakerRecovery TakerBroadcast TakerSwap TakerReturns

/-! ## What is saved and what is resumed -/

variable {command : TakerSwapCommand} {swap : TakerSwap}

variable {journal : List TakerSwapEvent} {ctx : SwapCtx} {uuid : Uuid} {env : TakerEnv}

/-- A swap as `TakerSwap.new` makes it, whatever else it was given. -/
def Fresh (fresh : TakerSwap) : Prop :=
  ∀ saved data, SameTaker (.ofData fresh.ctx fresh.makerCoin fresh.takerCoin saved data) fresh

theorem fresh_new {maker : Hash 32} {makerAmount takerAmount : MmNumber} {myPersistentPub : Hash 33}
    {myOrderUuid : Option Uuid} {confSettings : SwapConfirmationsSettings}
    {makerCoin takerCoin : SwapCoin} {paymentLocktime : UInt64} {p2pPrivkey : Option KeyPair} :
    Fresh (.new ctx maker makerAmount takerAmount myPersistentPub uuid myOrderUuid confSettings
      makerCoin takerCoin paymentLocktime p2pPrivkey) :=
  fun _ _ => ⟨rfl, rfl, rfl, rfl⟩

/-- A journal that is loaded begins with a start, whose data are refreshed. -/
theorem load_started {makerCoin takerCoin : SwapCoin}
    (hld : (durable ctx makerCoin takerCoin uuid).load env journal = some (swap, command)) :
    commandAt .start TakerSwapEvent.getCommand journal = some command ∧
      ∃ data rest, journal = .started data :: rest ∧
      let data := data.refreshContracts makerCoin takerCoin
      swap = (.started data :: rest).foldl (applyEvent env.now)
        (.ofData ctx makerCoin takerCoin ⟨uuid, journal⟩ data) := by
  cases journal with
  | nil => cases hld
  | cons event rest =>
    cases event with
    | started data =>
      simp only [durable] at hld
      split at hld <;> cases hld
      next hsav =>
      obtain ⟨rfl, hcmd⟩ := Prod.mk.inj (Except.ok.inj hsav)
      refine ⟨?_, data, rest, rfl, rfl⟩
      -- the table does not see the data
      exact (commandAt_cons_congr _ (by rfl) rest).trans ((commandAt_cons ..).trans hcmd)
    | _ => cases hld

section runs

variable {fresh swap : TakerSwap} {uuid : Uuid} {env : TakerEnv} {command : TakerSwapCommand}
  {journal events written : List TakerSwapEvent} {next : Option TakerSwapCommand}

/-- A swap whose events are saved, with its own coins. -/
abbrev durable (fresh : TakerSwap) (uuid : Uuid) :=
  TakerSwap.durable fresh.ctx fresh.makerCoin fresh.takerCoin uuid

/-- A restart applies the saved events again, and goes on as the live swap would, except that it may
refund where that finishes. -/
def replaying (hfr : Fresh fresh) (uuid : Uuid) :
    Replaying (durable fresh uuid) .start TakerSwapEvent.getCommand where
  fresh := fresh
  replay := TakerSwap.applyEvent 0
  Same := SameTaker
  Inv := MadeOf fresh.makerCoin fresh.takerCoin
  Good := FromCoins fresh.makerCoin fresh.takerCoin
  Goes := fun saved live => saved = live ∨ (saved = some .refundTakerPayment ∧ live = some .finish)
  goes_refl := fun _ => .inl rfl
  same_apply := fun event h => sameTaker_applyEvent _ 0 event h
  inv_apply := fun env _ event h => madeOf_applyEvent env.now event h
  load := by
    intro env journal swap command hld hcs
    obtain ⟨hcmd, data, rest, rfl, rfl⟩ := load_started hld
    rw [refreshContracts_eq (hcs _ List.mem_cons_self)]
    exact ⟨hcmd, _, hfr _ data, ⟨rfl, rfl⟩, rfl⟩
  writes := fun hret => (of_handle hret).events_ne_nil
  good := by
    intro env swap command next events hret hinv
    rw [← hinv.1, ← hinv.2]
    exact fromCoins_returned (of_handle hret)
  goes := fun hret event hev =>
    (of_handle hret).getCommand_eq.imp (fun hx => hx event hev)
      fun ⟨href, hfin, _⟩ => ⟨href event hev, hfin⟩

/-- A command other than the refund is next by the table only if it is next live. -/
theorem returns_of_getCommand {event : TakerSwapEvent} {command' : TakerSwapCommand}
    (hret : process.handle env swap command = .returned next events)
    (hev : event ∈ events) (hcmd' : event.getCommand = some command')
    (hne : command' ≠ .refundTakerPayment) :
    TakerReturns swap command (.returned (some command') events) := by
  have hrt := of_handle hret
  rcases hrt.getCommand_eq with hx | ⟨href, -⟩
  · rw [← hcmd', hx event hev]
    exact hrt
  · exact absurd (Option.some.inj (hcmd'.symm.trans (href event hev))) hne

/-! ## The fee -/

theorem broadcastFee_cases (env : TakerEnv) (swap : TakerSwap) :
    swap.broadcastFee env = [] ∨ ∃ dexFee, swap.broadcastFee env = [.fee dexFee] := by
  unfold broadcastFee reached
  dsimp only
  split_ifs
  · exact .inl rfl
  all_goals
    split
    · exact .inr ⟨_, rfl⟩
    · first | exact .inl rfl | exact .inr ⟨_, rfl⟩

/-- The sending of the payment fails, and the payment is with the network. -/
def Unnoticed (env : TakerEnv) (swap : TakerSwap) : Prop :=
  env.sentUnnoticed ∧ !(env.sendTakerPayment swap.paymentArgs
    (swap.ctx.toDecimal swap.takerAmount)).isOk

theorem attempt (env : TakerEnv) (swap : TakerSwap) :
    Attempt (env.now > swap.paymentTimeout) (Unnoticed env swap)
      (env.checkIfMyPaymentSent swap.paymentArgs swap.mutable.data.takerCoinStartBlock)
      (fun tx => .returned (some .waitForTakerPaymentSpend) [.takerPaymentSent tx])
      (.finish .takerPaymentTransactionFailed) (.payment swap.paymentArgs)
      (swap.sendTakerPayment env) (swap.broadcastPayment env) := by
  unfold sendTakerPayment broadcastPayment paymentTimeout
  refine collapse_check (P := (Attempt _ _ _ _ _ _ · _)) (fun hlt => ?_) fun htm => ?_
  · rw [if_pos hlt]
    exact .failed _ (.inl hlt)
  · rw [if_neg htm]
    cases env.checkIfMyPaymentSent swap.paymentArgs swap.mutable.data.takerCoinStartBlock with
    | error e => exact .failed e (.inr (by simp))
    | ok found =>
      cases found with
      | some tx => exact .found tx
      | none =>
        cases hse : env.sendTakerPayment swap.paymentArgs (swap.ctx.toDecimal swap.takerAmount) with
        | ok tx => exact .sent tx rfl
        | error e =>
          cases hrc : env.sentUnnoticed with
          | false => exact .failed e (.inr (by simp))
          | true => exact .unnoticed e rfl ⟨hrc, by simp [hse, Except.isOk, Except.toBool]⟩

/-- The fee is broadcast by `send_taker_fee`, after the negotiation. -/
def sendingFee (hfr : Fresh fresh) (uuid : Uuid) : Sending (replaying hfr uuid) DexFee where
  pick := fee?
  send := .sendTakerFee
  before := (· ∈ [TakerSwapCommand.start, .negotiate])
  send_not_before := by decide
  sends_of_ne := by
    intro env swap command hcmd
    cases command with
    | sendTakerFee => exact absurd rfl hcmd
    | sendTakerPayment =>
      change (swap.broadcastPayment env).filterMap _ = []
      rcases (attempt env swap).broadcast with hn | ⟨hone, -⟩
      · rw [hn]
        rfl
      · rw [hone]
        rfl
    | _ => rfl
  sends_length := by
    intro env swap
    refine (List.length_filterMap_le ..).trans (?_ : (swap.broadcastFee env).length ≤ 1)
    rcases broadcastFee_cases env swap with hn | ⟨dexFee, hone⟩ <;> simp [*]
  eq_of_goes := by
    intro saved command hgs hor
    refine hgs.resolve_right ?_
    rintro ⟨-, ⟨⟩⟩
    exact absurd hor (by decide)
  before_of_next := by
    intro env swap command next events event command' hret hev hcmd' hor
    have hrt := returns_of_getCommand hret hev hcmd' (by rintro rfl; exact absurd hor (by decide))
    cases hrt <;> first | decide | exact absurd hor (by decide)

/-! ## The payment -/

/-- The payment is broadcast by `send_taker_payment`, after the maker's was validated. -/
def sendingPayment (hfr : Fresh fresh) (uuid : Uuid) :
    Sending (replaying hfr uuid) PaymentArgs where
  pick := payment?
  send := .sendTakerPayment
  before := (· ∈ [TakerSwapCommand.start, .negotiate, .sendTakerFee, .waitForMakerPayment,
    .validateMakerPayment])
  send_not_before := by decide
  sends_of_ne := by
    intro env swap command hcmd
    cases command with
    | sendTakerPayment => exact absurd rfl hcmd
    | sendTakerFee =>
      change (swap.broadcastFee env).filterMap _ = []
      rcases broadcastFee_cases env swap with hn | ⟨dexFee, hone⟩
      · rw [hn]
        rfl
      · rw [hone]
        rfl
    | _ => rfl
  sends_length := fun env swap => (List.length_filterMap_le ..).trans (attempt env swap).length_le
  eq_of_goes := by
    intro saved command hgs hor
    refine hgs.resolve_right ?_
    rintro ⟨-, ⟨⟩⟩
    exact absurd hor (by decide)
  before_of_next := by
    intro env swap command next events event command' hret hev hcmd' hor
    have hrt := returns_of_getCommand hret hev hcmd' (by rintro rfl; exact absurd hor (by decide))
    cases hrt <;> first | decide | exact absurd hor (by decide)

/-- `check_if_my_payment_sent` finds every payment that was broadcast. -/
def Finds (env : TakerEnv) (sent : List TakerBroadcast) (swap : TakerSwap) (_ : TakerSwapCommand) :
    Prop :=
  ∀ args ∈ sent.filterMap payment?, ∃ tx,
    env.checkIfMyPaymentSent args swap.mutable.data.takerCoinStartBlock = .ok (some tx)

/-- `send_taker_payment` looks for its payment, with arguments that the saved events determine. -/
def paymentGuard (hfr : Fresh fresh) (uuid : Uuid) : Guard (sendingPayment hfr uuid) Finds where
  key := TakerSwap.paymentArgs
  keyAt := fun journal => (journal.foldl (TakerSwap.applyEvent 0) fresh).paymentArgs
  key_eq := by
    intro journal _ swap hrs
    have he : SameTaker swap (journal.foldl (applyEvent 0) fresh) := hrs.same
    simp only [paymentArgs, he.mutable]
  sends_or := by
    intro env sent swap hfn
    change (swap.broadcastPayment env).filterMap _ = [] ∨
      ((swap.broadcastPayment env).filterMap _ = _ ∧ _)
    rcases (attempt env swap).broadcast with hn | ⟨hone, hchk⟩
    · left
      rw [hn]
      rfl
    · right
      rw [hone]
      refine ⟨rfl, fun hsn => ?_⟩
      obtain ⟨tx, htx⟩ := hfn _ hsn
      exact absurd (hchk.symm.trans htx) (by simp)

/-! ## No payment is given up -/

/-- Where a payment was broadcast already, the time limit of `send_taker_payment` has not passed. -/
def InTime (env : TakerEnv) (sent : List TakerBroadcast) (swap : TakerSwap)
    (command : TakerSwapCommand) : Prop :=
  command = .sendTakerPayment → sent.filterMap payment? ≠ [] → env.now ≤ swap.paymentTimeout

/-- The counter-payment was spent or could not be, or the own payment was refunded or could not
be. -/
def Settles : TakerSwapEvent → Prop
  | .makerPaymentSpent _ => True
  | .makerPaymentSpendFailed _ => True
  | .takerPaymentRefunded _ => True
  | .takerPaymentRefundFailed _ => True
  | _ => False

instance : DecidablePred Settles := fun event => by
  cases event <;> unfold Settles <;> infer_instance

/-- How a swap comes to its end. -/
theorem returns_finish (h : TakerReturns swap command (.returned (some .finish) events)) :
    command ∈ [TakerSwapCommand.start, .negotiate, .sendTakerFee, .waitForMakerPayment,
        .validateMakerPayment] ∨
      (∃ error, command = .sendTakerPayment ∧ events = [.takerPaymentTransactionFailed error]) ∨
      (∃ error, command = .waitForTakerPaymentSpend ∧
        events = [.takerPaymentWaitForSpendFailed error]) ∨
      ∀ event ∈ events, Settles event := by
  cases h with
  | startFailed | negotiateFailed | takerFeeSendFailed | makerPaymentNotReceived
  | makerPaymentWaitConfirmFailed | makerPaymentValidateFailed => exact .inl (by decide)
  | takerPaymentTransactionFailed e => exact .inr (.inl ⟨⟨e⟩, rfl, rfl⟩)
  | secretNotFound e => exact .inr (.inr (.inl ⟨⟨e⟩, rfl, rfl⟩))
  | makerPaymentSpent | makerPaymentSpendFailed | takerPaymentRefunded | takerPaymentRefundFailed =>
    exact .inr (.inr (.inr (by simp [Settles])))

/-- What is assumed of a command for its payment not to be given up. -/
structure Kept (env : TakerEnv) (sent : List TakerBroadcast) (swap : TakerSwap)
    (command : TakerSwapCommand) : Prop where
  finds : Finds env sent swap command
  inTime : InTime env sent swap command
  noticed : command = .sendTakerPayment → ¬Unnoticed env swap
  secret : command = .waitForTakerPaymentSpend → Recoverable env swap .waitForTakerPaymentSpend

theorem settling (hfr : Fresh fresh) (uuid : Uuid) :
    Settling ((paymentGuard hfr uuid).mono (fun h : Kept _ _ _ _ => h.finds)) .finish Settles where
  finish_ne := TakerSwapCommand.noConfusion
  eq_of_goes := by
    rintro next (he | ⟨⟨⟩, -⟩)
    exact he.symm
  ends := by
    intro env sent swap command events hkp hret
    rcases returns_finish (of_handle hret) with
      hbef | ⟨error, rfl, rfl⟩ | ⟨error, rfl, rfl⟩ | hst
    · exact .inl hbef
    · obtain ⟨hn, hwhy⟩ := (attempt env swap).of_ne (by
        intro tx hmd
        cases hmd.trans hret) (hkp.noticed rfl)
      refine .inr (.inl ⟨rfl, ?_, fun hsn => ?_⟩)
      · change (swap.broadcastPayment env).filterMap _ = []
        rw [hn]
        rfl
      · obtain ⟨tx, htx⟩ := hkp.finds _ hsn
        rcases hwhy with hlt | hnot
        · exact absurd (hkp.inTime rfl (List.ne_nil_of_mem hsn)) (UInt64.not_le.2 hlt)
        · exact hnot tx htx
    · -- the secret is found
      have hec : (swap.waitForTakerPaymentSpend env).Each (GoesOn swap.makerCoin swap.takerCoin) :=
        (each_waitForTakerPaymentSpend_iff env swap).2 (hkp.secret rfl)
      rw [show swap.waitForTakerPaymentSpend env = .returned _ _ from hret] at hec
      exact absurd (hec _ List.mem_cons_self).1 (by simp [TakerSwapEvent.getCommand])
    · exact .inr (.inr hst)

/-! ## Runs -/

/-- No crash falls between the broadcast of the fee and the saving of the event. -/
def FeeSaved (_ : TakerEnv) (_ : List TakerBroadcast) (_ : TakerSwap) (command : TakerSwapCommand) :
    Prop :=
  command ≠ .sendTakerFee

section decidable

variable (env : TakerEnv) (sent : List TakerBroadcast) (swap : TakerSwap)
  (command : TakerSwapCommand)

instance : Decidable (FeeSaved env sent swap command) := inferInstanceAs (Decidable (_ ≠ _))

instance : Decidable (Finds env sent swap command) :=
  inferInstanceAs (Decidable (∀ args ∈ sent.filterMap _, _))

instance : Decidable (InTime env sent swap command) := inferInstanceAs (Decidable (_ → _ → _))

end decidable

variable (node : Running TakerSwap TakerSwapEvent TakerSwapCommand TakerBroadcast)

/-- The payments among what was broadcast. -/
def payments : List PaymentArgs := node.sent.filterMap payment?

/-- The fees among what was broadcast. -/
def fees : List DexFee := node.sent.filterMap fee?

/-- A swap that has paid is about to finish only with an event that settles. -/
def Closed : Prop :=
  ∀ swap, node.live = some (swap, .finish) → payments node ≠ [] →
    ∃ event ∈ node.journal, Settles event

instance : DecidablePred Closed := fun node =>
  decidable_of_iff (∀ swap command, node.live = some (swap, command) → command = .finish →
      payments node ≠ [] → ∃ event ∈ node.journal, Settles event)
    ⟨fun h swap hlv => h swap .finish hlv rfl, fun h swap _ hlv hfin => h swap (hfin ▸ hlv)⟩

theorem resumed_init (hfr : Fresh fresh) : (replaying hfr uuid).Resumed [] [] fresh .start :=
  ⟨.inl rfl, ⟨rfl, rfl, rfl, rfl⟩, rfl, rfl⟩

end runs

end CheetahDex.Proof.TakerRestarts
