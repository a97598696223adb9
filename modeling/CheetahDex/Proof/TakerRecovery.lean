import CheetahDex.Proof.MakerRecovery
import CheetahDex.Proof.TakerReturns

/-!
# When a taker's swap goes on after a restart

As for the maker, the command that is next is chosen live by the command that ends, and after a
restart from the last event alone. `TakerPaymentWaitForSpendFailed` is written when the maker does
not spend the taker's payment, and also when it does but the secret is not found in the transaction;
`MakerPaymentSpendFailed` is written when the maker's payment can not be spent. The table goes on
with a refund after both events, the live swap finishes in the last two cases. `Recoverable`
excludes them, and nothing else has to be.
-/

namespace CheetahDex.Proof.TakerRecovery

open Lib Ordermatch Swap List TakerSwap Process
open MakerRecovery (plainSwapCtx plainSwapCoin)

/-! ## The state -/

@[inherit_doc MakerRecovery.SameMaker]
structure SameTaker (swap swap' : TakerSwap) : Prop where
  mutable : swap.mutable = swap'.mutable
  makerPaymentLock : swap.makerPaymentLock = swap'.makerPaymentLock
  makerPaymentConfirmed : swap.makerPaymentConfirmed = swap'.makerPaymentConfirmed
  errors : swap.errors = swap'.errors

theorem sameTaker_applyEvent (now now' : UInt64) {swap swap' : TakerSwap} (event : TakerSwapEvent)
    (h : SameTaker swap swap') :
    SameTaker (swap.applyEvent now event) (swap'.applyEvent now' event) := by
  obtain ⟨hmt, hlc, hcnf, her⟩ := h
  cases event <;> constructor <;> simp only [applyEvent, pushError, hmt, hlc, hcnf, her]

/-! ## The commands -/

variable (makerCoin takerCoin : SwapCoin)

/-- The contract addresses in the data of a start are those of the coins. -/
def FromCoins : TakerSwapEvent → Prop
  | .started data =>
    data.makerCoinSwapContractAddress = makerCoin.swapContractAddress ∧
      data.takerCoinSwapContractAddress = takerCoin.swapContractAddress
  | _ => True

/-- A restart after the event finds the command that is next. -/
def GoesOn (event : TakerSwapEvent) (next : Option TakerSwapCommand) : Prop :=
  event.getCommand = next ∧ FromCoins makerCoin takerCoin event

/-- The secret is found in the transaction that spends the taker's payment, and the maker's payment
can be spent with it. -/
def Recoverable (env : TakerEnv) (swap : TakerSwap) : TakerSwapCommand → Prop
  | .waitForTakerPaymentSpend => ∀ takerPayment, swap.mutable.takerPayment = some takerPayment →
    env.takerConfirmations (swap.paymentConfirmations takerPayment) = .ok () →
    ∀ transaction, swap.paymentSpend env takerPayment = .ok transaction →
    ∃ secret, env.extractSecret swap.mutable.secretHash transaction.txHex = .ok secret
  | .spendMakerPayment => ∀ makerPayment, swap.mutable.makerPayment = some makerPayment →
    ∃ transaction, env.sendTakerSpendsMakerPayment (swap.spendArgs makerPayment) = .ok transaction
  | _ => True

section commands

variable {makerCoin takerCoin : SwapCoin} {swap : TakerSwap}

variable {error : String} {event : SwapError → TakerSwapEvent}

theorem each_refund (h : ∀ e, GoesOn makerCoin takerCoin (event e) (some .refundTakerPayment)) :
    (TakerOutcome.refund swap event error).Each (GoesOn makerCoin takerCoin) := by
  exact forall_mem_cons.2 ⟨h _, forall_mem_singleton.2 ⟨rfl, trivial⟩⟩

/-- A failure that finishes the live swap is not found again if the table goes on with a refund. -/
theorem not_each_finish (h : ∀ e, (event e).getCommand = some .refundTakerPayment) :
    ¬(TakerOutcome.finish event error).Each (GoesOn makerCoin takerCoin) := by
  intro hec
  have hfin := (hec (event ⟨error⟩) (mem_singleton_self _)).1
  rw [h] at hfin
  exact absurd hfin (by simp)

variable (env : TakerEnv)

/-- The one command whose event is not always enough to go on from. -/
theorem each_waitForTakerPaymentSpend_iff (swap : TakerSwap) :
    (swap.waitForTakerPaymentSpend env).Each (GoesOn makerCoin takerCoin) ↔
      Recoverable env swap .waitForTakerPaymentSpend := by
  unfold waitForTakerPaymentSpend Recoverable
  -- as long as something fails before the secret is looked for, there is a refund, or nothing to
  -- find
  cases hpay : swap.mutable.takerPayment with
  | none =>
    rw [collapse_none_bind]
    exact iff_of_true trivial (by simp)
  | some takerPayment =>
    rw [collapse_some_bind]
    cases hcnf : env.takerConfirmations (swap.paymentConfirmations takerPayment) with
    | error e =>
      rw [collapse_error]
      exact iff_of_true (each_refund fun _ => ⟨rfl, trivial⟩) (by simp [hcnf])
    | ok =>
      rw [collapse_ok]
      cases hsp : swap.paymentSpend env takerPayment with
      | error e =>
        rw [collapse_error]
        exact iff_of_true (each_refund fun _ => ⟨rfl, trivial⟩) (by simp [hsp])
      | ok transaction =>
        rw [collapse_ok]
        cases hsec : env.extractSecret swap.mutable.secretHash transaction.txHex with
        | error e =>
          rw [collapse_error]
          exact iff_of_false (not_each_finish fun _ => rfl) (by simp [hcnf, hsp, hsec])
        | ok bytes =>
          rw [collapse_ok]
          refine iff_of_true ?_ (by simp [hcnf, hsp, hsec])
          refine collapse_orError trivial fun _ => ?_
          exact forall_mem_singleton.2 ⟨rfl, trivial⟩

theorem each_spendMakerPayment_iff (swap : TakerSwap) :
    (swap.spendMakerPayment env).Each (GoesOn makerCoin takerCoin) ↔
      Recoverable env swap .spendMakerPayment := by
  unfold spendMakerPayment Recoverable
  cases hpay : swap.mutable.makerPayment with
  | none =>
    rw [collapse_none_bind]
    exact iff_of_true trivial (by simp)
  | some makerPayment =>
    rw [collapse_some_bind]
    cases hsp : env.sendTakerSpendsMakerPayment (swap.spendArgs makerPayment) with
    | error e =>
      rw [collapse_error]
      exact iff_of_false (not_each_finish fun _ => rfl) (by simp [hsp])
    | ok transaction =>
      rw [collapse_ok]
      refine iff_of_true ?_ (by simp [hsp])
      exact forall_mem_singleton.2 ⟨rfl, trivial⟩

theorem fromCoins_returned {command : TakerSwapCommand} {next : Option TakerSwapCommand}
    {events : List TakerSwapEvent} (h : TakerReturns swap command (.returned next events)) :
    ∀ event ∈ events, FromCoins swap.makerCoin swap.takerCoin event := by
  cases h with
  | started hdt => exact forall_mem_singleton.2 ⟨hdt.makerContract, hdt.takerContract⟩
  | _ => simp [FromCoins]

end commands

/-! ## Runs -/

variable (swap : TakerSwap)

/-- The coins of a swap, which no event changes. -/
def MadeOf : Prop := swap.makerCoin = makerCoin ∧ swap.takerCoin = takerCoin

theorem madeOf_applyEvent {makerCoin takerCoin : SwapCoin} (now : UInt64) {swap : TakerSwap}
    (event : TakerSwapEvent) (h : MadeOf makerCoin takerCoin swap) :
    MadeOf makerCoin takerCoin (swap.applyEvent now event) := by
  cases event <;> exact h

variable (command : TakerSwapCommand) (envs : List TakerEnv)

theorem goesOn_run_iff :
    (∀ entry ∈ process.run swap command envs,
      GoesOn swap.makerCoin swap.takerCoin entry.event entry.next) ↔
      process.Allowed Recoverable swap command envs := by
  refine forall_run_iff_allowed (I := MadeOf swap.makerCoin swap.takerCoin)
    (fun env _ event h => madeOf_applyEvent env.now event h) ?_ ⟨rfl, rfl⟩ command envs
  intro env swap' command' h
  rw [← h.1, ← h.2]
  cases command' with
  | waitForTakerPaymentSpend => exact each_waitForTakerPaymentSpend_iff env swap'
  | spendMakerPayment => exact each_spendMakerPayment_iff env swap'
  | _ =>
    -- the table knows how to go on from the events of the others
    refine iff_true_intro (Outcome.each_iff.2 fun next events hrt event hev => ?_)
    have hre := TakerReturns.of_handle hrt
    rcases hre.getCommand_eq with heq | ⟨-, -, hin⟩
    · exact ⟨heq event hev, fromCoins_returned hre event hev⟩
    · exact absurd hin (by decide)

theorem fromCoins_run :
    ∀ entry ∈ process.run swap command envs,
      FromCoins swap.makerCoin swap.takerCoin entry.event := by
  refine (forall_run_iff_allowed (I := MadeOf swap.makerCoin swap.takerCoin)
    (Q := fun event _ => FromCoins swap.makerCoin swap.takerCoin event) (C := fun _ _ _ => True)
    (fun env _ event h => madeOf_applyEvent env.now event h) ?_ ⟨rfl, rfl⟩ command envs).2
    (allowed_of_forall_mem (fun _ _ _ _ => trivial) _ _)
  intro env swap' command' h
  refine iff_true_intro (Outcome.each_iff.2 fun next events hrt => ?_)
  rw [← h.1, ← h.2]
  exact fromCoins_returned (.of_handle hrt)

variable {data : TakerSwapData}

theorem refreshContracts_eq {makerCoin takerCoin : SwapCoin}
    (h : FromCoins makerCoin takerCoin (.started data)) :
    data.refreshContracts makerCoin takerCoin = data := by
  obtain ⟨hmk, htk⟩ := h
  simp only [TakerSwapData.refreshContracts, ← hmk, ← htk, Option.orElse_eq_orElse,
    Option.orElse_eq_or, Option.or_self]

theorem loadFromSaved_started {now : UInt64} {ctx : SwapCtx} {makerCoin takerCoin : SwapCoin}
    {saved : TakerSavedSwap} (hstd : saved.events.head? = some (.started data))
    (hcs : FromCoins makerCoin takerCoin (.started data)) :
    loadFromSaved now ctx makerCoin takerCoin saved =
      .ok (saved.events.foldl (applyEvent now) (ofData ctx makerCoin takerCoin saved data),
        saved.events.getLast?.bind TakerSwapEvent.getCommand) := by
  obtain ⟨rest, hevs⟩ := head?_eq_some_iff.1 hstd
  unfold loadFromSaved
  rw [hevs]
  dsimp only
  rw [refreshContracts_eq hcs]

/-- **A taker's swap that is restarted after any of its events goes on as it would have exactly if
each of its commands is recoverable when it is executed.** -/
theorem taker_restart_goes_on_iff (ctx : SwapCtx) (maker : Hash 32)
    (makerAmount takerAmount : MmNumber) (myPersistentPub : Hash 33) (uuid : Uuid)
    (myOrderUuid : Option Uuid) (confSettings : SwapConfirmationsSettings)
    (makerCoin takerCoin : SwapCoin) (paymentLocktime : UInt64) (p2pPrivkey : Option KeyPair)
    (envs : List TakerEnv) (now : UInt64) :
    let swap := new ctx maker makerAmount takerAmount myPersistentPub uuid myOrderUuid
      confSettings makerCoin takerCoin paymentLocktime p2pPrivkey
    let run := process.run swap .start envs
    ∀ data, run.head?.map Entry.event = some (.started data) →
      ((∀ pre entry, pre ++ [entry] <+: run →
        ∃ restored, loadFromSaved now ctx makerCoin takerCoin
            ⟨uuid, (pre ++ [entry]).map Entry.event⟩ = .ok (restored, entry.next) ∧
          SameTaker restored entry.after) ↔
        process.Allowed Recoverable swap .start envs) := by
  intro swap run data hstd
  -- what was saved loads, and the state is the one the events were applied to first
  have hld (pre entry) (hpre : pre ++ [entry] <+: run) :
      ∃ restored, loadFromSaved now ctx makerCoin takerCoin
          ⟨uuid, (pre ++ [entry]).map Entry.event⟩ = .ok (restored, entry.event.getCommand) ∧
        SameTaker restored entry.after := by
    have hhd : ((pre ++ [entry]).map Entry.event).head? = some (.started data) := by
      obtain ⟨rest, hrun⟩ := hpre
      rw [← hrun, head?_append_of_ne_nil _ (by simp)] at hstd
      rw [head?_map, hstd]
    -- the first event is that of an entry, so the addresses it has are the coins'
    have hcs : FromCoins makerCoin takerCoin (.started data) := by
      obtain ⟨first, hfst, hev⟩ := List.mem_map.1 (mem_of_mem_head? hhd)
      rw [← hev]
      exact fromCoins_run swap .start envs first (hpre.subset hfst)
    rw [loadFromSaved_started hhd hcs, getLast?_bind_table]
    refine ⟨_, rfl, (chain_run _ _ _).replay (R := SameTaker) ?_ hpre ⟨rfl, rfl, rfl, rfl⟩⟩
    intro env swap swap' event h
    exact sameTaker_applyEvent now env.now event h
  rw [← goesOn_run_iff]
  constructor
  · intro h entry hent
    obtain ⟨pre, rest, hrun⟩ := append_of_mem hent
    have hpre : pre ++ [entry] <+: run := ⟨rest, by rw [append_assoc]; exact hrun.symm⟩
    obtain ⟨restored, hrs, -⟩ := h pre entry hpre
    obtain ⟨restored', hrs', -⟩ := hld pre entry hpre
    have he := Except.ok.inj (hrs.symm.trans hrs')
    exact ⟨(Prod.mk.inj he).2.symm, fromCoins_run swap .start envs entry hent⟩
  · intro h pre entry hpre
    obtain ⟨restored, hrs, he⟩ := hld pre entry hpre
    refine ⟨restored, ?_, he⟩
    rw [← (h entry (hpre.subset (by simp))).1]
    exact hrs

variable (spend : Except String TransactionIdentifier)

/-- Every coin does what it is asked, the maker does what it should, and the maker's payment is
spent or not. -/
def plainTakerEnv : TakerEnv where
  now := 100
  dexFee := fun _ _ _ => .noFee
  feeToSendTakerFee := fun _ => .ok ⟨"KMD", 0, false⟩
  senderTradeFee := fun _ => .ok ⟨"KMD", 0, false⟩
  receiverTradeFee := .ok ⟨"KMD", 0, false⟩
  checkBalance := fun _ _ _ _ _ => .ok ()
  makerCoinBlock := .ok 1
  takerCoinBlock := .ok 1
  negotiation := .ok (.v1 100 15700 (.replicate 20 0) (.replicate 33 3))
  makerNegotiateContract := fun _ => .ok none
  takerNegotiateContract := fun _ => .ok none
  negotiated := .ok true
  sendTakerFee := fun _ _ _ => .ok ⟨[1], [1]⟩
  makerPayment := .ok [2]
  makerTx := fun bytes => .ok ⟨bytes, bytes⟩
  makerConfirmations := fun _ => .ok ()
  validateMakerPayment := fun _ => .ok ()
  checkIfMyPaymentSent := fun _ _ => .ok none
  sendTakerPayment := fun _ _ => .ok ⟨[3], [3]⟩
  takerConfirmations := fun _ => .ok ()
  waitForTxSpend := fun _ _ _ _ => .ok ⟨[4], [4]⟩
  extractSecret := fun _ _ => .ok (.replicate 32 7)
  sendTakerSpendsMakerPayment := fun _ => spend
  canRefundHtlc := fun _ => [.ok .canRefundNow]
  sendTakerRefundsPayment := fun _ => .ok ⟨[6], [6]⟩

@[inherit_doc MakerRecovery.plainMakerSwap]
def plainTakerSwap : TakerSwap :=
  .new plainSwapCtx (.replicate 32 9) 1 1 (.replicate 33 2) 1 none ⟨1, false, 1, false⟩
    plainSwapCoin plainSwapCoin 7800 none

@[inherit_doc plainTakerEnv]
def plainTakerRun : List (Entry TakerSwap TakerSwapEvent TakerSwapCommand) :=
  process.run plainTakerSwap .start (.replicate 10 (plainTakerEnv spend))

theorem recoverable_plainTakerEnv (tx : TransactionIdentifier) (swap : TakerSwap)
    (command : TakerSwapCommand) : Recoverable (plainTakerEnv (.ok tx)) swap command := by
  cases command with
  | waitForTakerPaymentSpend => exact fun _ _ _ _ _ => ⟨_, rfl⟩
  | spendMakerPayment => exact fun _ _ => ⟨_, rfl⟩
  | _ => exact trivial

theorem plainTakerRun_length : 8 < (plainTakerRun (.ok ⟨[5], [5]⟩)).length := by decide +kernel

theorem taker_restart_goes_on_spent : ∃ restored,
    loadFromSaved 200 plainSwapCtx plainSwapCoin plainSwapCoin
        ⟨1, ((plainTakerRun (.ok ⟨[5], [5]⟩)).take 9).map Entry.event⟩ =
          .ok (restored, some .finish) ∧
      restored.mutable.makerPaymentSpend = some ⟨[5], [5]⟩ := by
  have hst := take_succ_eq_append_getElem plainTakerRun_length
  have hpre := take_prefix 9 (plainTakerRun (.ok ⟨[5], [5]⟩))
  rw [hst] at hpre
  obtain ⟨restored, hld, he⟩ := (taker_restart_goes_on_iff plainSwapCtx (.replicate 32 9) 1 1
    (.replicate 33 2) 1 none ⟨1, false, 1, false⟩ plainSwapCoin plainSwapCoin 7800 none
    (.replicate 10 (plainTakerEnv (.ok ⟨[5], [5]⟩))) 200 _ rfl).2
    (allowed_of_forall_mem (fun env henv swap command => by
      rw [eq_of_mem_replicate henv]
      exact recoverable_plainTakerEnv _ swap command) _ _) _ _ hpre
  have hx : ((plainTakerRun (.ok ⟨[5], [5]⟩)).get ⟨8, plainTakerRun_length⟩).next =
      some .finish := by
    decide +kernel
  have hsp : ((plainTakerRun (.ok ⟨[5], [5]⟩)).get
      ⟨8, plainTakerRun_length⟩).after.mutable.makerPaymentSpend = some ⟨[5], [5]⟩ := by
    decide +kernel
  rw [get_eq_getElem] at hx hsp
  refine ⟨restored, ?_, ?_⟩
  · rw [hst, hld, hx]
  · rw [he.mutable, hsp]

/-- The live swap finishes, and after a restart it tries to refund the taker's payment, which the
maker has spent. -/
theorem failedSpend_restart_refunds :
    (((plainTakerRun (.error "no")).take 9).getLast?.bind Entry.next = some .finish ∧
      (loadFromSaved 200 plainSwapCtx plainSwapCoin plainSwapCoin
        ⟨1, ((plainTakerRun (.error "no")).take 9).map Entry.event⟩).map Prod.snd =
          .ok (some .refundTakerPayment)) := by
  decide +kernel

end CheetahDex.Proof.TakerRecovery
