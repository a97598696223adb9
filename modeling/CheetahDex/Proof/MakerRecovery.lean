import CheetahDex.Proof.MakerReturns

/-!
# A maker's swap goes on after a restart

A command chooses the command that is next where it returns its events. After a restart the choice
is made from the last event alone, by `getCommand`. Here the two are compared on every return of
every command, and the loaded state with the one the events were applied to first.
-/

namespace CheetahDex.Proof.MakerRecovery

open Lib Ordermatch Swap List MakerSwap

/-! ## The state -/

/-- Two swaps are in the same state: they agree on all that events change, except for the time the
swap was finished at, which is when the last event is applied. -/
structure SameMaker (swap swap' : MakerSwap) : Prop where
  mutable : swap.mutable = swap'.mutable
  takerPaymentLock : swap.takerPaymentLock = swap'.takerPaymentLock
  takerPaymentConfirmed : swap.takerPaymentConfirmed = swap'.takerPaymentConfirmed
  errors : swap.errors = swap'.errors

variable {swap : MakerSwap}

theorem sameMaker_applyEvent (now now' : UInt64) {swap' : MakerSwap} (event : MakerSwapEvent)
    (h : SameMaker swap swap') :
    SameMaker (swap.applyEvent now event) (swap'.applyEvent now' event) := by
  obtain ⟨hmt, hlc, hcnf, her⟩ := h
  cases event <;> constructor <;> simp only [applyEvent, pushError, hmt, hlc, hcnf, her]

/-! ## The commands -/

variable (makerCoin takerCoin : SwapCoin)

/-- The contract addresses in the data of a start are those of the coins, so that a restart has
nothing to refresh. -/
def FromCoins : MakerSwapEvent → Prop
  | .started data =>
    data.makerCoinSwapContractAddress = makerCoin.swapContractAddress ∧
      data.takerCoinSwapContractAddress = takerCoin.swapContractAddress
  | _ => True

/-- A restart after the event finds the command that is next. -/
def GoesOn (event : MakerSwapEvent) (next : Option MakerSwapCommand) : Prop :=
  event.getCommand = next ∧ FromCoins makerCoin takerCoin event

theorem fromCoins_returned {command : MakerSwapCommand}
    {next : Option MakerSwapCommand} {events : List MakerSwapEvent}
    (h : MakerReturns swap command (.returned next events)) :
    ∀ event ∈ events, FromCoins swap.makerCoin swap.takerCoin event := by
  cases h with
  | started hdt _ => exact forall_mem_singleton.2 ⟨hdt.makerContract, hdt.takerContract⟩
  | _ => simp [FromCoins]

/-! ## Runs -/

/-- The coins of a swap, which no event changes. -/
def MadeOf (swap : MakerSwap) : Prop := swap.makerCoin = makerCoin ∧ swap.takerCoin = takerCoin

variable {makerCoin takerCoin : SwapCoin}

theorem madeOf_applyEvent (now : UInt64) (event : MakerSwapEvent)
    (h : MadeOf makerCoin takerCoin swap) :
    MadeOf makerCoin takerCoin (swap.applyEvent now event) := by
  cases event <;> exact h

theorem goesOn_run (swap : MakerSwap) (command : MakerSwapCommand) (envs : List MakerEnv) :
    ∀ entry ∈ process.run swap command envs,
      GoesOn swap.makerCoin swap.takerCoin entry.event entry.next := by
  refine (Process.forall_run_iff_allowed
    (I := MadeOf swap.makerCoin swap.takerCoin) (C := fun _ _ _ => True)
    (fun env _ event h => madeOf_applyEvent env.now event h) ?_ ⟨rfl, rfl⟩ command envs).2
    (Process.allowed_of_forall_mem (fun _ _ _ _ => trivial) _ _)
  intro env swap' command' h
  rw [← h.1, ← h.2]
  refine iff_true_intro (Outcome.each_iff.2 fun next events hret event hev => ?_)
  have hrt := MakerReturns.of_handle hret
  exact ⟨hrt.getCommand_eq event hev, fromCoins_returned hrt event hev⟩

theorem refreshContracts_eq {data : MakerSwapData}
    (h : FromCoins makerCoin takerCoin (.started data)) :
    data.refreshContracts makerCoin takerCoin = data := by
  obtain ⟨hmk, htk⟩ := h
  simp only [MakerSwapData.refreshContracts, ← hmk, ← htk, Option.orElse_eq_orElse,
    Option.orElse_eq_or, Option.or_self]

theorem loadFromSaved_started {now : UInt64} {ctx : SwapCtx} {saved : MakerSavedSwap}
    {data : MakerSwapData} (hstarted : saved.events.head? = some (.started data))
    (hcs : FromCoins makerCoin takerCoin (.started data)) :
    loadFromSaved now ctx makerCoin takerCoin saved =
      .ok (saved.events.foldl (applyEvent now) (ofData ctx makerCoin takerCoin saved data),
        saved.events.getLast?.bind MakerSwapEvent.getCommand) := by
  obtain ⟨rest, hevs⟩ := head?_eq_some_iff.1 hstarted
  unfold loadFromSaved
  rw [hevs]
  dsimp only
  rw [refreshContracts_eq hcs]

/-- **A maker's swap that is restarted after any of its events goes on as it would have**, in the
state the events were applied to first and with the command that was next. -/
theorem maker_restart_goes_on (ctx : SwapCtx) (taker : Hash 32) (makerAmount takerAmount : MmNumber)
    (myPersistentPub : Hash 33) (uuid : Uuid) (myOrderUuid : Option Uuid)
    (confSettings : SwapConfirmationsSettings) (makerCoin takerCoin : SwapCoin)
    (paymentLocktime : UInt64) (p2pPrivkey : Option KeyPair) (envs : List MakerEnv)
    (saved : MakerSavedSwap) (now : UInt64)
    {pre : List (Entry MakerSwap MakerSwapEvent MakerSwapCommand)}
    {entry : Entry MakerSwap MakerSwapEvent MakerSwapCommand} {data : MakerSwapData}
    (hpre : pre ++ [entry] <+: process.run
      (.new ctx taker makerAmount takerAmount myPersistentPub uuid myOrderUuid confSettings
        makerCoin takerCoin paymentLocktime p2pPrivkey) .start envs)
    (hsaved : saved.events = (pre ++ [entry]).map Entry.event)
    (hstarted : saved.events.head? = some (.started data)) :
    ∃ restored, loadFromSaved now ctx makerCoin takerCoin saved =
      .ok (restored, entry.next) ∧ SameMaker restored entry.after := by
  have hall : ∀ entry' ∈ pre ++ [entry], GoesOn makerCoin takerCoin entry'.event entry'.next :=
    fun entry' h => goesOn_run _ _ _ entry' (hpre.subset h)
  -- the first event is that of an entry, so the addresses it has are the coins'
  have hcs : FromCoins makerCoin takerCoin (.started data) := by
    have hmem := mem_of_mem_head? hstarted
    rw [hsaved] at hmem
    obtain ⟨first, hfst, hev⟩ := List.mem_map.1 hmem
    rw [← hev]
    exact (hall first hfst).2
  have hl : saved.events.getLast?.bind MakerSwapEvent.getCommand = entry.next := by
    rw [hsaved, Process.getLast?_bind_table]
    exact (hall entry (by simp)).1
  refine ⟨saved.events.foldl (applyEvent now) (.ofData ctx makerCoin takerCoin saved data), ?_, ?_⟩
  · rw [loadFromSaved_started hstarted hcs, hl]
  · rw [hsaved]
    refine (Process.chain_run _ _ _).replay (R := SameMaker) ?_ hpre ⟨rfl, rfl, rfl, rfl⟩
    intro env swap swap' event h
    exact sameMaker_applyEvent now env.now event h

/-- A node, and a coin for both sides. -/
def plainSwapCtx : SwapCtx where
  keyPair := ⟨.replicate 33 2, .replicate 32 1⟩
  dhash160 := fun _ => .replicate 20 0
  dexFeeAddr := []
  toDecimal := id

@[inherit_doc plainSwapCtx]
def plainSwapCoin : SwapCoin where
  ticker := "KMD"
  swapContractAddress := none
  htlcKeyPair := none
  requiresNotarization := false

/-- Every coin does what it is asked, and the taker's payment does not arrive. -/
def lostPaymentEnv : MakerEnv where
  now := 100
  senderTradeFee := fun _ => .ok ⟨"KMD", 0, false⟩
  receiverTradeFee := .ok ⟨"KMD", 0, false⟩
  checkBalance := fun _ _ _ => .ok ()
  secret := .replicate 32 7
  makerCoinBlock := .ok 1
  takerCoinBlock := .ok 1
  negotiationReply := .ok (.v1 100 7900 (.replicate 20 0) (.replicate 33 3))
  makerNegotiateContract := fun _ => .ok none
  takerNegotiateContract := fun _ => .ok none
  takerFee := .ok [1]
  takerTx := fun bytes => .ok ⟨bytes, bytes⟩
  dexFee := fun _ _ _ => .noFee
  validateFee := fun _ _ => .ok ()
  checkIfMyPaymentSent := fun _ _ => .ok none
  sendMakerPayment := fun _ _ => .ok ⟨[2], [2]⟩
  makerConfirmations := fun _ => .ok ()
  takerPayment := .error "Timeout"
  takerConfirmations := fun _ => .ok ()
  validateTakerPayment := fun _ => .ok ()
  sendMakerSpendsTakerPayment := fun _ => .ok ⟨[3], [3]⟩
  canRefundHtlc := fun _ => [.ok .canRefundNow]
  sendMakerRefundsPayment := fun _ => .ok ⟨[4], [4]⟩

/-- A swap that begins. -/
def plainMakerSwap : MakerSwap :=
  .new plainSwapCtx (.replicate 32 9) 1 1 (.replicate 33 2) 1 none ⟨1, false, 1, false⟩
    plainSwapCoin plainSwapCoin 7800 none

/-- A run that ends with a refund. -/
def refundRun : List (Entry MakerSwap MakerSwapEvent MakerSwapCommand) :=
  process.run plainMakerSwap .start (.replicate 8 lostPaymentEnv)

theorem refundRun_length : 4 < refundRun.length := by decide +kernel

theorem maker_restart_goes_on_refund : ∃ restored,
    loadFromSaved 200 plainSwapCtx plainSwapCoin plainSwapCoin
        ⟨1, none, (refundRun.take 5).map Entry.event⟩ = .ok (restored, some .refundMakerPayment) ∧
      restored.errors = [⟨"Timeout"⟩] := by
  have hsp := take_succ_eq_append_getElem refundRun_length
  have hpre := take_prefix 5 refundRun
  rw [hsp] at hpre
  obtain ⟨restored, hld, he⟩ := maker_restart_goes_on plainSwapCtx _ _ _ _ _ _ _ _ _ _ _ _
    ⟨1, none, (refundRun.take 5).map Entry.event⟩ 200 hpre (by rw [hsp]) rfl
  have hx : (refundRun.get ⟨4, refundRun_length⟩).next = some .refundMakerPayment := by
    decide +kernel
  have her : (refundRun.get ⟨4, refundRun_length⟩).after.errors = [⟨"Timeout"⟩] := by decide +kernel
  rw [get_eq_getElem] at hx her
  refine ⟨restored, ?_, ?_⟩
  · rw [hld, hx]
  · rw [he.errors, her]

end CheetahDex.Proof.MakerRecovery
