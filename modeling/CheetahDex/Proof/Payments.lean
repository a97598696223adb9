import CheetahDex.Proof.MakerRestarts
import CheetahDex.Proof.TakerRestarts

/-!
# Payments across restarts

What a swap pays in a run with any number of crashes and restarts, under the assumption that a
payment that was broadcast is found. Each payment is broadcast at most once. The fee is, if no crash
falls between its broadcast and the saving of the event.
-/

namespace CheetahDex.Proof

open Lib Ordermatch Swap Durable TakerRestarts
open MakerRecovery (plainSwapCtx plainSwapCoin plainMakerSwap lostPaymentEnv)
open TakerRecovery (plainTakerEnv plainTakerSwap recoverable_plainTakerEnv)

/-- A maker's swap that crashes and is restarted. -/
abbrev MakerRunning := Running MakerSwap MakerSwapEvent MakerSwapCommand PaymentArgs

/-- A taker's swap that crashes and is restarted. -/
abbrev TakerRunning := Running TakerSwap TakerSwapEvent TakerSwapCommand TakerBroadcast

/-! ## At most once -/

variable (ctx : SwapCtx) (peer : Hash 32) (makerAmount takerAmount : MmNumber)
  (myPersistentPub : Hash 33) (uuid : Uuid) (myOrderUuid : Option Uuid)
  (confSettings : SwapConfirmationsSettings) (makerCoin takerCoin : SwapCoin)
  (paymentLocktime : UInt64) (p2pPrivkey : Option KeyPair)

/-- **A payment is broadcast at most once, and so is the fee if no crash falls before its event is
saved.** -/
theorem broadcast_once_always :
    (let start : MakerRunning := .init (.new ctx peer makerAmount takerAmount myPersistentPub uuid
        myOrderUuid confSettings makerCoin takerCoin paymentLocktime p2pPrivkey) .start
      let step := (MakerSwap.durable ctx makerCoin takerCoin uuid myOrderUuid).step
      ∀ moves, Guarded step (Allowed MakerRestarts.Finds Anywhere) start moves →
        Always step (fun node => node.sent.length ≤ 1) start moves) ∧
    (let start : TakerRunning := .init (.new ctx peer makerAmount takerAmount myPersistentPub uuid
        myOrderUuid confSettings makerCoin takerCoin paymentLocktime p2pPrivkey) .start
      let step := (TakerSwap.durable ctx makerCoin takerCoin uuid).step
      ∀ moves,
        (Guarded step (Allowed TakerRestarts.Finds Anywhere) start moves →
          Always step (fun node => (payments node).length ≤ 1) start moves) ∧
        (Guarded step (Allowed TakerRestarts.Finds TakerRestarts.FeeSaved) start moves →
          Always step (fun node => (fees node).length ≤ 1) start moves)) := by
  refine ⟨fun moves h => ?_, fun moves => ⟨fun h => ?_, fun h => ?_⟩⟩
  · refine ((MakerRestarts.paymentGuard MakerRestarts.fresh_new uuid myOrderUuid).once_always
      (MakerRestarts.resumed_init _) h).mono fun node hnd => ?_
    simpa using hnd
  · exact (paymentGuard fresh_new uuid).once_always (resumed_init _) h
  · exact (sendingFee fresh_new uuid).once_always id (resumed_init _) h

/-- A maker at the start of its swap. -/
def plainMakerRunning : MakerRunning := .init plainMakerSwap .start

/-- A taker at the start of its swap. -/
def plainTakerRunning : TakerRunning := .init plainTakerSwap .start

def plainMakerStep : MakerRunning → Move MakerEnv → MakerRunning :=
  (MakerSwap.durable plainSwapCtx plainSwapCoin plainSwapCoin 1 none).step

def plainTakerStep : TakerRunning → Move TakerEnv → TakerRunning :=
  (TakerSwap.durable plainSwapCtx plainSwapCoin plainSwapCoin 1).step

/-- The taker's swap goes through. -/
def goodTakerEnv : TakerEnv := plainTakerEnv (.ok ⟨[5], [5]⟩)

/-- The maker has paid, and its payment is found. -/
def paidMakerEnv : MakerEnv :=
  { lostPaymentEnv with checkIfMyPaymentSent := fun _ _ => .ok (some ⟨[2], [2]⟩) }

/-- The taker has paid, and its payment is found. -/
def paidTakerEnv : TakerEnv :=
  { goodTakerEnv with checkIfMyPaymentSent := fun _ _ => .ok (some ⟨[3], [3]⟩) }

/-- The maker crashes when its payment is broadcast, before the event is saved; the restart finds
the payment, and in the end it is refunded. -/
def lostEventMoves : List (Move MakerEnv) :=
  .replicate 3 (.execute lostPaymentEnv) ++ [.crash lostPaymentEnv true 0, .restart paidMakerEnv] ++
    .replicate 3 (.execute paidMakerEnv)

/-- The taker crashes in the same way, and in the end it spends the maker's payment. -/
def lostTakerEventMoves : List (Move TakerEnv) :=
  .replicate 5 (.execute goodTakerEnv) ++
    [.crash goodTakerEnv true 0, .restart paidTakerEnv] ++
    .replicate 3 (.execute paidTakerEnv)

@[inherit_doc lostEventMoves]
def lostEventEnd : MakerRunning := lostEventMoves.foldl plainMakerStep plainMakerRunning

@[inherit_doc lostTakerEventMoves]
def lostTakerEventEnd : TakerRunning := lostTakerEventMoves.foldl plainTakerStep plainTakerRunning

theorem broadcast_once_always_lostEvent :
    lostEventEnd.sent.length ≤ 1 ∧ (payments lostTakerEventEnd).length ≤ 1 ∧
      (fees lostTakerEventEnd).length ≤ 1 := by
  obtain ⟨hmk, htk⟩ := broadcast_once_always plainSwapCtx (.replicate 32 9) 1 1
    (.replicate 33 2) 1 none ⟨1, false, 1, false⟩ plainSwapCoin plainSwapCoin 7800 none
  obtain ⟨hpy, hfs⟩ := htk lostTakerEventMoves
  exact ⟨(hmk lostEventMoves (by decide +kernel)).last, (hpy (by decide +kernel)).last,
    (hfs (by decide +kernel)).last⟩

/-- The fee is broadcast, the taker crashes before that is saved, and after the restart it is
broadcast again. -/
def lostFeeMoves : List (Move TakerEnv) :=
  .replicate 2 (.execute goodTakerEnv) ++
    [.crash goodTakerEnv true 0, .restart goodTakerEnv, .execute goodTakerEnv]

theorem lostFeeMoves_pays_twice :
    Guarded plainTakerStep (Allowed TakerRestarts.Finds Anywhere) plainTakerRunning lostFeeMoves ∧
      ¬ Always plainTakerStep
        (fun node => (fees node).length ≤ 1) plainTakerRunning lostFeeMoves := by
  decide +kernel

/-! ## No payment is given up -/

/-- **A swap that has paid finishes only after an event that settles, if no restart between the
broadcast and the saving of its event comes late, if no payment whose sending fails was broadcast,
and if the taker finds the secret.** -/
theorem payment_settled_always :
    (let start : MakerRunning := .init (.new ctx peer makerAmount takerAmount myPersistentPub uuid
        myOrderUuid confSettings makerCoin takerCoin paymentLocktime p2pPrivkey) .start
      let step := (MakerSwap.durable ctx makerCoin takerCoin uuid myOrderUuid).step
      ∀ moves, Guarded step (Allowed MakerRestarts.Kept Anywhere) start moves →
        Always step MakerRestarts.Closed start moves) ∧
    (let start : TakerRunning := .init (.new ctx peer makerAmount takerAmount myPersistentPub uuid
        myOrderUuid confSettings makerCoin takerCoin paymentLocktime p2pPrivkey) .start
      let step := (TakerSwap.durable ctx makerCoin takerCoin uuid).step
      ∀ moves, Guarded step (Allowed TakerRestarts.Kept Anywhere) start moves →
        Always step TakerRestarts.Closed start moves) := by
  refine ⟨fun moves h => ?_, fun moves h => ?_⟩
  · refine ((MakerRestarts.settling MakerRestarts.fresh_new uuid myOrderUuid).always
      (MakerRestarts.resumed_init _) h).mono fun node hnd swap hlv hsn => ?_
    exact hnd swap hlv (by rwa [MakerRestarts.sent_sendingPayment])
  · exact (settling fresh_new uuid).always (resumed_init _) h

theorem payment_settled_always_lostEvent :
    (lostEventEnd.live.map Prod.snd = some .finish ∧ lostEventEnd.sent.length = 1 ∧
      MakerRestarts.Closed lostEventEnd) ∧
    (lostTakerEventEnd.live.map Prod.snd = some .finish ∧
      (payments lostTakerEventEnd).length = 1 ∧
      TakerRestarts.Closed lostTakerEventEnd) := by
  obtain ⟨hmk, htk⟩ := payment_settled_always plainSwapCtx (.replicate 32 9) 1 1
    (.replicate 33 2) 1 none ⟨1, false, 1, false⟩ plainSwapCoin plainSwapCoin 7800 none
  refine ⟨⟨by decide +kernel, by decide +kernel, (hmk lostEventMoves (by decide +kernel)).last⟩,
    by decide +kernel, by decide +kernel, (htk lostTakerEventMoves ?_).last⟩
  have hgr : Guarded plainTakerStep
      (Allowed (fun env sent swap command => TakerRestarts.Finds env sent swap command ∧
        TakerRestarts.InTime env sent swap command) Anywhere)
      plainTakerRunning lostTakerEventMoves := by
    decide +kernel
  refine hgr.imp fun node move hmv hok => ?_
  -- whatever the command, the secret is found, and no broadcast goes unnoticed
  have hsec (swap) := recoverable_plainTakerEnv ⟨[5], [5]⟩ swap .waitForTakerPaymentSpend
  rw [lostTakerEventMoves, List.mem_append, List.mem_append, List.mem_pair] at hmv
  rcases hmv with (hmv | rfl | rfl) | hmv
  · obtain rfl := List.eq_of_mem_replicate hmv
    exact fun swap command hlv => ⟨(hok swap command hlv).1, (hok swap command hlv).2,
      fun _ h => Bool.false_ne_true h.1, fun _ => hsec swap⟩
  · exact fun swap command hlv => ⟨⟨(hok swap command hlv).1.1, (hok swap command hlv).1.2,
      fun _ h => Bool.false_ne_true h.1, fun _ => hsec swap⟩, fun _ _ => trivial⟩
  · exact trivial
  · obtain rfl := List.eq_of_mem_replicate hmv
    exact fun swap command hlv => ⟨(hok swap command hlv).1, (hok swap command hlv).2,
      fun _ h => Bool.false_ne_true h.1, fun _ => hsec swap⟩

/-- The maker crashes when its payment is broadcast, and the restart comes after the time limit. -/
def lateRestartMoves : List (Move MakerEnv) :=
  .replicate 3 (.execute lostPaymentEnv) ++ [.crash lostPaymentEnv true 0,
    .restart { paidMakerEnv with now := 3000 }, .execute { paidMakerEnv with now := 3000 }]

/-- The payment reaches the network, but the maker is told that its sending failed. -/
def unnoticedMoves : List (Move MakerEnv) :=
  .replicate 3 (.execute lostPaymentEnv) ++ [.execute { lostPaymentEnv with
    sendMakerPayment := fun _ _ => .error "TxNotMined"
    sentUnnoticed := true }]

/-- The maker has spent the taker's payment, and the secret is not found in the transaction. -/
def hiddenSecretMoves : List (Move TakerEnv) :=
  .replicate 6 (.execute goodTakerEnv) ++
    [.execute { paidTakerEnv with extractSecret := fun _ _ => .error "no secret" }]

theorem lateRestart_gives_up :
    (Guarded plainMakerStep
        (Allowed MakerRestarts.Finds Anywhere) plainMakerRunning lateRestartMoves ∧
      ¬ Always plainMakerStep MakerRestarts.Closed plainMakerRunning lateRestartMoves) ∧
    (Guarded plainMakerStep
        (Allowed MakerRestarts.Finds Anywhere) plainMakerRunning unnoticedMoves ∧
      ¬ Always plainMakerStep MakerRestarts.Closed plainMakerRunning unnoticedMoves) ∧
    (Guarded plainTakerStep
        (Allowed TakerRestarts.Finds Anywhere) plainTakerRunning hiddenSecretMoves ∧
      ¬ Always plainTakerStep TakerRestarts.Closed plainTakerRunning hiddenSecretMoves) := by
  decide +kernel

end CheetahDex.Proof
