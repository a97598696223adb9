import CheetahDex.Lib.Restart
import CheetahDex.Swap.MakerSwap
import CheetahDex.Swap.TakerSwap

/-!
# Swaps that are interrupted

The two swaps as processes that crash and are restarted from their saved events. What is followed
are the transactions a node pays with. Each is broadcast by one command, before that command has an
event to save. A payment is known by the arguments it is looked for with. A send that returns an
error can have reached the network: a node answers with an error after it has taken the transaction,
or the coin waits for the transaction and gives up.
-/

namespace CheetahDex.Swap

open Lib Ordermatch

/-! ## An attempt to pay -/

/-- What is with the network after something was sent. -/
def reached {β : Type} (unnoticed : Bool) (what : β) : Except String TransactionIdentifier → List β
  | .ok _ => [what]
  | .error _ => if unnoticed then [what] else []

section attempt

variable {ω β : Type} {late unnoticed : Prop}
  {checked : Except String (Option TransactionIdentifier)} {made : TransactionIdentifier → ω}
  {failed : String → ω} {payment : β} {outcome : ω} {sent : List β}

variable (late unnoticed checked made failed payment) in
/-- What an attempt to pay comes to, and what it broadcasts. -/
inductive Attempt : ω → List β → Prop where
  | found (tx : TransactionIdentifier) : Attempt (made tx) []
  | sent (tx : TransactionIdentifier) (h : checked = .ok none) : Attempt (made tx) [payment]
  | failed (e : String) (h : late ∨ ∀ tx, checked ≠ .ok (some tx)) : Attempt (failed e) []
  | unnoticed (e : String) (h : checked = .ok none) (hsn : unnoticed) : Attempt (failed e) [payment]

section

variable (h : Attempt late unnoticed checked made failed payment outcome sent)

include h

theorem Attempt.broadcast : sent = [] ∨ sent = [payment] ∧ checked = .ok none := by
  cases h with
  | found | failed => exact .inl rfl
  | sent _ hn | unnoticed _ hn => exact .inr ⟨rfl, hn⟩

theorem Attempt.length_le : sent.length ≤ 1 := by cases h <;> simp

/-- An attempt fails late, or where no payment is found, and it has broadcast nothing if no
broadcast goes unnoticed. -/
theorem Attempt.of_ne (hne : ∀ tx, made tx ≠ outcome) (hnt : ¬unnoticed) :
    sent = [] ∧ (late ∨ ∀ tx, checked ≠ .ok (some tx)) := by
  cases h with
  | found tx | sent tx => exact absurd rfl (hne tx)
  | failed e hwhy => exact ⟨rfl, hwhy⟩
  | unnoticed e hn hsn => exact absurd hsn hnt

end

end attempt

/-! ## The maker -/

namespace MakerSwap

/-- The time after which `maker_payment` gives up. -/
def paymentTimeout (swap : MakerSwap) : UInt64 :=
  swap.mutable.data.startedAt + swap.mutable.data.lockDuration / 3

/-- What `maker_payment` broadcasts. -/
def broadcastPayment (env : MakerEnv) (swap : MakerSwap) : List PaymentArgs :=
  if env.now > swap.paymentTimeout then []
  else
    match env.checkIfMyPaymentSent swap.paymentArgs swap.mutable.data.makerCoinStartBlock with
    | .ok none =>
      reached env.sentUnnoticed swap.paymentArgs
        (env.sendMakerPayment swap.paymentArgs swap.makerAmount)
    | .ok (some _) => []
    | .error _ => []

/-- What each command broadcasts. -/
def broadcasts (env : MakerEnv) (swap : MakerSwap) : MakerSwapCommand → List PaymentArgs
  | .sendPayment => swap.broadcastPayment env
  | _ => []

/-- A swap whose events are saved under the given uuids, with the coins it is kick-started with. -/
def durable (ctx : SwapCtx) (makerCoin takerCoin : SwapCoin) (uuid : Uuid)
    (myOrderUuid : Option Uuid) :
    Durable MakerSwap MakerSwapEvent MakerSwapCommand MakerEnv PaymentArgs where
  process := process
  sends := broadcasts
  load := fun env events =>
    match loadFromSaved env.now ctx makerCoin takerCoin ⟨uuid, myOrderUuid, events⟩ with
    | .ok (swap, some command) => some (swap, command)
    -- finished already
    | .ok (_, none) => none
    | .error _ => none

end MakerSwap

/-! ## The taker -/

/-- What a taker pays. -/
inductive TakerBroadcast where
  | fee (dexFee : DexFee)
  | payment (args : PaymentArgs)

namespace TakerBroadcast

def fee? : TakerBroadcast → Option DexFee
  | fee dexFee => some dexFee
  | payment _ => none

def payment? : TakerBroadcast → Option PaymentArgs
  | fee _ => none
  | payment args => some args

end TakerBroadcast

namespace TakerSwap

/-- The time after which `send_taker_fee` and `send_taker_payment` give up. -/
def paymentTimeout (swap : TakerSwap) : UInt64 :=
  swap.mutable.data.startedAt + swap.mutable.data.lockDuration / 3

variable (env : TakerEnv) (swap : TakerSwap)

/-- What `send_taker_fee` broadcasts. -/
def broadcastFee : List TakerBroadcast :=
  let dexFee := env.dexFee swap.mutable.data.makerCoin swap.takerAmount
    swap.mutable.myTakerCoinHtlcKeypair.publicKey
  if env.now > swap.paymentTimeout then []
  else
    reached env.sentUnnoticed (.fee dexFee) (env.sendTakerFee dexFee swap.ctx.dexFeeAddr swap.uuid)

/-- What `send_taker_payment` broadcasts. -/
def broadcastPayment : List TakerBroadcast :=
  if env.now > swap.paymentTimeout then []
  else
    match env.checkIfMyPaymentSent swap.paymentArgs swap.mutable.data.takerCoinStartBlock with
    | .ok none =>
      reached env.sentUnnoticed (.payment swap.paymentArgs)
        (env.sendTakerPayment swap.paymentArgs (swap.ctx.toDecimal swap.takerAmount))
    | .ok (some _) => []
    | .error _ => []

/-- What each command broadcasts. -/
def broadcasts : TakerSwapCommand → List TakerBroadcast
  | .sendTakerFee => swap.broadcastFee env
  | .sendTakerPayment => swap.broadcastPayment env
  | _ => []

/-- A swap whose events are saved under the given uuid, with the coins it is kick-started with. -/
def durable (ctx : SwapCtx) (makerCoin takerCoin : SwapCoin) (uuid : Uuid) :
    Durable TakerSwap TakerSwapEvent TakerSwapCommand TakerEnv TakerBroadcast where
  process := process
  sends := broadcasts
  load := fun env events =>
    match loadFromSaved env.now ctx makerCoin takerCoin ⟨uuid, events⟩ with
    | .ok (swap, some command) => some (swap, command)
    -- finished already
    | .ok (_, none) => none
    | .error _ => none

end TakerSwap

end CheetahDex.Swap
