import CheetahDex.Proof.NegotiationV2
import CheetahDex.SwapV2.Stages
import CheetahDex.SwapV2.Storage

/-!
# What becomes of the money in a swap of the second version

A node broadcasts its payment before it stores that it did. How often a side pays, in every run with
any number of crashes and restarts, is derived from the stages.
-/

namespace CheetahDex.SwapV2

open Lib
open Lib.Storable (NotLostFrom)
open Ordermatch (Uuid)
open Swap (Bytes)

variable {MC TC : CoinTypes} (ctx : Ctx) (makerCoin : Coin MC) (takerCoin : Coin TC) (uuid : Uuid)

/-! ## A side pays once -/

namespace Taker

variable {hex : TC.Tx → Bytes} {orderly : Prop} {stage stage' : Stage} {sent : List (Action MC TC)}

/-- The broadcast of a funding. -/
def Action.isFunding : Action MC TC → Bool
  | .funded _ => true
  | _ => false

/-- The states before the funding. -/
def Unfunded (state : State) : Prop := state.stage = .unfunded

instance : DecidablePred Unfunded := fun state => decEq state.stage .unfunded

theorem Moves.countP_unfunded (h : Moves hex orderly .unfunded sent stage) :
    sent.countP Action.isFunding ≤ 1 ∧ (stage = .unfunded → sent.countP Action.isFunding = 0) := by
  cases h <;> simp [Action.isFunding]

theorem Moves.countP_funded (h : Moves hex orderly stage sent stage') (hne : stage ≠ .unfunded) :
    sent.countP Action.isFunding = 0 ∧ stage' ≠ .unfunded := by
  cases h <;> simp_all [Action.isFunding]

theorem sentFrom_unfunded :
    (storable ctx makerCoin takerCoin uuid).SentFrom Action.isFunding Unfunded where
  initial := by
    intro env sm next hx
    have hmv : Moves sm.takerCoin.txHex True .unfunded (init env sm).sent next.stage :=
      init_advances next hx
    exact hmv.countP_unfunded
  step := by
    intro env sm state hun next hx
    have hmv := onChanged_advances state next hx
    have hst : state.stage = .unfunded := hun
    rw [hst] at hmv
    exact hmv.countP_unfunded
  past := fun env sm state hfn next hx => (onChanged_advances state next hx).countP_funded hfn

end Taker

namespace Maker

variable {hex : MC.Tx → Bytes} {orderly : Prop} {stage stage' : Stage} {sent : List (Action MC TC)}

/-- The broadcast of a payment. -/
def Action.isPayment : Action MC TC → Bool
  | .paid _ => true
  | _ => false

/-- The states before the payment. -/
def Unpaid (state : State) : Prop := state.stage = .unpaid

instance : DecidablePred Unpaid := fun state => decEq state.stage .unpaid

theorem Moves.countP_unpaid (h : Moves hex orderly .unpaid sent stage) :
    sent.countP Action.isPayment ≤ 1 ∧ (stage = .unpaid → sent.countP Action.isPayment = 0) := by
  cases h <;> simp [Action.isPayment]

theorem Moves.countP_paid (h : Moves hex orderly stage sent stage') (hne : stage ≠ .unpaid) :
    sent.countP Action.isPayment = 0 ∧ stage' ≠ .unpaid := by
  cases h <;> simp_all [Action.isPayment]

/-- The payment is sent from the states before it only. -/
theorem sentFrom_unpaid :
    (storable ctx makerCoin takerCoin uuid).SentFrom Action.isPayment Unpaid where
  initial := by
    intro env sm next hx
    have hmv : Moves sm.makerCoin.txHex True .unpaid (init env sm).sent next.stage :=
      init_advances next hx
    exact hmv.countP_unpaid
  step := by
    intro env sm state hud next hx
    have hmv := onChanged_advances state next hx
    have hst : state.stage = .unpaid := hud
    rw [hst] at hmv
    exact hmv.countP_unpaid
  past := fun env sm state hpd next hx => (onChanged_advances state next hx).countP_paid hpd

end Maker

/-- **A maker pays once and a taker funds once, in every run in which no crash falls between that
broadcast and the storing of its event.** -/
theorem paymentsV2_sent_once :
    (∀ (sm : Maker.Machine MC TC) (moves : List (Move (Maker.Env MC TC))),
      Guarded (Maker.storable ctx makerCoin takerCoin uuid).durable.step (NotLostFrom Maker.Unpaid)
        (.init sm .starting) moves →
      Always (Maker.storable ctx makerCoin takerCoin uuid).durable.step
        (fun node => node.sent.countP Maker.Action.isPayment ≤ 1) (.init sm .starting) moves) ∧
    ∀ (sm : Taker.Machine MC TC) (moves : List (Move (Taker.Env MC TC))),
      Guarded (Taker.storable ctx makerCoin takerCoin uuid).durable.step
        (NotLostFrom Taker.Unfunded) (.init sm .starting) moves →
      Always (Taker.storable ctx makerCoin takerCoin uuid).durable.step
        (fun node => node.sent.countP Taker.Action.isFunding ≤ 1) (.init sm .starting) moves :=
  ⟨fun sm _ hok => (Maker.sentFrom_unpaid ctx makerCoin takerCoin uuid).once sm hok,
    fun sm _ hok => (Taker.sentFrom_unfunded ctx makerCoin takerCoin uuid).once sm hok⟩

/-- The machines of the plain maker and the plain taker. -/
def plainMakerStorable := Maker.storable plainCtx (plainCoin "RICK") (plainCoin "MORTY") 0

def plainTakerStorable := Taker.storable plainCtx (plainCoin "RICK") (plainCoin "MORTY") 0

/-- What a plain taker is told while a plain maker that started with it answers. -/
def takerEnv : Taker.Env plainTypes plainTypes := plainTakerEnv (plainMaker 1000 7800)

def makerEnv : Maker.Env plainTypes plainTypes := plainMakerEnv (plainTaker 1000 7800)

/-- The same after a restart, where other coins are paid with. -/
def takerEnvAgain : Taker.Env plainTypes plainTypes :=
  { takerEnv with takerCoin := { plainTakerCoin with sendTakerFunding := fun _ => .sent [9] } }

def makerEnvAgain : Maker.Env plainTypes plainTypes :=
  { makerEnv with makerCoin := { plainMakerCoin with sendMakerPaymentV2 := fun _ => .sent [9] } }

/-- A maker that crashes in the state after the payment, and a taker in the one after the
funding. -/
theorem crashAfterStored_sent_once :
    Always plainMakerStorable.durable.step
      (fun node => node.sent.countP Maker.Action.isPayment ≤ 1)
      (.init (plainMaker 1000 7800) .starting)
      [.execute makerEnv, .execute makerEnv, .execute makerEnv, .execute makerEnv,
        .execute makerEnv, .crash makerEnv true 0, .restart makerEnv, .execute makerEnvAgain] ∧
    Always plainTakerStorable.durable.step
      (fun node => node.sent.countP Taker.Action.isFunding ≤ 1)
      (.init (plainTaker 1000 7800) .starting)
      [.execute takerEnv, .execute takerEnv, .execute takerEnv, .execute takerEnv,
        .crash takerEnv true 0, .restart takerEnv, .execute takerEnvAgain] :=
  have hon := paymentsV2_sent_once plainCtx (plainCoin "RICK") (plainCoin "MORTY") 0
  ⟨hon.1 _ _ (by decide +kernel), hon.2 _ _ (by decide +kernel)⟩

/-- A crash after the broadcast and before the event, and a second payment after the restart. -/
theorem crashBeforeStored_sent_twice :
    ¬ Always plainMakerStorable.durable.step
      (fun node => node.sent.countP Maker.Action.isPayment ≤ 1)
      (.init (plainMaker 1000 7800) .starting)
      [.execute makerEnv, .execute makerEnv, .execute makerEnv, .execute makerEnv,
        .crash makerEnv true 0, .restart makerEnv, .execute makerEnvAgain] ∧
    ¬ Always plainTakerStorable.durable.step
      (fun node => node.sent.countP Taker.Action.isFunding ≤ 1)
      (.init (plainTaker 1000 7800) .starting)
      [.execute takerEnv, .execute takerEnv, .execute takerEnv, .crash takerEnv true 0,
        .restart takerEnv, .execute takerEnvAgain] :=
  ⟨by decide +kernel, by decide +kernel⟩

end CheetahDex.SwapV2
