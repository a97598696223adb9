import CheetahDex.Ordermatch.TakerOrder

/-!
# Pending reservations

The handlers of `process_maker_reserved` for one taker order share a list of pending reservations.
The handler that puts the first message there sleeps for three seconds and then takes them all; the
others leave theirs and return.
-/

namespace CheetahDex.Ordermatch

open Lib

/-- A division of rationals, which panics if the divisor is zero. -/
def divide (a b : MmNumber) : Option MmNumber := if b = 0 then none else some (a / b)

def MakerReserved.price (r : MakerReserved) : Option MmNumber := divide r.relAmount r.baseAmount

/-- `sort_unstable_by_key` with the price, or a panic. Reservations of one price stay in the order
they came in here. -/
def sortByPrice (messages : List MakerReserved) : Option (List MakerReserved) :=
  -- nothing is compared, and no price computed
  if messages.length < 2 then some messages
  else (messages.mapM fun (r : MakerReserved) => r.price.map (·, r)).map fun keyed =>
    (keyed.insertionSort fun a b => a.1 ≤ b.1).map Prod.snd

/-- Where a handler waits. -/
inductive ReservedTask where
  /-- For the lock of the pending reservations, after the checks. -/
  | checked (message : MakerReserved)
  | sleeping (uuid : Uuid)
  deriving DecidableEq

structure ReservedState where
  myTakerOrders : HashMap Uuid TakerOrder
  pendingMakerReserved : HashMap Uuid (List MakerReserved)
  tasks : List ReservedTask

inductive ReservedMove where
  | receive (fromPubkey : H256) (message : MakerReserved)
  | push (message : MakerReserved)
  | wake (uuid : Uuid) (coins : Coins) (nowMs : Nat)
  /-- The rest of the node changes the taker orders. -/
  | change (orders : HashMap Uuid TakerOrder)

namespace ReservedState

/-- The handler that slept takes the pending reservations. -/
def drain (ourPublicId : H256) (uuid : Uuid) (coins : Coins) (nowMs : Nat) (s : ReservedState) :
    ReservedState :=
  match s.myTakerOrders.lookup uuid with
  | none => s
  | some order =>
    match coins.findPair order.makerCoinTicker order.takerCoinTicker with
    | none => s
    | some _ =>
      let messages := HashMap.getD s.pendingMakerReserved uuid []
      let s := { s with pendingMakerReserved := s.pendingMakerReserved.erase uuid }
      match (sortByPrice messages).bind (order.acceptReserved coins ourPublicId nowMs) with
      | none => s
      | some accepted =>
        { s with
          myTakerOrders := s.myTakerOrders.insert uuid
            { order with
              «matches» := order.matches.insert accepted.reserved.makerOrderUuid accepted } }

def step (ourPublicId : H256) (s : ReservedState) : ReservedMove → ReservedState
  | .receive fromPubkey message =>
    if message.takerOrderUuid ∈ s.myTakerOrders ∧ fromPubkey ≠ ourPublicId then
      { s with tasks := .checked message :: s.tasks }
    else s
  | .push message =>
    if .checked message ∈ s.tasks then
      let uuid := message.takerOrderUuid
      let pending := HashMap.getD s.pendingMakerReserved uuid [] ++ [message]
      let tasks := s.tasks.erase (.checked message)
      { s with
        pendingMakerReserved := s.pendingMakerReserved.insert uuid pending
        tasks := if pending.length > 1 then tasks else .sleeping uuid :: tasks }
    else s
  | .wake uuid coins nowMs =>
    if .sleeping uuid ∈ s.tasks then
      drain ourPublicId uuid coins nowMs { s with tasks := s.tasks.erase (.sleeping uuid) }
    else s
  | .change orders => { s with myTakerOrders := orders }

end ReservedState

end CheetahDex.Ordermatch
