import CheetahDex.Ordermatch.TakerOrder

/-!
# Cancelling and matching at the same time

`process_taker_request`, `process_taker_connect`, `cancel_order` and `cancel_orders_by` run as tasks
that give way to each other at every `await`. A task that waits for the mutex of an order has a
handle to the order: it will get the order, whether or not the order is still in the list.

A `Task` is a call of one of the four functions between two awaits, with the locals it still needs,
and a poll takes it to the next await. Which locks are held follows from where the tasks are.
-/

namespace CheetahDex.Ordermatch

open Lib Common

def MakerOrder.isCancellable (order : MakerOrder) : Bool := !order.hasOngoingMatches

def TakerOrder.isCancellable (order : TakerOrder) : Bool := order.matches = ∅

inductive CancelBy where
  | all
  | pair (base rel : String)
  | coin (ticker : String)

/-- The orders that are to be cancelled, by their tickers. -/
def CancelBy.selects (cancelBy : CancelBy) (base rel : String) : Bool :=
  match cancelBy with
  | .all => true
  | .pair base' rel' => base = base' ∧ rel = rel'
  | .coin ticker => base = ticker ∨ rel = ticker

inductive CancelOrderError where
  | orderBeingMatched (uuid : Uuid)
  | uuidNotFound (uuid : Uuid)
  deriving DecidableEq

/-- What the tasks share. -/
structure OwnOrders where
  /-- The orders behind the handles, whether or not they are still in the list. -/
  orders : MakerOrders
  /-- The orders in `maker_orders_ctx`. -/
  listed : Finset Uuid
  /-- `my_taker_orders`. -/
  takerOrders : HashMap Uuid TakerOrder

/-- What a task does to the outside. -/
inductive Effect where
  /-- A reservation is sent. -/
  | reserved (msg : MakerReserved)
  /-- A swap starts, and the taker is told. -/
  | connected (orderMatch : MakerMatch)
  /-- `maker_order_updated_p2p_notify`, with the new volume. -/
  | orderUpdated (uuid : Uuid) (newMaxVolume : MmNumber)
  /-- `maker_order_cancelled_p2p_notify`. -/
  | orderCancelled (uuid : Uuid)
  /-- `update_active_maker_order`. -/
  | saveMakerOrder (order : MakerOrder)
  /-- `delete_my_maker_order`. -/
  | deleteMakerOrder (uuid : Uuid)
  /-- `delete_my_taker_order`. -/
  | deleteTakerOrder (uuid : Uuid)
  /-- `cancel_order` returns. -/
  | cancelOrder (result : Except CancelOrderError Unit)
  /-- `cancel_orders_by` returns. -/
  | cancelOrdersBy (cancelled currentlyMatching : List Uuid)
  deriving DecidableEq

/-- The lists `cancel_orders_by` collects. -/
structure Cancelled where
  makerOrders : List MakerOrder := []
  takerOrders : List TakerOrder := []
  cancelled : List Uuid := []
  currentlyMatching : List Uuid := []

/-- A call that is at one of its awaits. -/
inductive Task where
  /-- `process_taker_request` waits for the next of the orders it has cloned. -/
  | request (takerRequest : TakerRequest) (remaining : List Uuid)
  /-- It has the order, and waits for `find_pair`. -/
  | findPair (takerRequest : TakerRequest) (uuid : Uuid)
  /-- It, or `process_taker_connect`, has the order and waits for the storage. -/
  | save (uuid : Uuid)
  /-- `process_taker_connect` waits for the order. -/
  | connect (senderPubkey : H256) (connectMsg : TakerConnect)
  /-- `cancel_order` waits for the order. -/
  | cancel (uuid : Uuid)
  /-- It has the order, which can be cancelled, and waits for the list of orders. -/
  | cancelRemove (uuid : Uuid)
  /-- It has the order and waits for the storage. -/
  | cancelDelete (uuid : Uuid)
  /-- `cancel_order` waits for the taker orders. -/
  | cancelTaker (uuid : Uuid)
  /-- It has the taker orders and waits for the storage. -/
  | cancelTakerDelete (order : TakerOrder)
  /-- `cancel_orders_by` waits for the taker orders. -/
  | bulk (cancelBy : CancelBy) (orders : List Uuid)
  /-- It has the taker orders and waits for the next of the orders it has cloned. -/
  | bulkCheck (cancelBy : CancelBy) (remaining toRemove : List Uuid) (cancelled : Cancelled)
  /-- It has the taker orders and waits for the list of orders. -/
  | bulkRemove (cancelBy : CancelBy) (toRemove : List Uuid) (cancelled : Cancelled)
  /-- It has the taker orders and waits for the storage. -/
  | bulkDelete (makerOrders : List MakerOrder) (takerOrders : List TakerOrder)
      (cancelled : Cancelled)

namespace Task

/-- The task has locked the order. -/
def holds (uuid : Uuid) : Task → Bool
  | findPair _ uuid' => uuid' = uuid
  | save uuid' => uuid' = uuid
  | cancelRemove uuid' => uuid' = uuid
  | cancelDelete uuid' => uuid' = uuid
  | _ => false

/-- The task has locked the taker orders. -/
def holdsTakers : Task → Bool
  | cancelTakerDelete _ => true
  | bulkCheck .. => true
  | bulkRemove .. => true
  | bulkDelete .. => true
  | _ => false

end Task

/-- What the environment decides while a task runs. -/
structure TaskEnv where
  ourPublicId : H256
  coins : Coins
  nowMs : Nat
  takers : Iteration Uuid

/-- What a poll does: the task at its next await, if there is one. -/
structure Turn where
  task : Option Task
  state : OwnOrders
  effects : List Effect := []

/-- The tasks of a node and what they share. -/
structure Tasks where
  state : OwnOrders
  tasks : List Task

namespace Tasks

/-- The mutex of an order is locked. -/
def locked (t : Tasks) (uuid : Uuid) : Bool := t.tasks.any (·.holds uuid)

/-- The mutex of the taker orders is locked. -/
def takersLocked (t : Tasks) : Bool := t.tasks.any (·.holdsTakers)

end Tasks

/-! ## Matching -/

variable (s : OwnOrders)

/-- `process_taker_request` gets the lock of an order. -/
def OwnOrders.requestOrder (takerRequest : TakerRequest) (uuid : Uuid) (rest : List Uuid) : Turn :=
  match s.orders.lookup uuid with
  | none => { task := some (.request takerRequest rest), state := s }
  | some order =>
    match order.matchWithRequest takerRequest with
    | .notMatched => { task := some (.request takerRequest rest), state := s }
    | .matched _ _ => { task := some (.findPair takerRequest uuid), state := s }

variable (env : TaskEnv)

/-- `process_taker_request` from `find_pair` on. -/
def OwnOrders.reserveOrder (takerRequest : TakerRequest) (uuid : Uuid) : Turn :=
  match s.orders.lookup uuid with
  | none => { task := none, state := s }
  | some order =>
    match order.requestTurn env.coins env.nowMs env.ourPublicId uuid takerRequest with
    | .notMatched => { task := none, state := s }
    | .returned => { task := none, state := s }
    | .reserved msg order =>
      { task := some (.save uuid)
        state := { s with orders := s.orders.insert uuid order }
        effects := [.reserved msg] }

variable (uuid : Uuid)

/-- `update_active_maker_order`, the last thing a handler does. -/
def OwnOrders.saveOrder : Turn :=
  { task := none
    state := s
    effects := (s.orders.lookup uuid).toList.map .saveMakerOrder }

/-- `process_taker_connect` gets the lock of its order. -/
def OwnOrders.connectOrder (senderPubkey : H256) (connectMsg : TakerConnect) : Turn :=
  match s.orders.lookup connectMsg.makerOrderUuid with
  | none => { task := none, state := s }
  | some order =>
    match order.processConnect env.ourPublicId senderPubkey connectMsg with
    | (_, none) => { task := none, state := s }
    | (order, some (orderMatch, _)) =>
      { task := some (.save connectMsg.makerOrderUuid)
        state := { s with orders := s.orders.insert connectMsg.makerOrderUuid order }
        effects := .connected orderMatch ::
          if order.availableAmount ≥ order.minBaseVol then
            [.orderUpdated order.uuid order.availableAmount]
          else [] }

/-! ## Cancelling -/

/-- `cancel_order` gets the lock of the order. -/
def OwnOrders.checkOrder : Turn :=
  match s.orders.lookup uuid with
  | none => { task := none, state := s }
  | some order =>
    if order.isCancellable then { task := some (.cancelRemove uuid), state := s }
    else { task := none, state := s, effects := [.cancelOrder (.error (.orderBeingMatched uuid))] }

/-- `cancel_order` removes the order, if nobody else has. -/
def OwnOrders.removeOrder : Turn :=
  if uuid ∈ s.listed then
    { task := some (.cancelDelete uuid)
      state := { s with listed := s.listed.erase uuid }
      effects := [.orderCancelled uuid] }
  else { task := none, state := s, effects := [.cancelOrder (.ok ())] }

/-- `cancel_order` gets the lock of the taker orders. -/
def OwnOrders.cancelTakerOrder : Turn :=
  match s.takerOrders.lookup uuid with
  | none => { task := none, state := s, effects := [.cancelOrder (.error (.uuidNotFound uuid))] }
  | some order =>
    if order.isCancellable then
      { task := some (.cancelTakerDelete order)
        state := { s with takerOrders := s.takerOrders.erase uuid } }
    else { task := none, state := s, effects := [.cancelOrder (.error (.uuidNotFound uuid))] }

variable (cancelBy : CancelBy)

/-- `cancel_maker_if_true`, on a copy of the order. -/
def OwnOrders.bulkCheckOrder (uuid : Uuid)
    (rest toRemove : List Uuid) (cancelled : Cancelled) : Turn :=
  match s.orders.lookup uuid with
  | none => { task := some (.bulkCheck cancelBy rest toRemove cancelled), state := s }
  | some order =>
    if cancelBy.selects order.base order.rel then
      if order.isCancellable then
        { task := some (.bulkCheck cancelBy rest (toRemove ++ [uuid])
            { cancelled with
              makerOrders := cancelled.makerOrders ++ [order]
              cancelled := cancelled.cancelled ++ [uuid] })
          state := s }
      else
        { task := some (.bulkCheck cancelBy rest toRemove
            { cancelled with currentlyMatching := cancelled.currentlyMatching ++ [uuid] })
          state := s }
    else { task := some (.bulkCheck cancelBy rest toRemove cancelled), state := s }

/-- `cancel_taker_if_true`, on one of the taker orders. -/
def Cancelled.addTaker (cancelled : Cancelled) (entry : Uuid × TakerOrder) :
    Cancelled :=
  if cancelBy.selects entry.2.request.base entry.2.request.rel then
    if entry.2.isCancellable then
      { cancelled with
        takerOrders := cancelled.takerOrders ++ [entry.2]
        cancelled := cancelled.cancelled ++ [entry.1] }
    else { cancelled with currentlyMatching := cancelled.currentlyMatching ++ [entry.1] }
  else cancelled

/-- `cancel_orders_by` goes through the taker orders. -/
def OwnOrders.drainTakers (cancelled : Cancelled) : Turn :=
  let cancelled := (env.takers.entries s.takerOrders).foldl (Cancelled.addTaker cancelBy) cancelled
  { task := some (.bulkDelete cancelled.makerOrders cancelled.takerOrders cancelled)
    state := { s with
      takerOrders := s.takerOrders.retain fun _ order =>
        !(cancelBy.selects order.request.base order.request.rel && order.isCancellable) } }

/-! ## Tasks -/

/-- A poll of a task. A task whose lock is held stays where it is. -/
def Task.poll (t : Tasks) (task : Task) : Turn :=
  let s := t.state
  match task with
  | .request _ [] => { task := none, state := s }
  | .request takerRequest (uuid :: rest) =>
    if t.locked uuid then { task := some task, state := s }
    else s.requestOrder takerRequest uuid rest
  -- these two have the lock of the order they work on
  | .findPair takerRequest uuid => s.reserveOrder env takerRequest uuid
  | .save uuid => s.saveOrder uuid
  | .connect senderPubkey connectMsg =>
    if t.locked connectMsg.makerOrderUuid then { task := some task, state := s }
    else s.connectOrder env senderPubkey connectMsg
  | .cancel uuid => if t.locked uuid then { task := some task, state := s } else s.checkOrder uuid
  | .cancelRemove uuid => s.removeOrder uuid
  | .cancelDelete uuid =>
    { task := none, state := s, effects := [.deleteMakerOrder uuid, .cancelOrder (.ok ())] }
  | .cancelTaker uuid =>
    if t.takersLocked then { task := some task, state := s } else s.cancelTakerOrder uuid
  | .cancelTakerDelete order =>
    { task := none
      state := s
      effects := [.deleteTakerOrder order.request.uuid, .cancelOrder (.ok ())] }
  | .bulk cancelBy orders =>
    if t.takersLocked then { task := some task, state := s }
    else { task := some (.bulkCheck cancelBy orders [] {}), state := s }
  | .bulkCheck cancelBy [] toRemove cancelled =>
    { task := some (.bulkRemove cancelBy toRemove cancelled), state := s }
  | .bulkCheck cancelBy (uuid :: rest) toRemove cancelled =>
    if t.locked uuid then { task := some task, state := s }
    else s.bulkCheckOrder cancelBy uuid rest toRemove cancelled
  | .bulkRemove cancelBy [] cancelled => s.drainTakers env cancelBy cancelled
  -- the list is locked for one removal at a time, the order itself not at all
  | .bulkRemove cancelBy (uuid :: rest) cancelled =>
    { task := some (.bulkRemove cancelBy rest cancelled)
      state := { s with listed := s.listed.erase uuid } }
  | .bulkDelete (order :: rest) takerOrders cancelled =>
    { task := some (.bulkDelete rest takerOrders cancelled)
      state := s
      effects := [.orderCancelled order.uuid, .deleteMakerOrder order.uuid] }
  | .bulkDelete [] (order :: rest) cancelled =>
    { task := some (.bulkDelete [] rest cancelled)
      state := s
      effects := [.deleteTakerOrder order.request.uuid] }
  | .bulkDelete [] [] cancelled =>
    { task := none
      state := s
      effects := [.cancelOrdersBy cancelled.cancelled cancelled.currentlyMatching] }

/-- A call of one of the functions, with the order in which it sees the orders it clones. -/
inductive Call where
  | takerRequest (ourPublicId fromPubkey : H256) (request : TakerRequest) (orders : Iteration Uuid)
  | takerConnect (ourPublicId senderPubkey : H256) (connectMsg : TakerConnect)
  | cancelOrder (uuid : Uuid)
  | cancelOrdersBy (cancelBy : CancelBy) (orders : Iteration Uuid)

/-- A call up to its first await. -/
def Call.start : Call → Option Task
  | .takerRequest ourPublicId fromPubkey request orders =>
    if ourPublicId = fromPubkey then none
    else if !request.canMatchWithMakerPubkey ourPublicId then none
    else some (.request request ((orders.toList s.listed).filter request.canMatchWithUuid))
  | .takerConnect ourPublicId senderPubkey connectMsg =>
    if ourPublicId = senderPubkey then none
    else if connectMsg.makerOrderUuid ∈ s.listed then some (.connect senderPubkey connectMsg)
    else none
  | .cancelOrder uuid => some (if uuid ∈ s.listed then .cancel uuid else .cancelTaker uuid)
  | .cancelOrdersBy cancelBy orders => some (.bulk cancelBy (orders.toList s.listed))

/-- What happens next: a call, or a poll of one of the tasks. -/
inductive TaskMove where
  | call (c : Call)
  | poll (i : Nat) (env : TaskEnv)

namespace Tasks

/-- A node with own orders, before any call. -/
def init (orders : MakerOrders) (takerOrders : HashMap Uuid TakerOrder) : Tasks :=
  { state := { orders, listed := orders.keys, takerOrders }, tasks := [] }

/-- The next state and what it does to the outside. A task that has returned is gone. -/
def next (t : Tasks) : TaskMove → Tasks × List Effect
  | .call c => ({ t with tasks := t.tasks ++ (c.start t.state).toList }, [])
  | .poll i env =>
    match t.tasks[i]? with
    | none => (t, [])
    | some task =>
      let turn := task.poll env t
      ({ state := turn.state
         tasks := t.tasks.take i ++ turn.task.toList ++ t.tasks.drop (i + 1) },
       turn.effects)

def step (t : Tasks) (move : TaskMove) : Tasks := (t.next move).1

end Tasks

end CheetahDex.Ordermatch
