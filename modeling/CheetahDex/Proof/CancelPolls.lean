import CheetahDex.Ordermatch.Cancel
import CheetahDex.Proof.MakerCases

/-!
# What a poll can do to an order

A poll of a task takes up an order for a request, adds a match to an order it has, saves one,
connects a match that was ongoing, looks at an order that can be cancelled, removes one that it has
looked at, or leaves the orders of the maker alone.
-/

namespace CheetahDex.Proof

open Lib Ordermatch OwnOrders

/-! ## Maker orders -/

variable (uuid : Uuid)

/-- The task has locked the order and is going to change or save it. -/
def Writes : Task → Prop
  | .findPair _ uuid' => uuid' = uuid
  | .save uuid' => uuid' = uuid
  | _ => False

/-- The task has looked at the order and is going to remove it. -/
def Decided : Task → Prop
  | .cancelRemove uuid' => uuid' = uuid
  | .bulkCheck _ _ toRemove _ => uuid ∈ toRemove
  | .bulkRemove _ toRemove _ => uuid ∈ toRemove
  | _ => False

/-- The orders that the task is going to remove. -/
def doomed : Task → List Uuid
  | .cancelRemove uuid => [uuid]
  | .bulkCheck _ _ toRemove _ => toRemove
  | .bulkRemove _ toRemove _ => toRemove
  | _ => []

theorem decided_iff (task : Task) : (doomed task).any (· == uuid) ↔ Decided uuid task := by
  cases task <;> simp [doomed, Decided]

instance (uuid : Uuid) (task : Task) : Decidable (Decided uuid task) :=
  decidable_of_iff _ (decided_iff uuid task)

/-- The order is reserved for a taker, or saved. -/
def Revives : Effect → Prop
  | .reserved msg => msg.makerOrderUuid = uuid
  | .saveMakerOrder order => order.uuid = uuid
  | _ => False

variable {task : Task} {uuid : Uuid} {t : Tasks} {effects : List Effect}

theorem Writes.holds (h : Writes uuid task) : task.holds uuid := by
  cases task with
  | findPair takerRequest uuid' | save uuid' => exact decide_eq_true h
  | _ => exact h.elim

/-- Nobody who writes has an order that is not locked. -/
theorem not_writes_of_not_locked (h : t.locked uuid = false) :
    ∀ task ∈ t.tasks, ¬ Writes uuid task := by
  intro task hts hws
  have hlc : t.locked uuid := List.any_eq_true.2 ⟨task, hts, hws.holds⟩
  rw [h] at hlc
  exact absurd hlc Bool.false_ne_true

/-- What a poll of a task does to the orders of the maker. -/
inductive Polled (t : Tasks) (task : Task) (turn : Turn) : Prop where
  /-- Nothing, and the task comes no closer to it. -/
  | quiet (orders : turn.state.orders = t.state.orders)
    (listed : turn.state.listed = t.state.listed)
      (effects : ∀ effect ∈ turn.effects, ∀ uuid, ¬ Revives uuid effect)
      (writes : ∀ task' ∈ turn.task, ∀ uuid, ¬ Writes uuid task')
      (decided : ∀ task' ∈ turn.task, ∀ uuid, Decided uuid task' → Decided uuid task)
  /-- A request takes up an order that it matches. -/
  | taken (takerRequest : TakerRequest) (uuid : Uuid) (rest : List Uuid) (order : MakerOrder)
      (task_eq : task = .request takerRequest (uuid :: rest))
      (unlocked : t.locked uuid = false) (lookup : t.state.orders.lookup uuid = some order)
      (matched : order.matchWithRequest takerRequest ≠ .notMatched)
      (turn_eq : turn = { task := some (.findPair takerRequest uuid), state := t.state })
  /-- A request adds a match to the order it has. -/
  | reserved (uuid : Uuid) (order order' : MakerOrder) (msg : MakerReserved)
      (writes : Writes uuid task) (lookup : t.state.orders.lookup uuid = some order)
      (uuid_eq : order'.uuid = order.uuid) (msg_uuid : msg.makerOrderUuid = uuid)
      (turn_eq : turn =
        { task := some (.save uuid)
          state := { t.state with orders := t.state.orders.insert uuid order' }
          effects := [.reserved msg] })
  /-- The order is saved. -/
  | saved (uuid : Uuid) (task_eq : task = .save uuid) (turn_eq : turn = t.state.saveOrder uuid)
  /-- A match that was ongoing is connected. -/
  | connected (uuid : Uuid) (order order' : MakerOrder) (effects : List Effect)
      (lookup : t.state.orders.lookup uuid = some order)
      (ongoing : order.isCancellable = false) (uuid_eq : order'.uuid = order.uuid)
      (quiet : ∀ effect ∈ effects, ∀ uuid, ¬ Revives uuid effect)
      (turn_eq : turn =
        { task := some (.save uuid)
          state := { t.state with orders := t.state.orders.insert uuid order' }
          effects })
  /-- A cancellation looks at an order that can be cancelled. -/
  | decided (uuid : Uuid) (order : MakerOrder) (task' : Task) (unlocked : t.locked uuid = false)
      (lookup : t.state.orders.lookup uuid = some order) (cancellable : order.isCancellable)
      (turn_eq : turn = { task := some task', state := t.state })
      (writes : ∀ uuid, ¬ Writes uuid task')
      (decided : ∀ uuid', Decided uuid' task' → uuid' = uuid ∨ Decided uuid' task)
  /-- An order is removed. -/
  | removed (uuid : Uuid) (task' : Task) (effects : List Effect) (hdec : Decided uuid task)
      (turn_eq : turn =
        { task := some task'
          state := { t.state with listed := t.state.listed.erase uuid }
          effects })
      (quiet : ∀ effect ∈ effects, ∀ uuid, ¬ Revives uuid effect)
      (writes : ∀ uuid, ¬ Writes uuid task')
      (decided : ∀ uuid', Decided uuid' task' → Decided uuid' task)

/-! ## Taker orders -/

/-- Every taker order that goes can be cancelled. -/
def TakersKept (s s' : OwnOrders) : Prop :=
  ∀ uuid order, s.takerOrders.lookup uuid = some order → s'.takerOrders.lookup uuid = none →
    order.isCancellable

theorem takersKept_of_eq {s s' : OwnOrders} (h : s'.takerOrders = s.takerOrders) :
    TakersKept s s' := by
  intro uuid order hs hn
  rw [h, hs] at hn
  cases hn

/-! ## Polls -/

/-- What a poll of a task does to both kinds of orders. -/
structure Polls (t : Tasks) (task : Task) (turn : Turn) : Prop where
  polled : Polled t task turn
  takersKept : TakersKept t.state turn.state

/-- Only a cancellation of a taker order and the end of a bulk cancellation touch taker orders. -/
theorem Polls.of {turn : Turn} (h : Polled t task turn)
    (htk : turn.state.takerOrders = t.state.takerOrders) : Polls t task turn :=
  ⟨h, takersKept_of_eq htk⟩

/-- A task that returns. -/
theorem Polls.returns (hef : ∀ effect ∈ effects, ∀ uuid, ¬ Revives uuid effect) :
    Polls t task { task := none, state := t.state, effects } :=
  .of (.quiet rfl rfl hef (by simp) (by simp)) rfl

/-- A task that goes on to another await. -/
theorem Polls.goesOn {task task' : Task}
    (hef : ∀ effect ∈ effects, ∀ uuid, ¬ Revives uuid effect)
    (hws : ∀ uuid, ¬ Writes uuid task')
    (hdec : ∀ uuid, Decided uuid task' → Decided uuid task) :
    Polls t task { task := some task', state := t.state, effects } :=
  .of (.quiet rfl rfl hef (by simpa using hws) (by simpa using hdec)) rfl

/-- A task waits for a lock, or goes on if nobody has it. -/
theorem Polls.unlocked {locked : Bool} {turn : Turn} (hws : ∀ uuid, ¬ Writes uuid task)
    (h : locked = false → Polls t task turn) :
    Polls t task (if locked then { task := some task, state := t.state } else turn) := by
  cases locked with
  | false => exact h rfl
  | true => exact .goesOn (by simp) hws fun _ => id

theorem polls_requestOrder {takerRequest : TakerRequest} {rest : List Uuid}
    (hunl : t.locked uuid = false) :
    Polls t (.request takerRequest (uuid :: rest))
      (t.state.requestOrder takerRequest uuid rest) := by
  have hx : Polls t (.request takerRequest (uuid :: rest))
      { task := some (.request takerRequest rest), state := t.state } :=
    .goesOn (by simp) (fun _ => id) fun _ => id
  unfold requestOrder
  split
  · exact hx
  · rename_i order hlk
    split
    · exact hx
    · rename_i baseAmount relAmount hma
      have hne : order.matchWithRequest takerRequest ≠ .notMatched := by
        rw [hma]
        exact fun h => nomatch h
      exact .of (.taken takerRequest uuid rest order rfl hunl hlk hne rfl) rfl

variable (env : TaskEnv)

theorem polls_connectOrder (senderPubkey : H256) (connectMsg : TakerConnect) :
    Polls t (.connect senderPubkey connectMsg)
      (t.state.connectOrder env senderPubkey connectMsg) := by
  unfold connectOrder
  split
  · exact .returns (by simp)
  · rename_i order hlk
    rcases processConnect_cases env.ourPublicId order senderPubkey connectMsg with
      hn | ⟨orderMatch, hmt, hcon, hcn, hs⟩
    · rw [hn]
      exact .returns (by simp)
    · rw [hs]
      refine .of (.connected connectMsg.makerOrderUuid order
        (order.startSwap connectMsg.takerOrderUuid
          (orderMatch.connectedBy env.ourPublicId connectMsg)) _ hlk
        (congrArg not (hasOngoingMatches_of_lookup hmt hcon hcn)) rfl ?_ rfl) rfl
      split <;> simp [Revives]

theorem polls_cancelTakerOrder (t : Tasks) (uuid : Uuid) :
    Polls t (.cancelTaker uuid) (t.state.cancelTakerOrder uuid) := by
  have hnt : Polls t (.cancelTaker uuid)
      { task := none
        state := t.state
        effects := [.cancelOrder (.error (.uuidNotFound uuid))] } :=
    .returns (by simp [Revives])
  unfold cancelTakerOrder
  split
  · exact hnt
  · rename_i order hlk
    split
    · rename_i hcan
      refine ⟨.quiet rfl rfl (by simp) (by simp [Writes]) (by simp [Decided]), ?_⟩
      intro uuid' order' hs hn
      rw [HashMap.lookup_erase_ite] at hn
      split at hn
      · rename_i heq
        rw [heq, hlk] at hs
        exact Option.some.inj hs ▸ hcan
      · cases hs.symm.trans hn
    · exact hnt

theorem polls_bulkCheckOrder {cancelBy : CancelBy} {rest toRemove : List Uuid}
    {cancelled : Cancelled} (hunl : t.locked uuid = false) :
    Polls t (.bulkCheck cancelBy (uuid :: rest) toRemove cancelled)
      (t.state.bulkCheckOrder cancelBy uuid rest toRemove cancelled) := by
  unfold bulkCheckOrder
  split
  · exact .goesOn (by simp) (fun _ => id) fun _ => id
  · rename_i order hlk
    split
    · split
      · rename_i hcan
        refine .of (.decided uuid order _ hunl hlk hcan rfl (fun _ => id) ?_) rfl
        intro uuid' h
        rcases List.mem_append.1 h with hold | hnew
        · exact .inr hold
        · exact .inl (List.mem_singleton.1 hnew)
      · exact .goesOn (by simp) (fun _ => id) fun _ => id
    · exact .goesOn (by simp) (fun _ => id) fun _ => id

/-- **Every poll of every task is one of the listed ones.** -/
theorem polls_poll (t : Tasks) (task : Task) : Polls t task (task.poll env t) := by
  unfold Task.poll
  -- One case for each await, in the order of the definition.
  split
  · exact .returns (by simp)
  · exact .unlocked (fun _ => id) polls_requestOrder
  -- `findPair` and `save` have the lock already
  · rename_i takerRequest uuid
    dsimp only [reserveOrder]
    split
    · exact .returns (by simp)
    · rename_i order hlk
      split
      · exact .returns (by simp)
      · exact .returns (by simp)
      · rename_i msg order' htr
        obtain ⟨_, _, _, _, _, _, hmsg, hord'⟩ := requestTurn_reserved htr
        exact .of (.reserved uuid order order' msg rfl hlk (by rw [hord']; rfl)
          (by rw [hmsg]; rfl) rfl) rfl
  · rename_i uuid
    exact .of (.saved uuid rfl rfl) rfl
  · exact .unlocked (fun _ => id) fun _ => polls_connectOrder env _ _
  · rename_i uuid
    -- `cancel` decides under the lock and gives it back before `cancelRemove`
    refine .unlocked (fun _ => id) fun hunl => ?_
    dsimp only [checkOrder]
    split
    · exact .returns (by simp)
    · rename_i order hlk
      split
      · rename_i hcan
        exact .of (.decided uuid order (.cancelRemove uuid) hunl hlk hcan rfl
          (fun _ => id) fun uuid' h => .inl h.symm) rfl
      · exact .returns (by simp [Revives])
  · rename_i uuid
    dsimp only [removeOrder]
    split
    · exact .of (.removed uuid (.cancelDelete uuid) _ rfl rfl (by simp [Revives])
        (fun _ => id) fun _ => False.elim) rfl
    · exact .returns (by simp [Revives])
  · exact .returns (by simp [Revives])
  · exact .unlocked (fun _ => id) fun _ => polls_cancelTakerOrder t _
  · exact .returns (by simp [Revives])
  -- the bulk cancellation: one poll for each order it checks, drains or removes
  · refine .unlocked (fun _ => id) fun _ => ?_
    exact .goesOn (by simp) (fun _ => id) fun _ h => nomatch h
  · exact .goesOn (by simp) (fun _ => id) fun _ => id
  · exact .unlocked (fun _ => id) polls_bulkCheckOrder
  · dsimp only [drainTakers]
    refine ⟨.quiet rfl rfl (by simp) (by simp [Writes]) (by simp [Decided]), ?_⟩
    -- a taker order that is drained is one that may be cancelled
    intro uuid order hs hn
    simp only [HashMap.lookup_retain, hs] at hn
    rw [Option.filter_eq_none_iff] at hn
    have hgn := hn order rfl
    simp only [Bool.not_eq_true', Bool.not_eq_false, Bool.and_eq_true] at hgn
    exact hgn.2
  · rename_i cancelBy uuid rest cancelled
    exact .of (.removed uuid (.bulkRemove cancelBy rest cancelled) [] List.mem_cons_self rfl
      (by simp) (fun _ => id) fun _ => List.mem_cons_of_mem uuid) rfl
  · exact .goesOn (by simp [Revives]) (fun _ => id) fun _ => False.elim
  · exact .goesOn (by simp [Revives]) (fun _ => id) fun _ => False.elim
  · exact .returns (by simp [Revives])

end CheetahDex.Proof
