import CheetahDex.Proof.CancelPolls
import CheetahDex.Proof.Commitment

/-!
# Cancellations that race with matches

A cancellation looks at an order under its lock, so at that moment nobody is matching it. What may
go wrong comes from the handler of requests, which takes up the orders it has cloned one by one and
never asks whether an order is still in the list: it may take up one that was removed, or one that
`cancel_orders_by` is about to remove. If that never happens, an order that is decided upon or
removed stays closed.
-/

namespace CheetahDex.Proof

open Lib Ordermatch List Option Tasks

/-! ## Orders that are closed -/

variable (t : Tasks)

/-- The order has no ongoing match, and nobody who has it is going to change or save it. -/
def Closed (uuid : Uuid) : Prop :=
  (∀ order, t.state.orders.lookup uuid = some order → order.isCancellable) ∧
    ∀ task ∈ t.tasks, ¬ Writes uuid task

/-- The order is in the list, and nobody is going to remove it. -/
def Open (uuid : Uuid) : Prop := uuid ∈ t.state.listed ∧ ∀ task ∈ t.tasks, ¬ Decided uuid task

instance (t : Tasks) (uuid : Uuid) : Decidable (Open t uuid) :=
  inferInstanceAs (Decidable (_ ∧ _))

/-- Orders that are not open are closed. -/
structure Settled : Prop where
  keyed : ∀ uuid order, t.state.orders.lookup uuid = some order → order.uuid = uuid
  closed : ∀ uuid, ¬ Open t uuid → Closed t uuid

/-- The node after a poll. -/
def Tasks.after (i : Nat) (turn : Turn) : Tasks :=
  { state := turn.state, tasks := t.tasks.take i ++ turn.task.toList ++ t.tasks.drop (i + 1) }

variable {t : Tasks} {task : Task} {turn : Turn} {uuid : Uuid}

theorem mem_after {i : Nat} (h : task ∈ (Tasks.after t i turn).tasks) :
    task ∈ t.tasks ∨ task ∈ turn.task := by
  rcases mem_append.1 h with hfr | hdr
  · rcases mem_append.1 hfr with htak | hnew
    · exact .inl (mem_of_mem_take htak)
    · exact .inr (mem_toList.1 hnew)
  · exact .inl (mem_of_mem_drop hdr)

theorem Settled.open_of_writes (h : Settled t) (hts : task ∈ t.tasks)
    (hws : Writes uuid task) : Open t uuid := by
  by_contra hop
  exact (h.closed uuid hop).2 task hts hws

theorem Settled.open_of_not_isCancellable (h : Settled t) {order : MakerOrder}
    (hlk : t.state.orders.lookup uuid = some order) (hon : order.isCancellable = false) :
    Open t uuid := by
  by_contra hop
  have hcan := (h.closed uuid hop).1 order hlk
  rw [hon] at hcan
  exact absurd hcan Bool.false_ne_true

/-- A closed order stays closed if it is left alone. -/
theorem Closed.after (h : Closed t uuid) (i : Nat)
    (hor : turn.state.orders.lookup uuid = t.state.orders.lookup uuid)
    (hws : ∀ task' ∈ turn.task, ¬ Writes uuid task') : Closed (Tasks.after t i turn) uuid := by
  refine ⟨fun order hlk => h.1 order (hor ▸ hlk), fun task hts => ?_⟩
  rcases mem_after hts with hold | hnew
  · exact h.2 task hold
  · exact hws task hnew

/-- A poll that only concerns an open order, which it may write. -/
theorem Settled.touch (h : Settled t) (hop : Open t uuid) (i : Nat)
    (hls : turn.state.listed = t.state.listed)
    (hor : ∀ uuid', uuid' ≠ uuid → turn.state.orders.lookup uuid' = t.state.orders.lookup uuid')
    (hkeyed : ∀ order, turn.state.orders.lookup uuid = some order → order.uuid = uuid)
    (hws : ∀ task' ∈ turn.task, ∀ uuid', Writes uuid' task' → uuid' = uuid)
    (hdec : ∀ task' ∈ turn.task, ∀ uuid', ¬ Decided uuid' task') :
    Settled (Tasks.after t i turn) := by
  refine ⟨fun uuid' order hlk => ?_, fun uuid' hcl => ?_⟩
  · by_cases heq : uuid' = uuid
    · exact heq ▸ hkeyed order (heq ▸ hlk)
    · exact h.keyed uuid' order (hor uuid' heq ▸ hlk)
  · -- An order that was open is still open, so this one is another than the one that is written.
    have hold : Open t uuid' → Open (Tasks.after t i turn) uuid' := by
      intro ⟨hin, hnot⟩
      refine ⟨hls ▸ hin, fun task hts => ?_⟩
      rcases mem_after hts with hold | hnew
      · exact hnot task hold
      · exact hdec task hnew uuid'
    have hne : uuid' ≠ uuid := fun heq => hcl (hold (heq ▸ hop))
    exact (h.closed uuid' fun hop' => hcl (hold hop')).after i (hor uuid' hne)
      fun task' hts' hws' => hne (hws task' hts' uuid' hws')

/-- A poll that changes an open order and is going to save it. -/
theorem Settled.write (h : Settled t) (hop : Open t uuid) {order order' : MakerOrder}
    (hlk : t.state.orders.lookup uuid = some order) (hud : order'.uuid = order.uuid) (i : Nat)
    {effects : List Effect} :
    Settled (Tasks.after t i
      { task := some (.save uuid)
        state := { t.state with orders := t.state.orders.insert uuid order' }
        effects }) := by
  refine h.touch hop i rfl (fun uuid' hne => Finmap.lookup_insert_of_ne _ hne)
    (fun order'' hlk' => ?_) (by simp [Writes]) (by simp [Decided])
  cases (Finmap.lookup_insert _).symm.trans hlk'
  exact hud.trans (h.keyed uuid order hlk)

/-- A poll that leaves the orders alone and may close some of them. -/
theorem Settled.close (h : Settled t) (i : Nat) (hor : turn.state.orders = t.state.orders)
    (hws : ∀ task' ∈ turn.task, ∀ uuid, ¬ Writes uuid task')
    (hcl : ∀ uuid, ¬ Open (Tasks.after t i turn) uuid → Closed t uuid) :
    Settled (Tasks.after t i turn) :=
  ⟨fun uuid order hlk => h.keyed uuid order (hor ▸ hlk), fun uuid hop =>
    (hcl uuid hop).after i (by rw [hor]) fun task' hts' => hws task' hts' uuid⟩

theorem Open.after (h : Open t uuid) (i : Nat) (hts : task ∈ t.tasks)
    (hls : uuid ∈ turn.state.listed)
    (hdec : ∀ task' ∈ turn.task, Decided uuid task' → Decided uuid task) :
    Open (Tasks.after t i turn) uuid := by
  refine ⟨hls, fun task' hts' hdec' => ?_⟩
  rcases mem_after hts' with hold | hnew
  · exact h.2 task' hold hdec'
  · exact h.2 task hts (hdec task' hnew hdec')

/-! ## One step -/

/-- The order that a poll takes up for a request, if the order matches it. -/
def takenUp (t : Tasks) : TaskMove → Option Uuid
  | .call _ => none
  | .poll i _ =>
    match t.tasks[i]? with
    | some (.request takerRequest (uuid :: _)) =>
      if t.locked uuid = false ∧
          ∃ order ∈ t.state.orders.lookup uuid,
            order.matchWithRequest takerRequest ≠ .notMatched then
        some uuid
      else none
    | _ => none

/-- A request takes up no order that is removed or about to be. -/
def Undisturbed (t : Tasks) (move : TaskMove) : Prop := ∀ uuid ∈ takenUp t move, Open t uuid

instance (t : Tasks) (move : TaskMove) : Decidable (Undisturbed t move) :=
  decidableForallMem _

/-- Orders that are not open stay closed, since no request takes one up. -/
theorem Settled.poll (h : Settled t) {i : Nat} {env : TaskEnv} (hget : t.tasks[i]? = some task)
    (hundisturbed : Undisturbed t (.poll i env)) (hpl : Polled t task turn) :
    Settled (Tasks.after t i turn) := by
  have hts : task ∈ t.tasks := mem_of_getElem? hget
  cases hpl with
  | quiet hor hls hef hws hdec =>
    refine h.close i hor hws fun uuid hcl => h.closed uuid fun hop => hcl ?_
    exact hop.after i hts (hls ▸ hop.1) fun task' hts' => hdec task' hts' uuid
  | taken takerRequest uuid rest order htask_eq hunl hlk hmt htr =>
    subst htr
    -- the order taken up is open, by assumption
    have hta : takenUp t (.poll i env) = some uuid := by
      simp only [takenUp, hget, htask_eq]
      exact if_pos ⟨hunl, order, hlk, hmt⟩
    exact h.touch (hundisturbed uuid hta) i rfl (fun _ _ => rfl) (h.keyed uuid)
      (by simp [Writes]) (by simp [Decided])
  | reserved uuid order order' msg hws hlk hud hmsg htr =>
    subst htr
    -- a task that is going to write has an open order
    exact h.write (h.open_of_writes hts hws) hlk hud i
  | saved uuid htask_eq htr =>
    subst htr
    have hdn : (t.state.saveOrder uuid).task = none := rfl
    refine h.close i rfl (by simp [hdn]) fun uuid' hcl => h.closed uuid' fun hop =>
      hcl (hop.after i hts hop.1 (by simp [hdn]))
  | connected uuid order order' effects hlk hon hud hqt htr =>
    subst htr
    -- an order with an ongoing match cannot be closed
    exact h.write (h.open_of_not_isCancellable hlk hon) hlk hud i
  | decided uuid order task' hunl hlk hcan htr hws hdec =>
    subst htr
    refine h.close i rfl (by simpa using hws) fun uuid' hcl => ?_
    -- the order decided upon is closed from here on; the others are as before
    by_cases heq : uuid' = uuid
    · subst heq
      refine ⟨fun order' hlk' => ?_, not_writes_of_not_locked hunl⟩
      exact some.inj (hlk.symm.trans hlk') ▸ hcan
    · refine h.closed uuid' fun hop => hcl (hop.after i hts hop.1 ?_)
      simpa [heq] using hdec uuid'
  | removed uuid task' effects htask_decided htr hqt hws hdec =>
    subst htr
    refine h.close i rfl (by simpa using hws) fun uuid' hcl => h.closed uuid' fun hop => ?_
    have hne : uuid' ≠ uuid := fun heq => hop.2 task hts (heq ▸ htask_decided)
    refine hcl (hop.after i hts (Finset.mem_erase.2 ⟨hne, hop.1⟩) ?_)
    simpa using hdec uuid'

/-- A call starts with a task that has no order yet. -/
theorem start_cases {s : OwnOrders} {c : Call} (h : task ∈ c.start s) (uuid : Uuid) :
    ¬ Writes uuid task ∧ ¬ Decided uuid task := by
  cases c with
  | takerRequest ourPublicId fromPubkey request orders =>
    simp only [Call.start, mem_def] at h
    split at h
    · cases h
    · split at h
      · cases h
      · cases h
        exact ⟨id, id⟩
  | takerConnect ourPublicId senderPubkey connectMsg =>
    simp only [Call.start, mem_def] at h
    split at h
    · cases h
    · split at h
      · cases h
        exact ⟨id, id⟩
      · cases h
  | cancelOrder uuid' =>
    cases h
    split <;> exact ⟨id, id⟩
  | cancelOrdersBy cancelBy orders =>
    cases h
    exact ⟨id, id⟩

theorem Settled.call (h : Settled t) (c : Call) : Settled (t.step (.call c)) := by
  refine ⟨h.keyed, fun uuid hcl => ?_⟩
  have hold : Closed t uuid := by
    refine h.closed uuid fun hop => hcl ⟨hop.1, fun task hts => ?_⟩
    rcases mem_append.1 hts with hmem | hadd
    · exact hop.2 task hmem
    · exact (start_cases (mem_toList.1 hadd) uuid).2
  refine ⟨hold.1, fun task hts => ?_⟩
  rcases mem_append.1 hts with hmem | hadd
  · exact hold.2 task hmem
  · exact (start_cases (mem_toList.1 hadd) uuid).1

theorem Settled.step (h : Settled t) {move : TaskMove} (hundisturbed : Undisturbed t move) :
    Settled (t.step move) := by
  cases move with
  | call c => exact h.call c
  | poll i env =>
    rw [Tasks.step, Tasks.next]
    cases hget : t.tasks[i]? with
    | none => exact h
    | some task => exact h.poll hget hundisturbed (polls_poll env t task).polled

/-- What a step may do to orders that are cancelled. -/
structure Orderly (t : Tasks) (move : TaskMove) : Prop where
  /-- A maker order that is removed has no ongoing match. -/
  removed : ∀ uuid ∈ t.state.listed, uuid ∉ (t.step move).state.listed →
    ∀ order, t.state.orders.lookup uuid = some order → order.hasOngoingMatches = false
  /-- A taker order that is removed has no match. -/
  removedTaker : ∀ uuid order, t.state.takerOrders.lookup uuid = some order →
    (t.step move).state.takerOrders.lookup uuid = none → order.matches = ∅
  /-- An order that was removed gets no match, -/
  notMatched : ∀ uuid ∉ t.state.listed, ∀ order, t.state.orders.lookup uuid = some order →
    ∃ order', (t.step move).state.orders.lookup uuid = some order' ∧
      order'.matches.keys ⊆ order.matches.keys
  /-- is reserved for nobody, -/
  notReserved : ∀ uuid ∉ t.state.listed, ∀ msg, .reserved msg ∈ (t.next move).2 →
    msg.makerOrderUuid ≠ uuid
  /-- and is not saved. -/
  notSaved : ∀ uuid ∉ t.state.listed, ∀ order, .saveMakerOrder order ∈ (t.next move).2 →
    order.uuid ≠ uuid

section

variable (h : Settled t) (hts : task ∈ t.tasks) (hpl : Polled t task turn)
  (hud : uuid ∉ t.state.listed)

include h hts hpl hud

/-- An order that was removed is left alone. -/
theorem Settled.lookup_poll : turn.state.orders.lookup uuid = t.state.orders.lookup uuid := by
  have hne : ∀ uuid', Open t uuid' → uuid ≠ uuid' := fun uuid' hop heq => hud (heq ▸ hop.1)
  cases hpl with
  | quiet hor => rw [hor]
  | reserved uuid' order order' msg hws hlk hud' hmsg htr =>
    rw [htr]
    exact Finmap.lookup_insert_of_ne _ (hne uuid' (h.open_of_writes hts hws))
  | connected uuid' order order' effects hlk hon hud' hqt htr =>
    rw [htr]
    exact Finmap.lookup_insert_of_ne _ (hne uuid' (h.open_of_not_isCancellable hlk hon))
  | taken _ _ _ _ _ _ _ _ htr => rw [htr]
  | saved _ _ htr => rw [htr]; rfl
  | decided _ _ _ _ _ _ htr => rw [htr]
  | removed _ _ _ _ htr => rw [htr]

theorem Settled.not_revives : ∀ effect ∈ turn.effects, ¬ Revives uuid effect := by
  intro effect heff hrv
  cases hpl with
  | quiet _ _ hqt => exact hqt effect heff uuid hrv
  | reserved uuid' order order' msg hws hlk hud' hmsg htr =>
    rw [htr] at heff
    rw [List.mem_singleton.1 heff] at hrv
    -- the message names an order that was open, so it is listed
    have heq : uuid' = uuid := hmsg.symm.trans hrv
    exact hud (heq ▸ (h.open_of_writes hts hws).1)
  | saved uuid' htask_eq htr =>
    rw [htr] at heff
    obtain ⟨order, hlk, rfl⟩ := List.mem_map.1 heff
    have heq : uuid' = uuid := (h.keyed uuid' order (mem_toList.1 hlk)).symm.trans hrv
    have hws : Writes uuid task := htask_eq ▸ heq
    exact hud (h.open_of_writes hts hws).1
  | connected _ _ _ effects _ _ _ hqt htr =>
    rw [htr] at heff
    exact hqt effect heff uuid hrv
  | taken _ _ _ _ _ _ _ _ htr | decided _ _ _ _ _ _ htr =>
    rw [htr] at heff
    exact nomatch heff
  | removed _ _ effects _ htr hqt =>
    rw [htr] at heff
    exact hqt effect heff uuid hrv

end

/-- An order that is removed was decided upon. -/
theorem decided_of_removed (hpl : Polled t task turn) (hin : uuid ∈ t.state.listed)
    (hout : uuid ∉ turn.state.listed) : Decided uuid task := by
  cases hpl with
  | quiet _ hls => exact absurd (hls ▸ hin) hout
  | removed uuid' _ _ hdec htr =>
    rw [htr] at hout
    have heq : uuid = uuid' := by
      by_contra hne
      exact hout (Finset.mem_erase.2 ⟨hne, hin⟩)
    exact heq ▸ hdec
  | reserved _ _ _ _ _ _ _ _ htr | connected _ _ _ _ _ _ _ _ htr
  | taken _ _ _ _ _ _ _ _ htr | saved _ _ htr | decided _ _ _ _ _ _ htr =>
    exact absurd (htr ▸ hin) hout

/-- A step that leaves everything as it is. -/
theorem orderly_of_next_eq {move : TaskMove} {tasks : List Task}
    (h : t.next move = ({ t with tasks }, [])) : Orderly t move := by
  have hste : (t.step move).state = t.state := by rw [step, h]
  refine ⟨?_, ?_, ?_, ?_, ?_⟩
  · intro uuid hin hout
    exact absurd (hste ▸ hin) hout
  · intro uuid order hs hn
    rw [hste, hs] at hn
    cases hn
  · intro uuid _ order hlk
    exact ⟨order, hste ▸ hlk, Finset.Subset.refl _⟩
  · intro uuid _ msg hmsg
    rw [h] at hmsg
    exact nomatch hmsg
  · intro uuid _ order hord
    rw [h] at hord
    exact nomatch hord

/-- What is removed is closed, and what is closed is neither answered nor saved again. -/
theorem Settled.orderly (h : Settled t) (move : TaskMove) : Orderly t move := by
  cases move with
  | call c => exact orderly_of_next_eq rfl
  | poll i env =>
    cases hget : t.tasks[i]? with
    | none => exact orderly_of_next_eq (by rw [Tasks.next, hget])
    | some task =>
      have hts : task ∈ t.tasks := mem_of_getElem? hget
      obtain ⟨hpl, htk⟩ := polls_poll env t task
      have hx : t.next (.poll i env) =
          (Tasks.after t i (task.poll env t), (task.poll env t).effects) := by
        rw [Tasks.next, hget]
        rfl
      have hste : (t.step (.poll i env)).state = (task.poll env t).state := by
        rw [Tasks.step, hx, Tasks.after]
      refine ⟨?_, ?_, ?_, ?_, ?_⟩
      · intro uuid hin hout order hlk
        -- what is removed was decided upon, hence closed, hence without ongoing matches
        have hdec := decided_of_removed hpl hin (hste ▸ hout)
        have hcl := h.closed uuid fun hop => hop.2 task hts hdec
        simpa only [MakerOrder.isCancellable, Bool.not_eq_true'] using hcl.1 order hlk
      · intro uuid order hs hn
        exact of_decide_eq_true (htk uuid order hs (hste ▸ hn))
      · intro uuid hud order hlk
        refine ⟨order, ?_, Finset.Subset.refl _⟩
        rw [hste, h.lookup_poll hts hpl hud, hlk]
      · intro uuid hud msg hmsg
        rw [hx] at hmsg
        exact h.not_revives hts hpl hud _ hmsg
      · intro uuid hud order hord
        rw [hx] at hord
        exact h.not_revives hts hpl hud _ hord

/-! ## Runs -/

/-- If a request takes up no order that is removed or about to be, orders are removed only when they
have no ongoing match, and one that was removed gets no match, is reserved for nobody and is not
saved. -/
theorem cancelled_orderly (orders : MakerOrders) (takerOrders : HashMap Uuid TakerOrder)
    (hkeyed : ∀ uuid order, orders.lookup uuid = some order → order.uuid = uuid)
    (moves : List TaskMove)
    (hundisturbed : Guarded step Undisturbed (.init orders takerOrders) moves) :
    Guarded step Orderly (.init orders takerOrders) moves := by
  refine hundisturbed.of_invariant (P := Settled) (fun _ _ h hmv => h.step hmv)
    (fun _ move h _ => h.orderly move) ⟨hkeyed, fun uuid hop =>
      ⟨fun order hlk => ?_, fun _ h => nomatch h⟩⟩
  have hkey := Finmap.mem_keys.2 (Finmap.mem_of_lookup_eq_some hlk)
  exact absurd ⟨hkey, fun _ h => nomatch h⟩ hop

/-- What a poll of the examples runs with. -/
def plainTaskEnv : TaskEnv := ⟨3, plainCoins, 0, sortedUuids⟩

/-- A taker asks for six coins. -/
def askSix : TaskMove := .call (.takerRequest 3 7 (plainRequest 11 6) sortedUuids)

/-- One of the tasks goes on. -/
def go (i : Nat) : TaskMove := .poll i plainTaskEnv

/-- A node with one order. -/
def oneOrderTasks : Tasks := .init ((∅ : MakerOrders).insert 1 plainOrder) ∅

/-- The answer to the taker. -/
def sixReserved : MakerReserved :=
  plainOrder.reservedMsg 3 1 (plainCoin "KMD") (plainCoin "DOC") 6 12 (plainRequest 11 6)

/-- A request is answered, the order cannot be cancelled, the taker connects, and then it can. -/
def plainTaskMoves : List TaskMove :=
  [askSix, go 0, go 0, go 0, .call (.cancelOrder 1), go 0,
   .call (.takerConnect 3 7
     { takerOrderUuid := 11, makerOrderUuid := 1, senderPubkey := 7, destPubKey := 3 }),
   go 0, go 0, .call (.cancelOrdersBy .all sortedUuids), go 0, go 0, go 0, go 0, go 0, go 0, go 0]

theorem cancelled_orderly_plain :
    Guarded step Orderly oneOrderTasks plainTaskMoves ∧
    (plainTaskMoves.foldl step oneOrderTasks).state.listed = ∅ := by
  have hkeyed : ∀ uuid order, ((∅ : MakerOrders).insert 1 plainOrder).lookup uuid = some order →
      order.uuid = uuid := by
    intro uuid order hlk
    rw [HashMap.lookup_insert_ite] at hlk
    split at hlk
    · rename_i heq
      rw [heq, ← some.inj hlk]
      rfl
    · cases hlk
  have hundisturbed : Guarded step Undisturbed oneOrderTasks plainTaskMoves := by decide +kernel
  exact ⟨cancelled_orderly _ ∅ hkeyed plainTaskMoves hundisturbed, by decide +kernel⟩

/-- `cancel_orders_by` has looked at the order when the taker asks. -/
def askBeforeRemoval : List TaskMove :=
  [.call (.cancelOrdersBy .all sortedUuids), go 0, go 0, askSix, go 1, go 1, go 0]

/-- `cancel_order` is done when the handler of the request gets to the order. -/
def askBeforeCancel : List TaskMove := [askSix, .call (.cancelOrder 1), go 1, go 1, go 1, go 0]

/-- In the first run the order is removed while it has an ongoing match. In the second it is removed
and deleted, and then it is reserved for the taker and saved again. -/
theorem request_races_with_cancel :
    let removing := askBeforeRemoval.foldl step oneOrderTasks
    let cancelled := askBeforeCancel.foldl step oneOrderTasks
    (1 ∈ removing.state.listed ∧ 1 ∉ (removing.step (go 0)).state.listed ∧
      (removing.state.orders.lookup 1).map MakerOrder.hasOngoingMatches = some true) ∧
    (1 ∉ cancelled.state.listed ∧
      (cancelled.next (go 0)).2 = [.reserved sixReserved] ∧
      ((cancelled.step (go 0)).next (go 0)).2 =
        [.saveMakerOrder (plainOrder.reserve 0 (plainRequest 11 6) sixReserved)]) := by
  decide +kernel

end CheetahDex.Proof
