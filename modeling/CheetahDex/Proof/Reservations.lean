import CheetahDex.Ordermatch.Reserved
import CheetahDex.Proof.CancelRaces
import CheetahDex.Proof.MatchAgreement

/-!
# Reservations are not left pending

The handler that sleeps for an order is the only one that takes its reservations. It returns without
them if the order is gone or a coin is not active at that time, and no handler takes those that come
later.
-/

namespace CheetahDex.Proof

open Lib Ordermatch Finmap ReservedState

/-- Reservations are pending only for orders that a handler sleeps for. -/
def Attended (s : ReservedState) : Prop := ∀ uuid ∈ s.pendingMakerReserved, .sleeping uuid ∈ s.tasks

/-- A handler that goes on finds the order and its coins. -/
def FindsOrder (s : ReservedState) : ReservedMove → Prop
  | .wake uuid coins _ => ∃ order, s.myTakerOrders.lookup uuid = some order ∧
      (coins.findPair order.makerCoinTicker order.takerCoinTicker).isSome
  | _ => True

variable {s : ReservedState} {uuid : Uuid} {coins : Coins} {nowMs : Nat} (ourPublicId : H256)

/-- The handler that makes the first reservation of an order pending sleeps for the others. -/
theorem Attended.push (h : Attended s) (message : MakerReserved) :
    Attended (s.step ourPublicId (.push message)) := by
  rw [step]
  split
  swap
  · exact h
  intro uuid hud
  have hkp (hpn : uuid ∈ s.pendingMakerReserved) :
      .sleeping uuid ∈ s.tasks.erase (.checked message) :=
    (List.mem_erase_of_ne (by simp)).2 (h uuid hpn)
  dsimp only at hud ⊢
  split
  · rename_i hln
    -- with more than one message there was an entry, and the handler that made it sleeps
    refine hkp ((mem_insert.1 hud).elim (fun heq => ?_) id)
    by_contra hn
    rw [heq, ← lookup_eq_none] at hn
    simp [HashMap.getD, hn] at hln
  · rcases mem_insert.1 hud with rfl | hpn
    · exact List.mem_cons_self
    · exact List.mem_cons_of_mem _ (hkp hpn)

theorem step_wake (hfn : FindsOrder s (.wake uuid coins nowMs))
    (hsl : .sleeping uuid ∈ s.tasks) :
    let s' := s.step ourPublicId (.wake uuid coins nowMs)
    s'.pendingMakerReserved = s.pendingMakerReserved.erase uuid ∧
      s'.tasks = s.tasks.erase (.sleeping uuid) := by
  obtain ⟨order, hord, hcs⟩ := hfn
  obtain ⟨pair, hpr⟩ := Option.isSome_iff_exists.1 hcs
  simp only [step, if_pos hsl, drain, hord, hpr]
  split <;> exact ⟨rfl, rfl⟩

theorem Attended.wake (h : Attended s) (hfn : FindsOrder s (.wake uuid coins nowMs)) :
    Attended (s.step ourPublicId (.wake uuid coins nowMs)) := by
  by_cases hsl : .sleeping uuid ∈ s.tasks
  swap
  · rwa [step, if_neg hsl]
  obtain ⟨hpn, hts⟩ := step_wake ourPublicId hfn hsl
  intro other hoth
  rw [hpn, mem_erase] at hoth
  rw [hts, List.mem_erase_of_ne (by simpa using hoth.1)]
  exact h other hoth.2

theorem Attended.step (h : Attended s) {move : ReservedMove} (hfn : FindsOrder s move) :
    Attended (s.step ourPublicId move) := by
  cases move with
  | receive fromPubkey message =>
    rw [ReservedState.step]
    split
    · exact fun uuid hud => List.mem_cons_of_mem _ (h uuid hud)
    · exact h
  | push message => exact h.push ourPublicId message
  | wake uuid coins nowMs => exact h.wake ourPublicId hfn
  | change orders => exact h

end CheetahDex.Proof
