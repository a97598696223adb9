import CheetahDex.Eth.Nonce
import CheetahDex.Lib.Run
import Mathlib.Data.List.Nodup

/-!
# No nonce is used twice

A call that is past the lock has it, and its nonce is larger than those that were sent, as long as
no call passes it while the node stops and a node that knows of them is among those that answer.
-/

namespace CheetahDex.Eth.Nonce

open Lib World

variable {C N : Type}

/-- No call passes the lock while the node stops; and a round that is to give a nonce, if any node
answers it, is answered by one that has already reported more than every nonce that was sent. -/
def Careful (w : World C N) : Event C N → Prop
  | .enter _ => w.stopping = false
  | .round c answers => (w.place c).isAsking → answers ≠ [] →
      ∃ a ∈ answers, ∀ n ∈ w.sent, n < w.reported a.1
  | _ => True

instance (w : World C N) (e : Event C N) : Decidable (Careful w e) :=
  match e with
  | .stop => .isTrue trivial
  | .enter _ => inferInstanceAs (Decidable (w.stopping = false))
  | .round c answers => inferInstanceAs (Decidable ((w.place c).isAsking → answers ≠ [] →
      ∃ a ∈ answers, ∀ n ∈ w.sent, n < w.reported a.1))
  | .send _ _ => .isTrue trivial

/-- Who is past the lock has it, and a nonce that is about to be used is larger than those used. -/
structure Sound (w : World C N) : Prop where
  locked : ∀ c, (w.place c).isActive → w.lock = some c
  fresh : ∀ c n, w.place c = .sending n → ∀ m ∈ w.sent, m < n
  nodup : w.sent.Nodup

variable [DecidableEq C] {w : World C N} {c : C}

theorem Sound.goTo (h : Sound w) (hlc : w.lock = some c) {p : Place}
    (hp : ∀ n, p = .sending n → ∀ m ∈ w.sent, m < n) : Sound (w.goTo c p) where
  locked c' hac := by
    by_cases hc : c' = c
    · rw [hc]
      exact hlc
    · exact h.locked c' (by simpa [World.goTo, hc] using hac)
  fresh c' n hpl := by
    by_cases hc : c' = c
    · exact hp n (by simpa [World.goTo, hc] using hpl)
    · exact h.fresh c' n (by simpa [World.goTo, hc] using hpl)
  nodup := h.nodup

theorem Sound.leave (h : Sound w) (hlc : w.lock = some c) : Sound (w.leave c) where
  locked c' hac := by
    by_cases hc : c' = c
    · simp [World.leave, World.goTo, hc, Place.isActive] at hac
    · have hlc' := h.locked c' (by simpa [World.leave, World.goTo, hc] using hac)
      exact absurd (Option.some.inj (hlc'.symm.trans hlc)) hc
  fresh c' n hpl := (h.goTo hlc (p := .done) (by simp)).fresh c' n hpl
  nodup := h.nodup

/-- The nonce that a round agrees on is what every node of it says. -/
theorem eq_of_getAddrNonce {errors n : ℕ} {answers : List (N × ℕ)}
    (h : getAddrNonce errors answers = .nonce n) : answers ≠ [] ∧ ∀ a ∈ answers, a.2 = n := by
  cases answers with
  | nil =>
    simp only [getAddrNonce] at h
    split at h <;> cases h
  | cons a answers =>
    obtain ⟨node, m⟩ := a
    simp only [getAddrNonce] at h
    split at h
    · rename_i hall
      cases h
      exact ⟨List.cons_ne_nil _ _, List.forall_mem_cons.mpr ⟨rfl, hall⟩⟩
    · cases h

/-- A round gives a nonce above all that were sent. -/
theorem Sound.round (h : Sound w) {answers : List (N × ℕ)} (hok : Careful w (.round c answers))
    (hmn : ∀ a ∈ answers, w.reported a.1 ≤ a.2) : Sound (w.round c answers) := by
  have hlc (hac : (w.place c).isActive) := h.locked c hac
  unfold World.round
  cases hpl : w.place c with
  | asking errors =>
    rw [hpl] at hlc
    dsimp only
    split
    · rename_i n hn
      obtain ⟨hne, hall⟩ := eq_of_getAddrNonce hn
      refine h.goTo (hlc rfl) fun n' hn' m hm => ?_
      obtain ⟨a, ha, hkn⟩ := hok (by rw [hpl]; rfl) hne
      cases hn'
      calc m < w.reported a.1 := hkn m hm
        _ ≤ a.2 := hmn a ha
        _ = n := hall a ha
    · exact h.goTo (hlc rfl) (by simp)
    · exact h.leave (hlc rfl)
  | waiting nonce errors =>
    rw [hpl] at hlc
    dsimp only
    split
    · split
      · exact h.leave (hlc rfl)
      · exact h.goTo (hlc rfl) (by simp)
    · exact h.goTo (hlc rfl) (by simp)
    · exact h.goTo (hlc rfl) (by simp)
  | _ => exact h

/-- **Careful events never send a nonce twice.** -/
theorem Sound.step [DecidableEq N] (h : Sound w) {e : Event C N} (hok : Careful w e) :
    Sound (w.step e) := by
  cases e with
  | stop => exact ⟨h.locked, h.fresh, h.nodup⟩
  | enter c =>
    have hrn : ¬w.stopping = true := by
      rw [show w.stopping = false from hok]
      decide
    simp only [World.step, if_neg hrn]
    split
    · exact h
    split
    · rename_i hno
      -- the lock is free, so no call is past it
      have hid : ∀ c', ¬(w.place c').isActive = true := fun c' hac =>
        absurd ((h.locked c' hac).symm.trans hno) (by simp)
      have hsnd : Sound { w with lock := some c } :=
        ⟨fun c' hac => absurd hac (hid c'), h.fresh, h.nodup⟩
      exact hsnd.goTo rfl (by simp)
    · exact h
  | round c answers =>
    simp only [World.step]
    split
    · rename_i hmn
      have hsnd := h.round hok hmn
      exact ⟨hsnd.locked, hsnd.fresh, hsnd.nodup⟩
    · exact h
  | send c accepted =>
    simp only [World.step]
    split
    · rename_i n hpl
      have hlc := h.locked c (by rw [hpl]; rfl)
      split
      · have hsnd := h.goTo hlc (p := .waiting n 0) (by simp)
        refine ⟨hsnd.locked, fun c' n' hpl' => ?_, ?_⟩
        · have hlc' := hsnd.locked c' (by rw [hpl']; rfl)
          cases hlc.symm.trans hlc'
          simp [World.goTo] at hpl'
        · exact List.nodup_append.mpr ⟨h.nodup, List.nodup_singleton n, fun m hm n' hn' heq =>
            absurd (h.fresh c n hpl m hm) (by simp_all)⟩
      · exact h.leave hlc
    · exact h

/-- **No nonce is broadcast twice in a run of careful steps.** -/
theorem nonces_unique [DecidableEq N] (reported : N → ℕ) (events : List (Event C N))
    (hok : Guarded step Careful (init reported : World C N) events) :
    Always step (fun w => w.sent.Nodup) (init reported : World C N) events :=
  (Always.of_guarded (fun _ _ hsnd hst => Sound.step hsnd hst)
    ⟨by simp [init, Place.isActive], by simp [init], List.nodup_nil⟩ hok).mono
    fun _ hsnd => hsnd.nodup

/-- Two nodes; one of them fails while the first call waits. -/
theorem twoCalls_unique :
    Always step (fun w => w.sent.Nodup) (init fun _ => 5 : World Bool Bool)
      [.enter false, .round false [(false, 5), (true, 5)], .send false true, .enter true,
        .round false [(false, 6)], .enter true, .round true [(false, 6), (true, 5)],
        .round true [(false, 6), (true, 6)], .send true true] :=
  nonces_unique _ _ (by decide)

/-- Two calls begin while the node stops; or the node that knows of the first transaction fails when
the second call asks. -/
theorem stoppingOrLagging_reuse :
    ¬Always step (fun w => w.sent.Nodup) (init fun _ => 5 : World Bool Bool)
        [.stop, .enter false, .enter true, .round false [(false, 5)], .round true [(false, 5)],
          .send false true, .send true true] ∧
      ¬Always step (fun w => w.sent.Nodup) (init fun _ => 5 : World Bool Bool)
        [.enter false, .round false [(false, 5), (true, 5)], .send false true,
          .round false [(false, 6)], .enter true, .round true [(true, 5)], .send true true] := by
  decide

end CheetahDex.Eth.Nonce
