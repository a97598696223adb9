import CheetahDex.Lib.Run
import CheetahDex.Utxo.ConcurrentRequests

/-!
# When requests are shared

Since nothing ever says that a request is running, there is one request for a key at a time only as
long as no call takes the lock while another has one in flight.
-/

namespace CheetahDex.Utxo.ConcurrentRequests

open Lib World

variable {K V : Type}

variable [DecidableEq K] {w : World K V}

/-- What is promised of the requests. -/
structure Shared (w : World K V) : Prop where
  once : ∀ i j c c', w.place i = .requesting c → w.place j = .requesting c' → c.key = c'.key → i = j
  runs : ∀ i, w.place i ≠ .panicked
  awaited : ∀ key state, w.map.lookup key = some state → state.subscribers ≠ [] →
    ∃ i c, w.place i = .requesting c ∧ c.key = key
  fresh : ∀ i c key ended res, w.place i = .returned c key ended res →
    key = c.key ∧ c.called < ended

/-- No call takes the lock while a request for its key is in flight. -/
def Alone (w : World K V) : Event K V → Prop
  | .lock i => ∀ c j c', w.place i = .locking c → w.place j = .requesting c' → c'.key ≠ c.key
  | _ => True

/-- Nobody subscribes, and who makes a request has an entry. -/
def Fits (map : HashMap K RequestState) (answers : ℕ) : Place K V → Prop
  | .locking c => c.called ≤ answers
  | .requesting c => c.called ≤ answers ∧ map.lookup c.key = some .new
  | .answered c ended _ => c.called < ended ∧ map.lookup c.key = some .new
  | .returned c key ended _ => key = c.key ∧ c.called < ended
  | .subscribed _ | .panicked => False
  | .idle | .cancelled => True

structure Inv (w : World K V) : Prop where
  map : ∀ key state, w.map.lookup key = some state → state = .new
  place : ∀ i, Fits w.map w.answers (w.place i)
  once : ∀ i j c c', w.place i = .requesting c → w.place j = .requesting c' → c.key = c'.key → i = j

section

variable (h : Inv w)

include h

theorem Inv.fits {i : ℕ} {p : Place K V} (hi : w.place i = p) : Fits w.map w.answers p :=
  hi ▸ h.place i

theorem Inv.shared : Shared w where
  once := h.once
  runs _ hi := h.fits hi
  awaited key state hste hne := absurd (congrArg (·.subscribers) (h.map key state hste)) hne
  fresh _ _ _ _ _ hi := h.fits hi

theorem Inv.put {i : ℕ} {p : Place K V} (hp : Fits w.map w.answers p)
    (hnew : ∀ c, p = .requesting c → ∀ j c', w.place j = .requesting c' → c'.key ≠ c.key) :
    Inv (w.put i p) where
  map := h.map
  place j := by
    show Fits w.map w.answers (Function.update w.place i p j)
    rw [Function.update_apply]
    split_ifs
    · exact hp
    · exact h.place j
  once j k c c' hj hk hkey := by
    simp only [World.put, Function.update_apply] at hj hk
    split_ifs at hj hk with hji hki hki
    · rw [hji, hki]
    · exact absurd hkey.symm (hnew c hj k c' hk)
    · exact absurd hkey (hnew c' hk j c hj)
    · exact h.once j k c c' hj hk hkey

/-- Time passes, and an entry is made. -/
theorem Inv.enter (key : K) (more : ℕ) :
    Inv { w with map := w.map.insert key .new, answers := w.answers + more } where
  map key' state hste := by
    rw [HashMap.lookup_insert_ite] at hste
    split_ifs at hste
    · exact (Option.some.inj hste).symm
    · exact h.map key' state hste
  place i := by
    have hft := h.place i
    revert hft
    cases w.place i <;> simp only [Fits, HashMap.lookup_insert_ite] <;> grind
  once := h.once

/-- **At most one task requests a key at a time.** -/
theorem Inv.step {e : Event K V} (hok : Alone w e) : Inv (w.step e) := by
  cases e <;> simp only [World.step] <;> split <;> try exact h
  · exact h.put (Nat.le_refl _) nofun
  · next c hi =>
    have hste : (w.map.lookup c.key).getD .new = .new := by
      cases hl : w.map.lookup c.key with
      | none => rfl
      | some state => exact h.map _ _ hl
    rw [lock, hste]
    refine (h.enter c.key 0).put ⟨h.fits hi, Finmap.lookup_insert _⟩ ?_
    rintro _ ⟨⟩ j c' hj
    exact hok c j c' hi hj
  · next c hi =>
    have hft := h.fits hi
    have hinv := h.enter c.key 1
    rw [HashMap.insert_self hft.2] at hinv
    exact hinv.put ⟨Nat.lt_succ_of_le hft.1, hft.2⟩ nofun
  · next c ended res hi =>
    have hft := h.fits hi
    rw [lockAgain, hft.2]
    exact (h.enter c.key 0).put ⟨rfl, hft.1⟩ nofun
  · exact h.put trivial nofun

end

/-- **In every run in which no call takes the lock while a request for its key is in flight**, there
is at most one request for a key, nobody panics or waits in vain, and results are fresh. -/
theorem shared_of_alone (events : List (Event K V)) (h : Guarded step Alone .init events) :
    Always step Shared (.init : World K V) events := by
  refine (Always.of_guarded (P := Inv) (fun w e hw hok => hw.step hok) ?_ h).mono
    fun w hw => hw.shared
  exact ⟨fun key state h => absurd h (by simp [init]), fun i => trivial,
    fun i j c c' hi => by cases hi⟩

/-- A second call for a key takes the lock when the first has its answer, and both return. -/
theorem oneByOne_shared : Always step Shared (.init : World ℕ ℕ)
    [.call 0 7, .call 1 7, .lock 0, .answer 0 5, .lock 1, .lockAgain 0, .answer 1 6,
      .lockAgain 1] := by
  refine shared_of_alone _ ⟨trivial, trivial, fun c j c' _ hj => ?_, trivial,
    fun c j c' _ hj => ?_, trivial, trivial, trivial, trivial⟩
  all_goals rcases j with _ | _ | j <;> cases hj

/-- Two calls make two requests. -/
theorem twoCalls_request : ¬Shared
    ([.call 0 7, .call 1 7, .lock 0, .lock 1].foldl step (.init : World ℕ ℕ)) := by
  intro h
  exact absurd (h.once 0 1 _ _ rfl rfl rfl) (by decide)

end CheetahDex.Utxo.ConcurrentRequests
