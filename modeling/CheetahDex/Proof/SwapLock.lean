import CheetahDex.Common.FileLock

/-!
# The file lock excludes

Whoever creates the file, or takes it over, is the only one until it is done, if a process takes the
file over only while no other one is in the middle of a touch and the file still is as it was read.
A process that creates the file leaves it empty for a moment, and an empty file is free for others.
-/

namespace CheetahDex.Common.FileLock

open Lib World

variable {P : Type} {ttl interval : ℕ} {w w' : World P} {p : P} {place : Place}

/-- A process that has the file for itself. -/
def Place.Engaged : Place → Prop
  | .touching _ _ => True
  | .held _ => True
  | _ => False

/-- What the file is like while a process has it for itself. -/
def Place.Expects (f : File) : Place → Prop
  | .held since => f.stamp = some (since / 1000)
  | .touching _ (.writing _ inode) => f.inode = inode ∧ f.stamp = none
  | .touching (.holder since) _ => f.stamp = some (since / 1000)
  | _ => True

/-- At most one process has the file for itself, and then the file is as it expects. -/
structure Sound (w : World P) : Prop where
  one : ∀ p q, (w.place p).Engaged → (w.place q).Engaged → p = q
  file : ∀ p, (w.place p).Engaged → ∃ f, w.file = some f ∧ (w.place p).Expects f

theorem Place.engaged_of_since {since : ℕ} (h : place.since? = some since) : place.Engaged := by
  cases place with
  | held _ => trivial
  | touching _ _ => trivial
  | idle | reading | checking _ => cases h

theorem Sound.exclusive (h : Sound w) : Exclusive w := by
  intro p q hp hq
  obtain ⟨_, hp⟩ := Option.isSome_iff_exists.mp hp
  obtain ⟨_, hq⟩ := Option.isSome_iff_exists.mp hq
  exact h.one p q (Place.engaged_of_since hp) (Place.engaged_of_since hq)

theorem sound_init (now : ℕ) (file : Option File) : Sound (init now file : World P) :=
  ⟨fun _ _ hp => hp.elim, fun _ hp => hp.elim⟩

/-- No other process has the file. -/
def Alone (w : World P) (p : P) : Prop := ∀ q, q ≠ p → ¬(w.place q).Engaged

theorem Sound.alone (h : Sound w) (hp : (w.place p).Engaged) : Alone w p :=
  fun q hq heng => hq (h.one q p heng hp)

theorem Sound.alone_of_gone (h : Sound w) (hfl : w.file = none) : Alone w p := by
  intro q _ heng
  obtain ⟨f, hf, -⟩ := h.file q heng
  cases hfl.symm.trans hf

/-- A quiet process is alone if the file does not have a recent time in it. -/
theorem Sound.alone_of_quiet (h : Sound w) (hqt : Quiet w p)
    (hhl : ∀ q since, w.place q = .held since → w.file.bind File.stamp ≠ some (since / 1000)) :
    Alone w p := by
  intro q hne heng
  cases hpl : w.place q with
  | held since =>
    obtain ⟨f, hf, hexpects⟩ := h.file q heng
    rw [hpl] at hexpects
    refine hhl q since hpl ?_
    rw [hf]
    exact hexpects
  | touching who touch =>
    have hnot := hqt q hne
    rw [hpl] at hnot
    cases hnot
  | idle | reading | checking lm =>
    rw [hpl] at heng
    exact heng

section step

variable [DecidableEq P]

/-- A process that does not have the file after its step, while the file is the same. -/
theorem Sound.put (h : Sound w) (hpl : ¬place.Engaged) : Sound (w.put p place) := by
  have hold : ∀ q, ((w.put p place).place q).Engaged → q ≠ p ∧ (w.place q).Engaged := by
    intro q hq
    rcases eq_or_ne q p with rfl | hne
    · rw [put_place_self] at hq
      exact absurd hq hpl
    · rw [put_place_of_ne _ hne] at hq
      exact ⟨hne, hq⟩
  refine ⟨fun q q' hq hq' => h.one q q' (hold q hq).2 (hold q' hq').2, fun q hq => ?_⟩
  obtain ⟨hne, heng⟩ := hold q hq
  rw [put_place_of_ne _ hne]
  exact h.file q heng

/-- A process that is alone with the file after its step. -/
theorem sound_of_alone (hal : Alone w p) (hpl : w'.place = Function.update w.place p place)
    (hfl : place.Engaged → ∃ f, w'.file = some f ∧ place.Expects f) : Sound w' := by
  have hon : ∀ q, (w'.place q).Engaged → q = p := by
    intro q hq
    by_contra hne
    rw [hpl, Function.update_of_ne hne] at hq
    exact hal q hne hq
  refine ⟨fun q q' hq hq' => (hon q hq).trans (hon q' hq').symm, fun q hq => ?_⟩
  obtain rfl := hon q hq
  rw [hpl, Function.update_self] at hq ⊢
  exact hfl hq

section

variable (h : Sound w)

include h

theorem Sound.createNew : Sound (w.createNew p) := by
  unfold World.createNew
  split
  · rename_i hfl
    exact sound_of_alone (h.alone_of_gone hfl) rfl fun _ => ⟨_, rfl, trivial⟩
  · exact h.put id

theorem Sound.readTimestamp
    (hqt : ∀ f, w.file = some f → f.stamp = none → Quiet w p) : Sound (w.readTimestamp p) := by
  unfold World.readTimestamp
  split
  · exact h.put id
  · rename_i f hfl
    split
    · exact h.put id
    · rename_i hst
      have hal : Alone w p := by
        refine h.alone_of_quiet (hqt f hfl hst) fun q since _ hs => ?_
        rw [hfl] at hs
        cases hst.symm.trans hs
      exact sound_of_alone hal rfl fun _ => ⟨f, hfl, trivial⟩

theorem Sound.check (hinterval : interval + 1000 ≤ ttl)
    (htc : TouchedWithin interval w) {lm : ℕ} (hexpired : w.expired ttl lm)
    (hst : w.file.bind File.stamp = some lm) (hqt : Quiet w p) :
    Sound (w.put p (.touching .lock .start)) := by
  have hal : Alone w p := by
    refine h.alone_of_quiet hqt fun q since hhl hs => ?_
    obtain rfl : lm = since / 1000 := Option.some.inj (hst.symm.trans hs)
    -- the time that a holder has put into the file is not too old
    have hnow : w.now < since + interval := htc q since (by rw [hhl]; rfl)
    unfold expired at hexpired
    omega
  obtain ⟨f, hfl, -⟩ := Option.bind_eq_some_iff.mp hst
  exact sound_of_alone hal rfl fun _ => ⟨f, hfl, trivial⟩

omit [DecidableEq P] in
theorem Sound.engaged (hpl : w.place p = place) (heng : place.Engaged) :
    Alone w p ∧ ∃ f, w.file = some f ∧ place.Expects f := by
  subst hpl
  exact ⟨h.alone heng, h.file p heng⟩

theorem Sound.openWrite {who : Toucher} {time : ℕ}
    (hpl : w.place p = .touching who (.opening time)) : Sound (w.openWrite p who time) := by
  obtain ⟨hal, -⟩ := h.engaged hpl trivial
  unfold World.openWrite
  split
  · exact sound_of_alone hal rfl fun _ => ⟨_, rfl, by cases who <;> exact ⟨rfl, rfl⟩⟩
  · exact sound_of_alone hal rfl fun _ => ⟨_, rfl, by cases who <;> exact ⟨rfl, rfl⟩⟩

theorem Sound.write {who : Toucher} {time inode : ℕ}
    (hpl : w.place p = .touching who (.writing time inode)) : Sound (w.write p time inode) := by
  obtain ⟨hal, f, hfl, hexpects⟩ := h.engaged hpl trivial
  have hin : f.inode = inode := by cases who <;> exact hexpects.1
  refine sound_of_alone hal rfl fun _ => ⟨{ f with stamp := some (time / 1000) }, ?_, rfl⟩
  simp [World.write, hfl, hin]

section

variable (hinterval : interval + 1000 ≤ ttl) (htc : TouchedWithin interval w)

include hinterval htc

/-- **Each step of each process keeps the lock to one holder.** -/
theorem Sound.next (hok : Undisturbed ttl w (.next p)) : Sound (w.next ttl p) := by
  unfold World.next
  split
  · rename_i hpl
    exact h.readTimestamp (hok.1 hpl)
  · rename_i lm hpl
    split
    · rename_i hexpired
      have hch : (w.place p).checked? = some lm := by rw [hpl]; rfl
      obtain ⟨hst, hqt⟩ := hok.2 lm hch hexpired
      exact h.check hinterval htc hexpired hst hqt
    · exact h.put id
  · rename_i who hpl
    obtain ⟨hal, f, hfl, hexpects⟩ := h.engaged hpl trivial
    exact sound_of_alone hal rfl fun _ => ⟨f, hfl, by cases who <;> exact hexpects⟩
  · rename_i who time hpl
    exact h.openWrite hpl
  · rename_i who time inode hpl
    exact h.write hpl
  · exact h

/-- Every step keeps the file for one process. -/
theorem Sound.step {e : Event P} (hok : Undisturbed ttl w e) : Sound (w.step ttl e) := by
  cases e with
  | lock p =>
    simp only [World.step]
    split
    · exact h.createNew
    · exact h
  | next p => exact h.next hinterval htc hok
  | touch p =>
    simp only [World.step]
    split
    · rename_i since hpl
      obtain ⟨hal, f, hfl, hexpects⟩ := h.engaged hpl trivial
      exact sound_of_alone hal rfl fun _ => ⟨f, hfl, hexpects⟩
    · exact h
  | drop p =>
    simp only [World.step]
    split
    · rename_i since hpl
      exact sound_of_alone (h.engaged hpl trivial).1 rfl fun hid => hid.elim
    · exact h
  | crash p => exact h.put id
  | tick now => exact ⟨h.one, h.file⟩

end

end

end step

/-- **The lock excludes in every run in which it is touched at intervals that are a second shorter
than the time it is good for, and in which a process takes the file over only undisturbed.** -/
theorem fileLock_exclusive [DecidableEq P] (hinterval : interval + 1000 ≤ ttl) (now : ℕ)
    (file : Option File) (events : List (Event P))
    (hok : Guarded (step ttl) (fun w e => TouchedWithin interval w ∧ Undisturbed ttl w e)
      (init now file) events) :
    Always (step ttl) Exclusive (init now file) events := by
  refine (Always.of_guarded (fun w e hsnd hsp => ?_) (sound_init now file) hok).mono
    fun w hsnd => hsnd.exclusive
  exact hsnd.step hinterval hsp.1 hsp.2

/-- One process locks, another one finds it locked and gets it once it is dropped. The time is 40 s
and the interval 30 s, as in `run_maker_swap`. -/
theorem lockedAndDropped_exclusive :
    Always (step 40000) Exclusive (init 0 none : World Bool)
      [.lock false, .next false, .next false, .next false, .lock true, .next true, .next true,
        .tick 30000, .touch false, .next false, .next false, .next false, .drop false, .lock true,
        .next true, .next true, .next true] :=
  fileLock_exclusive (by decide : 31000 + 1000 ≤ 40000) 0 none _ (by decide)

/-- A process reads the file that another one has just created and not yet written. -/
theorem lockedTwice_not_exclusive :
    Always (step 40000) (TouchedWithin 40000) (init 0 none : World Bool)
      [.lock false, .lock true, .next true, .next true, .next true, .next true, .next false,
        .next false, .next false] ∧
    ¬ Always (step 40000) Exclusive (init 0 none : World Bool)
      [.lock false, .lock true, .next true, .next true, .next true, .next true, .next false,
        .next false, .next false] := by
  decide

end CheetahDex.Common.FileLock
