import Mathlib.Data.Fintype.Defs
import CheetahDex.Lib.Run

/-!
# The file lock

A lock is a file with the time of its last touch. `lock`, `touch` and `drop` are taken apart into
the steps that the file system does at once, so that those of any number of processes interleave. A
file that was removed is still written by who has it open, but that is not the file that is found by
its name any more.

Times are in milliseconds, the time in the file in whole seconds. The file system does not fail but
for a file that is not there.
-/

namespace CheetahDex.Common.FileLock

variable {P : Type}

/-- The file that has the name of the lock. No time is in it if it is empty or cannot be parsed. -/
structure File where
  inode : ℕ
  stamp : Option ℕ

/-- Who touches the file: a `lock` that is about to return, or one that holds it, with the time of
its last touch. -/
inductive Toucher where
  | lock
  | holder (since : ℕ)
  deriving DecidableEq

/-- Where a touch is: before the clock is read, before the file is opened, before it is written. -/
inductive Touch where
  | start
  | opening (time : ℕ)
  | writing (time : ℕ) (inode : ℕ)
  deriving DecidableEq

/-- Where a process is. -/
inductive Place where
  | idle
  /-- `create_new` says that the file exists. -/
  | reading
  /-- A time was read, and the clock is to be looked at. -/
  | checking (lm : ℕ)
  | touching (who : Toucher) (touch : Touch)
  /-- The lock is held, and was touched at the time. -/
  | held (since : ℕ)
  deriving DecidableEq

/-- When the lock that a process holds was last touched. -/
def Place.since? : Place → Option ℕ
  | .held since => some since
  | .touching (.holder since) _ => some since
  | _ => none

/-- The time that a process has read and not yet looked at. -/
def Place.checked? : Place → Option ℕ
  | .checking lm => some lm
  | _ => none

/-- A process is in the middle of a touch. -/
def Place.isTouching : Place → Bool
  | .touching _ _ => true
  | _ => false

/-- The clock, the file and the processes. `fresh` is the number of the next file. -/
structure World (P : Type) where
  now : ℕ
  file : Option File
  fresh : ℕ
  place : P → Place

/-- A file may be left from before. -/
def World.init (now : ℕ) (file : Option File) : World P where
  now
  file
  fresh := file.elim 0 fun f => f.inode + 1
  place := fun _ => .idle

/-- What happens. `next` is the next step of the call that a process is in. -/
inductive Event (P : Type) where
  | lock (p : P)
  | next (p : P)
  | touch (p : P)
  | drop (p : P)
  | crash (p : P)
  | tick (now : ℕ)

section step

variable [DecidableEq P] (ttl : ℕ) (w : World P) (p : P)

/-- A process is at another place. -/
def World.put (place : Place) : World P := { w with place := Function.update w.place p place }

theorem World.put_place_self (place : Place) : (w.put p place).place p = place :=
  Function.update_self ..

theorem World.put_place_of_ne {p q : P} (hne : q ≠ p) (place : Place) :
    (w.put p place).place q = w.place q :=
  Function.update_of_ne hne ..

def World.createNew : World P :=
  match w.file with
  | none => { w.put p (.touching .lock .start) with
      file := some ⟨w.fresh, none⟩
      fresh := w.fresh + 1 }
  | some _ => w.put p .reading

/-- `read_timestamp`. A file that is gone is an error. -/
def World.readTimestamp : World P :=
  match w.file with
  | none => w.put p .idle
  | some f =>
    match f.stamp with
    | some lm => w.put p (.checking lm)
    | none => w.put p (.touching .lock .start)

/-- Whether a lock is old enough to be discarded. -/
def World.expired (lm : ℕ) : Prop := 1000 * lm + ttl < w.now

instance (lm : ℕ) : Decidable (w.expired ttl lm) := inferInstanceAs (Decidable (_ < _))

/-- The first half of `fs::write`: the file is emptied, or created. -/
def World.openWrite (who : Toucher) (time : ℕ) : World P :=
  match w.file with
  | none => { w.put p (.touching who (.writing time w.fresh)) with
      file := some ⟨w.fresh, none⟩
      fresh := w.fresh + 1 }
  | some f => { w.put p (.touching who (.writing time f.inode)) with
      file := some { f with stamp := none } }

/-- The second half: the time is in the file that was opened. -/
def World.write (time inode : ℕ) : World P :=
  { w.put p (.held time) with
    file := w.file.map fun f => if f.inode = inode then
      { f with stamp := some (time / 1000) } else f }

/-- The next step of a call. -/
def World.next : World P :=
  match w.place p with
  | .reading => w.readTimestamp p
  | .checking lm => if w.expired ttl lm then w.put p (.touching .lock .start) else w.put p .idle
  | .touching who .start => w.put p (.touching who (.opening w.now))
  | .touching who (.opening time) => w.openWrite p who time
  | .touching _ (.writing time inode) => w.write p time inode
  | _ => w

def World.step (w : World P) : Event P → World P
  | .lock p => if w.place p = .idle then w.createNew p else w
  | .next p => w.next ttl p
  | .touch p =>
    match w.place p with
    | .held since => w.put p (.touching (.holder since) .start)
    | _ => w
  | .drop p =>
    match w.place p with
    | .held _ => { w.put p .idle with file := none }
    | _ => w
  | .crash p => w.put p .idle
  | .tick now => { w with now := max w.now now }

end step

/-- **Mutual exclusion**: one process at most holds the lock. -/
def Exclusive (w : World P) : Prop :=
  ∀ p q, (w.place p).since?.isSome → (w.place q).since?.isSome → p = q

/-- Every lock that is held was touched less than the given time ago. -/
def TouchedWithin (interval : ℕ) (w : World P) : Prop :=
  ∀ p, ∀ since ∈ (w.place p).since?, w.now < since + interval

/-- No other process is in the middle of a touch. -/
def Quiet (w : World P) (p : P) : Prop := ∀ q, q ≠ p → (w.place q).isTouching = false

/-- A process takes the file over only if the file still is as it was read and no other process is
in the middle of a touch. -/
def Undisturbed (ttl : ℕ) (w : World P) : Event P → Prop
  | .next p =>
    (w.place p = .reading → ∀ f ∈ w.file, f.stamp = none → Quiet w p) ∧
    ∀ lm ∈ (w.place p).checked?, w.expired ttl lm → w.file.bind File.stamp = some lm ∧ Quiet w p
  | _ => True

section decidable

variable [Fintype P] [DecidableEq P] (w : World P)

instance : Decidable (Exclusive w) := inferInstanceAs (Decidable (∀ p q, _ → _ → p = q))

instance (interval : ℕ) : Decidable (TouchedWithin interval w) :=
  inferInstanceAs (Decidable (∀ p, ∀ since ∈ (w.place p).since?, _ < _))

instance (p : P) : Decidable (Quiet w p) := inferInstanceAs (Decidable (∀ q, q ≠ p → _ = false))

instance (ttl : ℕ) : (e : Event P) → Decidable (Undisturbed ttl w e)
  | .lock _ => .isTrue trivial
  | .next _ => inferInstanceAs (Decidable ((_ → ∀ f ∈ w.file, _ → Quiet w _) ∧
      ∀ lm ∈ (w.place _).checked?, w.expired ttl lm → _ ∧ Quiet w _))
  | .touch _ => .isTrue trivial
  | .drop _ => .isTrue trivial
  | .crash _ => .isTrue trivial
  | .tick _ => .isTrue trivial

end decidable

end CheetahDex.Common.FileLock
