import CheetahDex.Lib.HashMap

/-!
# Requests that are meant to be shared

`wrap_request` looks under a lock whether a request for its key is running, and subscribes to it or
makes its own. But nothing ever says that a request is running, so every call makes its own.
-/

namespace CheetahDex.Utxo.ConcurrentRequests

open Lib

/-- `ConcurrentRequestState`. A subscriber is known by its number. -/
structure RequestState where
  isRunning : Bool
  subscribers : List ℕ

def RequestState.new : RequestState := ⟨false, []⟩

structure Call (K : Type) where
  key : K
  called : ℕ

/-- Where a caller is. A result comes with the key of its request and the time at which that
ended. -/
inductive Place (K V : Type) where
  | idle
  | locking (c : Call K)
  | requesting (c : Call K)
  | answered (c : Call K) (ended : ℕ) (res : V)
  | subscribed (c : Call K)
  | returned (c : Call K) (key : K) (ended : ℕ) (res : V)
  | panicked
  | cancelled

/-- A result is sent to a subscriber. -/
def Place.receive {K V : Type} (key : K) (ended : ℕ) (res : V) : Place K V → Place K V
  | .subscribed c => .returned c key ended res
  | p => p

/-- Times are counted by the answers so far. -/
structure World (K V : Type) where
  map : HashMap K RequestState
  place : ℕ → Place K V
  answers : ℕ

inductive Event (K V : Type) where
  | call (i : ℕ) (key : K)
  | lock (i : ℕ)
  | answer (i : ℕ) (res : V)
  | lockAgain (i : ℕ)
  | cancel (i : ℕ)

variable {K V : Type}

namespace World

def init : World K V := ⟨∅, fun _ => .idle, 0⟩

variable (w : World K V) (i : ℕ)

def put (p : Place K V) : World K V := { w with place := Function.update w.place i p }

variable [DecidableEq K]

/-- The first section of `wrap_request` under the lock. -/
def lock (c : Call K) : World K V :=
  let state := (w.map.lookup c.key).getD .new
  if state.isRunning then
    { w with map := w.map.insert c.key ⟨true, state.subscribers ++ [i]⟩ }.put i (.subscribed c)
  else { w with map := w.map.insert c.key state }.put i (.requesting c)

/-- The second section: the subscribers that are still there get the result. -/
def lockAgain (c : Call K) (ended : ℕ) (res : V) : World K V :=
  match w.map.lookup c.key with
  | none => w.put i .panicked
  | some state =>
    { w with
      map := w.map.insert c.key .new
      place := fun j => if j ∈ state.subscribers then (w.place j).receive c.key ended res
        else w.place j }.put i (.returned c c.key ended res)

def step (w : World K V) : Event K V → World K V
  | .call i key => match w.place i with
    | .idle => w.put i (.locking ⟨key, w.answers⟩)
    | _ => w
  | .lock i => match w.place i with
    | .locking c => w.lock i c
    | _ => w
  | .answer i res => match w.place i with
    | .requesting c => { w with answers := w.answers + 1 }.put i (.answered c (w.answers + 1) res)
    | _ => w
  | .lockAgain i => match w.place i with
    | .answered c ended res => w.lockAgain i c ended res
    | _ => w
  | .cancel i => match w.place i with
    | .returned .. | .panicked => w
    | _ => w.put i .cancelled

end World

end CheetahDex.Utxo.ConcurrentRequests
