import Mathlib.Data.Nat.Notation
import Mathlib.Logic.Function.Basic

/-!
# The nonces of an Ethereum address

`sign_and_send_transaction_impl` takes a global lock, asks the nodes for the pending count until
those that answer agree, sends a transaction with that nonce, and asks again until they agree on a
larger count. The calls of one address interleave; a node may fail to answer, and the counts that it
reports do not decrease.
-/

namespace CheetahDex.Eth.Nonce

variable {C N : Type}

/-- Where a call is. `errors` counts the rounds of a `get_addr_nonce` that no node answered. -/
inductive Place where
  | idle
  | asking (errors : ℕ)
  | sending (nonce : ℕ)
  | waiting (nonce errors : ℕ)
  | done
  deriving DecidableEq

def Place.isAsking : Place → Bool
  | asking _ => true
  | _ => false

def Place.isActive : Place → Bool
  | idle => false
  | done => false
  | _ => true

/-- `reported` is the largest count that a node has answered with, and `sent` has the nonces of the
transactions that were broadcast. -/
structure World (C N : Type) where
  place : C → Place
  lock : Option C
  stopping : Bool
  reported : N → ℕ
  sent : List ℕ

def World.init (reported : N → ℕ) : World C N := ⟨fun _ => .idle, none, false, reported, []⟩

inductive Event (C N : Type) where
  | stop
  | enter (c : C)
  /-- A round of requests, with the nodes that answer and what they say. -/
  | round (c : C) (answers : List (N × ℕ))
  | send (c : C) (accepted : Bool)

/-- What a round comes to. -/
inductive Answer where
  | nonce (n : ℕ)
  | again (errors : ℕ)
  | failed

/-- One turn of the loop of `get_addr_nonce`. -/
def getAddrNonce (errors : ℕ) : List (N × ℕ) → Answer
  | [] => if errors + 1 > 5 then .failed else .again (errors + 1)
  | (_, n) :: answers => if ∀ a ∈ answers, a.2 = n then .nonce n else .again errors

namespace World

variable [DecidableEq C] (w : World C N)

def goTo (c : C) (p : Place) : World C N := { w with place := Function.update w.place c p }

/-- The call returns, and its guard, if it has one, is dropped. -/
def leave (c : C) : World C N :=
  { w.goTo c .done with lock := if w.lock = some c then none else w.lock }

def round (c : C) (answers : List (N × ℕ)) : World C N :=
  match w.place c with
  | .asking errors =>
    match getAddrNonce errors answers with
    | .nonce n => w.goTo c (.sending n)
    | .again errors => w.goTo c (.asking errors)
    | .failed => w.leave c
  | .waiting nonce errors =>
    match getAddrNonce errors answers with
    | .nonce n => if n > nonce then w.leave c else w.goTo c (.waiting nonce 0)
    | .again errors => w.goTo c (.waiting nonce errors)
    | .failed => w.goTo c (.waiting nonce 0)
  | _ => w

end World

variable [DecidableEq N]

def learn (reported : N → ℕ) (answers : List (N × ℕ)) : N → ℕ :=
  answers.foldl (fun reported a => Function.update reported a.1 (max (reported a.1) a.2)) reported

def World.step [DecidableEq C] (w : World C N) : Event C N → World C N
  | .stop => { w with stopping := true }
  | .enter c =>
    if w.place c ≠ .idle then w
    -- the error of an attempt to lock is kept like a guard, and the call goes on
    else if w.stopping then w.goTo c (.asking 0)
    else if w.lock = none then { w.goTo c (.asking 0) with lock := some c }
    else w
  | .round c answers =>
    if ∀ a ∈ answers, w.reported a.1 ≤ a.2 then
      { w.round c answers with reported := learn w.reported answers }
    else w
  | .send c accepted =>
    match w.place c with
    | .sending n =>
      if accepted then { w.goTo c (.waiting n 0) with sent := w.sent ++ [n] } else w.leave c
    | _ => w

end CheetahDex.Eth.Nonce
