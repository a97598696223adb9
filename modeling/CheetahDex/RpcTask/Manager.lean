import CheetahDex.Lib.HashMap

/-!
# RPC tasks

A task is registered when it is spawned. It is removed when it is cancelled, and when its result is
polled and forgotten. The future of a cancelled task runs on until it sees that it is aborted, and
if it comes to its end before, it puts its result into the manager whatever is there.

All functions run under the lock of the manager. Each looks at the entry of one task and leaves
another one or none. The handles of a task are left out: one that is not finished has its abort
handle, and whether a user action is received is an argument.
-/

namespace CheetahDex.RpcTask

open Lib

structure RpcTaskTypes where
  Item : Type
  Error : Type
  InProgressStatus : Type
  AwaitingStatus : Type

variable {T : RpcTaskTypes} {α : Type}

abbrev TaskId := ℕ

inductive TaskStatusError where
  | idle
  | inProgress
  | awaitingUserAction
  | finished

inductive RpcTaskError where
  | noSuchTask (taskId : TaskId)
  | unexpectedTaskStatus (taskId : TaskId) (actual expected : TaskStatusError)
  | canceled

inductive RpcTaskStatus (T : RpcTaskTypes) where
  | ok (item : T.Item)
  | error (error : T.Error)
  | inProgress (status : T.InProgressStatus)
  | userActionRequired (status : T.AwaitingStatus)

inductive TaskStatus (T : RpcTaskTypes) where
  | ready (result : Except T.Error T.Item)
  | inProgress (status : T.InProgressStatus)
  | userActionRequired (awaitingStatus : T.AwaitingStatus)

inductive TaskStatusExt (T : RpcTaskTypes) where
  | inProgress (status : T.InProgressStatus)
  | awaiting (status : T.AwaitingStatus) (nextInProgressStatus : T.InProgressStatus)
  | ready (result : Except T.Error T.Item)

def TaskStatusExt.isReady : TaskStatusExt T → Bool
  | ready _ => true
  | _ => false

/-! ## The manager -/

abbrev RpcTaskManager (T : RpcTaskTypes) := HashMap TaskId (TaskStatusExt T)

/-- What a function returns and leaves in the place of an entry. -/
abbrev OnEntry (T : RpcTaskTypes) (α : Type) :=
  Option (TaskStatusExt T) → α × Option (TaskStatusExt T)

def RpcTaskManager.entry (tasks : RpcTaskManager T) (taskId : TaskId) (f : OnEntry T α) :
    α × RpcTaskManager T :=
  let (result, left) := f (tasks.lookup taskId)
  (result,
    match left with
    | some status => tasks.insert taskId status
    | none => tasks.erase taskId)

section functions

variable (taskId : TaskId)

/-- The task gets the next id. -/
def registerTask (initialStatus : T.InProgressStatus) : OnEntry T (Except RpcTaskError Unit)
  | some status => (.error (.unexpectedTaskStatus taskId .inProgress .idle), some status)
  | none => (.ok (), some (.inProgress initialStatus))

def taskStatus (forgetIfReady : Bool) : OnEntry T (Option (RpcTaskStatus T))
  | none => (none, none)
  | some (.inProgress status) => (some (.inProgress status), some (.inProgress status))
  | some (.awaiting status next) =>
    (some (.userActionRequired status), some (.awaiting status next))
  | some (.ready result) =>
    (match result with
      | .ok item => some (.ok item)
      | .error error => some (.error error),
    if forgetIfReady then none else some (.ready result))

def cancelTask : OnEntry T (Except RpcTaskError Unit)
  | some (.ready result) =>
    (.error (.unexpectedTaskStatus taskId .finished .inProgress), some (.ready result))
  | some _ => (.ok (), none)
  | none => (.error (.noSuchTask taskId), none)

def rpcTaskErrorIfNotFound (expected : TaskStatusError) : Option (TaskStatusExt T) → RpcTaskError
  | some (.inProgress _) => .unexpectedTaskStatus taskId .inProgress expected
  | some (.awaiting _ _) => .unexpectedTaskStatus taskId .awaitingUserAction expected
  | some (.ready _) => .unexpectedTaskStatus taskId .finished expected
  | none => .noSuchTask taskId

def onTaskFinished (result : Except T.Error T.Item) : OnEntry T (Except RpcTaskError Unit) :=
  fun _ => (.ok (), some (.ready result))

def updateInProgressStatus (status : T.InProgressStatus) : OnEntry T (Except RpcTaskError Unit)
  | some (.ready result) =>
    (.error (.unexpectedTaskStatus taskId .finished .inProgress), some (.ready result))
  | some _ => (.ok (), some (.inProgress status))
  | none => (.error (.noSuchTask taskId), none)

def setTaskIsWaitingForUserAction (status : T.AwaitingStatus) : OnEntry T (Except RpcTaskError Unit)
  | some (.inProgress next) => (.ok (), some (.awaiting status next))
  | entry => (.error (rpcTaskErrorIfNotFound taskId .inProgress entry), entry)

def updateTaskStatus : TaskStatus T → OnEntry T (Except RpcTaskError Unit)
  | .ready result => onTaskFinished result
  | .inProgress status => updateInProgressStatus taskId status
  | .userActionRequired awaitingStatus => setTaskIsWaitingForUserAction taskId awaitingStatus

def onUserAction (received : Bool) : OnEntry T (Except RpcTaskError Unit)
  | some (.awaiting _ next) =>
    (if received then .ok () else .error .canceled, some (.inProgress next))
  | entry => (.error (rpcTaskErrorIfNotFound taskId .awaitingUserAction entry), entry)

end functions

end CheetahDex.RpcTask
