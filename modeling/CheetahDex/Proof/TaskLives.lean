import CheetahDex.Lib.Run
import CheetahDex.RpcTask.Manager

/-!
# Lives of tasks

A task goes from its registration to its result and away, once each, in every run in which no task
comes to its end after it was cancelled.
-/

namespace CheetahDex.RpcTask

open Lib

variable {T : RpcTaskTypes} {α : Type}

inductive Happening (T : RpcTaskTypes) where
  | spawn (initialStatus : T.InProgressStatus)
  /-- Another manager takes an id. -/
  | spawnElsewhere
  /-- The future of a task updates its status, and ends with the update to its result. -/
  | update (taskId : TaskId) (status : TaskStatus T)
  /-- The future of a task sees that its abort handle is gone. -/
  | abort (taskId : TaskId)
  | cancel (taskId : TaskId)
  | userAction (taskId : TaskId) (received : Bool)
  | poll (taskId : TaskId) (forgetIfReady : Bool)

/-- Whether the future of a task runs, whether the task finished, whether it was cancelled or
forgotten, and how many polls that forget have returned its result. -/
structure Life where
  running : Bool := false
  finished : Bool := false
  gone : Bool := false
  returned : ℕ := 0

structure Lives (T : RpcTaskTypes) where
  tasks : RpcTaskManager T
  nextRpcTaskId : TaskId
  life : TaskId → Life

namespace Lives

def start : Lives T := ⟨∅, 0, fun _ => {}⟩

variable (l : Lives T)

/-- A function is called on the entry of a task, whose life goes on with the result. -/
def act (taskId : TaskId) (f : OnEntry T α) (next : α → Life → Life) : Lives T :=
  let (result, tasks) := l.tasks.entry taskId f
  { l with tasks, life := Function.update l.life taskId (next result (l.life taskId)) }

def step : Happening T → Lives T
  | .spawn initialStatus =>
    { l with nextRpcTaskId := (l.nextRpcTaskId + 1) % 2 ^ 64 }.act l.nextRpcTaskId
      (registerTask l.nextRpcTaskId initialStatus) fun result life =>
        match result with
        | .ok () => { life with running := true }
        | .error _ => life
  | .spawnElsewhere => { l with nextRpcTaskId := (l.nextRpcTaskId + 1) % 2 ^ 64 }
  | .update taskId status =>
    if (l.life taskId).running then
      l.act taskId (updateTaskStatus taskId status) fun _ life =>
        match status with
        | .ready _ => { life with running := false, finished := true }
        | _ => life
    else l
  | .abort taskId =>
    if (l.life taskId).running ∧ taskId ∉ l.tasks then
      l.act taskId (cancelTask taskId) fun _ life => { life with running := false }
    else l
  | .cancel taskId =>
    l.act taskId (cancelTask taskId) fun result life =>
      match result with
      | .ok () => { life with gone := true }
      | .error _ => life
  | .userAction taskId received => l.act taskId (onUserAction taskId received) fun _ life => life
  | .poll taskId forgetIfReady =>
    l.act taskId (taskStatus forgetIfReady) fun status life =>
      match forgetIfReady, status with
      | true, some (.ok _) => { life with gone := true, returned := life.returned + 1 }
      | true, some (.error _) => { life with gone := true, returned := life.returned + 1 }
      | _, _ => life

/-- What is gone stays away, what is finished stays so, and no result is returned twice. -/
def Forward : Prop :=
  ∀ taskId, ((l.life taskId).gone → taskId ∉ l.tasks) ∧
    ((l.life taskId).finished → ∀ status ∈ l.tasks.lookup taskId, status.isReady) ∧
    (l.life taskId).returned ≤ 1

/-- A task that comes to its end is still registered, and the ids do not wrap. -/
def Registered : Happening T → Bool
  | .spawn _ => l.nextRpcTaskId + 1 < 2 ^ 64
  | .spawnElsewhere => l.nextRpcTaskId + 1 < 2 ^ 64
  | .update taskId (.ready _) => taskId ∈ l.tasks
  | _ => true

/-! ## Runs -/

variable {l : Lives T} {given : Prop} {life : Life} {entry : Option (TaskStatusExt T)}
  {taskId : TaskId}

/-- The life and the entry of a task whose id was given or not. -/
structure Fits (given : Prop) (life : Life) (entry : Option (TaskStatusExt T)) : Prop where
  fresh : given ∨ (life = {} ∧ entry = none)
  gone : life.gone → entry = none
  finished : life.finished → life.running = false ∧ ∀ status ∈ entry, status.isReady
  returned : life.returned ≤ life.gone.toNat

def Inv (l : Lives T) : Prop := ∀ id, Fits (id < l.nextRpcTaskId) (l.life id) (l.tasks.lookup id)

theorem lookup_entry (tasks : RpcTaskManager T) (f : OnEntry T α) (id : TaskId) :
    (tasks.entry taskId f).2.lookup id =
      if id = taskId then (f (tasks.lookup taskId)).2 else tasks.lookup id := by
  unfold RpcTaskManager.entry
  cases hlf : (f (tasks.lookup taskId)).2 with
  | none => simpa only [hlf] using HashMap.lookup_erase_ite ..
  | some status => simpa only [hlf] using HashMap.lookup_insert_ite ..

theorem Inv.later (h : Inv l) {n : ℕ} (hle : l.nextRpcTaskId ≤ n) :
    Inv { l with nextRpcTaskId := n } :=
  fun id => { h id with fresh := (h id).fresh.imp_left (·.trans_le hle) }

/-- A function is called on one entry. -/
theorem Inv.act (h : Inv l) {f : OnEntry T α} {next : α → Life → Life}
    (hft : ∀ entry, l.tasks.lookup taskId = entry →
      Fits (taskId < l.nextRpcTaskId) (l.life taskId) entry →
      Fits (taskId < l.nextRpcTaskId) (next (f entry).1 (l.life taskId)) (f entry).2) :
    Inv (l.act taskId f next) := by
  intro id
  change Fits _ (Function.update l.life taskId _ id) ((l.tasks.entry taskId f).2.lookup id)
  rw [lookup_entry]
  by_cases hid : id = taskId
  · subst hid
    rw [Function.update_self, if_pos rfl]
    exact hft _ rfl (h id)
  · rw [Function.update_of_ne hid, if_neg hid]
    exact h id

/-- No entry appears, and what is finished stays so. -/
theorem Fits.keep (h : Fits given life entry) {left : Option (TaskStatusExt T)}
    (hlf : ∀ status' ∈ left, ∃ status ∈ entry, status.isReady → status'.isReady) :
    Fits given life left := by
  have hno : entry = none → left = none := by
    rintro rfl
    refine Option.eq_none_iff_forall_not_mem.mpr fun status' hst' => ?_
    obtain ⟨status, ⟨⟩, -⟩ := hlf status' hst'
  refine ⟨h.fresh.imp_right (And.imp_right hno), hno ∘ h.gone, fun hfin => ?_, h.returned⟩
  refine ⟨(h.finished hfin).1, fun status' hst' => ?_⟩
  obtain ⟨status, hst, hrd⟩ := hlf status' hst'
  exact hrd ((h.finished hfin).2 status hst)

/-- An entry is removed, and its result is returned or not. -/
theorem Fits.remove {status : TaskStatusExt T} (h : Fits given life (some status)) {n : ℕ}
    (hn : n ≤ 1) : Fits given { life with gone := true, returned := life.returned + n }
      (none : Option (TaskStatusExt T)) := by
  have hgn : life.gone = false := by simpa using h.gone
  have hrt : life.returned = 0 := by simpa [hgn] using h.returned
  refine ⟨h.fresh.imp_right (by simp), fun _ => rfl, fun hfin => ?_, ?_⟩
  · exact ⟨(h.finished hfin).1, by simp⟩
  · simpa [hrt] using hn

theorem Inv.spawn (h : Inv l) (hlt : l.nextRpcTaskId + 1 < 2 ^ 64) (status : T.InProgressStatus) :
    Inv (l.step (.spawn status)) := by
  simp only [Lives.step, Nat.mod_eq_of_lt hlt]
  obtain hgv | ⟨hli, hent⟩ := (h l.nextRpcTaskId).fresh
  · exact absurd hgv (lt_irrefl _)
  · refine (h.later (Nat.le_succ l.nextRpcTaskId)).act fun entry hlk _ => ?_
    obtain rfl := hlk.symm.trans hent
    change Fits _ { l.life l.nextRpcTaskId with running := true } _
    rw [hli]
    exact ⟨.inl (Nat.lt_succ_self _), by simp, by simp, by simp⟩

/-- A task that is registered comes to its end. -/
theorem Fits.finish {old : TaskStatusExt T} (h : Fits given life (some old))
    (result : Except T.Error T.Item) :
    Fits given { life with running := false, finished := true } (some (.ready result)) := by
  have hgn : life.gone = false := by simpa using h.gone
  refine ⟨h.fresh.imp_right (by simp), by simp [hgn], fun _ => ⟨rfl, ?_⟩, h.returned⟩
  rintro status ⟨⟩
  rfl

theorem Inv.update (h : Inv l) (status : TaskStatus T)
    (hok : l.Registered (.update taskId status)) : Inv (l.step (.update taskId status)) := by
  simp only [Lives.step]
  split
  · refine h.act fun entry hent hft => ?_
    cases status with
    | ready result =>
      obtain ⟨old, hold⟩ := Finmap.mem_iff.mp (of_decide_eq_true hok)
      obtain rfl := hent.symm.trans hold
      exact hft.finish result
    | inProgress status | userActionRequired status =>
      refine hft.keep fun status' hst' => ?_
      rcases entry with _ | ⟨_ | _ | _⟩ <;> cases hst' <;>
        exact ⟨_, rfl, by simp [TaskStatusExt.isReady]⟩
  · exact h

theorem Inv.abort (h : Inv l) (taskId : TaskId) : Inv (l.step (.abort taskId)) := by
  simp only [Lives.step]
  split
  · rename_i hrn
    refine h.act fun entry hent hft => ?_
    obtain rfl := hent.symm.trans (Finmap.lookup_eq_none.mpr hrn.2)
    refine { hft with
      fresh := hft.fresh.imp_right fun hfr => ?_
      finished := fun _ => ⟨rfl, by simp [cancelTask]⟩ }
    rw [hfr.1] at hrn
    exact absurd hrn.1 (by simp)
  · exact h

/-- Every registered happening keeps each entry in step with the life of its task. -/
theorem Inv.step (h : Inv l) {e : Happening T} (hok : l.Registered e) : Inv (l.step e) := by
  cases e with
  | spawn status => exact h.spawn (of_decide_eq_true hok) status
  | spawnElsewhere =>
    simp only [Lives.step, Nat.mod_eq_of_lt (of_decide_eq_true hok)]
    exact h.later (Nat.le_succ _)
  | update taskId status => exact h.update status hok
  | abort taskId => exact h.abort taskId
  | cancel taskId =>
    refine h.act fun entry _ hft => ?_
    rcases entry with _ | ⟨_ | _ | _⟩
    all_goals first
      | exact hft
      | exact hft.remove zero_le_one
  | userAction taskId received =>
    refine h.act fun entry _ hft => hft.keep fun status' hst' => ?_
    rcases entry with _ | ⟨_ | _ | _⟩ <;> cases hst' <;>
      exact ⟨_, rfl, by simp [TaskStatusExt.isReady]⟩
  | poll taskId forgetIfReady =>
    refine h.act fun entry _ hft => ?_
    rcases entry with _ | ⟨_ | _ | ⟨_ | _⟩⟩ <;> cases forgetIfReady
    all_goals first
      | exact hft
      | exact hft.remove le_rfl

theorem Inv.forward (h : Inv l) : Forward l := by
  intro id
  refine ⟨fun hgn => Finmap.lookup_eq_none.mp ((h id).gone hgn),
    fun hfin => ((h id).finished hfin).2, (h id).returned.trans ?_⟩
  exact Bool.toNat_le _

/-- **In every run in which a task that ends is still registered, what is gone stays away, what is
finished stays so, and no result is returned twice.** -/
theorem forward_of_registered (es : List (Happening T))
    (hok : Guarded step (fun l e => Registered l e) start es) : Always step Forward start es := by
  have hsta : Inv (start : Lives T) := fun id =>
    ⟨.inr ⟨rfl, by simp [start]⟩, by simp [start], by simp [start], by simp [start]⟩
  exact (Always.of_guarded (fun _ _ h hok => h.step hok) hsta hok).mono fun _ h => h.forward

/-- A task that is cancelled after its result was polled and kept, and one that is cancelled and
aborted. -/
theorem forward_polled : Always step Forward (start : Lives ⟨Unit, Unit, Unit, Unit⟩)
    [.spawn (), .spawn (), .update 0 (.ready (.ok ())), .poll 0 false, .cancel 0, .cancel 1,
      .update 1 (.inProgress ()), .abort 1, .poll 0 true, .poll 0 true] :=
  forward_of_registered _ (by decide +kernel)

/-- A task that was cancelled comes to its end, and is there again. -/
theorem cancelled_appears : ¬ Always step Forward (start : Lives ⟨Unit, Unit, Unit, Unit⟩)
    [.spawn (), .cancel 0, .update 0 (.ready (.ok ()))] := by
  intro hal
  exact (hal.last 0).1 (by decide +kernel) (by decide +kernel)

end Lives

end CheetahDex.RpcTask
