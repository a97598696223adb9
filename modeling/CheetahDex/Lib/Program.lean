import CheetahDex.Lib.Run

/-!
# Programs that make calls

A program ends with a value or an error, or it makes a call and goes on with the answer. Programs
can be run one at a time against a handler. Or they are the jobs of a pool that share a state:
between two calls of one job any number of calls of the others can come.

A job is *safe* if the invariant of the shared state survives each of its calls and its value meets
its contract, whatever the other jobs do in between. Safe jobs keep a pool safe.
-/

namespace CheetahDex.Lib

/-- A program with calls in `κ`. -/
inductive Program (κ : Type) (Answer : κ → Type) (ε α : Type) where
  | ret (a : α)
  | throw (e : ε)
  | call (c : κ) (next : Answer c → Program κ Answer ε α)

namespace Program

variable {κ : Type} {Answer : κ → Type} {ε α β σ : Type}

/-- The first program, and then the one that its value chooses. -/
def bind : Program κ Answer ε α → (α → Program κ Answer ε β) → Program κ Answer ε β
  | ret a, f => f a
  | throw e, _ => throw e
  | call c next, f => call c fun a => (next a).bind f

instance : Monad (Program κ Answer ε) where
  pure := ret
  bind := bind

/-- A single call. -/
def ask (c : κ) : Program κ Answer ε (Answer c) := call c ret

/-! ## One program -/

/-- The program against a handler with a state. -/
def run (handle : σ → (c : κ) → Answer c × σ) : Program κ Answer ε α → σ → Except ε α × σ
  | ret a, s => (.ok a, s)
  | throw e, s => (.error e, s)
  | call c next, s => (next (handle s c).1).run handle (handle s c).2

section run

variable {handle : σ → (c : κ) → Answer c × σ} {s s' : σ} {a : α}

variable {f : α → Program κ Answer ε β} {p : Program κ Answer ε α}

/-- A sequence is run part by part. -/
theorem run_bind_of_ok (h : p.run handle s = (.ok a, s')) :
    (p >>= f).run handle s = (f a).run handle s' := by
  induction p generalizing s with
  | ret b =>
    cases h
    rfl
  | throw e => cases h
  | call c next ih => exact ih _ h

/-- A sequence ends where its first part fails. -/
theorem run_bind_of_error {e : ε} (h : p.run handle s = (.error e, s')) :
    (p >>= f).run handle s = (.error e, s') := by
  induction p generalizing s with
  | ret b => cases h
  | throw e' =>
    cases h
    rfl
  | call c next ih => exact ih _ h

end run

end Program

/-! ## Many programs -/

/-- A program in progress, with the calls it has made, the last one first. -/
structure Job (κ : Type) (Answer : κ → Type) (ε α : Type) where
  history : List (Sigma Answer)
  program : Program κ Answer ε α

/-- Programs in progress on a shared state. -/
structure Pool (σ κ : Type) (Answer : κ → Type) (ε α : Type) where
  shared : σ
  jobs : List (Job κ Answer ε α)

/-- A program is started, a job gets the answer to its call, or its call fails. -/
inductive PoolMove (κ : Type) (Answer : κ → Type) (ε α : Type) where
  | start (program : Program κ Answer ε α)
  | reply (job : ℕ) (offer : (c : κ) → Answer c)
  | fail (job : ℕ) (error : ε)

namespace Pool

variable {σ κ : Type} {Answer : κ → Type} {ε α β : Type}

/-- One move. -/
def step (handle : σ → (c : κ) → Answer c → Answer c × σ) (pool : Pool σ κ Answer ε α) :
    PoolMove κ Answer ε α → Pool σ κ Answer ε α
  | .start program => { pool with jobs := pool.jobs ++ [⟨[], program⟩] }
  | .reply job offer =>
    match pool.jobs[job]? with
    | some ⟨history, .call c next⟩ =>
      let (a, shared) := handle pool.shared c (offer c)
      ⟨shared, pool.jobs.set job ⟨⟨c, a⟩ :: history, next a⟩⟩
    | _ => pool
  | .fail job error =>
    match pool.jobs[job]? with
    | some ⟨history, .call _ _⟩ => { pool with jobs := pool.jobs.set job ⟨history, .throw error⟩ }
    | _ => pool

end Pool

/-! ## Safety -/

/-- What jobs owe each other: an invariant of the shared state, and which offers are made to a job
with some history. Shared states are ordered by what is known in them. -/
structure Contract (σ κ : Type) (Answer : κ → Type) where
  handle : σ → (c : κ) → Answer c → Answer c × σ
  Le : σ → σ → Prop
  refl : ∀ s, Le s s
  trans : ∀ {s t u}, Le s t → Le t u → Le s u
  Inv : σ → Prop
  Offers : List (Sigma Answer) → (c : κ) → Answer c → Prop

namespace Contract

variable {σ κ : Type} {Answer : κ → Type} {ε α β : Type} (C : Contract σ κ Answer)

/-- Each call of the program keeps the invariant, and its value meets the postcondition. Before each
call the others may have changed the state. -/
def Safe (Post : σ → α → Prop) : σ → List (Sigma Answer) → Program κ Answer ε α → Prop
  | s, _, .ret a => Post s a
  | _, _, .throw _ => True
  | s, history, .call c next => ∀ s', C.Le s s' → C.Inv s' → ∀ offer, C.Offers history c offer →
      C.Inv (C.handle s' c offer).2 ∧ C.Le s' (C.handle s' c offer).2 ∧
      Safe Post (C.handle s' c offer).2 (⟨c, (C.handle s' c offer).1⟩ :: history)
        (next (C.handle s' c offer).1)

section rules

variable {C} {Post Q : σ → α → Prop} {R : σ → β → Prop} {s s' : σ} {history : List (Sigma Answer)}
  {p : Program κ Answer ε α} {f : α → Program κ Answer ε β}

theorem safe_pure {a : α} (h : Post s a) :
    C.Safe Post s history (pure a : Program κ Answer ε α) := h

theorem safe_throw {e : ε} : C.Safe Post s history (.throw e : Program κ Answer ε α) := trivial

/-- A job stays safe while the others move on. -/
theorem Safe.later (hps : ∀ {s s'} {a : α}, C.Le s s' → Post s a → Post s' a)
    (hle : C.Le s s') (h : C.Safe Post s history p) : C.Safe Post s' history p := by
  cases p with
  | ret a => exact hps hle h
  | throw e => trivial
  | call c next => exact fun t ht => h t (C.trans hle ht)

/-- A sequence is safe if its second part is safe wherever the first can end. -/
theorem Safe.bind (h : C.Safe Q s history p)
    (hf : ∀ s' history' a, C.Le s s' → Q s' a → C.Safe R s' history' (f a)) :
    C.Safe R s history (p >>= f) := by
  induction p generalizing s history with
  | ret a => exact hf s history a (C.refl s) h
  | throw e => trivial
  | call c next ih =>
    intro t ht hinv offer hof
    obtain ⟨hkp, hle, hx⟩ := h t ht hinv offer hof
    refine ⟨hkp, hle, ih _ hx fun u history' a hu => ?_⟩
    exact hf u history' a (C.trans ht (C.trans hle hu))

end rules

/-! ### Pools -/

/-- The invariant holds and every job is safe. -/
structure SafePool (Post : σ → α → Prop) (pool : Pool σ κ Answer ε α) : Prop where
  inv : C.Inv pool.shared
  jobs : ∀ job ∈ pool.jobs, C.Safe Post pool.shared job.history job.program

/-- Only some programs are started, and a job is only offered what its history allows. -/
def Permits (Starts : Program κ Answer ε α → Prop) (pool : Pool σ κ Answer ε α) :
    PoolMove κ Answer ε α → Prop
  | .start program => Starts program
  | .reply job offer => ∀ history c next, pool.jobs[job]? = some ⟨history, .call c next⟩ →
      C.Offers history c (offer c)
  | .fail _ _ => True

variable {C} {Post : σ → α → Prop} {Starts : Program κ Answer ε α → Prop}
  {pool : Pool σ κ Answer ε α} {move : PoolMove κ Answer ε α}

section

variable (hps : ∀ {s s'} {a : α}, C.Le s s' → Post s a → Post s' a)
  (hst : ∀ p, Starts p → ∀ s, C.Inv s → C.Safe Post s [] p) (h : C.SafePool Post pool)

include hps hst h

theorem SafePool.step
    (hmv : C.Permits Starts pool move) : C.SafePool Post (pool.step C.handle move) := by
  cases move with
  | start program =>
    exact ⟨h.inv, List.forall_mem_append.mpr
      ⟨h.jobs, List.forall_mem_singleton.mpr (hst program hmv pool.shared h.inv)⟩⟩
  | reply i offer =>
    simp only [Pool.step]
    split
    · next history c next hget =>
      have hsf := h.jobs _ (List.mem_of_getElem? hget)
      obtain ⟨hkp, hle, hx⟩ := hsf pool.shared (C.refl _) h.inv (offer c) (hmv history c next hget)
      refine ⟨hkp, fun job hjob => ?_⟩
      rcases List.mem_or_eq_of_mem_set hjob with hjob | rfl
      · exact (h.jobs job hjob).later hps hle
      · exact hx
    · exact h
  | fail i e =>
    simp only [Pool.step]
    split
    · refine ⟨h.inv, fun job hjob => ?_⟩
      rcases List.mem_or_eq_of_mem_set hjob with hjob | rfl
      · exact h.jobs job hjob
      · exact trivial
    · exact h

/-- Every state of a run is safe, if every move of it is permitted. -/
theorem SafePool.always {moves : List (PoolMove κ Answer ε α)}
    (hmo : Guarded (Pool.step C.handle) (C.Permits Starts) pool moves) :
    Always (Pool.step C.handle) (C.SafePool Post) pool moves :=
  .of_guarded (fun _ _ h hmv => h.step hps hst hmv) h hmo

end

end Contract

end CheetahDex.Lib
