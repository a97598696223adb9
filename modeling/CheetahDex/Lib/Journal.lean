import CheetahDex.Lib.Checks
import Mathlib.Data.List.Basic

/-!
# Processes that keep a journal

A process executes commands. A command that returns has produced events and names the command to go
on with; each event is written to the journal and then applied to the state. A process that is
restarted applies the events of its journal to a fresh state, and a table tells it from the last of
them how to go on.

The state is rebuilt because all that a command does to it goes through events (`Chain.replay`). The
right command is found if the table gives, for each event a command produces, the command that one
goes on with (`forall_run_iff_allowed`).

Commands return early from many places. They are written in `Except`, with what is returned early as
the error, and `collapse` gives the result.
-/

namespace CheetahDex.Lib

open List

variable {σ ε κ η ω α : Type}

/-! ## Early returns -/

/-- What a computation with early returns returns. -/
def collapse : Except ω ω → ω
  | .ok o => o
  | .error o => o

section collapse

variable (fail : ε → ω) (f : α → Except ω ω)

theorem collapse_ok (a : α) : collapse ((Except.ok a).mapError fail >>= f) = collapse (f a) := rfl

theorem collapse_error (e : ε) : collapse ((Except.error e).mapError fail >>= f) = fail e := rfl

theorem collapse_some_bind (a : α) (o : ω) :
    collapse (orError (some a) o >>= f) = collapse (f a) := rfl

theorem collapse_none_bind (o : ω) : collapse (orError none o >>= f) = o := rfl

variable {fail f} {P : ω → Prop}

/-- What is returned early and what is returned at the end. -/
theorem collapse_mapError {x : Except ε α} (her : ∀ e, x = .error e → P (fail e))
    (hok : ∀ a, x = .ok a → P (collapse (f a))) : P (collapse (x.mapError fail >>= f)) := by
  cases x with
  | error e =>
    rw [collapse_error]
    exact her e rfl
  | ok a =>
    rw [collapse_ok]
    exact hok a rfl

/-- The same where it does not matter what failed, or what did not. -/
theorem collapse_try {x : Except ε α} (her : ∀ e, P (fail e)) (hok : ∀ a, P (collapse (f a))) :
    P (collapse (x.mapError fail >>= f)) :=
  collapse_mapError (fun e _ => her e) fun a _ => hok a

variable {o : ω}

theorem collapse_orError {x : Option α} (hn : P o) (hso : ∀ a, P (collapse (f a))) :
    P (collapse (orError x o >>= f)) := by
  cases x with
  | none =>
    rw [collapse_none_bind]
    exact hn
  | some a =>
    rw [collapse_some_bind]
    exact hso a

theorem collapse_check {bad : Prop} [Decidable bad] {f : Unit → Except ω ω} (hbad : bad → P o)
    (hok : ¬bad → P (collapse (f ()))) : P (collapse (check bad o >>= f)) := by
  by_cases h : bad
  · rw [check, if_pos h]
    exact hbad h
  · rw [check, if_neg h]
    exact hok h

end collapse

/-! ## Processes -/

/-- How a command ends, if it does. -/
inductive Outcome (ε κ : Type) where
  | returned (next : Option κ) (events : List ε)
  | waiting
  | panicked
  deriving DecidableEq

/-- Every event a command produces is in the given relation to the command that is next. -/
def Outcome.Each (Q : ε → Option κ → Prop) : Outcome ε κ → Prop
  | .returned next events => ∀ e ∈ events, Q e next
  | .waiting => True
  | .panicked => True

variable {o : Outcome ε κ}

theorem Outcome.each_iff {Q : ε → Option κ → Prop} :
    o.Each Q ↔ ∀ next events, o = .returned next events → ∀ e ∈ events, Q e next := by
  cases o <;> simp [Outcome.Each]

/-- What a process does with its commands and its events. The environment decides what a command
finds and what the clock says. -/
structure Process (σ ε κ η : Type) where
  handle : η → σ → κ → Outcome ε κ
  apply : η → σ → ε → σ

/-- An event of the journal, with the state after it and the command that is next. -/
structure Entry (σ ε κ : Type) where
  event : ε
  after : σ
  next : Option κ

namespace Process

variable (p : Process σ ε κ η)

/-- The events of one command. -/
def write (env : η) (next : Option κ) : σ → List ε → List (Entry σ ε κ)
  | _, [] => []
  | s, e :: es => ⟨e, p.apply env s e, next⟩ :: write env next (p.apply env s e) es

/-- The journal of a run from a command on, as long as commands return. -/
def run : σ → κ → List η → List (Entry σ ε κ)
  | _, _, [] => []
  | s, c, env :: envs =>
    match p.handle env s c with
    | .returned (some next) events =>
      p.write env (some next) s events ++ run (events.foldl (p.apply env) s) next envs
    | .returned none events => p.write env none s events
    | .waiting => []
    | .panicked => []

/-- Every command of the run meets a condition when it is executed. -/
def Allowed (ok : η → σ → κ → Prop) : σ → κ → List η → Prop
  | _, _, [] => True
  | s, c, env :: envs =>
    ok env s c ∧
      match p.handle env s c with
      | .returned (some next) events => Allowed ok (events.foldl (p.apply env) s) next envs
      | .returned none _ => True
      | .waiting => True
      | .panicked => True

/-! ## Replaying -/

/-- Each state is the one before with the event applied. -/
def Chain : σ → List (Entry σ ε κ) → Prop
  | _, [] => True
  | s, entry :: rest => (∃ env, entry.after = p.apply env s entry.event) ∧ Chain entry.after rest

variable {p}

variable {env : η} {es : List ε} {s : σ} {Q : ε → Option κ → Prop} {I : σ → Prop}
  {C : η → σ → κ → Prop}

theorem chain_write {next : Option κ} {rest : List (Entry σ ε κ)}
    (h : p.Chain (es.foldl (p.apply env) s) rest) : p.Chain s (p.write env next s es ++ rest) := by
  induction es generalizing s with
  | nil => exact h
  | cons e es ih => exact ⟨⟨env, rfl⟩, ih h⟩

theorem chain_run (s : σ) (c : κ) (envs : List η) : p.Chain s (p.run s c envs) := by
  induction envs generalizing s c with
  | nil => exact trivial
  | cons env envs ih =>
    unfold run
    split
    · exact chain_write (ih _ _)
    · rw [← append_nil (p.write _ _ _ _)]
      exact chain_write trivial
    · exact trivial
    · exact trivial

/-- **The events up to an entry, applied again to a state like the first one, give a state like that
of the entry.** -/
theorem Chain.replay {R : σ → σ → Prop} {again : σ → ε → σ}
    (hap : ∀ env s s' e, R s s' → R (again s e) (p.apply env s' e)) {s s₀ : σ}
    {entries pre : List (Entry σ ε κ)} {entry : Entry σ ε κ} (h : p.Chain s entries)
    (hpre : pre ++ [entry] <+: entries) (hs : R s₀ s) :
    R (((pre ++ [entry]).map Entry.event).foldl again s₀) entry.after := by
  induction pre generalizing s s₀ entries with
  | nil =>
    obtain ⟨rest, rfl⟩ := hpre
    obtain ⟨⟨env, haft⟩, -⟩ := h
    rw [haft]
    exact hap env s₀ s _ hs
  | cons first pre ih =>
    obtain ⟨rest, rfl⟩ := hpre
    obtain ⟨⟨env, haft⟩, hr⟩ := h
    refine ih hr (prefix_append _ _) ?_
    rw [haft]
    exact hap env s₀ s _ hs

/-! ## Going on -/

/-- What a table gives for the last event of a journal. -/
theorem getLast?_bind_table (table : ε → Option κ) (pre : List (Entry σ ε κ))
    (entry : Entry σ ε κ) :
    ((pre ++ [entry]).map Entry.event).getLast?.bind table = table entry.event := by
  rw [map_append, map_singleton, getLast?_concat, Option.bind_some]

theorem forall_write_iff {next : Option κ} :
    (∀ entry ∈ p.write env next s es, Q entry.event entry.next) ↔ ∀ e ∈ es, Q e next := by
  induction es generalizing s with
  | nil => simp [write]
  | cons e es ih => simp [write, ih]

theorem inv_foldl (hI : ∀ env s e, I s → I (p.apply env s e)) (env : η) (hs : I s) (es : List ε) :
    I (es.foldl (p.apply env) s) :=
  List.foldlRecOn es _ hs fun s hs e _ => hI env s e hs

/-- **Every entry of a journal is as it should be exactly if every command meets the condition under
which its own events are.** -/
theorem forall_run_iff_allowed (hI : ∀ env s e, I s → I (p.apply env s e))
    (hst : ∀ env s c, I s → ((p.handle env s c).Each Q ↔ C env s c)) (hs : I s) (c : κ)
    (envs : List η) :
    (∀ entry ∈ p.run s c envs, Q entry.event entry.next) ↔ p.Allowed C s c envs := by
  induction envs generalizing s c with
  | nil => simp [run, Allowed]
  | cons env envs ih =>
    have hone := hst env s c hs
    unfold run Allowed
    cases hret : p.handle env s c with
    | returned next events =>
      rw [hret] at hone
      cases next with
      | some next =>
        simp only [forall_mem_append, forall_write_iff]
        rw [ih (inv_foldl hI env hs events), ← hone]
        rfl
      | none =>
        simp only [forall_write_iff, and_true]
        exact hone
    | waiting | panicked =>
      rw [hret] at hone
      simpa using hone.1 trivial

theorem allowed_of_forall_mem {envs : List η} (h : ∀ env ∈ envs, ∀ s c, C env s c) (s : σ) (c : κ) :
    p.Allowed C s c envs := by
  induction envs generalizing s c with
  | nil => exact trivial
  | cons env envs ih =>
    obtain ⟨henv, hen⟩ := forall_mem_cons.1 h
    refine ⟨henv s c, ?_⟩
    split
    · exact ih hen _ _
    · exact trivial
    · exact trivial
    · exact trivial

end Process

end CheetahDex.Lib
