import Mathlib.Data.List.Basic

/-!
# Runs of a state machine

A machine is a function `step : σ → ε → σ`; whatever the environment decides (a message, a clock
reading, the order of a loop) is in the event `ε`. `Always` speaks about every state a run visits
and `Guarded` about every step it takes, each together with the state the step is taken from.

The rule the developments use is `always_iff_guarded`: when an invariant survives a step exactly if
the step is allowed, it survives a run exactly if every step of it is.
-/

namespace CheetahDex.Lib

open List

variable {σ ε : Type*} {step : σ → ε → σ}

/-! ## Loops that collect an output -/

/-- Run `f` over a list, threading the state and appending what each turn emits. -/
def foldEmit {α β : Type*} (f : σ → α → σ × List β) : σ → List α → σ × List β
  | s, [] => (s, [])
  | s, a :: as => ((foldEmit f (f s a).1 as).1, (f s a).2 ++ (foldEmit f (f s a).1 as).2)

variable {P : σ → Prop} {s : σ} {es : List ε} {ok : σ → ε → Prop}

/-- What every turn keeps, the loop keeps. -/
theorem foldEmit_induction {α β : Type*} {f : σ → α → σ × List β} {as : List α} (hs : P s)
    (hf : ∀ s, ∀ a ∈ as, P s → P (f s a).1) : P (foldEmit f s as).1 := by
  induction as generalizing s with
  | nil => exact hs
  | cons a as ih =>
    exact ih (hf s a mem_cons_self hs) fun s' a' ha' => hf s' a' (mem_cons_of_mem a ha')

theorem foldEmit_append {α β : Type*} (f : σ → α → σ × List β) (s : σ) (as as' : List α) :
    foldEmit f s (as ++ as') = ((foldEmit f (foldEmit f s as).1 as').1,
      (foldEmit f s as).2 ++ (foldEmit f (foldEmit f s as).1 as').2) := by
  induction as generalizing s with
  | nil => rfl
  | cons a as ih => simp only [cons_append, foldEmit, ih, append_assoc]

/-- What one event establishes and every event keeps holds after all of them. -/
theorem foldl_of_mem {e : ε} (hset : ∀ s, P (step s e)) (hkp : ∀ s e', P s → P (step s e'))
    (h : e ∈ es) (s : σ) : P (es.foldl step s) := by
  obtain ⟨pre, post, rfl⟩ := append_of_mem h
  rw [foldl_append, foldl_cons]
  exact List.foldlRecOn post step (hset _) fun s hs e' _ => hkp s e' hs

/-! ## Every state, every step -/

/-- `P` holds in every state of the run, the first and the last included. -/
def Always (step : σ → ε → σ) (P : σ → Prop) : σ → List ε → Prop
  | s, [] => P s
  | s, e :: es => P s ∧ Always step P (step s e) es

/-- Every step of the run is allowed in the state it is taken from. -/
def Guarded (step : σ → ε → σ) (ok : σ → ε → Prop) : σ → List ε → Prop
  | _, [] => True
  | s, e :: es => ok s e ∧ Guarded step ok (step s e) es

instance Always.decidable (P : σ → Prop) [DecidablePred P] :
    (s : σ) → (es : List ε) → Decidable (Always step P s es)
  | s, [] => inferInstanceAs (Decidable (P s))
  | s, e :: es =>
    have := Always.decidable P (step s e) es
    inferInstanceAs (Decidable (P s ∧ Always step P (step s e) es))

instance Guarded.decidable (ok : σ → ε → Prop) [∀ s e, Decidable (ok s e)] :
    (s : σ) → (es : List ε) → Decidable (Guarded step ok s es)
  | _, [] => .isTrue trivial
  | s, e :: es =>
    have := Guarded.decidable ok (step s e) es
    inferInstanceAs (Decidable (ok s e ∧ Guarded step ok (step s e) es))

theorem Always.first (h : Always step P s es) : P s := by
  cases es with
  | nil => exact h
  | cons e es => exact h.1

theorem Always.last (h : Always step P s es) : P (es.foldl step s) := by
  induction es generalizing s with
  | nil => exact h
  | cons e es ih => exact ih h.2

theorem Always.mono {P Q : σ → Prop} (hPQ : ∀ s, P s → Q s) (h : Always step P s es) :
    Always step Q s es := by
  induction es generalizing s with
  | nil => exact hPQ s h
  | cons e es ih => exact ⟨hPQ s h.1, ih h.2⟩

theorem Guarded.imp {ok ok' : σ → ε → Prop} (h : Guarded step ok s es)
    (himp : ∀ s, ∀ e ∈ es, ok s e → ok' s e) : Guarded step ok' s es := by
  induction es generalizing s with
  | nil => trivial
  | cons e es ih =>
    exact ⟨himp s e mem_cons_self h.1, ih h.2 fun s' e' he' => himp s' e' (mem_cons_of_mem e he')⟩

theorem Guarded.of_forall (hok : ∀ s e, ok s e) (s : σ) (es : List ε) : Guarded step ok s es := by
  induction es generalizing s with
  | nil => trivial
  | cons e es ih => exact ⟨hok s e, ih (step s e)⟩

/-- An invariant that allowed steps keep holds along every run of allowed steps. -/
theorem Always.of_guarded (hst : ∀ s e, P s → ok s e → P (step s e)) (hs : P s)
    (h : Guarded step ok s es) : Always step P s es := by
  induction es generalizing s with
  | nil => exact hs
  | cons e es ih => exact ⟨hs, ih (hst s e hs h.1) h.2⟩

/-- What an invariant of allowed steps says about each of them. -/
theorem Guarded.of_invariant {ok ok' : σ → ε → Prop} (hst : ∀ s e, P s → ok s e → P (step s e))
    (himp : ∀ s e, P s → ok s e → ok' s e) (hs : P s) (h : Guarded step ok s es) :
    Guarded step ok' s es := by
  induction es generalizing s with
  | nil => trivial
  | cons e es ih => exact ⟨himp s e hs h.1, ih (hst s e hs h.1) h.2⟩

/-- An invariant that every step keeps holds along every run. -/
theorem Always.of_step (hst : ∀ s e, P s → P (step s e)) (hs : P s) (es : List ε) :
    Always step P s es := by
  induction es generalizing s with
  | nil => exact hs
  | cons e es ih => exact ⟨hs, ih (hst s e hs)⟩

/-- **An invariant that survives a step exactly when the step is allowed survives a run exactly when
every step of it is.** -/
theorem always_iff_guarded (hst : ∀ s e, P s → (P (step s e) ↔ ok s e)) (hs : P s) :
    Always step P s es ↔ Guarded step ok s es := by
  refine ⟨?_, Always.of_guarded (fun s e hP hok => (hst s e hP).2 hok) hs⟩
  intro h
  induction es generalizing s with
  | nil => trivial
  | cons e es ih =>
    have hx : P (step s e) := h.2.first
    exact ⟨(hst s e hs).1 hx, ih hx h.2⟩

end CheetahDex.Lib
