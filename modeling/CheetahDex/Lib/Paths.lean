import CheetahDex.Lib.Restart

/-!
# The order of a journal

The order in which a process writes its events is described by phases: each event leads from one
phase to the next. A process follows the phases if every command, executed in a phase it belongs to,
writes events that lead on to a phase the next command belongs to. However often such a process
crashes and is restarted, its journal is a path (`Phases.path_of_run`).
-/

namespace CheetahDex.Lib

variable {σ ε κ η φ π : Type}

/-- The events lead from one phase to another. -/
inductive Path (leads : π → ε → π → Prop) : π → List ε → π → Prop where
  | nil (p : π) : Path leads p [] p
  | cons {p q r : π} {e : ε} {es : List ε} (head : leads p e q) (tail : Path leads q es r) :
    Path leads p (e :: es) r

section paths

variable {leads : π → ε → π → Prop} {p q r : π} {es es' : List ε}

theorem Path.append (h : Path leads p es q) (h' : Path leads q es' r) :
    Path leads p (es ++ es') r := by
  induction h with
  | nil p => exact h'
  | cons head _ ih => exact .cons head (ih h')

theorem Path.of_append (h : Path leads p (es ++ es') r) :
    ∃ q, Path leads p es q ∧ Path leads q es' r := by
  induction es generalizing p with
  | nil => exact ⟨p, .nil p, h⟩
  | cons e es ih =>
    cases h with
    | cons head tail =>
      obtain ⟨q, hes, hes'⟩ := ih tail
      exact ⟨q, .cons head hes, hes'⟩

/-- Where every milestone is passed in its turn, a path passes them in order and each once. -/
theorem Path.milestones {level : ε → ℕ} {A : π → ℕ → Prop}
    (htr : ∀ {p e q n}, leads p e q → A p n → level e = 0 ∧ A q n ∨ level e = n + 1 ∧ A q (n + 1))
    (h : Path leads p es r) {n : ℕ} (hn : A p n) :
    ∃ m, (es.map level).filter (0 < ·) = .range' (n + 1) m := by
  induction h generalizing n with
  | nil p => exact ⟨0, rfl⟩
  | cons head _ ih =>
    obtain ⟨hlv, hq⟩ | ⟨hlv, hq⟩ := htr head hn <;> obtain ⟨m, hes⟩ := ih hq
    · exact ⟨m, by simpa [hlv] using hes⟩
    · exact ⟨m + 1, by simpa [hlv, List.range'_succ] using hes⟩

/-- If the table of a restart agrees with the phases, it finds the command of the phase. -/
theorem Path.commandAt_eq {table : ε → Option κ} {command : π → Option κ} {start : κ}
    (htb : ∀ {p e q}, leads p e q → table e = command q) (hsta : command p = some start)
    (h : Path leads p es r) : commandAt start table es = command r := by
  rcases List.eq_nil_or_concat es with rfl | ⟨init, last, rfl⟩
  · cases h
    exact hsta.symm
  · rw [List.concat_eq_append] at h ⊢
    obtain ⟨q, -, hl⟩ := h.of_append
    cases hl with
    | cons head tail =>
      cases tail
      rw [commandAt, List.getLast?_concat]
      exact htb head

end paths

/-! ## Commands that follow the phases -/

/-- A command that returns has written events that lead on to a phase of the next command. -/
def Outcome.Follows (leads : π → ε → π → Prop) (Runs : π → Option κ → Prop) (p : π) :
    Outcome ε κ → Prop
  | .returned next events => ∃ q, Path leads p events q ∧ Runs q next
  | .waiting => True
  | .panicked => True

section follows

variable {leads : π → ε → π → Prop} {Runs : π → Option κ → Prop} {p q r : π} {e e' : ε}
  {next : Option κ}

theorem Outcome.follows_one (h : leads p e q) (hrn : Runs q next) :
    (Outcome.returned next [e]).Follows leads Runs p :=
  ⟨q, .cons h (.nil q), hrn⟩

theorem Outcome.follows_two (h : leads p e q) (h' : leads q e' r) (hrn : Runs r next) :
    (Outcome.returned next [e, e']).Follows leads Runs p :=
  ⟨r, .cons h (.cons h' (.nil r)), hrn⟩

end follows

/-! ## Every journal is a path -/

/-- A process that follows the phases, also after a restart. -/
structure Durable.Phases (p : Durable σ ε κ η φ) (leads : π → ε → π → Prop)
    (Runs : π → Option κ → Prop) (first : π) : Prop where
  handle : ∀ env s {c q}, Runs q (some c) → (p.process.handle env s c).Follows leads Runs q
  writes : ∀ {env s c next events}, p.process.handle env s c = .returned next events → events ≠ []
  load : ∀ {env j s c q}, Path leads first j q → p.load env j = some (s, c) → Runs q (some c)

section phases

variable {d : Durable σ ε κ η φ} {leads : π → ε → π → Prop} {Runs : π → Option κ → Prop} {first : π}

theorem Durable.Phases.invariant (h : d.Phases leads Runs first) :
    d.Invariant Durable.Anywhere Durable.Anywhere (fun j _ => ∃ q, Path leads first j q)
      (fun j _ _ c => ∃ q, Path leads first j q ∧ Runs q (some c)) where
  writes := h.writes
  load := fun ⟨q, hq⟩ hld => ⟨q, hq, h.load hq hld⟩
  lost := fun hd _ _ _ _ => hd
  cut := by
    intro env j t s c next events _ hli _ hret written hpre _
    obtain ⟨q, hq, hrn⟩ := hli
    have hfl := h.handle env s hrn
    rw [hret] at hfl
    obtain ⟨r, hr, -⟩ := hfl
    obtain ⟨rest, rfl⟩ := hpre
    obtain ⟨r', hwr, -⟩ := hr.of_append
    exact ⟨r', hq.append hwr⟩
  next := by
    intro env j t s c c' events _ hli _ hret
    obtain ⟨q, hq, hrn⟩ := hli
    have hfl := h.handle env s hrn
    rw [hret] at hfl
    obtain ⟨r, hr, hx⟩ := hfl
    exact ⟨r, hq.append hr, hx⟩

/-- **Every journal is a path, however often the process crashes.** -/
theorem Durable.Phases.path_of_run (h : d.Phases leads Runs first) (s : σ) {c : κ}
    (hfst : Runs first (some c)) (moves : List (Move η)) :
    ∃ q, Path leads first (moves.foldl d.step (.init s c)).journal q := by
  have hok : Guarded d.step (Durable.Allowed Durable.Anywhere Durable.Anywhere) (.init s c) moves :=
    Guarded.of_forall Durable.allowed_anywhere _ _
  have hin : Path leads first [] first := .nil first
  exact (h.invariant.always (Durable.holds_init ⟨first, hin⟩ ⟨first, hin, hfst⟩) hok).last.1

end phases

end CheetahDex.Lib
