import CheetahDex.Lib.Journal
import CheetahDex.Lib.Run

/-!
# Processes that crash and are restarted

A process with a journal that is interrupted at any point and loaded again. What a command sends to
the world is not undone by a crash, and it may have been sent although nothing was written: between
the two lies the window that a restart has to cope with. `Running` keeps the list of all that was
ever sent.

An invariant of such a process has two parts: one about what is durable, which must survive a crash
at every point, and one about the process in memory, which every load establishes anew.
`Invariant.always` is the rule.
-/

namespace CheetahDex.Lib

open List

variable {σ ε κ η φ : Type}

/-- The command that is next after a journal, by a table of its last event. -/
def commandAt (start : κ) (table : ε → Option κ) (journal : List ε) : Option κ :=
  match journal.getLast? with
  | none => some start
  | some e => table e

variable (start : κ) (table : ε → Option κ)

theorem commandAt_append (journal : List ε) {written : List ε} (hwr : written ≠ []) :
    ∃ e ∈ written, commandAt start table (journal ++ written) = table e := by
  refine ⟨written.getLast hwr, getLast_mem hwr, ?_⟩
  rw [commandAt, getLast?_append_of_ne_nil _ hwr, getLast?_eq_some_getLast hwr]

theorem commandAt_cons (e : ε) (es : List ε) :
    commandAt start table (e :: es) = (e :: es).getLast?.bind table := by
  rw [commandAt, getLast?_cons]
  rfl

/-- The table sees the first event only if there is no other. -/
theorem commandAt_cons_congr {table : ε → Option κ} {e e' : ε} (h : table e = table e')
    (es : List ε) : commandAt start table (e :: es) = commandAt start table (e' :: es) := by
  rw [commandAt_cons, commandAt_cons, getLast?_cons, getLast?_cons]
  cases es.getLast? with
  | none => exact h
  | some last => rfl

theorem commandAt_concat (es : List ε) (e : ε) : commandAt start table (es ++ [e]) = table e := by
  rw [commandAt, getLast?_concat]

/-- What follows an event starts with the command after it. -/
theorem commandAt_cons_eq {start' : κ} {e : ε} (h : table e = some start') (es : List ε) :
    commandAt start table (e :: es) = commandAt start' table es := by
  rw [commandAt_cons, getLast?_cons, commandAt]
  cases es.getLast? with
  | none => exact h
  | some last => rfl

/-- A process, what each command sends if it comes so far, and how a restart loads the journal. -/
structure Durable (σ ε κ η φ : Type) where
  process : Process σ ε κ η
  sends : η → σ → κ → List φ
  load : η → List ε → Option (σ × κ)

/-- The journal, what was sent, and the process in memory with the command that is next. -/
structure Running (σ ε κ φ : Type) where
  journal : List ε
  sent : List φ
  live : Option (σ × κ)

/-- A process that has done nothing yet. -/
def Running.init (s : σ) (c : κ) : Running σ ε κ φ := ⟨[], [], some (s, c)⟩

/-- What happens to a process. -/
inductive Move (η : Type) where
  /-- The next command is executed and its events are written. -/
  | execute (env : η)
  /-- The process crashes in the next command: before or after it has sent what it sends, or with
  the first `saved` of its events written. -/
  | crash (env : η) (reached : Bool) (saved : Nat)
  | restart (env : η)

namespace Durable

variable (p : Durable σ ε κ η φ) (node : Running σ ε κ φ)

def step : Move η → Running σ ε κ φ
  | .execute env =>
    match node.live with
    | none => node
    | some (s, c) =>
      match p.process.handle env s c with
      | .returned next events =>
        { journal := node.journal ++ events
          sent := node.sent ++ p.sends env s c
          live := next.map fun c' => (events.foldl (p.process.apply env) s, c') }
      | .waiting => node
      | .panicked => { node with live := none }
  | .crash env reached saved =>
    match node.live with
    | none => node
    | some (s, c) =>
      match p.process.handle env s c with
      | .returned _ events =>
        { journal := node.journal ++ events.take saved
          -- an event can be saved only after its command is through
          sent := if reached || 0 < saved then node.sent ++ p.sends env s c else node.sent
          live := none }
      | .waiting => { node with live := none }
      | .panicked => { node with live := none }
  | .restart env =>
    match node.live with
    | none => { node with live := p.load env node.journal }
    | some _ => node

/-- The commands find an environment as it is assumed, and a crash loses the events of a command
that has sent something only where that is allowed. -/
def Allowed (A L : η → List φ → σ → κ → Prop) (node : Running σ ε κ φ) : Move η → Prop
  | .execute env => ∀ s c, node.live = some (s, c) → A env node.sent s c
  | .crash env reached saved => ∀ s c, node.live = some (s, c) →
    A env node.sent s c ∧ (reached = true → saved = 0 → L env node.sent s c)
  | .restart _ => True

/-- A crash may fall anywhere. -/
def Anywhere (_ : η) (_ : List φ) (_ : σ) (_ : κ) : Prop := True

instance (env : η) (t : List φ) (s : σ) (c : κ) : Decidable (Anywhere env t s c) := .isTrue trivial

theorem allowed_anywhere (move : Move η) :
    Allowed Anywhere Anywhere node move := by
  cases move with
  | execute env => exact fun _ _ _ => trivial
  | crash env reached saved => exact fun _ _ _ => ⟨trivial, fun _ _ => trivial⟩
  | restart env => exact trivial

instance decidableLive (o : Option (σ × κ)) (P : σ → κ → Prop) [∀ s c, Decidable (P s c)] :
    Decidable (∀ s c, o = some (s, c) → P s c) :=
  match o with
  | none => .isTrue (by simp)
  | some (s, c) => decidable_of_iff (P s c) (by simp)

variable (A L : η → List φ → σ → κ → Prop)

instance Allowed.decidable [∀ env t s c, Decidable (A env t s c)]
    [∀ env t s c, Decidable (L env t s c)] (node : Running σ ε κ φ) :
    (move : Move η) → Decidable (Allowed A L node move)
  | .execute env => inferInstanceAs (Decidable (∀ s c, node.live = some (s, c) →
      A env node.sent s c))
  | .crash env reached saved => inferInstanceAs (Decidable (∀ s c, node.live = some (s, c) →
      A env node.sent s c ∧ (reached = true → saved = 0 → L env node.sent s c)))
  | .restart _ => .isTrue trivial

/-- An invariant: `D` of what is durable, `I` of the process in memory. -/
structure Invariant (D : List ε → List φ → Prop)
    (I : List ε → List φ → σ → κ → Prop) : Prop where
  /-- A command that returns has something to write. -/
  writes : ∀ {env s c next events}, p.process.handle env s c = .returned next events → events ≠ []
  /-- A restart loads a process as it should be. -/
  load : ∀ {env j t s c}, D j t → p.load env j = some (s, c) → I j t s c
  /-- Nothing is written of what was sent. -/
  lost : ∀ {env j t s c next events}, D j t → I j t s c → A env t s c → L env t s c →
    p.process.handle env s c = .returned next events → D j (t ++ p.sends env s c)
  /-- Some of the events are written. -/
  cut : ∀ {env j t s c next events}, D j t → I j t s c → A env t s c →
    p.process.handle env s c = .returned next events →
    ∀ written, written <+: events → written ≠ [] → D (j ++ written) (t ++ p.sends env s c)
  next : ∀ {env j t s c c' events}, D j t → I j t s c → A env t s c →
    p.process.handle env s c = .returned (some c') events →
    I (j ++ events) (t ++ p.sends env s c) (events.foldl (p.process.apply env) s) c'

variable {p} {A L : η → List φ → σ → κ → Prop} {D : List ε → List φ → Prop}
  {I : List ε → List φ → σ → κ → Prop}

/-- Both parts of an invariant. -/
def Holds (D : List ε → List φ → Prop) (I : List ε → List φ → σ → κ → Prop)
    (node : Running σ ε κ φ) : Prop :=
  D node.journal node.sent ∧ ∀ s c, node.live = some (s, c) → I node.journal node.sent s c

theorem holds_init {s : σ} {c : κ} (hd : D [] []) (hi : I [] [] s c) : Holds D I (.init s c) := by
  refine ⟨hd, fun s' c' hlv => ?_⟩
  obtain ⟨rfl, rfl⟩ := Prod.mk.inj (Option.some.inj hlv)
  exact hi

variable {env : η} {node : Running σ ε κ φ}

section

variable (h : p.Invariant A L D I)

include h

theorem Invariant.execute (hnd : Holds D I node)
    (hok : Allowed A L node (.execute env)) : Holds D I (p.step node (.execute env)) := by
  obtain ⟨hd, hi⟩ := hnd
  simp only [step]
  split
  · exact ⟨hd, hi⟩
  · rename_i s c hlv
    have hI := hi s c hlv
    have hA := hok s c hlv
    split
    · rename_i next events hret
      refine ⟨h.cut hd hI hA hret events (prefix_refl _) (h.writes hret), ?_⟩
      intro s' c' hx
      obtain ⟨c'', rfl, hpr⟩ := Option.map_eq_some_iff.1 hx
      obtain ⟨rfl, rfl⟩ := Prod.mk.inj hpr
      exact h.next hd hI hA hret
    · exact ⟨hd, hi⟩
    · exact ⟨hd, by simp⟩

/-- A crash saves some of the events and may have sent or not. -/
theorem Invariant.crash {reached : Bool} {saved : Nat}
    (hnd : Holds D I node) (hok : Allowed A L node (.crash env reached saved)) :
    Holds D I (p.step node (.crash env reached saved)) := by
  obtain ⟨hd, hi⟩ := hnd
  simp only [step]
  split
  · exact ⟨hd, hi⟩
  · rename_i s c hlv
    have hI := hi s c hlv
    obtain ⟨hA, hL⟩ := hok s c hlv
    split
    · rename_i next events hret
      refine ⟨?_, by simp⟩
      rcases Nat.eq_zero_or_pos saved with rfl | hpos
      · cases reached with
        | false => simpa using hd
        | true => simpa using h.lost hd hI hA (hL rfl rfl) hret
      · have hwr : events.take saved ≠ [] := by
          rw [Ne, take_eq_nil_iff, not_or]
          exact ⟨Nat.pos_iff_ne_zero.1 hpos, h.writes hret⟩
        have hpa : events.take saved <+: events := take_prefix saved events
        simpa [hpos] using h.cut hd hI hA hret _ hpa hwr
    · exact ⟨hd, by simp⟩
    · exact ⟨hd, by simp⟩

theorem Invariant.restart (hnd : Holds D I node) : Holds D I (p.step node (.restart env)) := by
  obtain ⟨hd, hi⟩ := hnd
  simp only [step]
  split
  · exact ⟨hd, fun s c hld => h.load hd hld⟩
  · exact ⟨hd, hi⟩

/-- **An invariant holds in every state of every run, however often the process crashes.** -/
theorem Invariant.always {moves : List (Move η)} (hnd : Holds D I node)
    (hok : Guarded p.step (Allowed A L) node moves) : Always p.step (Holds D I) node moves := by
  refine Always.of_guarded (fun node move hnd hok => ?_) hnd hok
  cases move with
  | execute env => exact h.execute hnd hok
  | crash env reached saved => exact h.crash hnd hok
  | restart env => exact h.restart hnd

end

end Durable

/-! ## Restarts that replay -/

/-- A restart applies the events of the journal to a state like the first one, and goes on as a
table says. `Goes` relates what the table says to what a command goes on with live. -/
structure Replaying (p : Durable σ ε κ η φ) (start : κ) (table : ε → Option κ) where
  fresh : σ
  replay : σ → ε → σ
  Same : σ → σ → Prop
  /-- What no event changes. -/
  Inv : σ → Prop
  /-- What is known about the events that are written. -/
  Good : ε → Prop
  Goes : Option κ → Option κ → Prop
  goes_refl : ∀ c, Goes c c
  same_apply : ∀ {env s s'} e, Same s s' → Same (p.process.apply env s e) (replay s' e)
  inv_apply : ∀ env s e, Inv s → Inv (p.process.apply env s e)
  load : ∀ {env j s c}, p.load env j = some (s, c) → (∀ e ∈ j, Good e) →
    commandAt start table j = some c ∧
      ∃ s₀, Same s₀ fresh ∧ Inv s₀ ∧ s = j.foldl (p.process.apply env) s₀
  writes : ∀ {env s c next events}, p.process.handle env s c = .returned next events → events ≠ []
  good : ∀ {env s c next events}, p.process.handle env s c = .returned next events → Inv s →
    ∀ e ∈ events, Good e
  goes : ∀ {env s c next events}, p.process.handle env s c = .returned next events →
    ∀ e ∈ events, Goes (table e) next

namespace Replaying

variable {p : Durable σ ε κ η φ} {start : κ} {table : ε → Option κ} (r : Replaying p start table)

/-- The process in memory is the one that the journal describes. -/
structure Resumed (j : List ε) (t : List φ) (s : σ) (c : κ) : Prop where
  command : r.Goes (commandAt start table j) (some c)
  same : r.Same s (j.foldl r.replay r.fresh)
  inv : r.Inv s

theorem commandAt_of_returned (j : List ε) {env : η} {s : σ} {c : κ} {next : Option κ}
    {events written : List ε} (hret : p.process.handle env s c = .returned next events)
    (hpre : written <+: events) (hwr : written ≠ []) :
    r.Goes (commandAt start table (j ++ written)) next := by
  obtain ⟨e, he, hcmd⟩ := commandAt_append start table j hwr
  rw [hcmd]
  exact r.goes hret e (hpre.subset he)

theorem same_foldl {env : η} {s s' : σ} (h : r.Same s s') (events : List ε) :
    r.Same (events.foldl (p.process.apply env) s) (events.foldl r.replay s') :=
  foldl_rel h fun e _ _ _ hsa => r.same_apply e hsa

/-- **However often the process crashes, the one in memory is the one that the journal
describes.** -/
theorem invariant (A L : η → List φ → σ → κ → Prop) :
    p.Invariant A L (fun j _ => ∀ e ∈ j, r.Good e) r.Resumed where
  writes := r.writes
  load := by
    intro env j t s c hgd hld
    obtain ⟨hcmd, s₀, hsa, hinv, rfl⟩ := r.load hld hgd
    exact ⟨hcmd ▸ r.goes_refl _, r.same_foldl hsa j, Process.inv_foldl r.inv_apply env hinv j⟩
  lost := fun hgd _ _ _ _ => hgd
  cut := by
    intro env j t s c next events hgd hi _ hret written hpre _
    exact forall_mem_append.2 ⟨hgd, fun e he => r.good hret hi.inv e (hpre.subset he)⟩
  next := by
    intro env j t s c c' events _ hi _ hret
    refine ⟨r.commandAt_of_returned j hret (prefix_refl _) (r.writes hret), ?_,
      Process.inv_foldl r.inv_apply env hi.inv events⟩
    rw [foldl_append]
    exact r.same_foldl hi.same events

end Replaying

end CheetahDex.Lib
