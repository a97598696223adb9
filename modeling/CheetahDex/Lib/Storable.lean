import CheetahDex.Lib.Restart

/-!
# State machines that store their events

A machine is stored once, when it starts. Then it goes from state to state: to enter a state is to
store its event, and what a state sends to the world it sends before the next event is stored. After
a last state the machine is marked as finished. A restart takes the machine from the record and the
state from the event that was stored last.

`Rule.always` lifts what every state keeps, as it is run, to every run with crashes and restarts.
`recovers_always` says which crashes leave a record that a restart can do something with.
-/

namespace CheetahDex.Lib

open List Option

variable {σ κ ε ρ η φ : Type}

/-- What comes of running a state: what was sent, and the state that is next. There is none as long
as the state waits. -/
structure Turn (φ κ : Type) where
  sent : List φ
  next : Option κ

/-- What a state sends is in the given relation to the state that is next. -/
def Turn.Leads (R : List φ → κ → Prop) (turn : Turn φ κ) : Prop :=
  ∀ next, turn.next = some next → R turn.sent next

variable {R : List φ → κ → Prop}

variable {sent : List φ}

theorem Turn.leads_some {next : κ} (h : R sent next) : Turn.Leads R ⟨sent, some next⟩ := by
  intro next' hx
  cases hx
  exact h

theorem Turn.leads_none : Turn.Leads R ⟨sent, none⟩ := by
  intro next' hx
  cases hx

/-- What a machine writes to its storage. -/
inductive Write (ρ ε : Type) where
  | record (repr : ρ)
  | event (e : ε)
  | finished

namespace Write

def record? : Write ρ ε → Option ρ
  | record repr => some repr
  | _ => none

def event? : Write ρ ε → Option ε
  | event e => some e
  | _ => none

def isFinished : Write ρ ε → Bool
  | finished => true
  | _ => false

end Write

/-- The event that was stored last. -/
def lastEvent (j : List (Write ρ ε)) : Option ε := (j.filterMap Write.event?).getLast?

/-- Where a machine is. -/
inductive Phase (κ : Type) where
  /-- Nothing is stored yet. -/
  | starting
  /-- The record is stored, and the initial state runs. -/
  | initial
  | running (state : κ)
  deriving DecidableEq

/-- A machine that stores its events. -/
structure Storable (σ κ ε ρ η φ : Type) where
  initial : η → σ → Turn φ κ
  onChanged : η → σ → κ → Turn φ κ
  isLast : κ → Bool
  getEvent : κ → ε
  toRepr : σ → ρ
  recreate : ρ → σ
  restore : ε → Option κ
  /-- A state that is restored is the one whose event was stored. -/
  restore_getEvent : ∀ {state state'}, restore (getEvent state) = some state' → state' = state

namespace Storable

variable (m : Storable σ κ ε ρ η φ)

/-- What is done in a phase that runs a state. -/
def turn (env : η) (s : σ) : Phase κ → Turn φ κ
  | .starting => ⟨[], none⟩
  | .initial => m.initial env s
  | .running state => if m.isLast state then ⟨[], none⟩ else m.onChanged env s state

/-- Entering the next state, if there is one. -/
def enter : Option κ → Outcome (Write ρ ε) (Phase κ)
  | some next => .returned (some (.running next)) [.event (m.getEvent next)]
  | none => .waiting

def handle (env : η) (s : σ) (phase : Phase κ) : Outcome (Write ρ ε) (Phase κ) :=
  match phase with
  | .starting => .returned (some .initial) [.record (m.toRepr s)]
  | .initial => m.enter (m.turn env s phase).next
  | .running state =>
    if m.isLast state then .returned none [.finished] else m.enter (m.turn env s phase).next

/-- The machine and the state that the storage gives. -/
def resume (j : List (Write ρ ε)) : Option (σ × κ) := do
  let repr ← j.findSome? Write.record?
  let e ← lastEvent j
  let state ← m.restore e
  return (m.recreate repr, state)

/-- The machine as a process that crashes and is restarted. What is finished is left alone. -/
def durable : Durable σ (Write ρ ε) (Phase κ) η φ where
  process := ⟨m.handle, fun _ s _ => s⟩
  sends := fun env s phase => (m.turn env s phase).sent
  load := fun _ j =>
    if j.any Write.isFinished then none else (m.resume j).map fun r => (r.1, .running r.2)

variable {m} {env : η} {s : σ} {phase : Phase κ} {j : List (Write ρ ε)}

variable {events : List (Write ρ ε)} {reached : Bool}

/-- All that a phase can do. -/
inductive Handles (m : Storable σ κ ε ρ η φ) (env : η) (s : σ) :
    Phase κ → Outcome (Write ρ ε) (Phase κ) → Prop
  | record : Handles m env s .starting (.returned (some .initial) [.record (m.toRepr s)])
  | finish {state : κ} (hl : m.isLast state = true) :
      Handles m env s (.running state) (.returned none [.finished])
  | enter {phase : Phase κ} {next : κ} (hph : phase ≠ .starting)
      (hx : (m.turn env s phase).next = some next) :
      Handles m env s phase (.returned (some (.running next)) [.event (m.getEvent next)])
  | wait {phase : Phase κ} (hph : phase ≠ .starting)
      (hl : ∀ state, phase = .running state → m.isLast state = false)
      (hx : (m.turn env s phase).next = none) : Handles m env s phase .waiting

theorem handles_enter (hph : phase ≠ .starting)
    (hl : ∀ state, phase = .running state → m.isLast state = false) :
    m.Handles env s phase (m.enter (m.turn env s phase).next) := by
  cases hx : (m.turn env s phase).next with
  | none => exact .wait hph hl hx
  | some next => exact .enter hph hx

theorem handles_of {o : Outcome (Write ρ ε) (Phase κ)} (h : m.handle env s phase = o) :
    m.Handles env s phase o := by
  subst h
  cases phase with
  | starting => exact .record
  | initial => exact handles_enter (by simp) (by simp)
  | running state =>
    unfold handle
    dsimp only
    split
    · rename_i hl
      exact .finish hl
    · rename_i hl
      exact handles_enter (by simp) (by simpa using hl)

theorem lastEvent_append_event (e : ε) : lastEvent (j ++ [.event e]) = some e := by
  simp [lastEvent, Write.event?]

theorem lastEvent_append_finished : lastEvent (j ++ [.finished]) = lastEvent j := by
  simp [lastEvent, Write.event?]

theorem lastEvent_append_record (repr : ρ) : lastEvent (j ++ [.record repr]) = lastEvent j := by
  simp [lastEvent, Write.event?]

theorem load_eq_some {s : σ} {phase : Phase κ} (h : m.durable.load env j = some (s, phase)) :
    ∃ repr e state, lastEvent j = some e ∧ m.restore e = some state ∧ s = m.recreate repr ∧
      phase = .running state := by
  simp only [durable, resume] at h
  split at h
  · cases h
  · simp only [bind_eq_bind, map_eq_some_iff, bind_eq_some_iff,
      Option.pure_def, some.injEq, Prod.mk.injEq] at h
    obtain ⟨_, ⟨repr, -, e, he, state, hste, rfl⟩, rfl, rfl⟩ := h
    exact ⟨repr, e, state, he, hste, rfl, rfl⟩

/-! ## What every state keeps -/

/-- A property of what was sent and of the state that runs. Before the first state nothing is
sent. -/
def At (Inv : List φ → κ → Prop) (t : List φ) : Phase κ → Prop
  | .starting => t = []
  | .initial => t = []
  | .running state => Inv t state

/-- Every state keeps the property, also where a crash makes it run again. `A` is assumed about what
a phase finds and `L` about where a crash falls after something was sent. -/
structure Rule (m : Storable σ κ ε ρ η φ) (A L : η → List φ → σ → Phase κ → Prop) (Ok : σ → Prop)
    (Inv : List φ → κ → Prop) : Prop where
  recreate : ∀ repr, Ok (m.recreate repr)
  step : ∀ {env t s phase}, Ok s → At Inv t phase → A env t s phase →
    (m.turn env s phase).Leads fun sent next => Inv (t ++ sent) next
  lost : ∀ {env t s phase}, Ok s → At Inv t phase → A env t s phase → L env t s phase →
    (m.turn env s phase).Leads fun sent _ => At Inv (t ++ sent) phase

variable {A L : η → List φ → σ → Phase κ → Prop} {Ok : σ → Prop} {Inv : List φ → κ → Prop}

/-- The event that was stored last is that of the state that runs. -/
def Stored (m : Storable σ κ ε ρ η φ) (j : List (Write ρ ε)) : Phase κ → Prop
  | .running state => lastEvent j = some (m.getEvent state)
  | _ => lastEvent j = none

/-- Nothing was sent, or the property holds of the state whose event was stored last. -/
def Lasting (m : Storable σ κ ε ρ η φ) (Inv : List φ → κ → Prop) (j : List (Write ρ ε))
    (t : List φ) : Prop :=
  lastEvent j = none ∧ t = [] ∨ ∃ state, lastEvent j = some (m.getEvent state) ∧ Inv t state

theorem sends_starting : m.durable.sends env s .starting = [] := rfl

variable {state : κ} {t : List φ} {Inv' : List φ → κ → Prop}
  {node : Running σ (Write ρ ε) (Phase κ) φ} {moves : List (Move η)}

theorem sends_of_isLast (hl : m.isLast state = true) :
    m.durable.sends env s (.running state) = [] := by
  simp [durable, turn, hl]

theorem lasting_of_at (hat : At Inv t phase) (hsto : m.Stored j phase) : m.Lasting Inv j t := by
  cases phase with
  | starting | initial => exact .inl ⟨hsto, hat⟩
  | running state => exact .inr ⟨state, hsto, hat⟩

theorem At.mono (himp : ∀ t state, Inv t state → Inv' t state) (h : At Inv t phase) :
    At Inv' t phase := by
  cases phase with
  | starting => exact h
  | initial => exact h
  | running state => exact himp t state h

theorem Lasting.mono (himp : ∀ t state, Inv t state → Inv' t state) (h : m.Lasting Inv j t) :
    m.Lasting Inv' j t := by
  rcases h with hn | ⟨state, hl, hinv⟩
  · exact .inl hn
  · exact .inr ⟨state, hl, himp t state hinv⟩

/-- A rule for single states is an invariant of the whole run with crashes. -/
theorem Rule.invariant (h : m.Rule A L Ok Inv) :
    m.durable.Invariant A L (m.Lasting Inv)
      (fun j t s phase => Ok s ∧ At Inv t phase ∧ m.Stored j phase) where
  writes := by
    intro env s phase next events hret
    cases handles_of hret <;> exact cons_ne_nil _ _
  load := by
    intro env j t s phase hd hld
    obtain ⟨repr, e, state, he, hre, rfl, rfl⟩ := load_eq_some hld
    rcases hd with ⟨hn, -⟩ | ⟨stored, hso, hinv⟩
    · cases hn.symm.trans he
    · cases hso.symm.trans he
      obtain rfl := m.restore_getEvent hre
      exact ⟨h.recreate repr, hinv, hso⟩
  lost := by
    intro env j t s phase next events hd ⟨hok, hat, hsto⟩ hA hL hret
    cases handles_of hret with
    | record =>
      rw [sends_starting, append_nil]
      exact hd
    | finish hl =>
      rw [sends_of_isLast hl, append_nil]
      exact hd
    | enter hph hx => exact lasting_of_at (h.lost hok hat hA hL _ hx) hsto
  cut := by
    intro env j t s phase next events hd ⟨hok, hat, hsto⟩ hA hret written hpre hwr
    obtain rfl : written = events := by
      refine hpre.eq_of_length (Nat.le_antisymm hpre.length_le ?_)
      have hone : events.length = 1 := by cases handles_of hret <;> rfl
      rw [hone]
      exact length_pos_iff.mpr hwr
    cases handles_of hret with
    | record =>
      rw [sends_starting, append_nil]
      exact .inl ⟨(lastEvent_append_record _).trans hsto, hat⟩
    | finish hl =>
      rw [sends_of_isLast hl, append_nil]
      exact .inr ⟨_, lastEvent_append_finished.trans hsto, hat⟩
    | enter hph hx => exact .inr ⟨_, lastEvent_append_event _, h.step hok hat hA _ hx⟩
  next := by
    intro env j t s phase phase' events hd ⟨hok, hat, hsto⟩ hA hret
    cases handles_of hret with
    | record =>
      obtain rfl : t = [] := hat
      exact ⟨hok, rfl, (lastEvent_append_record _).trans hsto⟩
    | enter hph hx => exact ⟨hok, h.step hok hat hA _ hx, lastEvent_append_event _⟩

/-- The property holds of the state whose event was stored last, and of the one that runs. -/
def Holds (m : Storable σ κ ε ρ η φ) (Inv : List φ → κ → Prop)
    (node : Running σ (Write ρ ε) (Phase κ) φ) : Prop :=
  m.Lasting Inv node.journal node.sent ∧
    ∀ s phase, node.live = some (s, phase) → At Inv node.sent phase

theorem Holds.of_live (h : m.Holds Inv node) (hlv : node.live = some (s, .running state)) :
    Inv node.sent state :=
  h.2 s (.running state) hlv

theorem Holds.mono (himp : ∀ t state, Inv t state → Inv' t state) (h : m.Holds Inv node) :
    m.Holds Inv' node :=
  ⟨h.1.mono himp, fun s phase hlv => (h.2 s phase hlv).mono himp⟩

/-- **What every state keeps holds in every state of every run, however often the machine crashes
and is restarted.** -/
theorem Rule.always (h : m.Rule A L Ok Inv) {s : σ} (hs : Ok s)
    (hok : Guarded m.durable.step (Durable.Allowed A L) (.init s .starting) moves) :
    Always m.durable.step (m.Holds Inv) (.init s .starting) moves := by
  have hin : Durable.Holds (m.Lasting Inv)
      (fun j t s phase => Ok s ∧ At Inv t phase ∧ m.Stored j phase) (.init s .starting) :=
    Durable.holds_init (.inl ⟨rfl, rfl⟩) ⟨hs, rfl, rfl⟩
  refine (h.invariant.always hin hok).mono fun node hnd => ⟨hnd.1, fun s' phase hlv => ?_⟩
  obtain ⟨-, hat, -⟩ := hnd.2 s' phase hlv
  exact hat

/-- A run without crashes, in an environment that is as it is assumed to be for the machine. -/
theorem guarded_executes (hA : ∀ t phase, A env t s phase) (n : ℕ)
    (hnd : ∀ s' phase, node.live = some (s', phase) → s' = s) :
    Guarded m.durable.step (Durable.Allowed A L) node (List.replicate n (.execute env)) := by
  induction n generalizing node with
  | zero => exact trivial
  | succ n ih =>
    refine ⟨fun s' phase hlv => ?_, ih fun s' phase hlv => ?_⟩
    · rw [hnd s' phase hlv]
      exact hA _ _
    · simp only [Durable.step] at hlv
      split at hlv
      · exact hnd s' phase hlv
      · rename_i s'' phase'' hlv''
        split at hlv
        · rename_i next events hret
          obtain ⟨phase', -, hpr⟩ := map_eq_some_iff.mp hlv
          have hfl : events.foldl (fun s _ => s) s'' = s'' := by simp
          rw [← (Prod.mk.inj hpr).1]
          exact hfl.trans (hnd s'' phase'' hlv'')
        · exact hnd s' phase hlv
        · cases hlv

/-! ## What is sent once -/

/-- The machine is in a state that the given ones do not come back from. -/
def Past (before : κ → Prop) : Phase κ → Prop
  | .running state => ¬before state
  | _ => False

instance (before : κ → Prop) [DecidablePred before] :
    (phase : Phase κ) → Decidable (Past before phase)
  | .starting => .isFalse id
  | .initial => .isFalse id
  | .running state => inferInstanceAs (Decidable (¬before state))

/-- No crash falls between sending and storing as long as the machine is in one of the given
states. -/
def NotLostFrom (before : κ → Prop) : Running σ (Write ρ ε) (Phase κ) φ → Move η → Prop :=
  Durable.Allowed Durable.Anywhere fun _ _ _ phase => Past before phase

instance (before : κ → Prop) [DecidablePred before] (node : Running σ (Write ρ ε) (Phase κ) φ)
    (move : Move η) : Decidable (NotLostFrom before node move) :=
  Durable.Allowed.decidable _ _ node move

/-- One kind of thing that is sent by the given states, which are left for good once it is sent. -/
structure SentFrom (m : Storable σ κ ε ρ η φ) (kind : φ → Bool) (before : κ → Prop) : Prop where
  initial : ∀ env s, (m.initial env s).Leads fun sent next =>
    sent.countP kind ≤ 1 ∧ (before next → sent.countP kind = 0)
  step : ∀ env s state, before state → (m.onChanged env s state).Leads fun sent next =>
    sent.countP kind ≤ 1 ∧ (before next → sent.countP kind = 0)
  past : ∀ env s state, ¬before state → (m.onChanged env s state).Leads fun sent next =>
    sent.countP kind = 0 ∧ ¬before next

variable {kind : φ → Bool} {before : κ → Prop}

theorem turn_leads (h : (m.onChanged env s state).Leads R) :
    (m.turn env s (.running state)).Leads R := by
  simp only [turn]
  split
  · exact Turn.leads_none
  · exact h

/-- The rule from what the states do, where a crash may fall only past the given ones. -/
theorem Rule.of_states (hrc : ∀ repr, Ok (m.recreate repr))
    (hil : ∀ env s, Ok s → (m.initial env s).Leads Inv)
    (hst : ∀ env t s state, Ok s → Inv t state → A env t s (.running state) →
      (m.onChanged env s state).Leads fun sent next => Inv (t ++ sent) next)
    (hls : ∀ env t s state, Ok s → Inv t state → A env t s (.running state) → ¬before state →
      (m.onChanged env s state).Leads fun sent _ => Inv (t ++ sent) state) :
    m.Rule A (fun _ _ _ phase => Past before phase) Ok Inv where
  recreate := hrc
  step := by
    intro env t s phase hok hat hA
    cases phase with
    | starting => exact Turn.leads_none
    | initial =>
      obtain rfl : t = [] := hat
      exact hil env s hok
    | running state => exact turn_leads (hst env t s state hok hat hA)
  lost := by
    intro env t s phase hok hat hA hps
    cases phase with
    | starting | initial => exact hps.elim
    | running state => exact turn_leads (hls env t s state hok hat hA hps)

theorem SentFrom.rule (h : m.SentFrom kind before) :
    m.Rule Durable.Anywhere (fun _ _ _ phase => Past before phase) (fun _ => True)
      (fun t state => t.countP kind ≤ 1 ∧ (before state → t.countP kind = 0)) := by
  refine .of_states (fun _ => trivial) (fun env s _ => h.initial env s) ?_ ?_
  · intro env t s state _ ⟨hone, hn⟩ _ next hx
    rw [countP_append]
    by_cases hbef : before state
    · obtain ⟨hsn, hx⟩ := h.step env s state hbef next hx
      rw [hn hbef, Nat.zero_add]
      exact ⟨hsn, hx⟩
    · obtain ⟨hsn, hps⟩ := h.past env s state hbef next hx
      rw [hsn, Nat.add_zero]
      exact ⟨hone, fun h => absurd h hps⟩
  · intro env t s state _ ⟨hone, _⟩ _ hps next hx
    rw [countP_append, (h.past env s state hps next hx).1, Nat.add_zero]
    exact ⟨hone, fun hbef => absurd hbef hps⟩

/-- **A machine that crashes between sending and storing only where nothing of the kind is sent has
sent one at most.** -/
theorem SentFrom.once (h : m.SentFrom kind before) (s : σ)
    (hok : Guarded m.durable.step (NotLostFrom before) (.init s .starting) moves) :
    Always m.durable.step (fun node => node.sent.countP kind ≤ 1) (.init s .starting) moves := by
  refine (h.rule.always trivial hok).mono fun node hnd => ?_
  rcases hnd.1 with ⟨-, hnil⟩ | ⟨state, -, hone, -⟩
  · rw [hnil]
    exact Nat.zero_le 1
  · exact hone

/-! ## What a restart finds -/

/-- There is nothing to resume, or a restart goes on with the given machine in the state whose event
was stored last. -/
def Recovers (m : Storable σ κ ε ρ η φ) (s : σ) (j : List (Write ρ ε)) : Prop :=
  j = [] ∨ j.any Write.isFinished = true ∨
    ∃ state, lastEvent j = some (m.getEvent state) ∧ m.resume j = some (s, state)

/-- A state is restored from its event. -/
def Restorable (m : Storable σ κ ε ρ η φ) (state : κ) : Prop :=
  m.restore (m.getEvent state) = some state

/-- A crash that writes the first `saved` events of the phase leaves the storage so that a restart
finds its way. -/
def TimelyAt (m : Storable σ κ ε ρ η φ) (env : η) (s : σ) (saved : ℕ) : Phase κ → Prop
  | .starting => saved = 0
  | .initial => 0 < saved ∧ ∃ next, (m.initial env s).next = some next ∧ m.Restorable next
  | .running state =>
    if m.isLast state then m.Restorable state ∨ 0 < saved
    else ∀ next, (m.onChanged env s state).next = some next → 0 < saved → m.Restorable next

/-- No crash falls between the record and the first event, nor between the event of a state that
cannot be restored and the mark that the machine is finished. -/
def Timely (m : Storable σ κ ε ρ η φ) (node : Running σ (Write ρ ε) (Phase κ) φ) : Move η → Prop
  | .crash env _ saved => ∀ s phase, node.live = some (s, phase) → m.TimelyAt env s saved phase
  | _ => True

/-- A crash that stores nothing, in a state that is not a last one. -/
theorem timely_of_live (state : κ) (hph : node.live.map Prod.snd = some (.running state))
    (hl : m.isLast state = false) : m.Timely node (.crash env reached 0) := by
  intro s phase hlv
  rw [hlv] at hph
  obtain rfl : phase = .running state := some.inj hph
  simp [TimelyAt, hl]

section recovers

variable (m) (s₀ : σ)

/-- The record of the machine is stored and it is not finished. -/
def Open (j : List (Write ρ ε)) : Prop :=
  j.findSome? Write.record? = some (m.toRepr s₀) ∧ j.any Write.isFinished = false

/-- What a machine that runs has stored. -/
def Written (j : List (Write ρ ε)) (s : σ) : Phase κ → Prop
  | .starting => s = s₀ ∧ j = []
  | .initial => j = [.record (m.toRepr s₀)]
  | .running state => m.Open s₀ j ∧ lastEvent j = some (m.getEvent state)

/-- What a machine that does not run has stored. -/
def Left (j : List (Write ρ ε)) : Prop :=
  j = [] ∨ j.any Write.isFinished = true ∨
    ∃ state, m.Open s₀ j ∧ lastEvent j = some (m.getEvent state) ∧ m.Restorable state

/-- What is stored while the machine runs, and once it does not. -/
structure Kept (node : Running σ (Write ρ ε) (Phase κ) φ) : Prop where
  live : ∀ s phase, node.live = some (s, phase) → m.Written s₀ node.journal s phase
  down : node.live = none → m.Left s₀ node.journal

variable {m} {s₀}

theorem Left.recovers (h : m.Left s₀ j) : m.Recovers (m.recreate (m.toRepr s₀)) j := by
  rcases h with hj | hfin | ⟨state, hop, hl, hrs⟩
  · exact .inl hj
  · exact .inr (.inl hfin)
  · refine .inr (.inr ⟨state, hl, ?_⟩)
    have hre : m.restore (m.getEvent state) = some state := hrs
    simp [resume, hop.1, hl, hre]

theorem left_of_restorable (hwr : m.Written s₀ j s (.running state))
    (hrs : m.Restorable state) : m.Left s₀ j :=
  .inr (.inr ⟨state, hwr.1, hwr.2, hrs⟩)

theorem left_of_finished : m.Left s₀ (j ++ .finished :: events) := by
  refine .inr (.inl ?_)
  simp [Write.isFinished]

theorem Open.append_event (hop : m.Open s₀ j) (e : ε) : m.Open s₀ (j ++ [.event e]) := by
  refine ⟨?_, ?_⟩
  · rw [findSome?_append, hop.1]
    rfl
  · rw [any_append, hop.2]
    rfl

theorem open_record : m.Open s₀ [.record (m.toRepr s₀)] := ⟨rfl, rfl⟩

variable {state' : κ}

/-- Where the next event is written, and that of what. -/
theorem Written.append (hph : phase ≠ .starting) (hwr : m.Written s₀ j s phase) :
    m.Written s₀ (j ++ [.event (m.getEvent state')]) s (.running state') := by
  refine ⟨?_, lastEvent_append_event _⟩
  cases phase with
  | starting => exact absurd rfl hph
  | initial =>
    obtain rfl : j = [.record (m.toRepr s₀)] := hwr
    exact open_record.append_event _
  | running state => exact hwr.1.append_event _

variable {node : Running σ (Write ρ ε) (Phase κ) φ}

theorem kept_down (h : m.Left s₀ j) : m.Kept s₀ ⟨j, t, none⟩ :=
  ⟨fun _ _ hlv => absurd hlv.symm (some_ne_none _), fun _ => h⟩

theorem kept_live (h : m.Written s₀ j s phase) : m.Kept s₀ ⟨j, t, some (s, phase)⟩ := by
  refine ⟨fun s' phase' hlv => ?_, fun hn => absurd hn (some_ne_none _)⟩
  obtain ⟨rfl, rfl⟩ := Prod.mk.inj (some.inj hlv)
  exact h

theorem Kept.execute (h : m.Kept s₀ node) (env : η) :
    m.Kept s₀ (m.durable.step node (.execute env)) := by
  simp only [Durable.step]
  split
  · exact h
  · rename_i s phase hlv
    have hwr := h.live s phase hlv
    split
    · rename_i next events hret
      cases handles_of hret with
      | record =>
        obtain ⟨rfl, hj⟩ : s = s₀ ∧ node.journal = [] := hwr
        rw [hj]
        exact kept_live rfl
      | finish hl => exact kept_down left_of_finished
      | enter hph hx => exact kept_live (hwr.append hph)
    · exact h
    · rename_i hpn
      cases handles_of hpn

theorem isLast_of_next {state state' : κ}
    (hx : (m.turn env s (.running state)).next = some state') : m.isLast state = false := by
  cases hl : m.isLast state with
  | false => rfl
  | true => simp [turn, hl] at hx

/-- A crash that comes in time leaves a record that the machine can go on from. -/
theorem Kept.crash (hr : ∀ state, m.isLast state = false → m.Restorable state)
    (h : m.Kept s₀ node) {saved : ℕ} (hti : m.Timely node (.crash env reached saved)) :
    m.Kept s₀ (m.durable.step node (.crash env reached saved)) := by
  simp only [Durable.step]
  split
  · exact h
  · rename_i s phase hlv
    have hwr := h.live s phase hlv
    have htm := hti s phase hlv
    split
    · rename_i next events hret
      refine kept_down ?_
      cases handles_of hret with
      | record =>
        obtain rfl : saved = 0 := htm
        exact .inl ((append_nil _).trans hwr.2)
      | finish hl =>
        -- the mark is written, or the state is restored
        cases saved with
        | zero =>
          simp only [TimelyAt, hl, if_true, Nat.lt_irrefl, or_false] at htm
          rw [take_zero, append_nil]
          exact left_of_restorable hwr htm
        | succ saved =>
          rw [take_succ_cons]
          exact left_of_finished
      -- the new state is restorable if its event was saved, the old one if not
      | @enter _ state' hph hx =>
        have hap : m.Written s₀ _ s (.running state') := hwr.append hph
        cases phase with
        | starting => exact absurd rfl hph
        | initial =>
          obtain ⟨hsav, next, hnx', hrs⟩ := htm
          obtain ⟨saved, rfl⟩ := Nat.exists_eq_succ_of_ne_zero (Nat.pos_iff_ne_zero.mp hsav)
          obtain rfl : next = state' := some.inj (hnx'.symm.trans hx)
          rw [take_succ_cons, take_nil]
          exact left_of_restorable hap hrs
        | running state =>
          have hl := isLast_of_next hx
          simp only [TimelyAt, turn, hl, Bool.false_eq_true, if_false] at htm hx
          cases saved with
          | zero =>
            rw [take_zero, append_nil]
            exact left_of_restorable hwr (hr state hl)
          | succ saved =>
            rw [take_succ_cons, take_nil]
            exact left_of_restorable hap (htm state' hx (Nat.succ_pos saved))
    · rename_i hwt
      refine kept_down ?_
      cases handles_of hwt with
      -- nothing was to be saved
      | wait hph hl hn =>
        cases phase with
        | starting => exact absurd rfl hph
        | initial =>
          obtain ⟨-, next, hx, -⟩ := htm
          cases hn.symm.trans hx
        | running state => exact left_of_restorable hwr (hr state (hl state rfl))
    · rename_i hpn
      cases handles_of hpn

theorem Kept.restart (h : m.Kept s₀ node) (env : η) :
    m.Kept s₀ (m.durable.step node (.restart env)) := by
  simp only [Durable.step]
  split
  · rename_i hlv
    have hlf := h.down hlv
    cases hld : m.durable.load env node.journal with
    | none => exact kept_down hlf
    | some loaded =>
      obtain ⟨repr, e, state, he, hre, hs, hph⟩ := load_eq_some hld
      rcases hlf with hj | hfin | ⟨stored, hop, hl, -⟩
      · rw [hj] at he
        cases he
      · have hn : m.durable.load env node.journal = none := if_pos hfin
        cases hn.symm.trans hld
      · obtain rfl : e = m.getEvent stored := some.inj (he.symm.trans hl)
        obtain rfl := m.restore_getEvent hre
        obtain ⟨s, phase⟩ := loaded
        obtain rfl : phase = .running state := hph
        exact kept_live ⟨hop, hl⟩
  · exact h

/-- **Where no crash falls into one of the two windows, a machine that does not run has stored
nothing, is marked as finished, or is resumed in the state whose event was stored last.** -/
theorem recovers_always (hr : ∀ state, m.isLast state = false → m.Restorable state) (s₀ : σ)
    (hok : Guarded m.durable.step m.Timely (.init s₀ .starting) moves) :
    Always m.durable.step
      (fun node => node.live = none → m.Recovers (m.recreate (m.toRepr s₀)) node.journal)
      (.init s₀ .starting) moves := by
  have hin : m.Kept s₀ (Running.init s₀ .starting : Running σ (Write ρ ε) (Phase κ) φ) :=
    kept_live ⟨rfl, rfl⟩
  refine (Always.of_guarded (fun node move hnd hmv => ?_) hin hok).mono
    fun node hnd hlv => (hnd.down hlv).recovers
  cases move with
  | execute env => exact hnd.execute env
  | crash env reached saved => exact hnd.crash hr hmv
  | restart env => exact hnd.restart env

end recovers

end Storable

end CheetahDex.Lib
