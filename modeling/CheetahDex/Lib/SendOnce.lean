import CheetahDex.Lib.Restart

/-!
# What a process that crashes sends at most once

One kind of thing that a process with a journal sends, by one of its commands. A crash after it was
sent and before that is written makes the next run send it again. There are two rules for sending at
most once: no crash falls into that window (`Sending.once_of_not_lost`), or the command looks first
whether it did (`Guard.once`). With a guard, a process that sent something does not come to its end
before it has dealt with it, if its last steps are as `Settling` has them (`Settling.invariant`).

The process is one whose restarts replay the journal.
-/

namespace CheetahDex.Lib

open List

variable {σ ε κ η φ α : Type} {p : Durable σ ε κ η φ} {start : κ} {table : ε → Option κ}

/-- One kind of thing that is sent, and where in the order of the commands it is. -/
structure Sending (r : Replaying p start table) (α : Type) where
  /-- The things of the kind, among all that is sent. -/
  pick : φ → Option α
  send : κ
  before : κ → Prop
  send_not_before : ¬ before send
  sends_of_ne : ∀ {env s c}, c ≠ send → (p.sends env s c).filterMap pick = []
  sends_length : ∀ env s, ((p.sends env s send).filterMap pick).length ≤ 1
  eq_of_goes : ∀ {saved c}, r.Goes saved (some c) → before c ∨ c = send → saved = some c
  /-- The commands before the one that sends, and that one, are reached only from those before. -/
  before_of_next : ∀ {env s c next events e c'}, p.process.handle env s c = .returned next events →
    e ∈ events → table e = some c' → before c' ∨ c' = send → before c

namespace Sending

variable {r : Replaying p start table} {A L : η → List φ → σ → κ → Prop} (w : Sending r α)

/-- The things of the kind that were sent. -/
def sent (t : List φ) : List α := t.filterMap w.pick

theorem sent_append (t t' : List φ) : w.sent (t ++ t') = w.sent t ++ w.sent t' := filterMap_append

theorem sent_append_of_ne {c : κ} (hc : c ≠ w.send) (env : η) (s : σ) (t : List φ) :
    w.sent (t ++ p.sends env s c) = w.sent t := by
  have hn : w.sent (p.sends env s c) = [] := w.sends_of_ne hc
  rw [w.sent_append, hn, append_nil]

theorem ne_of_before {c : κ} (hc : w.before c) : c ≠ w.send := by
  rintro rfl
  exact w.send_not_before hc

variable {env : η} {j events written : List ε} {t : List φ} {s : σ} {c c' : κ} {next : Option κ}

theorem commandAt_of_live (hi : r.Resumed j t s c) (hor : w.before c ∨ c = w.send) :
    commandAt start table j = some c := w.eq_of_goes hi.command hor

theorem before_of_commandAt (hret : p.process.handle env s c = .returned next events)
    (hpre : written <+: events) (hwr : written ≠ [])
    (hc' : commandAt start table (j ++ written) = some c') (hor : w.before c' ∨ c' = w.send) :
    w.before c := by
  obtain ⟨e, he, hcmd⟩ := commandAt_append start table j hwr
  exact w.before_of_next hret (hpre.subset he) (hcmd.symm.trans hc') hor

/-- Nothing is sent as long as the command that sends has not returned. -/
structure Unsent (j : List ε) (t : List φ) : Prop where
  unsent : ∀ {c}, commandAt start table j = some c → w.before c ∨ c = w.send → w.sent t = []
  once : (w.sent t).length ≤ 1

/-- **Where no crash falls between the sending and the writing, nothing is sent twice.** -/
theorem once_of_not_lost (hL : ∀ {env t s c}, L env t s c → c ≠ w.send) :
    p.Invariant A L (fun j t => (∀ e ∈ j, r.Good e) ∧ w.Unsent j t) r.Resumed where
  writes := r.writes
  load := fun hd hld => (r.invariant A L).load hd.1 hld
  lost := by
    intro env j t s c next events hd _ _ hls _
    have hsn := w.sent_append_of_ne (hL hls) env s t
    exact ⟨hd.1, fun hc hor => hsn.trans (hd.2.unsent hc hor), hsn ▸ hd.2.once⟩
  cut := by
    intro env j t s c next events hd hi hA hret written hpre hwr
    refine ⟨(r.invariant A L).cut hd.1 hi hA hret written hpre hwr, ?_, ?_⟩
    · intro c' hc' hor
      have hbef := w.before_of_commandAt hret hpre hwr hc' hor
      rw [w.sent_append_of_ne (w.ne_of_before hbef)]
      exact hd.2.unsent (w.commandAt_of_live hi (.inl hbef)) (.inl hbef)
    · by_cases hc : c = w.send
      · subst hc
        have hn := hd.2.unsent (w.commandAt_of_live hi (.inr rfl)) (.inr rfl)
        rw [w.sent_append, hn, nil_append]
        exact w.sends_length env s
      · rw [w.sent_append_of_ne hc]
        exact hd.2.once
  next := fun hd hi hA hret => (r.invariant A L).next hd.1 hi hA hret

variable {moves : List (Move η)}

theorem once_always (hL : ∀ {env t s c}, L env t s c → c ≠ w.send) (hi : r.Resumed [] [] s c)
    (h : Guarded p.step (Durable.Allowed A L) (.init s c) moves) :
    Always p.step (fun node => (w.sent node.sent).length ≤ 1) (.init s c) moves := by
  refine ((w.once_of_not_lost hL).always (Durable.holds_init ⟨by simp, ?_⟩ hi) h).mono
    fun _ hnd => hnd.1.2.once
  exact ⟨fun _ _ => rfl, Nat.zero_le 1⟩

end Sending

/-- The command that sends looks first whether it did. What is sent is known by a key, which the
journal determines. -/
structure Guard {r : Replaying p start table} (w : Sending r α)
    (A : η → List φ → σ → κ → Prop) where
  key : σ → α
  keyAt : List ε → α
  key_eq : ∀ {j t s}, r.Resumed j t s w.send → key s = keyAt j
  sends_or : ∀ {env t s}, A env t s w.send → w.sent (p.sends env s w.send) = [] ∨
    (w.sent (p.sends env s w.send) = [key s] ∧ key s ∉ w.sent t)

namespace Guard

variable {r : Replaying p start table} {w : Sending r α} {A L : η → List φ → σ → κ → Prop}

/-- A guard that works in more environments than are needed. -/
def mono {A' : η → List φ → σ → κ → Prop} (g : Guard w A)
    (h : ∀ {env t s c}, A' env t s c → A env t s c) : Guard w A' where
  key := g.key
  keyAt := g.keyAt
  key_eq := g.key_eq
  sends_or := fun hA => g.sends_or (h hA)

variable (g : Guard w A)

/-- Before the command that sends nothing is sent, and until its events are written all that is sent
has the key that the journal determines. -/
structure Saved (j : List ε) (t : List φ) : Prop where
  before : ∀ {c}, commandAt start table j = some c → w.before c → w.sent t = []
  same : commandAt start table j = some w.send → ∀ a ∈ w.sent t, a = g.keyAt j
  once : (w.sent t).length ≤ 1

theorem saved_nil : g.Saved [] [] := by
  refine ⟨fun _ _ => rfl, fun _ a ha => ?_, Nat.zero_le 1⟩
  exact absurd ha not_mem_nil

variable {g} {env : η} {j : List ε} {t : List φ} {s : σ} {c : κ}

theorem Saved.sent_eq_nil (h : g.Saved j t) (hi : r.Resumed j t s w.send)
    (hkey : g.key s ∉ w.sent t) : w.sent t = [] := by
  refine eq_nil_iff_forall_not_mem.2 fun a ha => hkey ?_
  rw [g.key_eq hi, ← h.same (w.commandAt_of_live hi (.inr rfl)) a ha]
  exact ha

section

variable (h : g.Saved j t) (hi : r.Resumed j t s c)

include h hi

theorem Saved.once_sends (hA : A env t s c) : (w.sent (t ++ p.sends env s c)).length ≤ 1 := by
  by_cases hc : c = w.send
  · subst hc
    rw [w.sent_append]
    rcases g.sends_or hA with hn | ⟨hone, hkey⟩
    · rw [hn, append_nil]
      exact h.once
    · rw [hone, h.sent_eq_nil hi hkey]
      exact Nat.le_refl 1
  · rw [w.sent_append_of_ne hc]
    exact h.once

theorem Saved.lost (hA : A env t s c) : g.Saved j (t ++ p.sends env s c) := by
  refine ⟨fun {c'} hc' hbef => ?_, fun hse a ha => ?_, h.once_sends hi hA⟩
  · by_cases hc : c = w.send
    · -- the journal says so too, and the command that sends is not before itself
      subst hc
      have hsa := Option.some.inj ((w.commandAt_of_live hi (.inr rfl)).symm.trans hc')
      exact absurd (hsa ▸ hbef) w.send_not_before
    · rw [w.sent_append_of_ne hc]
      exact h.before hc' hbef
  · by_cases hc : c = w.send
    · subst hc
      rw [w.sent_append] at ha
      rcases mem_append.1 ha with hold | hnew
      · exact h.same hse a hold
      · rcases g.sends_or hA with hn | ⟨hone, -⟩
        · rw [hn] at hnew
          exact absurd hnew not_mem_nil
        · rw [hone, List.mem_singleton] at hnew
          rw [hnew, g.key_eq hi]
    · rw [w.sent_append_of_ne hc] at ha
      exact h.same hse a ha

theorem Saved.nothing (hbef : w.before c) : w.sent (t ++ p.sends env s c) = [] := by
  rw [w.sent_append_of_ne (w.ne_of_before hbef)]
  exact h.before (w.commandAt_of_live hi (.inl hbef)) hbef

theorem Saved.cut (hA : A env t s c) {next : Option κ}
    {events written : List ε} (hret : p.process.handle env s c = .returned next events)
    (hpre : written <+: events) (hwr : written ≠ []) :
    g.Saved (j ++ written) (t ++ p.sends env s c) := by
  refine ⟨fun hc' hbef => ?_, fun hse a ha => ?_, h.once_sends hi hA⟩
  · exact h.nothing hi (w.before_of_commandAt hret hpre hwr hc' (.inl hbef))
  · rw [h.nothing hi (w.before_of_commandAt hret hpre hwr hse (.inr rfl))] at ha
    exact absurd ha not_mem_nil

end

/-- **A command that looks first does not send twice, wherever a crash falls.** -/
theorem once : p.Invariant A L (fun j t => (∀ e ∈ j, r.Good e) ∧ g.Saved j t) r.Resumed where
  writes := r.writes
  load := fun hd hld => (r.invariant A L).load hd.1 hld
  lost := fun hd hi hA _ _ => ⟨hd.1, hd.2.lost hi hA⟩
  cut := fun hd hi hA hret written hpre hwr =>
    ⟨(r.invariant A L).cut hd.1 hi hA hret written hpre hwr, hd.2.cut hi hA hret hpre hwr⟩
  next := fun hd hi hA hret => (r.invariant A L).next hd.1 hi hA hret

theorem once_always (g : Guard w A) (hi : r.Resumed [] [] s c) {moves : List (Move η)}
    (h : Guarded p.step (Durable.Allowed A L) (.init s c) moves) :
    Always p.step (fun node => (w.sent node.sent).length ≤ 1) (.init s c) moves :=
  (g.once.always (Durable.holds_init ⟨by simp, g.saved_nil⟩ hi) h).mono fun _ hnd => hnd.1.2.once

end Guard

/-- How a process comes to its end: from before it has sent, from the command that sends if there
was nothing to send or to find, or with an event that settles. -/
structure Settling {r : Replaying p start table} {w : Sending r α}
    {A : η → List φ → σ → κ → Prop} (g : Guard w A) (finish : κ) (Settles : ε → Prop) : Prop where
  finish_ne : finish ≠ w.send
  /-- The table does not go on with the end where the live process does not. -/
  eq_of_goes : ∀ {next}, r.Goes (some finish) next → next = some finish
  ends : ∀ {env t s c events}, A env t s c →
    p.process.handle env s c = .returned (some finish) events →
    w.before c ∨ (c = w.send ∧ w.sent (p.sends env s c) = [] ∧ g.key s ∉ w.sent t) ∨
      ∀ e ∈ events, Settles e

namespace Settling

variable {r : Replaying p start table} {w : Sending r α} {A L : η → List φ → σ → κ → Prop}
  {g : Guard w A} {finish : κ} {Settles : ε → Prop}

/-- What was sent is settled. -/
def Settled (w : Sending r α) (Settles : ε → Prop) (j : List ε) (t : List φ) : Prop :=
  w.sent t ≠ [] → ∃ e ∈ j, Settles e

section

variable (h : Settling g finish Settles)

include h

theorem settled_of_ends {env : η} {j : List ε} {t : List φ}
    {s : σ} {c : κ} {events written : List ε} (hsav : g.Saved j t) (hi : r.Resumed j t s c)
    (hA : A env t s c) (hret : p.process.handle env s c = .returned (some finish) events)
    (hpre : written <+: events) (hwr : written ≠ []) :
    Settled w Settles (j ++ written) (t ++ p.sends env s c) := by
  intro hsn
  rcases h.ends hA hret with hbef | ⟨rfl, hn, hkey⟩ | hst
  · exact absurd (hsav.nothing hi hbef) hsn
  · refine absurd ?_ hsn
    rw [w.sent_append, hn, hsav.sent_eq_nil hi hkey, append_nil]
  · obtain ⟨e, he⟩ := exists_mem_of_ne_nil written hwr
    exact ⟨e, mem_append_right j he, hst e (hpre.subset he)⟩

/-- **A process that has sent something does not come to its end before that is settled.** -/
theorem invariant :
    p.Invariant A L
      (fun j t => ((∀ e ∈ j, r.Good e) ∧ g.Saved j t) ∧
        (commandAt start table j = some finish → Settled w Settles j t))
      (fun j t s c => r.Resumed j t s c ∧ (c = finish → Settled w Settles j t)) where
  writes := r.writes
  load := by
    intro env j t s c hd hld
    refine ⟨(r.invariant A L).load hd.1.1 hld, ?_⟩
    rintro rfl
    exact hd.2 (r.load hld hd.1.1).1
  lost := by
    intro env j t s c next events hd hi hA hL hret
    refine ⟨g.once.lost hd.1 hi.1 hA hL hret, fun hfin hsn => ?_⟩
    -- the command that sends is not the end
    have hc : c ≠ w.send := by
      rintro rfl
      have hsa := (w.commandAt_of_live hi.1 (.inr rfl)).symm.trans hfin
      exact h.finish_ne (Option.some.inj hsa).symm
    rw [w.sent_append_of_ne hc] at hsn
    exact hd.2 hfin hsn
  cut := by
    intro env j t s c next events hd hi hA hret written hpre hwr
    refine ⟨(g.once (L := L)).cut hd.1 hi.1 hA hret written hpre hwr, fun hfin => ?_⟩
    have hgs := r.commandAt_of_returned j hret hpre hwr
    rw [hfin] at hgs
    rw [h.eq_of_goes hgs] at hret
    exact h.settled_of_ends hd.1.2 hi.1 hA hret hpre hwr
  next := by
    intro env j t s c c' events hd hi hA hret
    refine ⟨(r.invariant A L).next hd.1.1 hi.1 hA hret, ?_⟩
    rintro rfl
    exact h.settled_of_ends hd.1.2 hi.1 hA hret (prefix_refl _) (r.writes hret)

theorem always {s : σ} {c : κ} (hi : r.Resumed [] [] s c)
    {moves : List (Move η)} (hmv : Guarded p.step (Durable.Allowed A L) (.init s c) moves) :
    Always p.step (fun node => ∀ s, node.live = some (s, finish) →
      Settled w Settles node.journal node.sent) (.init s c) moves := by
  refine (h.invariant.always (Durable.holds_init ⟨⟨by simp, g.saved_nil⟩, ?_⟩ ⟨hi, ?_⟩)
    hmv).mono fun node hnd s hlv => (hnd.2 s finish hlv).2 rfl
  · exact fun _ hsn => absurd rfl hsn
  · exact fun _ hsn => absurd rfl hsn

end

end Settling

end CheetahDex.Lib
