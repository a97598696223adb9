import Mathlib.Logic.Basic

/-!
# Functions that check and give up

A fallible function is mostly a sequence of checks around a computation. When it succeeds, every
check has passed; `of_bind_ok` takes such a function apart step by step, and the other lemmas
say what the single steps have established.
-/

namespace CheetahDex.Lib

variable {ε ε' α β : Type}

/-- Give up with `e` if `bad`. -/
def check (bad : Prop) [Decidable bad] (e : ε) : Except ε Unit := if bad then .error e else .ok ()

/-- Give up with `e` if there is no value. -/
def orError (o : Option α) (e : ε) : Except ε α :=
  match o with
  | some a => .ok a
  | none => .error e

variable {b : β} {x : Except ε α} {a : α} {e : ε} {bad : Prop} {f : α → Except ε β}

/-- A computation that succeeds has a first step that succeeds. -/
theorem of_bind_ok (h : (x >>= f) = .ok b) : ∃ a, x = .ok a ∧ f a = .ok b := by
  cases x with
  | error e => exact absurd h (by simp [bind, Except.bind])
  | ok a => exact ⟨a, rfl, h⟩

theorem of_bind₂_ok {γ : Type} {f : α → Except ε γ} {g : α → γ → Except ε β}
    (h : (x >>= fun a => f a >>= g a) = .ok b) :
    ∃ a, x = .ok a ∧ ∃ c, f a = .ok c ∧ g a c = .ok b := by
  obtain ⟨a, ha, h⟩ := of_bind_ok h
  exact ⟨a, ha, of_bind_ok h⟩

theorem of_bind₃_ok {γ δ : Type} {f : α → Except ε γ} {g : α → γ → Except ε δ}
    {k : α → γ → δ → Except ε β} (h : (x >>= fun a => f a >>= fun c => g a c >>= k a c) = .ok b) :
    ∃ a, x = .ok a ∧ ∃ c, f a = .ok c ∧ ∃ d, g a c = .ok d ∧ k a c d = .ok b := by
  obtain ⟨a, ha, h⟩ := of_bind_ok h
  exact ⟨a, ha, of_bind₂_ok h⟩

/-- Steps that succeed one after the other. -/
theorem ok_bind_ok (hx : x = .ok a) (hf : f a = .ok b) : (x >>= f) = .ok b := by
  rw [hx]
  exact hf

theorem orError_ok_iff {o : Option α} : orError o e = .ok a ↔ o = some a := by
  cases o with
  | none => simp [orError]
  | some a' => simp [orError]

theorem of_map_ok {f : α → β} (h : x.map f = .ok b) : ∃ a, x = .ok a ∧ f a = b := by
  cases x with
  | error e => exact absurd h (by simp [Except.map])
  | ok a => exact ⟨a, rfl, Except.ok.inj h⟩

theorem ok_of_toOption (h : x.toOption = some a) : x = .ok a := by
  cases x with
  | error e => cases h
  | ok a' => exact congrArg Except.ok (Option.some.inj h)

theorem not_of_check [Decidable bad] {a : Unit} (h : check bad e = .ok a) : ¬bad := by
  unfold check at h
  split at h
  · cases h
  · assumption

theorem check_eq_ok_iff [Decidable bad] : check bad e = .ok () ↔ ¬bad := by
  refine ⟨not_of_check, fun h => ?_⟩
  rw [check, if_neg h]

theorem check_bind_iff [Decidable bad] {f : Unit → Except ε β} :
    (check bad e >>= f) = .ok b ↔ ¬bad ∧ f () = .ok b := by
  unfold check
  split
  · rename_i h
    exact iff_of_false nofun fun hf => hf.1 h
  · rename_i h
    exact (and_iff_right h).symm

theorem of_mapError_ok {f : ε → ε'} (h : x.mapError f = .ok a) : x = .ok a := by
  cases x with
  | error e => cases h
  | ok a' => exact congrArg _ (Except.ok.inj h)

theorem mapError_bind_iff {f : ε → ε'} {g : α → Except ε' β} :
    (x.mapError f >>= g) = .ok b ↔ ∃ a, x = .ok a ∧ g a = .ok b := by
  constructor
  · intro h
    obtain ⟨a, hx, hg⟩ := of_bind_ok h
    exact ⟨a, of_mapError_ok hx, hg⟩
  · rintro ⟨a, rfl, hg⟩
    exact hg

end CheetahDex.Lib
