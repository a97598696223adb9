import Mathlib.Algebra.Order.Ring.Nat

/-!
# Decoders

A decoder reads symbols from the front of its input, in an environment that it can look at. It gives
a value and what is left, or an error, or it crashes, and the memory that it requested on the way is
counted.

What a decoder accepts is a relation between the input, the value and the rest. A decoder is
*bounded* if it never crashes and pays for what it requests with what it reads, up to a fixed amount
on its last step.
-/

namespace CheetahDex.Lib

open List Nat

/-- How a decoder ends. -/
inductive Ending (σ ε α : Type) where
  | ok (value : α) (rest : List σ)
  | err (error : ε)
  | crash
  deriving DecidableEq

/-- An end, and the memory requested before it. -/
structure Attempt (σ ε α : Type) where
  outcome : Ending σ ε α
  requested : ℕ

/-- A decoder of values of type `α`, in an environment of type `κ`. -/
def Decoder (κ σ ε α : Type) := κ → List σ → Attempt σ ε α

namespace Decoder

variable {κ σ ε α β : Type} (d : Decoder κ σ ε α)

/-- The first decoder, and then the one that its value chooses. -/
def andThen (f : α → Decoder κ σ ε β) : Decoder κ σ ε β := fun env input =>
  match d env input with
  | ⟨.ok a rest, m⟩ => ⟨(f a env rest).outcome, m + (f a env rest).requested⟩
  | ⟨.err e, m⟩ => ⟨.err e, m⟩
  | ⟨.crash, m⟩ => ⟨.crash, m⟩

instance : Monad (Decoder κ σ ε) where
  pure a := fun _ input => ⟨.ok a input, 0⟩
  bind := andThen

/-- Fails with an error. -/
def fail (e : ε) : Decoder κ σ ε α := fun _ _ => ⟨.err e, 0⟩

/-- Ends the program. -/
def abort : Decoder κ σ ε α := fun _ _ => ⟨.crash, 0⟩

/-- Requests memory. -/
def request (n : ℕ) : Decoder κ σ ε Unit := fun _ input => ⟨.ok () input, n⟩

/-- The environment. -/
def environment : Decoder κ σ ε κ := fun env input => ⟨.ok env input, 0⟩

/-- The next `n` symbols. -/
def next (e : ε) (n : ℕ) : Decoder κ σ ε (List σ) := fun _ input =>
  if n ≤ input.length then ⟨.ok (input.take n) (input.drop n), 0⟩ else ⟨.err e, 0⟩

/-- Whether nothing is left. -/
def finished : Decoder κ σ ε Bool := fun _ input => ⟨.ok input.isEmpty input, 0⟩

/-- All that is left, copied to a buffer that takes as much memory as a function of its length says.
-/
def readToEnd (memory : ℕ → ℕ) : Decoder κ σ ε (List σ) := fun _ input =>
  ⟨.ok input [], memory input.length⟩

/-- A decoder that reads from a buffer in the place of the input. What it leaves is dropped. -/
def onBuffer (env : κ) (buf : List σ) (d : Decoder κ σ ε α) : Decoder κ σ ε α := fun _ input =>
  match d env buf with
  | ⟨.ok a _, m⟩ => ⟨.ok a input, m⟩
  | ⟨.err e, m⟩ => ⟨.err e, m⟩
  | ⟨.crash, m⟩ => ⟨.crash, m⟩

/-- The first decoder, or the second where the first gives an error. -/
def orElse (d d' : Decoder κ σ ε α) : Decoder κ σ ε α := fun env input =>
  match d env input with
  | ⟨.err _, m⟩ => ⟨(d' env input).outcome, m + (d' env input).requested⟩
  | ⟨.ok a rest, m⟩ => ⟨.ok a rest, m⟩
  | ⟨.crash, m⟩ => ⟨.crash, m⟩

/-- As many values as are asked for. -/
def many : ℕ → Decoder κ σ ε (List α)
  | 0 => pure []
  | n + 1 => do
    let a ← d
    let rest ← many n
    return a :: rest

/-! ## What a decoder accepts -/

/-- The decoder reads a value from the front of the input. -/
def Reads (env : κ) (input : List σ) (a : α) (rest : List σ) : Prop :=
  (d env input).outcome = .ok a rest

/-- The decoder crashes on the input. -/
def Crashes (env : κ) (input : List σ) : Prop := (d env input).outcome = .crash

section accepts

variable {d : Decoder κ σ ε α} {f : α → Decoder κ σ ε β} {env : κ} {input rest rest' : List σ}
  {a a' : α} {b : β}

theorem Reads.unique (h : Reads d env input a rest) (h' : Reads d env input a' rest') :
    a = a' ∧ rest = rest' := by
  rw [Reads, h] at h'
  cases h'
  exact ⟨rfl, rfl⟩

/-- A decoder that succeeds reads its value, and nothing else. -/
theorem reads_iff_of_ok (h : (d env input).outcome = .ok a rest) :
    Reads d env input a' rest' ↔ a = a' ∧ rest = rest' := by
  rw [Reads, h, Ending.ok.injEq]

@[simp]
theorem reads_pure : Reads (pure a : Decoder κ σ ε α) env input a' rest ↔ a = a' ∧ input = rest :=
  reads_iff_of_ok rfl

theorem bind_of_reads (h : Reads d env input a rest) :
    (d >>= f) env input = ⟨(f a env rest).outcome,
      (d env input).requested + (f a env rest).requested⟩ := by
  have hd : d env input = ⟨.ok a rest, (d env input).requested⟩ := by
    rw [← (h : (d env input).outcome = _)]
  show andThen d f env input = _
  rw [andThen, hd]

/-- A sequence reads what its parts read one after the other. -/
theorem reads_bind {last : List σ} : Reads (d >>= f) env input b last ↔
    ∃ a rest, Reads d env input a rest ∧ Reads (f a) env rest b last := by
  show (andThen d f env input).outcome = _ ↔ _
  unfold Reads andThen
  rcases d env input with ⟨_ | _ | _, _⟩ <;> simp

/-- A sequence crashes in its first part or in its second. -/
theorem crashes_bind : Crashes (d >>= f) env input ↔
    Crashes d env input ∨ ∃ a rest, Reads d env input a rest ∧ Crashes (f a) env rest := by
  show (andThen d f env input).outcome = _ ↔ _
  unfold Reads Crashes andThen
  rcases d env input with ⟨_ | _ | _, _⟩ <;> simp

/-- What a first part requested stays requested. -/
theorem requested_le_bind : (d env input).requested ≤ ((d >>= f) env input).requested := by
  show _ ≤ (andThen d f env input).requested
  unfold andThen
  rcases d env input with ⟨_ | _ | _, _⟩ <;> simp

/-- What a second part requests is requested. -/
theorem requested_le_bind_right (h : Reads d env input a rest) :
    (f a env rest).requested ≤ ((d >>= f) env input).requested := by
  rw [bind_of_reads h]
  exact le_add_left _ _

/-- A function of the value that is read costs nothing. -/
theorem requested_map {g : α → β} :
    ((d >>= fun a => pure (g a)) env input).requested = (d env input).requested := by
  show (andThen d (fun a => pure (g a)) env input).requested = _
  unfold andThen
  rcases d env input with ⟨_ | _ | _, _⟩ <;> rfl

variable {e : ε} {n : ℕ} {env' : κ} {buf : List σ}

@[simp]
theorem reads_fail : ¬Reads (fail e : Decoder κ σ ε α) env input a rest := nofun

@[simp]
theorem reads_abort : ¬Reads (abort : Decoder κ σ ε α) env input a rest := nofun

@[simp]
theorem reads_request {u : Unit} :
    Reads (request n : Decoder κ σ ε Unit) env input u rest ↔ input = rest :=
  (reads_iff_of_ok rfl).trans (and_iff_right rfl)

@[simp]
theorem reads_environment :
    Reads (environment : Decoder κ σ ε κ) env input env' rest ↔ env = env' ∧ input = rest :=
  reads_iff_of_ok rfl

@[simp]
theorem reads_finished {done : Bool} : Reads (finished : Decoder κ σ ε Bool) env input done rest ↔
    input.isEmpty = done ∧ input = rest :=
  reads_iff_of_ok rfl

/-- The next symbols are the front part that has the asked length. -/
theorem reads_next {s : List σ} :
    Reads (next e n : Decoder κ σ ε (List σ)) env input s rest ↔
      s.length = n ∧ input = s ++ rest := by
  unfold Reads next
  constructor
  · intro h
    split at h
    · next hle =>
      cases h
      exact ⟨length_take_of_le hle, (take_append_drop n input).symm⟩
    · cases h
  · rintro ⟨rfl, rfl⟩
    rw [if_pos (by rw [length_append]; exact le_add_right _ _), take_left, drop_left]

variable {c : Prop} [Decidable c] {d' : Decoder κ σ ε α}

/-- A branch reads what the branch that is taken reads. -/
theorem reads_ite :
    Reads (if c then d else d') env input a rest ↔
      c ∧ Reads d env input a rest ∨ ¬c ∧ Reads d' env input a rest := by
  split <;> simp [*]

theorem crashes_ite :
    Crashes (if c then d else d') env input ↔
      c ∧ Crashes d env input ∨ ¬c ∧ Crashes d' env input := by
  split <;> simp [*]

@[simp]
theorem not_crashes_pure : ¬Crashes (pure a : Decoder κ σ ε α) env input := nofun

@[simp]
theorem not_crashes_fail : ¬Crashes (fail e : Decoder κ σ ε α) env input := nofun

@[simp]
theorem crashes_abort : Crashes (abort : Decoder κ σ ε α) env input := rfl

@[simp]
theorem not_crashes_request : ¬Crashes (request n : Decoder κ σ ε Unit) env input := nofun

@[simp]
theorem not_crashes_environment : ¬Crashes (environment : Decoder κ σ ε κ) env input := nofun

@[simp]
theorem not_crashes_finished : ¬Crashes (finished : Decoder κ σ ε Bool) env input := nofun

@[simp]
theorem not_crashes_next : ¬Crashes (next e n : Decoder κ σ ε (List σ)) env input := by
  unfold Crashes next
  split <;> exact nofun

/-! ### Buffers and second tries -/

/-- The decoder gives an error on the input. -/
def Fails (d : Decoder κ σ ε α) (env : κ) (input : List σ) : Prop :=
  ∃ e, (d env input).outcome = .err e

theorem fails_iff : Fails d env input ↔
    ¬Crashes d env input ∧ ∀ a rest, ¬Reads d env input a rest := by
  unfold Fails Crashes Reads
  cases (d env input).outcome <;> simp

@[simp]
theorem reads_readToEnd {memory : ℕ → ℕ} :
    Reads (readToEnd memory : Decoder κ σ ε (List σ)) env input buf rest ↔
      input = buf ∧ [] = rest :=
  reads_iff_of_ok rfl

theorem reads_onBuffer : Reads (onBuffer env' buf d) env input a rest ↔
    (∃ left, Reads d env' buf a left) ∧ input = rest := by
  unfold Reads onBuffer
  rcases d env' buf with ⟨_ | _ | _, _⟩ <;> simp

theorem crashes_onBuffer : Crashes (onBuffer env' buf d) env input ↔ Crashes d env' buf := by
  unfold Crashes onBuffer
  rcases d env' buf with ⟨_ | _ | _, _⟩ <;> simp

theorem fails_onBuffer : Fails (onBuffer env' buf d) env input ↔ Fails d env' buf := by
  unfold Fails onBuffer
  rcases d env' buf with ⟨_ | _ | _, _⟩ <;> simp

theorem requested_onBuffer :
    (onBuffer env' buf d env input).requested = (d env' buf).requested := by
  unfold onBuffer
  rcases d env' buf with ⟨_ | _ | _, _⟩ <;> rfl

variable {d' : Decoder κ σ ε α}

/-- The second decoder is used where the first fails. -/
theorem orElse_of_fails (h : Fails d env input) : orElse d d' env input =
    ⟨(d' env input).outcome, (d env input).requested + (d' env input).requested⟩ := by
  obtain ⟨e, h⟩ := h
  have hd : d env input = ⟨.err e, (d env input).requested⟩ := by rw [← h]
  rw [orElse, hd]

theorem orElse_of_not_fails (h : ¬Fails d env input) : orElse d d' env input = d env input := by
  unfold orElse
  rcases hd : d env input with ⟨_ | e | _, m⟩
  · rfl
  · exact absurd ⟨e, by rw [hd]⟩ h
  · rfl

theorem reads_orElse : Reads (orElse d d') env input a rest ↔
    Reads d env input a rest ∨ Fails d env input ∧ Reads d' env input a rest := by
  unfold Reads Fails orElse
  rcases d env input with ⟨_ | _ | _, _⟩ <;> simp

theorem crashes_orElse : Crashes (orElse d d') env input ↔
    Crashes d env input ∨ Fails d env input ∧ Crashes d' env input := by
  unfold Crashes Fails orElse
  rcases d env input with ⟨_ | _ | _, _⟩ <;> simp

theorem requested_le_orElse : (d env input).requested ≤ (orElse d d' env input).requested := by
  unfold orElse
  rcases d env input with ⟨_ | _ | _, _⟩ <;> simp

theorem requested_orElse_le : (orElse d d' env input).requested ≤
    (d env input).requested + (d' env input).requested := by
  unfold orElse
  rcases d env input with ⟨_ | _ | _, _⟩ <;> simp

/-! ### Demands -/

/-- An amount of memory that the decoder asks for: it crashes if the amount is over a limit, and
requests it otherwise. -/
structure Demands (limit size : ℕ) (d : Decoder κ σ ε α) (env : κ) (input : List σ) : Prop where
  exceeds : limit < size → Crashes d env input
  meets : size ≤ limit → size ≤ (d env input).requested

variable {limit size : ℕ}

theorem Demands.bind_left (h : Demands limit size d env input) :
    Demands limit size (d >>= f) env input where
  exceeds hlt := crashes_bind.mpr (.inl (h.exceeds hlt))
  meets hle := (h.meets hle).trans requested_le_bind

theorem Demands.bind_right (hd : Reads d env input a rest)
    (h : Demands limit size (f a) env rest) : Demands limit size (d >>= f) env input where
  exceeds hlt := crashes_bind.mpr (.inr ⟨a, rest, hd, h.exceeds hlt⟩)
  meets hle := (h.meets hle).trans (requested_le_bind_right hd)

theorem Demands.onBuffer (h : Demands limit size d env' buf) :
    Demands limit size (onBuffer env' buf d) env input where
  exceeds hlt := crashes_onBuffer.mpr (h.exceeds hlt)
  meets hle := by
    rw [requested_onBuffer]
    exact h.meets hle

theorem Demands.orElse_left (h : Demands limit size d env input) :
    Demands limit size (orElse d d') env input where
  exceeds hlt := crashes_orElse.mpr (.inl (h.exceeds hlt))
  meets hle := (h.meets hle).trans requested_le_orElse

theorem Demands.orElse_right (hd : Fails d env input) (h : Demands limit size d' env input) :
    Demands limit size (orElse d d') env input where
  exceeds hlt := crashes_orElse.mpr (.inr ⟨hd, h.exceeds hlt⟩)
  meets hle := by
    rw [orElse_of_fails hd]
    exact (h.meets hle).trans (le_add_left _ _)

end accepts

/-! ## Decoders that pay for what they request -/

/-- Whatever the decoder accepts is at least `n` symbols long. -/
def Consumes (n : ℕ) (d : Decoder κ σ ε α) : Prop :=
  ∀ env input a rest, Reads d env input a rest → rest.length + n ≤ input.length

/-- The decoder never crashes, requests at most `rate` for each symbol that it reads, and at most
`fixed` more if it fails. -/
structure Bounded (fixed rate : ℕ) (d : Decoder κ σ ε α) : Prop where
  safe : ∀ env input, ¬Crashes d env input
  shrinks : Consumes 0 d
  le : ∀ env input, (d env input).requested ≤ fixed + rate * input.length
  paid : ∀ env input a rest, Reads d env input a rest →
    (d env input).requested + rate * rest.length ≤ rate * input.length

section bounded

variable {d : Decoder κ σ ε α} {f : α → Decoder κ σ ε β} {fixed rate n m : ℕ}

theorem Consumes.bind (hd : Consumes n d) (hf : ∀ a, Consumes m (f a)) :
    Consumes (n + m) (d >>= f) := by
  intro env input b last h
  obtain ⟨a, rest, hrd, hx⟩ := reads_bind.mp h
  have hfst := hd env input a rest hrd
  have hsc := hf a env rest b last hx
  omega

theorem Consumes.mono (hd : Consumes n d) (h : m ≤ n) : Consumes m d := by
  intro env input a rest hrd
  have := hd env input a rest hrd
  omega

theorem consumes_next {e : ε} : Consumes n (next e n : Decoder κ σ ε (List σ)) := by
  intro env input s rest h
  obtain ⟨hlen, rfl⟩ := reads_next.mp h
  rw [length_append, hlen, add_comm]

theorem consumes_many (hd : Consumes m d) : Consumes (n * m) (many d n) := by
  induction n with
  | zero =>
    intro env input s rest h
    obtain ⟨_, rfl⟩ := reads_pure.mp h
    rw [zero_mul, add_zero]
  | succ n ih =>
    have hnil : ∀ (a : α) (s : List α), Consumes 0 (pure (a :: s) : Decoder κ σ ε (List α)) := by
      intro a s env input s' rest h
      obtain ⟨_, rfl⟩ := reads_pure.mp h
      rfl
    have h := hd.bind fun a => ih.bind fun s => hnil a s
    rw [add_zero, add_comm, ← succ_mul] at h
    exact h

/-- On one input the decoder is bounded, with `slack` to spare where it succeeds. -/
structure Pays (slack fixed rate : ℕ) (d : Decoder κ σ ε α) (env : κ) (input : List σ) : Prop where
  safe : ¬Crashes d env input
  shrinks : ∀ a rest, Reads d env input a rest → rest.length ≤ input.length
  le : (d env input).requested ≤ fixed + rate * input.length
  paid : ∀ a rest, Reads d env input a rest →
    (d env input).requested + slack + rate * rest.length ≤ rate * input.length

section pays

variable {env : κ} {input : List σ} {slack : ℕ}

/-- What a sequence requests, from what its first part pays and its second requests. -/
theorem Pays.requested_bind_le (hd : Pays slack fixed rate d env input)
    (hf : ∀ a rest, Reads d env input a rest →
      (f a env rest).requested ≤ slack + (fixed + rate * rest.length)) :
    ((d >>= f) env input).requested ≤ fixed + rate * input.length := by
  have hle := hd.le
  show (andThen d f env input).requested ≤ _
  unfold andThen
  split
  · next a rest m hrun =>
    have h : Reads d env input a rest := congrArg Attempt.outcome hrun
    have hfst := hd.paid a rest h
    have hsc := hf a rest h
    rw [hrun] at hfst
    dsimp only at hfst ⊢
    omega
  · next hrun => rwa [hrun] at hle
  · next hrun => rwa [hrun] at hle

/-- In a sequence the slack adds up. -/
theorem Pays.bind {slack' : ℕ} (hd : Pays slack fixed rate d env input)
    (hf : ∀ a rest, Reads d env input a rest → Pays slack' fixed rate (f a) env rest) :
    Pays (slack + slack') fixed rate (d >>= f) env input where
  safe h := by
    rcases crashes_bind.mp h with h | ⟨a, rest, hrd, h⟩
    · exact hd.safe h
    · exact (hf a rest hrd).safe h
  shrinks b last h := by
    obtain ⟨a, rest, hrd, hx⟩ := reads_bind.mp h
    exact ((hf a rest hrd).shrinks b last hx).trans (hd.shrinks a rest hrd)
  le := hd.requested_bind_le fun a rest hrd => le_add_left_of_le (hf a rest hrd).le
  paid b last h := by
    obtain ⟨a, rest, hrd, hx⟩ := reads_bind.mp h
    rw [bind_of_reads hrd]
    have hfst := hd.paid a rest hrd
    have hsc := (hf a rest hrd).paid b last hx
    dsimp only
    omega

theorem Pays.then_pays (hd : Pays 0 fixed rate d env input)
    (hf : ∀ a rest, Reads d env input a rest → Pays slack fixed rate (f a) env rest) :
    Pays slack fixed rate (d >>= f) env input := by
  have h := hd.bind hf
  rwa [zero_add] at h

theorem Pays.mono {slack' fixed' rate' : ℕ} (hd : Pays slack fixed rate d env input)
    (hsl : slack' ≤ slack) (hfix : fixed ≤ fixed') (hrt : rate ≤ rate') :
    Pays slack' fixed' rate' d env input where
  safe := hd.safe
  shrinks := hd.shrinks
  le := by
    have hle := hd.le
    have := mul_le_mul_right input.length hrt
    omega
  paid a rest h := by
    obtain ⟨more, rfl⟩ := Nat.exists_eq_add_of_le hrt
    have hpd := hd.paid a rest h
    have := mul_le_mul_left more (hd.shrinks a rest h)
    rw [add_mul, add_mul]
    omega

/-- A second part that requests no more than the slack of the first is paid by it. -/
theorem Pays.spend {size : ℕ} (hd : Pays (slack + size) fixed rate d env input)
    (hsf : ∀ a rest, Reads d env input a rest → ¬Crashes (f a) env rest)
    (hsp : ∀ a rest, Reads d env input a rest → (f a env rest).requested ≤ size)
    (hr : ∀ a b rest last, Reads (f a) env rest b last → last.length ≤ rest.length) :
    Pays slack fixed rate (d >>= f) env input where
  safe h := by
    rcases crashes_bind.mp h with h | ⟨a, rest, hrd, h⟩
    · exact hd.safe h
    · exact hsf a rest hrd h
  shrinks b last h := by
    obtain ⟨a, rest, hrd, h⟩ := reads_bind.mp h
    exact (hr a b rest last h).trans (hd.shrinks a rest hrd)
  le := hd.requested_bind_le fun a rest hrd => (hsp a rest hrd).trans (by omega)
  paid b last h := by
    obtain ⟨a, rest, hrd, h⟩ := reads_bind.mp h
    rw [bind_of_reads hrd]
    have hfst := hd.paid a rest hrd
    have hsc := hsp a rest hrd
    have := mul_le_mul_left rate (hr a b rest last h)
    dsimp only
    omega

/-- Memory requested at the end is paid by the slack. -/
theorem Pays.then_request {size : ℕ} {g : α → β} (hd : Pays (slack + size) fixed rate d env input) :
    Pays slack fixed rate (d >>= fun a => request size >>= fun _ => pure (g a)) env input := by
  refine hd.spend (fun _ _ _ => nofun) (fun _ _ _ => le_rfl) fun a b rest last h => ?_
  cases h
  exact le_rfl

end pays

theorem Bounded.pays (hd : Bounded fixed rate d) (env : κ) (input : List σ) :
    Pays 0 fixed rate d env input where
  safe := hd.safe env input
  shrinks := hd.shrinks env input
  le := hd.le env input
  paid := hd.paid env input

theorem bounded_of_pays (h : ∀ env input, Pays 0 fixed rate d env input) :
    Bounded fixed rate d where
  safe env input := (h env input).safe
  shrinks env input := (h env input).shrinks
  le env input := (h env input).le
  paid env input := (h env input).paid

/-- At a higher rate, what reads some symbols has slack. -/
theorem Consumes.pays (hln : Consumes n d) (more : ℕ) (hd : Bounded fixed rate d) (env : κ)
    (input : List σ) : Pays (more * n) fixed (rate + more) d env input := by
  have hle := hd.le env input
  refine ⟨hd.safe env input, hd.shrinks env input, ?_, fun a rest h => ?_⟩
  · rw [add_mul]
    omega
  · have hpd := hd.paid env input a rest h
    have hrd := mul_le_mul_left more (hln env input a rest h)
    rw [mul_add] at hrd
    rw [add_mul, add_mul]
    omega

theorem Bounded.mono {fixed' rate' : ℕ} (hd : Bounded fixed rate d) (hfix : fixed ≤ fixed')
    (hrt : rate ≤ rate') : Bounded fixed' rate' d :=
  bounded_of_pays fun env input => (hd.pays env input).mono le_rfl hfix hrt

theorem Bounded.then_pays {env : κ} {input : List σ} {slack : ℕ} (hd : Bounded fixed rate d)
    (hf : ∀ a rest, Reads d env input a rest → Pays slack fixed rate (f a) env rest) :
    Pays slack fixed rate (d >>= f) env input :=
  (hd.pays env input).then_pays hf

/-- A sequence of bounded decoders is bounded alike. -/
theorem Bounded.bind (hd : Bounded fixed rate d) (hf : ∀ a, Bounded fixed rate (f a)) :
    Bounded fixed rate (d >>= f) :=
  bounded_of_pays fun env _ => hd.then_pays fun a rest _ => (hf a).pays env rest

/-- A decoder that requests nothing. -/
theorem bounded_of_free (safe : ∀ env input, ¬Crashes d env input) (shrinks : Consumes 0 d)
    (hfr : ∀ env input, (d env input).requested = 0) : Bounded fixed rate d where
  safe := safe
  shrinks := shrinks
  le env input := by
    rw [hfr]
    exact zero_le _
  paid env input a rest h := by
    rw [hfr, zero_add]
    exact mul_le_mul_left rate (shrinks env input a rest h)

theorem bounded_pure (a : α) : Bounded fixed rate (pure a : Decoder κ σ ε α) :=
  bounded_of_free (fun _ _ => not_crashes_pure)
    (fun _ _ _ _ h => (congrArg List.length (reads_pure.mp h).2).ge) fun _ _ => rfl

theorem bounded_fail (e : ε) : Bounded fixed rate (fail e : Decoder κ σ ε α) :=
  bounded_of_free (fun _ _ => not_crashes_fail) (fun _ _ _ _ h => absurd h reads_fail)
    fun _ _ => rfl

theorem bounded_environment : Bounded fixed rate (environment : Decoder κ σ ε κ) :=
  bounded_of_free (fun _ _ => not_crashes_environment)
    (fun _ _ _ _ h => (congrArg List.length (reads_environment.mp h).2).ge) fun _ _ => rfl

theorem bounded_finished : Bounded fixed rate (finished : Decoder κ σ ε Bool) :=
  bounded_of_free (fun _ _ => not_crashes_finished)
    (fun _ _ _ _ h => (congrArg List.length (reads_finished.mp h).2).ge) fun _ _ => rfl

theorem bounded_next (e : ε) (n : ℕ) : Bounded fixed rate (next e n : Decoder κ σ ε (List σ)) := by
  refine bounded_of_free (fun _ _ => not_crashes_next) (consumes_next.mono (zero_le n)) ?_
  intro env input
  unfold next
  split <;> rfl

theorem Bounded.ite {c : Prop} [Decidable c] {d' : Decoder κ σ ε α} (hd : Bounded fixed rate d)
    (hd' : Bounded fixed rate d') : Bounded fixed rate (if c then d else d') := by
  split
  · exact hd
  · exact hd'

section

variable (hd : Bounded fixed rate d)

include hd

theorem Bounded.many : Bounded fixed rate (many d n) := by
  induction n with
  | zero => exact bounded_pure []
  | succ n ih => exact hd.bind fun a => ih.bind fun s => bounded_pure (a :: s)

/-- Memory requested for a known count of elements is paid by what the elements need. -/
theorem Bounded.request_then (hln : Consumes n d) (size : ℕ) :
    Bounded (fixed + n * size) (rate + size)
      (request (n * size) >>= fun _ => d : Decoder κ σ ε α) := by
  rw [mul_comm n]
  refine bounded_of_pays fun env input => ?_
  have hpy := hln.pays size hd env input
  have hreq : Reads (request (size * n) : Decoder κ σ ε Unit) env input () input := rfl
  have hrun : (request (size * n) >>= fun _ => d) env input =
      ⟨(d env input).outcome, size * n + (d env input).requested⟩ := bind_of_reads hreq
  refine ⟨?_, ?_, ?_, ?_⟩
  · rw [Crashes, hrun]
    exact hpy.safe
  · intro a rest h
    rw [Reads, hrun] at h
    exact hpy.shrinks a rest h
  · have hle := hpy.le
    rw [hrun]
    dsimp only
    omega
  · intro a rest h
    rw [Reads, hrun] at h
    have hpd := hpy.paid a rest h
    rw [hrun]
    dsimp only
    omega

/-- Memory requested after a value was read is paid by the value. -/
theorem Bounded.then_request (hln : Consumes 1 d) (size : ℕ) :
    Bounded fixed (rate + size) (d >>= fun a => request size >>= fun _ => pure a) := by
  refine bounded_of_pays fun env input => ?_
  exact ((hln.pays size hd env input).mono (by omega) le_rfl le_rfl).then_request

end

end bounded

end Decoder

end CheetahDex.Lib
