import CheetahDex.Lib.LeBytes
import Mathlib.Algebra.Group.Int.Defs
import Mathlib.Data.List.Forall2

/-!
# Bitcoin Script

The consensus rules for scripts of pushes, conditionals, hash locks, time locks and signature
checks, and for outputs that pay to the hash of such a script. Conditionals are understood by way of
a tree of nested branches whose flattening is what the machine runs.
-/

namespace CheetahDex.Lib.BitcoinScript

open List

/-! ## Items -/

/-- An opcode with the bytes that it pushes. -/
structure Item where
  code : UInt8
  data : List UInt8

variable (code : UInt8)

/-- How many bytes after the opcode say how long the data are. -/
def lengthBytes : ℕ :=
  if code = 0x4c then 1 else if code = 0x4d then 2 else if code = 0x4e then 4 else 0

/-- How long the data are; an opcode that pushes nothing has none. -/
def dataLength (rest : List UInt8) : ℕ :=
  if code < 0x4c then code.toNat else ofLeBytes (rest.take (lengthBytes code))

/-- The first item of a script and what follows it. -/
def next : List UInt8 → Option (Item × List UInt8)
  | [] => none
  | code :: rest =>
    if lengthBytes code + dataLength code rest ≤ rest.length then
      some (⟨code, (rest.drop (lengthBytes code)).take (dataLength code rest)⟩,
        rest.drop (lengthBytes code + dataLength code rest))
    else none

/-- The items of a script, if there are at most so many. -/
def itemsUpTo : ℕ → List UInt8 → Option (List Item)
  | _, [] => some []
  | 0, _ :: _ => none
  | n + 1, code :: rest => do
    let (item, left) ← next (code :: rest)
    return item :: (← itemsUpTo n left)

/-- The items of a script; every item takes at least one byte. -/
def items (script : List UInt8) : Option (List Item) := itemsUpTo script.length script

/-- The bytes of an item. -/
def Item.encode (i : Item) : List UInt8 :=
  i.code :: (leBytes (lengthBytes i.code) i.data.length ++ i.data)

/-- The opcode can push the data. -/
def Item.Fits (i : Item) : Prop :=
  if i.code < 0x4c then i.data.length = i.code.toNat
  else i.data.length < (2 ^ 8) ^ lengthBytes i.code

instance (i : Item) : Decidable i.Fits :=
  inferInstanceAs (Decidable (if i.code < 0x4c then _ else _))

theorem lengthBytes_of_lt {code : UInt8} (h : code < 0x4c) : lengthBytes code = 0 := by
  have hne (b : UInt8) (hb : 0x4c ≤ b) : code ≠ b := fun he => absurd (he ▸ h) (UInt8.not_lt.mpr hb)
  rw [lengthBytes, if_neg (hne _ (by decide)), if_neg (hne _ (by decide)),
    if_neg (hne _ (by decide))]

theorem lengthBytes_le : lengthBytes code ≤ 4 := by
  unfold lengthBytes
  split_ifs <;> decide

variable {i : Item} {is : List Item} {n : ℕ}

/-- An item in front of anything is read back. -/
theorem next_encode (h : i.Fits) (rest : List UInt8) :
    next (i.encode ++ rest) = some (i, rest) := by
  obtain ⟨code, data⟩ := i
  have hlen : dataLength code (leBytes (lengthBytes code) data.length ++ data ++ rest) =
      data.length := by
    unfold Item.Fits at h
    unfold dataLength
    split_ifs at h ⊢ with hdir
    · exact h.symm
    · rw [append_assoc, take_append_of_le_length (by simp), take_of_length_le
        (by simp), ofLeBytes_leBytes_of_lt h]
  simp only [Item.encode, cons_append, next, hlen]
  rw [if_pos (by simp only [length_append, length_leBytes]; omega)]
  simp only [append_assoc]
  rw [drop_append_of_le_length (by simp), drop_of_length_le (by simp), nil_append,
    take_left, ← drop_drop, drop_append_of_le_length (by simp),
    drop_of_length_le (l := leBytes _ _) (by simp), nil_append, drop_left]

/-- What is read is an item and the bytes after it. -/
theorem encode_of_next {bs rest : List UInt8} (h : next bs = some (i, rest)) :
    i.Fits ∧ bs = i.encode ++ rest := by
  cases bs with
  | nil => exact absurd h (by simp [next])
  | cons code left =>
    rw [next] at h
    split_ifs at h with hrm
    obtain ⟨rfl, rfl⟩ := Prod.mk.inj (Option.some.inj h)
    have hdt : ((left.drop (lengthBytes code)).take (dataLength code left)).length =
        dataLength code left := by
      rw [length_take, length_drop]
      omega
    have hsta : leBytes (lengthBytes code) (dataLength code left) =
        left.take (lengthBytes code) := by
      by_cases hdir : code < 0x4c
      · rw [lengthBytes_of_lt hdir, leBytes, take_zero]
      · have hbs := leBytes_ofLeBytes (left.take (lengthBytes code))
        rw [length_take, Nat.min_eq_left (by omega)] at hbs
        rwa [dataLength, if_neg hdir]
    refine ⟨?_, ?_⟩
    · rw [Item.Fits, hdt]
      split_ifs with hdir
      · rw [dataLength, if_pos hdir]
      · have hbd := ofLeBytes_lt (left.take (lengthBytes code))
        rw [length_take, Nat.min_eq_left (by omega)] at hbd
        rwa [dataLength, if_neg hdir]
    · rw [Item.encode, hdt, hsta, cons_append, append_assoc, ← drop_drop,
        take_append_drop, take_append_drop]

theorem itemsUpTo_encode (h : ∀ i ∈ is, i.Fits) (hn : is.length ≤ n) :
    itemsUpTo n (is.flatMap Item.encode) = some is := by
  induction is generalizing n with
  | nil => cases n <;> rfl
  | cons i is ih =>
    obtain ⟨n, rfl⟩ := Nat.exists_eq_add_of_lt (Nat.lt_of_lt_of_le (Nat.succ_pos _) hn)
    have hnx := next_encode (h i mem_cons_self) (is.flatMap Item.encode)
    have hr := ih (fun j hj => h j (mem_cons_of_mem _ hj)) (n := 0 + n)
      (by simp only [length_cons] at hn; omega)
    rw [flatMap_cons]
    rw [Item.encode, cons_append] at hnx ⊢
    simp only [itemsUpTo, hnx, hr, Option.bind_eq_bind, Option.bind_some, Option.pure_def]

theorem length_le_flatMap_encode (is : List Item) :
    is.length ≤ (is.flatMap Item.encode).length := by
  induction is with
  | nil => exact Nat.le_refl 0
  | cons i is ih =>
    simp only [flatMap_cons, length_append, length_cons, Item.encode]
    omega

/-- A script made of items has these items. -/
theorem items_encode (h : ∀ i ∈ is, i.Fits) : items (is.flatMap Item.encode) = some is :=
  itemsUpTo_encode h (length_le_flatMap_encode is)

/-! ## The machine -/

/-- A hash, the signature checks for the spending input (the signature comes first), the lock time
of the spending transaction and the sequence of the input. -/
structure Context where
  hash160 : List UInt8 → List UInt8
  checkSig : List UInt8 → List UInt8 → Bool
  lockTime : ℕ
  sequence : ℕ

abbrev Stack := List (List UInt8)

/-- The operations on the stack. -/
inductive Op where
  | push (data : List UInt8)
  | drop
  | size
  | equal
  | equalVerify
  | hash160
  | checkSig
  | checkSigVerify
  | checkLockTimeVerify
  deriving DecidableEq

/-- The opcodes of a script: operations and the marks of its conditionals. -/
inductive Token where
  | op (o : Op)
  | openIf
  | orElse
  | endIf
  deriving DecidableEq

/-- What an item pushes. -/
def Item.pushed (i : Item) : Option (List UInt8) :=
  if i.code ≤ 0x4e then some i.data
  else if i.code = 0x4f then some [0x81]
  else if i.code = 0x50 then none
  else some [i.code - 0x50]

/-- What an opcode that is not a push means. The machine knows no others. -/
def operation : UInt8 → Option Token
  | 0x63 => some .openIf
  | 0x67 => some .orElse
  | 0x68 => some .endIf
  | 0x75 => some (.op .drop)
  | 0x82 => some (.op .size)
  | 0x87 => some (.op .equal)
  | 0x88 => some (.op .equalVerify)
  | 0xa9 => some (.op .hash160)
  | 0xac => some (.op .checkSig)
  | 0xad => some (.op .checkSigVerify)
  | 0xb1 => some (.op .checkLockTimeVerify)
  | _ => none

/-- What an item means. -/
def Item.token (i : Item) : Option Token :=
  if i.code ≤ 0x60 then i.pushed.map fun x => .op (.push x) else operation i.code

theorem Item.token_of_le (h : i.code ≤ 0x4e) : i.token = some (.op (.push i.data)) := by
  rw [Item.token, if_pos (UInt8.le_trans h (by decide)), Item.pushed, if_pos h, Option.map_some]

/-- What the items mean, one by one. -/
theorem forall₂_of_mapM_token {ts : List Token} (h : is.mapM Item.token = some ts) :
    List.Forall₂ (fun i t => i.token = some t) is ts := by
  induction is generalizing ts with
  | nil =>
    obtain rfl : [] = ts := Option.some.inj h
    exact .nil
  | cons i is ih =>
    simp only [mapM_cons, Option.bind_eq_bind, Option.bind_eq_some_iff, Option.pure_def,
      Option.some.injEq] at h
    obtain ⟨t, ht, us, hus, rfl⟩ := h
    exact .cons ht (ih hus)

theorem Item.code_le_of_token_push {x : List UInt8} (h : i.token = some (.op (.push x))) :
    i.code ≤ 0x60 := by
  unfold Item.token at h
  split_ifs at h with hps
  · exact hps
  · unfold operation at h
    split at h <;> simp at h

/-- Bytes are true unless they are a zero of either sign. -/
def truth : List UInt8 → Bool
  | [] => false
  | [b] => b != 0 && b != 0x80
  | b :: bs => b != 0 || truth bs

/-- The bytes that stand for a truth value. -/
def ofTruth (b : Bool) : List UInt8 := if b then [1] else []

@[simp]
theorem truth_ofTruth (b : Bool) : truth (ofTruth b) = b := by cases b <;> rfl

/-- The shortest bytes of a number: the lowest byte first, with room for the sign. -/
def ofNumber (n : ℕ) : List UInt8 :=
  if n = 0 then [] else if n < 0x80 then [.ofNat n]
  else .ofNat n :: if n < 0x100 then [0] else ofNumber (n / 0x100)

/-- The number that the bytes stand for: the highest bit is its sign. -/
def toNumber (bytes : List UInt8) : ℤ :=
  if 2 * ofLeBytes bytes < (2 ^ 8) ^ bytes.length then ofLeBytes bytes
  else (2 ^ 8) ^ bytes.length / 2 - ofLeBytes bytes

/-- `LOCKTIME_THRESHOLD`: lock times below are heights, the others are times. -/
def lockTimeThreshold : ℕ := 500000000

variable (c : Context)

/-- A lock time of the script has passed for the spending transaction. -/
def Context.Passed (lock : ℕ) : Prop :=
  (lock < lockTimeThreshold ↔ c.lockTime < lockTimeThreshold) ∧ lock ≤ c.lockTime ∧
    c.sequence ≠ 0xffffffff

instance (c : Context) (lock : ℕ) : Decidable (c.Passed lock) :=
  inferInstanceAs (Decidable (_ ∧ _ ∧ _))

/-- The stack holds at most a thousand elements. -/
def grow (x : List UInt8) (stack : Stack) : Option Stack :=
  if stack.length < 1000 then some (x :: stack) else none

/-- What an operation does to the stack. -/
def Op.act : Op → Stack → Option Stack
  | .push data, stack => grow data stack
  | .drop, _ :: stack => some stack
  | .size, x :: stack => grow (ofNumber x.length) (x :: stack)
  | .equal, x :: y :: stack => some (ofTruth (x = y) :: stack)
  | .equalVerify, x :: y :: stack => if x = y then some stack else none
  | .hash160, x :: stack => some (c.hash160 x :: stack)
  | .checkSig, key :: sig :: stack => some (ofTruth (c.checkSig sig key) :: stack)
  | .checkSigVerify, key :: sig :: stack => if c.checkSig sig key then some stack else none
  | .checkLockTimeVerify, x :: stack =>
    if x.length ≤ 5 ∧ 0 ≤ toNumber x ∧ c.Passed (toNumber x).toNat then some (x :: stack) else none
  | _, _ => none

/-- The stack, the open conditionals (the innermost first) with whether their current branch is the
one taken, and what the conditions that were met have said. -/
structure Machine where
  stack : Stack
  branches : List Bool
  choices : List Bool

variable (m : Machine)

/-- Every open conditional is in the branch taken. -/
def Machine.active : Bool := m.branches.all id

/-- One opcode. What stands in a branch not taken is skipped, apart from the marks. -/
def Machine.step : Token → Option Machine
  | .op o => if m.active then (o.act c m.stack).map ({ m with stack := · }) else some m
  | .openIf =>
    if m.active then m.stack.head?.map fun x =>
      ⟨m.stack.tail, truth x :: m.branches, m.choices ++ [truth x]⟩
    else some { m with branches := false :: m.branches }
  | .orElse => m.branches.head?.map fun b => { m with branches := (!b) :: m.branches.tail }
  | .endIf => m.branches.head?.map fun _ => { m with branches := m.branches.tail }

/-- A run over the opcodes. -/
def Machine.run (tokens : List Token) : Option Machine := tokens.foldlM (Machine.step c) m

@[simp]
theorem Machine.run_nil : m.run c [] = some m := rfl

@[simp]
theorem Machine.run_cons (t : Token) (ts : List Token) :
    m.run c (t :: ts) = (m.step c t).bind (·.run c ts) := by
  rw [run, foldlM_cons]
  rfl

section marks

variable (c : Context) (s : Stack) (b : Bool) (bs l : List Bool) (ts : List Token)

theorem Machine.run_orElse :
    Machine.run c ⟨s, b :: bs, l⟩ (.orElse :: ts) = Machine.run c ⟨s, (!b) :: bs, l⟩ ts := rfl

theorem Machine.run_endIf :
    Machine.run c ⟨s, b :: bs, l⟩ (.endIf :: ts) = Machine.run c ⟨s, bs, l⟩ ts := rfl

end marks

/-! ## Nested branches -/

/-- A script whose conditionals are closed. -/
inductive Tree where
  | done
  | op (o : Op) (rest : Tree)
  | branch (yes no rest : Tree)

namespace Tree

/-- The opcodes of the script. -/
def flatten : Tree → List Token
  | done => []
  | op o rest => .op o :: rest.flatten
  | branch yes no rest =>
    .openIf :: (yes.flatten ++ .orElse :: (no.flatten ++ .endIf :: rest.flatten))

/-- The stack that the script leaves, and the choices made on the way. -/
def exec (c : Context) : Tree → Stack → Option (Stack × List Bool)
  | done, stack => some (stack, [])
  | op o rest, stack => (o.act c stack).bind (rest.exec c)
  | branch yes no rest, stack =>
    stack.head?.bind fun x =>
      (bif truth x then yes.exec c stack.tail else no.exec c stack.tail).bind fun r =>
        (rest.exec c r.1).map fun final => (final.1, truth x :: (r.2 ++ final.2))

variable {c : Context}

variable {m : Machine} {o : Op} {s : Stack} {key : List UInt8}

/-- In a branch that is not taken nothing is executed. -/
theorem run_skip (t : Tree) (h : m.active = false) (ts : List Token) :
    m.run c (t.flatten ++ ts) = m.run c ts := by
  induction t generalizing m ts with
  | done => rfl
  | op o rest ih =>
    rw [flatten, cons_append, Machine.run_cons, Machine.step, h]
    exact ih h ts
  | branch yes no rest ihYes ihNo ihRest =>
    -- whatever the branch in between, the enclosing one is not taken
    obtain ⟨stack, branches, choices⟩ := m
    have hin (b : Bool) : Machine.active ⟨stack, b :: branches, choices⟩ = false := by
      rw [Machine.active, all_cons]
      rw [Machine.active] at h
      rw [h, Bool.and_false]
    simp only [flatten, cons_append, append_assoc, Machine.run_cons, Machine.step, h]
    simp only [Bool.false_eq_true, if_false, Option.bind_some]
    rw [ihYes (hin false), Machine.run_orElse, ihNo (hin _), Machine.run_endIf]
    exact ihRest h ts

/-- The machine runs a tree's opcodes as the tree says, whatever follows. -/
theorem run_flatten (t : Tree) (h : m.active = true) (ts : List Token) :
    m.run c (t.flatten ++ ts) = (t.exec c m.stack).bind fun r =>
      Machine.run c ⟨r.1, m.branches, m.choices ++ r.2⟩ ts := by
  induction t generalizing m ts with
  | done => simp [flatten, exec]
  | op o rest ih =>
    rw [flatten, cons_append, Machine.run_cons, Machine.step, if_pos h, exec]
    cases hact : o.act c m.stack with
    | none => rfl
    | some stack => exact ih (m := { m with stack := stack }) h ts
  | branch yes no rest ihYes ihNo ihRest =>
    obtain ⟨stack, branches, choices⟩ := m
    have hin (s : Stack) (b : Bool) (l : List Bool) : Machine.active ⟨s, b :: branches, l⟩ = b := by
      rw [Machine.active, all_cons]
      rw [Machine.active] at h
      rw [h, Bool.and_true, id]
    have hot (s : Stack) (l : List Bool) : Machine.active ⟨s, branches, l⟩ = true := h
    cases stack with
    | nil => simp [flatten, exec, Machine.step, h]
    | cons x stack =>
      simp only [flatten, cons_append, append_assoc, Machine.run_cons, Machine.step, h,
        if_true, head?_cons, Option.map_some, Option.bind_some, tail_cons, exec]
      cases hx : truth x with
      | true =>
        -- after the branch taken, the other one is skipped
        rw [ihYes (hin stack true _), cond_true, Option.bind_assoc]
        refine Option.bind_congr fun r _ => ?_
        rw [Machine.run_orElse, Bool.not_true, run_skip no (hin _ _ _), Machine.run_endIf,
          ihRest (hot _ _), Option.bind_map]
        simp only [Function.comp_def, append_assoc, cons_append, nil_append]
      | false =>
        rw [run_skip yes (hin stack false _), cond_false, Machine.run_orElse,
          Bool.not_false, ihNo (hin _ true _), Option.bind_assoc]
        refine Option.bind_congr fun r _ => ?_
        rw [Machine.run_endIf, ihRest (hot _ _), Option.bind_map]
        simp only [Function.comp_def, append_assoc, cons_append, nil_append]

/-- The script ends with a true top, with these choices made on the way. -/
def Accepts (c : Context) (t : Tree) (stack : Stack) (choices : List Bool) : Prop :=
  ∃ top rest, t.exec c stack = some (top :: rest, choices) ∧ truth top = true

variable {stack : Stack} {choices : List Bool} {t : Tree}

theorem accepts_op :
    (op o t).Accepts c stack choices ↔ ∃ s, o.act c stack = some s ∧ t.Accepts c s choices := by
  simp only [Accepts, exec, Option.bind_eq_some_iff]
  constructor
  · rintro ⟨top, rest, ⟨s, hact, hexec⟩, htop⟩
    exact ⟨s, hact, top, rest, hexec, htop⟩
  · rintro ⟨s, hact, top, rest, hexec, htop⟩
    exact ⟨top, rest, ⟨s, hact, hexec⟩, htop⟩

/-- A conditional at the end of a script: the top of the stack says which branch is run. -/
theorem accepts_branch {yes no : Tree} :
    (branch yes no done).Accepts c stack choices ↔ ∃ x s l, stack = x :: s ∧
      choices = truth x :: l ∧ (bif truth x then yes else no).Accepts c s l := by
  cases stack with
  | nil => simp [Accepts, exec]
  | cons x s =>
    have hexec : (branch yes no done).exec c (x :: s) =
        ((bif truth x then yes else no).exec c s).map fun r => (r.1, truth x :: r.2) := by
      cases hx : truth x <;> simp only [exec, head?_cons, tail_cons, Option.bind_some, hx,
        cond_true, cond_false, Option.map_eq_bind, Function.comp_def, append_nil]
    simp only [Accepts, hexec, Option.map_eq_some_iff, Prod.mk.injEq, List.cons.injEq]
    constructor
    · rintro ⟨top, rest, ⟨⟨_, l⟩, hrun, rfl, rfl⟩, htop⟩
      exact ⟨x, s, l, ⟨rfl, rfl⟩, rfl, top, rest, hrun, htop⟩
    · rintro ⟨_, _, l, ⟨rfl, rfl⟩, rfl, top, rest, hrun, htop⟩
      exact ⟨top, rest, ⟨_, hrun, rfl, rfl⟩, htop⟩

/-! ### Clauses -/

theorem accepts_op_some (h : o.act c stack = some s) :
    (op o t).Accepts c stack choices ↔ t.Accepts c s choices := by
  rw [accepts_op, h]
  simp only [Option.some.injEq, exists_eq_left']

theorem accepts_op_ite {p : Prop} [Decidable p] (h : o.act c stack = if p then some s else none) :
    (op o t).Accepts c stack choices ↔ p ∧ t.Accepts c s choices := by
  rw [accepts_op, h]
  simp only [Option.ite_none_right_eq_some, Option.some.injEq, and_assoc, exists_and_left,
    exists_eq_left']

variable {x y : List UInt8}

theorem accepts_push : (op (.push x) t).Accepts c stack choices ↔
    stack.length < 1000 ∧ t.Accepts c (x :: stack) choices :=
  accepts_op_ite rfl

theorem accepts_drop : (op .drop t).Accepts c (x :: stack) choices ↔ t.Accepts c stack choices :=
  accepts_op_some rfl

theorem accepts_size : (op .size t).Accepts c (x :: stack) choices ↔
    stack.length + 1 < 1000 ∧ t.Accepts c (ofNumber x.length :: x :: stack) choices :=
  accepts_op_ite rfl

theorem accepts_equalVerify : (op .equalVerify t).Accepts c (x :: y :: stack) choices ↔
    x = y ∧ t.Accepts c stack choices :=
  accepts_op_ite rfl

theorem accepts_hash160 : (op .hash160 t).Accepts c (x :: stack) choices ↔
    t.Accepts c (c.hash160 x :: stack) choices :=
  accepts_op_some rfl

theorem accepts_checkSigVerify : (op .checkSigVerify t).Accepts c (x :: y :: stack) choices ↔
    c.checkSig y x = true ∧ t.Accepts c stack choices :=
  accepts_op_ite rfl

theorem accepts_checkLockTimeVerify :
    (op .checkLockTimeVerify t).Accepts c (x :: stack) choices ↔
      (x.length ≤ 5 ∧ 0 ≤ toNumber x ∧ c.Passed (toNumber x).toNat) ∧
        t.Accepts c (x :: stack) choices :=
  accepts_op_ite rfl

theorem accepts_checkSig_done : (op .checkSig done).Accepts c (x :: y :: stack) choices ↔
    c.checkSig y x = true ∧ choices = [] := by
  rw [accepts_op_some rfl]
  simp only [Accepts, exec, Option.some.injEq, Prod.mk.injEq, List.cons.injEq]
  constructor
  · rintro ⟨_, _, ⟨⟨rfl, rfl⟩, hdn⟩, htop⟩
    exact ⟨by rwa [truth_ofTruth] at htop, hdn.symm⟩
  · rintro ⟨hsig, rfl⟩
    exact ⟨_, _, ⟨⟨rfl, rfl⟩, rfl⟩, by rw [truth_ofTruth, hsig]⟩

/-- A signature by the key comes next. -/
def checkedBy (key : List UInt8) (rest : Tree) : Tree := op (.push key) (op .checkSigVerify rest)

/-- A signature by the key is the last that is asked for. -/
def signedBy (key : List UInt8) : Tree := op (.push key) (op .checkSig done)

/-- The lock time must have passed. -/
def lockedUntil (lock : List UInt8) (rest : Tree) : Tree :=
  op (.push lock) (op .checkLockTimeVerify (op .drop rest))

/-- The preimage of the hash, of 32 bytes, comes next. -/
def lockedBy (hash : List UInt8) (rest : Tree) : Tree :=
  op .size (op (.push [32])
    (op .equalVerify (op .hash160 (op (.push hash) (op .equalVerify rest)))))

theorem accepts_checkedBy :
    (checkedBy key t).Accepts c stack choices ↔ ∃ sig s, stack = sig :: s ∧
      s.length + 1 < 1000 ∧ c.checkSig sig key = true ∧ t.Accepts c s choices := by
  cases stack with
  | nil => simp [checkedBy, accepts_op, Op.act, grow]
  | cons sig s =>
    rw [checkedBy, accepts_push, accepts_checkSigVerify]
    simp only [List.cons.injEq, length_cons, and_assoc, exists_and_left, exists_eq_left']

theorem accepts_signedBy :
    (signedBy key).Accepts c stack choices ↔ ∃ sig s, stack = sig :: s ∧
      s.length + 1 < 1000 ∧ c.checkSig sig key = true ∧ choices = [] := by
  cases stack with
  | nil => simp [signedBy, accepts_op, Op.act, grow]
  | cons sig s =>
    rw [signedBy, accepts_push, accepts_checkSig_done]
    simp only [List.cons.injEq, length_cons, and_assoc, exists_and_left, exists_eq_left']

theorem accepts_lockedUntil {lock : List UInt8} :
    (lockedUntil lock t).Accepts c stack choices ↔ stack.length < 1000 ∧
      (lock.length ≤ 5 ∧ 0 ≤ toNumber lock ∧ c.Passed (toNumber lock).toNat) ∧
        t.Accepts c stack choices := by
  rw [lockedUntil, accepts_push, accepts_checkLockTimeVerify, accepts_drop]

theorem ofNumber_eq_32 : ofNumber n = [32] ↔ n = 32 := by
  rw [ofNumber]
  split_ifs with hz hsh hby
  · simp [hz]
  · rw [singleton_inj, ← UInt8.toNat_inj, UInt8.toNat_ofNat']
    show n % 2 ^ 8 = 32 ↔ n = 32
    omega
  · simp only [List.cons.injEq, reduceCtorEq, and_false, false_iff]
    omega
  · have hmr : ofNumber (n / 256) ≠ [] := by
      rw [ofNumber, if_neg (by omega)]
      split_ifs <;> simp
    simp only [List.cons.injEq, hmr, and_false, false_iff]
    omega

theorem accepts_lockedBy {hash : List UInt8} :
    (lockedBy hash t).Accepts c stack choices ↔ ∃ x s, stack = x :: s ∧ s.length + 2 < 1000 ∧
      x.length = 32 ∧ c.hash160 x = hash ∧ t.Accepts c s choices := by
  cases stack with
  | nil => simp [lockedBy, accepts_op, Op.act]
  | cons x s =>
    rw [lockedBy, accepts_size, accepts_push, accepts_equalVerify, accepts_hash160, accepts_push,
      accepts_equalVerify, eq_comm, ofNumber_eq_32, eq_comm (a := hash)]
    simp only [length_cons, List.cons.injEq]
    constructor
    · rintro ⟨-, hrm, hsz, -, hhs, h⟩
      exact ⟨x, s, ⟨rfl, rfl⟩, hrm, hsz, hhs, h⟩
    · rintro ⟨_, _, ⟨rfl, rfl⟩, hrm, hsz, hhs, h⟩
      exact ⟨by omega, hrm, hsz, by omega, hhs, h⟩

end Tree

/-! ## Scripts and outputs -/

variable (script : List UInt8)

/-- The limits on a script: its size, the size of what it pushes and the count of its operations.
They hold for branches not taken too. -/
def InLimits (is : List Item) : Prop :=
  script.length ≤ 10000 ∧ (∀ i ∈ is, i.data.length ≤ 520) ∧ is.countP (fun i => 0x60 < i.code) ≤ 201

instance (script : List UInt8) (is : List Item) : Decidable (InLimits script is) :=
  inferInstanceAs (Decidable (_ ∧ _ ∧ _))

/-- The stack that a script leaves, and the choices made on the way. -/
def eval (c : Context) (script : List UInt8) (stack : Stack) : Option (Stack × List Bool) := do
  let is ← items script
  guard (InLimits script is)
  let m ← Machine.run c ⟨stack, [], []⟩ (← is.mapM Item.token)
  guard (m.branches = [])
  return (m.stack, m.choices)

/-- The last push of the input is a script with the hash that is paid to, which ends with a true
top on what the other pushes have left. Gives that script and the choices made in it. -/
def spendP2sh (c : Context) (scriptSig scriptHash : List UInt8) :
    Option (List UInt8 × List Bool) := do
  guard (∀ i ∈ ← items scriptSig, i.code ≤ 0x60)
  let (stack, _) ← eval c scriptSig []
  let redeem ← stack.head?
  guard (c.hash160 redeem = scriptHash)
  let (final, choices) ← eval c redeem stack.tail
  guard (truth (← final.head?))
  return (redeem, choices)

/-- The script is the one of the tree. -/
def Spells (t : Tree) : Prop :=
  ∃ is, items script = some is ∧ InLimits script is ∧ is.mapM Item.token = some t.flatten

/-- The script pushes these bytes one after the other. -/
def Tree.pushing : List (List UInt8) → Tree
  | [] => .done
  | v :: vs => .op (.push v) (pushing vs)

theorem Tree.flatten_pushing_append (vs ws : List (List UInt8)) :
    (pushing (vs ++ ws)).flatten = (pushing vs).flatten ++ (pushing ws).flatten := by
  induction vs with
  | nil => rfl
  | cons v vs ih => rw [cons_append, pushing, flatten, ih, pushing, flatten, cons_append]

/-- The script does nothing but push these bytes. -/
def Pushes (vs : List (List UInt8)) : Prop :=
  ∃ is, items script = some is ∧ (∀ i ∈ is, i.code ≤ 0x60) ∧ InLimits script is ∧
    is.mapM Item.token = some (Tree.pushing vs).flatten

/-- An input spends the output that pays to a script, with these choices made in the script. -/
def Spends (c : Context) (scriptSig redeem : List UInt8) (choices : List Bool) : Prop :=
  spendP2sh c scriptSig (c.hash160 redeem) = some (redeem, choices)

variable {c : Context} {script scriptSig redeem : List UInt8} {t : Tree}
  {vs : List (List UInt8)} {choices : List Bool}

theorem Spells.eval_eq (h : Spells script t) (stack : Stack) :
    eval c script stack = t.exec c stack := by
  obtain ⟨is, his, hlm, htok⟩ := h
  have hrun := t.run_flatten (c := c) (m := ⟨stack, [], []⟩) rfl []
  rw [append_nil] at hrun
  simp only [eval, his, htok, hlm, hrun, guard, if_true, Option.bind_eq_bind,
    Option.bind_some, Option.pure_def, Machine.run_nil, nil_append]
  rw [Option.bind_assoc]
  exact Option.bind_fun_some _

theorem Tree.exec_pushing (stack : Stack) (h : vs.length + stack.length ≤ 1000) :
    (pushing vs).exec c stack = some (vs.reverse ++ stack, []) := by
  induction vs generalizing stack with
  | nil => rfl
  | cons v vs ih =>
    rw [length_cons] at h
    rw [pushing, exec, Op.act, grow, if_pos (by omega), Option.bind_some,
      ih (v :: stack) (by rw [length_cons]; omega), reverse_cons, append_assoc]
    rfl

section

variable {last : List UInt8} (hsig : Pushes scriptSig (vs ++ [last])) (hrm : vs.length < 1000)

include hsig hrm

theorem Pushes.eval_eq : eval c scriptSig [] = some (last :: vs.reverse, []) := by
  obtain ⟨is, his, -, hlm, htok⟩ := hsig
  rw [Spells.eval_eq ⟨is, his, hlm, htok⟩, Tree.exec_pushing]
  · rw [reverse_append, append_nil]
    rfl
  · rw [length_append, length_singleton, length_nil]
    omega

/-- The script that an input spends is what it pushes last. -/
theorem Spends.redeem_eq (h : Spends c scriptSig redeem choices) : redeem = last := by
  simp only [Spends, spendP2sh, hsig.eval_eq hrm, guard, Option.bind_eq_bind,
    Option.bind_eq_some_iff] at h
  obtain ⟨_, -, _, -, _, ⟨⟩, _, ⟨⟩, _, -, _, -, _, -, _, -, hend⟩ := h
  exact (congrArg Prod.fst (Option.some.inj hend)).symm

end

/-- An input that pushes the script last spends exactly if the script accepts the other pushes. -/
theorem spends_iff (hsig : Pushes scriptSig (vs ++ [redeem])) (hrm : vs.length < 1000)
    (hrd : Spells redeem t) :
    Spends c scriptSig redeem choices ↔ t.Accepts c vs.reverse choices := by
  have hst := hsig.eval_eq (c := c) hrm
  obtain ⟨is, his, hcd, -⟩ := hsig
  rw [Spends, spendP2sh, his, hst, Option.bind_eq_bind, Option.bind_some, guard, if_pos hcd]
  simp only [Option.pure_def, Option.bind_eq_bind, Option.bind_some, head?_cons,
    tail_cons, hrd.eval_eq, guard, if_true, Option.bind_eq_some_iff]
  constructor
  · rintro ⟨⟨final, l⟩, hexec, top, htop, _, htr, hend⟩
    cases final with
    | nil => cases htop
    | cons top' rest =>
      obtain rfl : top' = top := Option.some.inj htop
      obtain rfl : l = choices := by injection hend with hend; injection hend
      exact ⟨top', rest, hexec, by simpa using htr⟩
  · rintro ⟨top, rest, hexec, htr⟩
    exact ⟨_, hexec, top, rfl, (), by simp [htr], rfl⟩

end CheetahDex.Lib.BitcoinScript
