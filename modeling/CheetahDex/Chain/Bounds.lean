import CheetahDex.Chain.TransactionWire

/-!
# The memory that reading takes

Where the reader checks a length before it requests memory for it, what it requests is paid by the
bytes that it reads. All parts of a transaction but the string at its end are read so.
-/

namespace CheetahDex.Chain

open Lib Lib.Decoder Nat

/-- A decoder that pays for what it requests, and reads something. -/
structure Paying {α : Type} (fixed rate : ℕ) (d : Decoder α) : Prop where
  bounded : Bounded fixed rate d
  consumes : Consumes 1 d

section combine

variable {α β : Type} {fixed rate : ℕ} {d : Decoder α} {f : α → Decoder β}

theorem Paying.bind (hd : Paying fixed rate d) (hf : ∀ a, Bounded fixed rate (f a)) :
    Paying fixed rate (d >>= f) where
  bounded := hd.bounded.bind hf
  consumes := hd.consumes.bind fun a => (hf a).shrinks

theorem Paying.map {f : α → β} (hd : Paying fixed rate d) : Paying fixed rate (do return f (← d)) :=
  hd.bind fun _ => bounded_pure _

end combine

/-! ## Integers and hashes -/

section integers

variable {fixed rate : ℕ}

theorem paying_readSlice {n : ℕ} (h : 0 < n) : Paying fixed rate (readSlice n) where
  bounded := bounded_next _ n
  consumes := consumes_next.mono h

theorem paying_uint8 : Paying fixed rate (read : Decoder UInt8) :=
  (paying_readSlice one_pos).map.map

theorem paying_uint16 : Paying fixed rate (read : Decoder UInt16) :=
  (paying_readSlice two_pos).map.map

theorem paying_uint32 : Paying fixed rate (read : Decoder UInt32) :=
  (paying_readSlice (succ_pos 3)).map.map

theorem paying_uint64 : Paying fixed rate (read : Decoder UInt64) :=
  (paying_readSlice (succ_pos 7)).map.map

theorem paying_int32 : Paying fixed rate (read : Decoder Int32) := paying_uint32.map

theorem paying_int64 : Paying fixed rate (read : Decoder Int64) := paying_uint64.map

theorem paying_vector {n : ℕ} [NeZero n] : Paying fixed rate (read : Decoder (Vector UInt8 n)) :=
  (paying_readSlice (pos_of_neZero n)).map

theorem paying_compactInteger : Paying fixed rate (read : Decoder CompactInteger) :=
  paying_uint8.bind fun _ => .ite (bounded_pure _) (.ite paying_uint16.map.bounded
    (.ite paying_uint32.map.bounded paying_uint64.map.bounded))

end integers

/-! ## Byte strings and lists -/

section counted

variable {α : Type} {fixed rate max size : ℕ} {body : ℕ → Decoder α}

/-- A length that is checked before memory is requested for it. -/
theorem paying_countedMax (hsz : max * size ≤ isizeMax)
    (hbd : ∀ n, Bounded fixed rate (body n)) (hln : ∀ n, Consumes n (body n)) :
    Paying (fixed + max * size) (rate + size) (do
      let len ← (read : Decoder CompactInteger)
      if max < len.asUsize then fail .malformedData
      else do
        allocate len.asUsize size
        body len.asUsize) := by
  refine paying_compactInteger.bind fun len => ?_
  split
  · exact bounded_fail _
  · next hle =>
    have hle := Nat.mul_le_mul_right size (Nat.le_of_not_lt hle)
    have hft : ¬isizeMax < len.asUsize * size := not_lt.mpr (hle.trans hsz)
    unfold allocate
    rw [if_neg hft]
    exact ((hbd _).request_then (hln _) size).mono (Nat.add_le_add_left hle fixed) le_rfl

theorem paying_bytes : Paying bytesDecodeLimit 1 (read : Decoder Bytes) := by
  have h : Paying (0 + bytesDecodeLimit * 1) (0 + 1) (read : Decoder Bytes) :=
    paying_countedMax (by decide) (fun n => bounded_next _ n) fun n => consumes_next
  exact h

end counted

/-! ## Transactions -/

theorem paying_outPoint {fixed rate : ℕ} : Paying fixed rate (read : Decoder OutPoint) :=
  paying_vector.bind fun _ => paying_uint32.map.bounded

theorem paying_transactionInput : Paying bytesDecodeLimit 1 (read : Decoder TransactionInput) :=
  paying_outPoint.bind fun _ => paying_bytes.bounded.bind fun _ => paying_uint32.map.bounded

theorem paying_transactionOutput : Paying bytesDecodeLimit 1 (read : Decoder TransactionOutput) :=
  paying_uint64.bind fun _ => paying_bytes.map.bounded

section shielded

variable {fixed rate : ℕ}

theorem paying_shieldedSpend : Paying fixed rate (read : Decoder ShieldedSpend) :=
  paying_vector.bind fun _ => paying_vector.bounded.bind fun _ => paying_vector.bounded.bind
    fun _ => paying_vector.bounded.bind fun _ => paying_vector.bounded.bind
    fun _ => paying_vector.map.bounded

theorem paying_shieldedOutput : Paying fixed rate (read : Decoder ShieldedOutput) :=
  paying_vector.bind fun _ => paying_vector.bounded.bind fun _ => paying_vector.bounded.bind
    fun _ => paying_vector.bounded.bind fun _ => paying_vector.bounded.bind
    fun _ => paying_vector.map.bounded

theorem paying_joinSplit (useGroth : Bool) : Paying fixed rate (deserializeJoinSplit useGroth) := by
  have hpf : Bounded fixed rate (readJoinSplitProof useGroth) :=
    .ite paying_vector.map.bounded paying_vector.map.bounded
  refine paying_vector.bind fun _ => ?_
  iterate 10 refine paying_vector.bounded.bind fun _ => ?_
  refine hpf.bind fun _ => ?_
  iterate 2 refine paying_vector.bounded.bind fun _ => ?_
  exact bounded_pure _

end shielded

/-- What a failing part of a transaction may have requested at most. -/
def fieldsFixed : ℕ := 2 ^ 23

/-- What a part of a transaction requests at most for each byte. -/
def fieldsRate : ℕ := 2 ^ 13

theorem bounded_list {α : Type} [Deserializable α] {fixed rate : ℕ}
    (h : Paying fixed rate (read : Decoder α))
    (hfix : fixed + maxListSize * Deserializable.size α ≤ fieldsFixed)
    (hrt : rate + Deserializable.size α ≤ fieldsRate) :
    Bounded fieldsFixed fieldsRate (readListMax α maxListSize) := by
  have hsz : maxListSize * Deserializable.size α ≤ isizeMax :=
    (le_add_left _ _).trans (hfix.trans (by decide))
  have hmn (n : ℕ) : Bounded fixed rate (many (read : Decoder α) n) := h.bounded.many
  refine (paying_countedMax hsz hmn fun n => ?_).bounded.mono hfix hrt
  have hln : Consumes (n * 1) (many (read : Decoder α) n) := consumes_many h.consumes
  rwa [mul_one] at hln

theorem bounded_inputs : Bounded fieldsFixed fieldsRate
    (readListMax TransactionInput maxListSize) :=
  bounded_list paying_transactionInput (by decide) (by decide)

variable (txType : TxType) (overwintered : Bool)

theorem bounded_readInputs : Bounded fieldsFixed fieldsRate (readInputs txType overwintered) :=
  bounded_inputs.bind fun _ => .ite (paying_uint8.bounded.bind fun _ =>
    .ite (bounded_fail _) (bounded_inputs.bind fun _ => bounded_pure _)) (bounded_pure _)

theorem bounded_readOutputs : Bounded fieldsFixed fieldsRate (readOutputs txType) :=
  (bounded_list paying_transactionOutput (by decide) (by decide)).bind fun _ =>
    .ite (bounded_fail _) (bounded_pure _)

theorem bounded_readWitnesses (inputs : List TransactionInput) :
    Bounded fieldsFixed fieldsRate (readWitnesses inputs) := by
  induction inputs with
  | nil => exact bounded_pure _
  | cons input inputs ih =>
    exact (bounded_list paying_bytes (by decide) (by decide)).bind fun _ => ih.bind fun _ =>
      bounded_pure _

theorem bounded_readShielded (version : Int32) :
    Bounded fieldsFixed fieldsRate (readShielded overwintered version) := by
  have hspd : Bounded fieldsFixed fieldsRate (readListMax ShieldedSpend maxListSize) :=
    bounded_list (paying_shieldedSpend : Paying 0 0 _) (by decide) (by decide)
  have hot : Bounded fieldsFixed fieldsRate (readListMax ShieldedOutput maxListSize) :=
    bounded_list (paying_shieldedOutput : Paying 0 0 _) (by decide) (by decide)
  exact .ite (paying_uint32.bounded.bind fun _ => .ite (paying_int64.bounded.bind fun _ =>
    hspd.bind fun _ => hot.bind fun _ => bounded_pure _) (bounded_pure _)) (bounded_pure _)

theorem bounded_readJoinSplits (hasJoinSplits : Bool) (version : Int32) :
    Bounded fieldsFixed fieldsRate (readJoinSplits hasJoinSplits version) := by
  have hone : ∀ useGroth, Bounded fieldsFixed fieldsRate (readJoinSplit useGroth) := by
    intro useGroth
    have h : Paying 0 0 (deserializeJoinSplit useGroth) := paying_joinSplit useGroth
    exact (h.bounded.then_request h.consumes _).mono (by decide) (by decide)
  exact .ite (paying_compactInteger.bounded.bind fun _ => .ite (.ite (bounded_fail _)
    ((hone _).many.bind fun _ => paying_vector.bounded.bind fun _ => paying_vector.bounded.bind
      fun _ => bounded_pure _)) (bounded_pure _)) (bounded_pure _)

/-- All parts but the string are paid by the bytes they are read from. -/
theorem bounded_readFields : Bounded fieldsFixed fieldsRate (readFields txType) := by
  have hver : Bounded fieldsFixed fieldsRate readVersion :=
    paying_int32.bounded.bind fun _ => .ite (paying_uint32.bounded.bind fun _ => bounded_pure _)
      (bounded_pure _)
  have hnt : Bounded fieldsFixed fieldsRate (readNTime txType) :=
    .ite (paying_uint32.bounded.bind fun _ => bounded_pure _) (bounded_pure _)
  have hcm : ∀ readWitness inputs,
      Bounded fieldsFixed fieldsRate (completeInputs readWitness inputs) :=
    fun _ inputs => .ite (bounded_readWitnesses inputs) (bounded_pure _)
  have hbn : ∀ hasBindingSig, Bounded fieldsFixed fieldsRate (readBindingSig hasBindingSig) :=
    fun _ => .ite paying_vector.bounded (bounded_pure _)
  exact hver.bind fun _ => hnt.bind fun _ => (bounded_readInputs _ _).bind fun _ =>
    (bounded_readOutputs _).bind fun _ => (hcm _ _).bind fun _ => paying_uint32.bounded.bind
    fun _ => (bounded_readShielded _ _).bind fun _ => (bounded_readJoinSplits _ _).bind fun _ =>
    (hbn _).bind fun _ => bounded_pure _

end CheetahDex.Chain
