import CheetahDex.Chain.Bounds

/-!
# Reading a transaction of an unknown kind

The three kinds are tried in a fixed order, and the first one whose reader takes a front part of the
bytes wins.
-/

namespace CheetahDex.Chain

open Lib Lib.Decoder List
open CompactInteger (Spelling Shortest)

variable {env : CoinVariant} {input rest : Bytes}

/-! ## What is written -/

theorem spell_versionText (version : Int32) (overwintered : Bool) (group : UInt32) :
    spell serialize (versionText version overwintered group) =
      serialize (if overwintered then version ||| (1 : Int32) <<< (31 : Int32) else version) ++
      (if overwintered then serialize group else []) := by
  unfold versionText
  cases overwintered <;> simp

theorem spell_nTimeText (nTime : Option UInt32) :
    spell serialize (nTimeText nTime) = serializeSome nTime := by
  cases nTime <;> simp [nTimeText, serializeSome]

theorem spell_shieldedText (overwintered : Bool) (version : Int32) (expiryHeight : UInt32)
    (valueBalance : Int64) (spends : List ShieldedSpend) (outputs : List ShieldedOutput) :
    spell serialize (shieldedText overwintered version expiryHeight valueBalance spends outputs) =
      if overwintered ∧ 3 ≤ version then
        serialize expiryHeight ++
        (if 4 ≤ version then serialize valueBalance ++ serializeList spends ++ serializeList outputs
        else [])
      else [] := by
  unfold shieldedText
  split_ifs <;> simp [serializeList_eq]

theorem spell_joinSplitListText (joinSplits : List JoinSplit) :
    spell serialize (joinSplitListText joinSplits) = serializeList joinSplits := by
  unfold joinSplitListText countedText serializeList
  rw [spell_number_cons]
  congr 1
  induction joinSplits with
  | nil => rfl
  | cons joinSplit joinSplits ih => simpa using ih

variable (tx : Transaction)

/-- The join splits and the binding signature, as they are written. -/
theorem spell_zcash :
    spell serialize (joinSplitsText tx.hasJoinSplits tx.joinSplits tx.joinSplitPubkey
      tx.joinSplitSig) ++ spell serialize (bindingSigText tx.hasBindingSig tx.bindingSig) =
    if tx.zcash then
      (if tx.version = 2 ∨ tx.overwintered then
        serializeList tx.joinSplits ++
        (if tx.joinSplits = [] then []
        else serialize tx.joinSplitPubkey ++ serialize tx.joinSplitSig)
      else []) ++
      (if 4 ≤ tx.version ∧ tx.overwintered ∧
          ¬(tx.shieldedOutputs = [] ∧ tx.shieldedSpends = []) then
        serialize tx.bindingSig
      else [])
    else [] := by
  have hjn : tx.hasJoinSplits = true ↔ tx.zcash ∧ (tx.version = 2 ∨ tx.overwintered) := by
    simp [Transaction.hasJoinSplits]
  have hbn : tx.hasBindingSig = true ↔ tx.zcash ∧ 4 ≤ tx.version ∧ tx.overwintered ∧
      ¬(tx.shieldedOutputs = [] ∧ tx.shieldedSpends = []) := by
    simp [Transaction.hasBindingSig]
    tauto
  unfold joinSplitsText bindingSigText
  by_cases hz : tx.zcash = true
  · simp only [hjn, hbn, hz, true_and, if_true]
    congr 1 <;> split_ifs <;> simp [spell_joinSplitListText]
  · simp [hjn, hbn, hz]

theorem spell_witnessesText (inputs : List TransactionInput) :
    spell serialize (witnessesText inputs) =
      inputs.flatMap fun input => serializeList input.scriptWitness := by
  induction inputs with
  | nil => rfl
  | cons i inputs ih =>
    rw [flatMap_cons, ← ih, serializeList_eq]
    exact spell_append ..

namespace Transaction

/-- Without an envelope, a transaction is written as its text says. -/
theorem serializeStripped_eq : tx.serializeStripped = spell serialize (tx.text false) := by
  unfold serializeStripped text fieldsText inputsText
  simp only [spell_append, serializeList_eq, Bool.false_eq_true, if_false]
  rw [append_assoc _ (spell serialize (joinSplitsText ..)), spell_zcash]
  cases tx.strDZeel <;>
    simp only [spell_versionText, spell_nTimeText, spell_shieldedText, serializeList_eq, spell_nil,
      spell_raw_cons, spell_number_cons, zeelText, append_nil]

/-- In an envelope, a transaction is written as its text says, if it is of the standard kind. -/
theorem serializeEnvelope_eq {tx : Transaction} (hpl : tx.overwintered = false)
    (hnt : tx.nTime = none) (hzc : tx.zcash = false) (hzl : tx.strDZeel = none) :
    tx.serializeEnvelope = spell serialize (tx.text true) := by
  have hjn : tx.hasJoinSplits = false := by simp [hasJoinSplits, hzc]
  have hbn : tx.hasBindingSig = false := by simp [hasBindingSig, hzc]
  have hmr : spell serialize (listText ([] : List TransactionInput)) =
      serialize witnessMarker := rfl
  unfold serializeEnvelope text fieldsText inputsText
  rw [hpl, hnt, hzl, hjn, hbn]
  simp only [if_true, spell_append, spell_versionText, Bool.false_eq_true, if_false, nTimeText,
    spell_nil, hmr, spell_witnessesText, spell_shieldedText, joinSplitsText, bindingSigText,
    zeelText, spell_raw_cons, append_nil, append_assoc, false_and, serializeList_eq]

/-- An envelope takes two bytes, and those of the witnesses. -/
theorem length_envelope : (spell serialize (tx.text false)).length + 2 ≤
    (spell serialize (tx.text true)).length := by
  have hmr : (spell serialize (listText ([] : List TransactionInput))).length = 1 := rfl
  have hfl : (serialize witnessFlag).length = 1 := rfl
  simp only [text, fieldsText, inputsText, if_true, Bool.false_eq_true, if_false, spell_append,
    length_append, spell_nil, spell_raw_cons, length_nil, hmr, hfl]
  omega

end Transaction

/-! ## One kind -/

/-- A front part of the bytes is a transaction of one kind. -/
def StartsWith (txType : TxType) (input : Bytes) : Prop :=
  ∃ (tx : Transaction) (envelope : Bool) (bytes rest : Bytes), tx.Legible txType envelope ∧
    ZeelFits txType tx.strDZeel rest ∧ input = bytes ++ rest ∧
    Spells Spelling (tx.text envelope) bytes

/-- A front part of the bytes is a transaction with a time up to its string, and for the string a
length is announced that no vector can have. -/
def ZeelOverflows (input : Bytes) : Prop :=
  ∃ (tx : Transaction) (envelope : Bool) (bytes flag rest : Bytes) (n : CompactInteger),
    tx.Legible .posWithNTime envelope ∧ input = bytes ++ (flag ++ rest) ∧
    Spells Spelling (tx.fieldsText envelope) bytes ∧ Spelling n flag ∧ isizeMax < n.asUsize

variable {txType : TxType}

theorem startsWith_iff (env : CoinVariant) :
    StartsWith txType input ↔ ∃ tx rest, Reads (deserializeTx txType) env input tx rest := by
  simp only [reads_deserializeTx, StartsWith]
  constructor
  · rintro ⟨tx, envelope, bytes, rest, hleg, hzl, heq, hsp⟩
    exact ⟨tx, rest, envelope, hleg, hzl, bytes, heq, hsp⟩
  · rintro ⟨tx, rest, envelope, hleg, hzl, bytes, heq, hsp⟩
    exact ⟨tx, envelope, bytes, rest, hleg, hzl, heq, hsp⟩

theorem not_crashes_fromUtf8 {buf : Bytes} : ¬Crashes (fromUtf8 buf) env input := by
  unfold fromUtf8
  split <;> simp [crashes_bind]

/-- Only the string can end the program, and only by its announced length. -/
theorem crashes_readStrDZeel : Crashes (readStrDZeel txType) env input ↔
    txType = .posWithNTime ∧ ∃ (n : CompactInteger) (flag rest : Bytes), input = flag ++ rest ∧
      Spelling n flag ∧ isizeMax < n.asUsize := by
  have hsl : ∀ n env input, ¬Crashes (readSlice n) env input := fun n =>
    (bounded_next _ n : Bounded 0 0 _).safe
  have hlen : ∀ env input, ¬Crashes (read : Decoder CompactInteger) env input :=
    (paying_compactInteger : Paying 0 0 _).bounded.safe
  unfold readStrDZeel
  by_cases hpos : txType = .posWithNTime
  · simp only [hpos, if_true, true_and, crashes_bind, not_crashes_finished, reads_finished,
      crashes_ite, not_crashes_pure, hlen, reads_compactInteger, crashes_allocate, hsl,
      not_crashes_fromUtf8, and_false, exists_false, or_false, false_or, Nat.mul_one]
    constructor
    · rintro ⟨_, _, ⟨_, rfl⟩, _, n, rest, ⟨flag, heq, hfl⟩, hbig⟩
      exact ⟨n, flag, rest, heq, hfl, hbig⟩
    · rintro ⟨n, flag, rest, rfl, hfl, hbig⟩
      refine ⟨_, _, ⟨rfl, rfl⟩, ?_, n, rest, ⟨flag, rfl, hfl⟩, hbig⟩
      simp [hfl.ne_nil]
  · simp [hpos]

theorem crashes_deserializeTx : Crashes (deserializeTx txType) env input ↔
    txType = .posWithNTime ∧ ZeelOverflows input := by
  unfold deserializeTx
  simp only [crashes_bind, (bounded_readFields txType).safe, not_crashes_pure, and_false,
    exists_false, or_false, false_or, crashes_readStrDZeel, reads_readFields, ZeelOverflows]
  constructor
  · rintro ⟨tx, _, ⟨_, envelope, hleg, bytes, rfl, hsp⟩, rfl, n, flag, rest, rfl, hfl, hbig⟩
    exact ⟨rfl, tx, envelope, bytes, flag, rest, n, hleg, rfl, hsp, hfl, hbig⟩
  · rintro ⟨rfl, tx, envelope, bytes, flag, rest, n, hleg, rfl, hsp, hfl, hbig⟩
    exact ⟨{ tx with strDZeel := none }, _, ⟨rfl, envelope,
      Transaction.Legible.of_strDZeel hleg, bytes, rfl, hsp⟩, rfl, n, flag, rest, rfl, hfl,
      hbig⟩

theorem fails_deserializeTx : Fails (deserializeTx txType) env input ↔
    ¬(txType = .posWithNTime ∧ ZeelOverflows input) ∧ ¬StartsWith txType input := by
  rw [fails_iff, crashes_deserializeTx, startsWith_iff env]
  simp only [not_exists]

/-! ## Every kind -/

/-- The kind that the bytes are read as: the first one, in the order of the tries, of which a front
part is a transaction. -/
def ReadAs (input : Bytes) : TxType → Prop
  | .standardWithWitness => StartsWith .standardWithWitness input
  | .posWithNTime => ¬StartsWith .standardWithWitness input ∧ StartsWith .posWithNTime input
  | .zcash => ¬StartsWith .standardWithWitness input ∧ ¬StartsWith .posWithNTime input ∧
      ¬ZeelOverflows input ∧ StartsWith .zcash input

/-- Bytes are read as one kind at most. -/
theorem ReadAs.unique {txType' : TxType} (h : ReadAs input txType) (h' : ReadAs input txType') :
    txType = txType' := by
  cases txType with
  | standardWithWitness =>
    cases txType' with
    | standardWithWitness => rfl
    | posWithNTime | zcash => exact absurd h h'.1
  | posWithNTime =>
    cases txType' with
    | standardWithWitness => exact absurd h' h.1
    | posWithNTime => rfl
    | zcash => exact absurd h.2 h'.2.1
  | zcash =>
    cases txType' with
    | standardWithWitness => exact absurd h' h.1
    | posWithNTime => exact absurd h'.2 h.2.1
    | zcash => rfl

/-- What `deserialize::<Transaction>` accepts. -/
theorem reads_transaction {tx : Transaction} :
    Reads Transaction.deserialize env input tx rest ↔ rest = [] ∧ ∃ txType left,
      ReadAs input txType ∧ Reads (deserializeTx txType) .standard input tx left := by
  have hst : ∀ {txType left}, Reads (deserializeTx txType) .standard input tx left →
      StartsWith txType input := fun h => (startsWith_iff .standard).mpr ⟨_, _, h⟩
  unfold Transaction.deserialize
  simp only [reads_bind, reads_readToEnd, reads_orElse, reads_onBuffer, fails_onBuffer,
    fails_deserializeTx]
  constructor
  · rintro ⟨_, _, ⟨rfl, rfl⟩, ⟨⟨left, h⟩, rfl⟩ | ⟨⟨_, hstd⟩, ⟨⟨left, h⟩, rfl⟩ |
      ⟨⟨hov, hpos⟩, ⟨left, h⟩, rfl⟩⟩⟩
    · exact ⟨rfl, .standardWithWitness, left, hst h, h⟩
    · exact ⟨rfl, .posWithNTime, left, ⟨hstd, hst h⟩, h⟩
    · exact ⟨rfl, .zcash, left, ⟨hstd, hpos, fun h => hov ⟨trivial, h⟩, hst h⟩, h⟩
  · rintro ⟨rfl, txType, left, hkn, h⟩
    refine ⟨_, _, ⟨rfl, rfl⟩, ?_⟩
    cases txType with
    | standardWithWitness => exact .inl ⟨⟨left, h⟩, rfl⟩
    | posWithNTime => exact .inr ⟨⟨by simp, hkn.1⟩, .inl ⟨⟨left, h⟩, rfl⟩⟩
    | zcash =>
      exact .inr ⟨⟨by simp, hkn.1⟩, .inr ⟨⟨fun hov => hkn.2.2.1 hov.2, hkn.2.1⟩, ⟨left, h⟩, rfl⟩⟩

end CheetahDex.Chain
