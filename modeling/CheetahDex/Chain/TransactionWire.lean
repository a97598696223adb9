import CheetahDex.Chain.TransactionParts

/-!
# The wire form of transactions

A transaction is read from every spelling of its text that stands at the front of the input. The
text of a standard transaction comes with a witness envelope or without one.
-/

namespace CheetahDex.Chain

open Lib Lib.Decoder List
open CompactInteger (Spelling Shortest)

variable {env : CoinVariant} {input rest : Bytes}

/-! ## Whole transactions -/

namespace Transaction

/-- Whether the version of the transaction has join splits. -/
def hasJoinSplits (tx : Transaction) : Bool := tx.zcash && (tx.version = 2 || tx.overwintered)

/-- Whether the transaction has a binding signature. -/
def hasBindingSig (tx : Transaction) : Bool :=
  tx.zcash && tx.overwintered && decide (4 ≤ tx.version) &&
    !(tx.shieldedSpends.isEmpty && tx.shieldedOutputs.isEmpty)

/-- A transaction that a reader of one kind gives, from a witness envelope or without one. -/
structure Legible (txType : TxType) (envelope : Bool) (tx : Transaction) : Prop where
  version : 0 ≤ tx.version
  group : tx.overwintered = false → tx.versionGroupId = 0
  nTime : tx.nTime.isSome ↔ txType = .posWithNTime
  inputs : InputsFit tx.inputs
  outputs : OutputsFit tx.outputs
  place : if envelope then tx.overwintered = false ∧ txType = .standardWithWitness
    else ¬(tx.inputs = [] ∧ tx.overwintered = false ∧ txType = .standardWithWitness)
  witnesses : if envelope then WitnessesFit tx.inputs else ∀ i ∈ tx.inputs, i.scriptWitness = []
  spends : ¬(tx.outputs = [] ∧ txType = .standardWithWitness)
  expiry : ¬(tx.overwintered ∧ 3 ≤ tx.version) → tx.expiryHeight = 0
  shielded : ¬(tx.overwintered ∧ 3 ≤ tx.version ∧ 4 ≤ tx.version) →
    (tx.valueBalance, tx.shieldedSpends, tx.shieldedOutputs) = (0, [], [])
  shieldedLengths : tx.shieldedSpends.length ≤ maxListSize ∧ tx.shieldedOutputs.length ≤ maxListSize
  zcash : tx.zcash = (tx.overwintered || decide (txType = .zcash))
  joinSplits : JoinSplitsFit tx.hasJoinSplits tx.version tx.joinSplits tx.joinSplitPubkey
    tx.joinSplitSig
  bindingSig : tx.hasBindingSig = false → tx.bindingSig = .replicate 64 0
  txHashAlgo : tx.txHashAlgo = .dsha256

/-- The text of a transaction before its string. -/
def fieldsText (envelope : Bool) (tx : Transaction) : Text :=
  versionText tx.version tx.overwintered tx.versionGroupId ++ nTimeText tx.nTime ++
  inputsText envelope tx.inputs ++ listText tx.outputs ++
  (if envelope then witnessesText tx.inputs else []) ++ [.raw (serialize tx.lockTime)] ++
  shieldedText tx.overwintered tx.version tx.expiryHeight tx.valueBalance tx.shieldedSpends
    tx.shieldedOutputs ++
  joinSplitsText tx.hasJoinSplits tx.joinSplits tx.joinSplitPubkey tx.joinSplitSig ++
  bindingSigText tx.hasBindingSig tx.bindingSig

end Transaction

theorem stripped_eq {i : TransactionInput} (h : i.scriptWitness = []) : i.stripped = i := by
  rw [TransactionInput.stripped, ← h]

theorem inputsText_stripped (envelope : Bool) (inputs : List TransactionInput) :
    inputsText envelope (inputs.map (·.stripped)) = inputsText envelope inputs := by
  have hte : (inputs.map (·.stripped)).flatMap Wire.text = inputs.flatMap Wire.text := by
    rw [flatMap_map]
    rfl
  have hls : listText (inputs.map (·.stripped)) = listText inputs := by
    simp only [listText, countedText, hte, length_map]
  unfold inputsText
  rw [hls]

theorem inputsFit_stripped {inputs : List TransactionInput} :
    InputsFit (inputs.map (·.stripped)) ↔ InputsFit inputs := by
  unfold InputsFit
  rw [length_map, List.forall_mem_map]
  rfl

variable {envelope : Bool} {tx : Transaction} {s : String}

/-- The inputs that are read at first, and those that come out with their witnesses. -/
theorem reads_completeInputs {inputs inputs' : List TransactionInput}
    (hbr : ∀ i ∈ inputs, i.scriptWitness = []) :
    Reads (completeInputs envelope inputs) env input inputs' rest ↔
      inputs = inputs'.map (·.stripped) ∧
      (if envelope then WitnessesFit inputs' else ∀ i ∈ inputs', i.scriptWitness = []) ∧
      ∃ bytes, input = bytes ++ rest ∧
        Spells Spelling (if envelope then witnessesText inputs' else []) bytes := by
  have hsl : ∀ {is : List TransactionInput}, (∀ i ∈ is, i.scriptWitness = []) →
      is.map (·.stripped) = is := fun h => by
    rw [map_congr_left fun i hi => stripped_eq (h i hi), List.map_id']
  unfold completeInputs
  cases envelope with
  | true =>
    simp only [if_true]
    rw [accepts_readWitnesses, hsl hbr, and_assoc, eq_comm]
  | false =>
    simp only [Bool.false_eq_true, if_false, reads_pure, stands_iff, stands_nil]
    grind

variable {txType : TxType}

/-- The reader of one kind takes the spellings of the transactions that it can give. -/
theorem reads_readFields :
    Reads (readFields txType) env input tx rest ↔ tx.strDZeel = none ∧
      ∃ envelope, tx.Legible txType envelope ∧
        ∃ bytes, input = bytes ++ rest ∧ Spells Spelling (tx.fieldsText envelope) bytes := by
  unfold readFields Transaction.fieldsText
  simp only [reads_bind, accepts_readVersion, accepts_readNTime, accepts_readInputs,
    accepts_readOutputs, reads_uint32, accepts_readShielded, accepts_readJoinSplits,
    accepts_readBindingSig, reads_pure, Prod.exists, stands_iff, stands_append, stands_raw]
  constructor
  · rintro ⟨version, overwintered, group, _, ⟨⟨hver, hgr⟩, h₁⟩, nTime, _, ⟨hnt, h₂⟩,
      inputs, envelope, _, ⟨⟨⟨hins, hbr⟩, hpl⟩, h₃⟩, outputs, _, ⟨⟨hot, hspd⟩, h₄⟩,
      inputs', _, hwt, lockTime, _, rfl, expiry, balance, spends, shielded, _,
      ⟨⟨hexpiry, hsh, hln⟩, h₆⟩, joinSplits, pubkey, sig, _, ⟨hjn, h₇⟩, binding, _,
      ⟨hbn, h₈⟩, rfl, rfl⟩
    obtain ⟨rfl, hfi, h₅⟩ := (reads_completeInputs hbr).mp hwt
    rw [inputsText_stripped] at h₃
    rw [map_eq_nil_iff] at hpl
    exact ⟨rfl, envelope, ⟨hver, hgr, hnt, inputsFit_stripped.mp hins, hot,
      hpl, hfi, hspd, hexpiry, hsh, hln, rfl, hjn, hbn, rfl⟩,
      _, ⟨_, ⟨_, ⟨_, ⟨_, ⟨_, ⟨_, ⟨_, h₁, h₂⟩, h₃⟩, h₄⟩, h₅⟩, rfl⟩, h₆⟩, h₇⟩, h₈⟩
  · rintro ⟨hzl, envelope, h, _, ⟨_, ⟨_, ⟨_, ⟨_, ⟨_, ⟨_, ⟨_, h₁, h₂⟩, h₃⟩, h₄⟩, h₅⟩, rfl⟩, h₆⟩,
      h₇⟩, h₈⟩
    have hbr : ∀ i ∈ tx.inputs.map (·.stripped), i.scriptWitness = [] := by
      rw [List.forall_mem_map]
      exact fun _ _ => rfl
    have htx : tx = { tx with
        zcash := tx.overwintered || decide (txType = .zcash), strDZeel := none
        txHashAlgo := .dsha256 } := by
      rw [← h.zcash, ← hzl, ← h.txHashAlgo]
    have hpl := h.place
    have hjn := h.joinSplits
    have hbn := h.bindingSig
    unfold Transaction.hasJoinSplits at hjn h₇
    unfold Transaction.hasBindingSig at hbn h₈
    rw [h.zcash] at hjn hbn h₇ h₈
    rw [← map_eq_nil_iff (f := (·.stripped))] at hpl
    rw [← inputsText_stripped] at h₃
    exact ⟨_, _, _, _, ⟨⟨h.version, h.group⟩, h₁⟩, _, _, ⟨h.nTime, h₂⟩, _, envelope, _,
      ⟨⟨⟨inputsFit_stripped.mpr h.inputs, hbr⟩, hpl⟩, h₃⟩, _, _, ⟨⟨h.outputs, h.spends⟩, h₄⟩,
      _, _, (reads_completeInputs hbr).mpr ⟨rfl, h.witnesses, h₅⟩, _, _, rfl, _, _, _, _, _,
      ⟨⟨h.expiry, h.shielded, h.shieldedLengths⟩, h₆⟩, _, _, _, _, ⟨hjn, h₇⟩, _, _,
      ⟨hbn, h₈⟩, htx.symm, rfl⟩

/-! ## The string at the end -/

/-- The string. -/
def zeelText : Option String → Text
  | none => []
  | some s => [.number ⟨.ofNat s.utf8ByteSize⟩, .raw s.toUTF8.data.toList]

/-- What the reader of one kind gives for the string, and what it then leaves. -/
@[mk_iff]
structure ZeelFits (txType : TxType) (strDZeel : Option String) (rest : Bytes) : Prop where
  placed : strDZeel.isSome → txType = .posWithNTime
  small : ∀ s ∈ strDZeel, s.utf8ByteSize ≤ isizeMax
  last : txType = .posWithNTime → strDZeel = none → rest = []

theorem fromUTF8_eq_some {bytes : Bytes} :
    String.fromUTF8? ⟨bytes.toArray⟩ = some s ↔ bytes = s.toUTF8.data.toList := by
  unfold String.fromUTF8?
  constructor
  · intro h
    split at h
    · cases h
      rfl
    · cases h
  · rintro rfl
    exact dif_pos s.isValidUTF8

theorem length_toUTF8 (s : String) : s.toUTF8.data.toList.length = s.utf8ByteSize := by
  rw [Array.length_toList]
  rfl

theorem reads_fromUtf8 {buf : Bytes} :
    Reads (fromUtf8 buf) env input s rest ↔ buf = s.toUTF8.data.toList ∧ input = rest := by
  unfold fromUtf8
  cases hbuf : String.fromUTF8? ⟨buf.toArray⟩ with
  | none =>
    simp only [reads_fail, false_iff]
    rintro ⟨hs, _⟩
    rw [fromUTF8_eq_some.mpr hs] at hbuf
    cases hbuf
  | some s' =>
    obtain rfl := fromUTF8_eq_some.mp hbuf
    simp only [reads_bind, reads_request, reads_pure]
    constructor
    · rintro ⟨_, _, rfl, rfl, rfl⟩
      exact ⟨rfl, rfl⟩
    · rintro ⟨hs, rfl⟩
      rw [fromUTF8_eq_some.mpr hs] at hbuf
      cases hbuf
      exact ⟨(), _, rfl, rfl, rfl⟩

theorem reads_readStrDZeel {strDZeel : Option String} :
    Reads (readStrDZeel txType) env input strDZeel rest ↔ ZeelFits txType strDZeel rest ∧
      ∃ bytes, input = bytes ++ rest ∧ Spells Spelling (zeelText strDZeel) bytes := by
  unfold readStrDZeel
  by_cases hpos : txType = .posWithNTime
  · subst hpos
    have hne {len : CompactInteger} {mid : Bytes} (h : Reads read env input len mid) :
        input.isEmpty = false := by
      obtain ⟨bytes, rfl, hsp⟩ := reads_compactInteger.mp h
      simp [hsp.ne_nil]
    have hmax : isizeMax < 2 ^ 64 := by decide
    simp only [if_true, reads_bind, reads_finished, reads_ite, reads_pure, reads_allocate,
      accepts_readSlice, reads_fromUtf8, and_true, stands_iff, stands_raw, zeelFits_iff]
    cases strDZeel with
    | none =>
      simp only [zeelText, stands_nil]
      grind
    | some s =>
      simp only [zeelText, stands_number_cons env, stands_raw]
      grind [CompactInteger.ofNat_asUsize, CompactInteger.asUsize_ofNat, length_toUTF8]
  · simp only [hpos, if_false, reads_pure, stands_iff, zeelFits_iff]
    cases strDZeel with
    | none => simp [zeelText, stands_nil]
    | some s => simp

namespace Transaction

/-- The text of a transaction. -/
def text (envelope : Bool) (tx : Transaction) : Text :=
  tx.fieldsText envelope ++ zeelText tx.strDZeel

theorem Legible.of_strDZeel {strDZeel strDZeel' : Option String}
    (h : ({ tx with strDZeel } : Transaction).Legible txType envelope) :
    ({ tx with strDZeel := strDZeel' } : Transaction).Legible txType envelope :=
  ⟨h.version, h.group, h.nTime, h.inputs, h.outputs, h.place, h.witnesses, h.spends, h.expiry,
    h.shielded, h.shieldedLengths, h.zcash, h.joinSplits, h.bindingSig, h.txHashAlgo⟩

end Transaction

/-- What `deserialize_tx` accepts. -/
theorem reads_deserializeTx :
    Reads (deserializeTx txType) env input tx rest ↔ ∃ envelope, tx.Legible txType envelope ∧
      ZeelFits txType tx.strDZeel rest ∧
      ∃ bytes, input = bytes ++ rest ∧ Spells Spelling (tx.text envelope) bytes := by
  unfold deserializeTx Transaction.text
  simp only [reads_bind, reads_readFields, reads_readStrDZeel, reads_pure, stands_iff,
    stands_append]
  constructor
  · rintro ⟨fields, _, ⟨-, envelope, hleg, hfl⟩, strDZeel, _, ⟨hzl, hstr⟩, rfl, rfl⟩
    exact ⟨envelope, .of_strDZeel hleg, hzl, _, hfl, hstr⟩
  · rintro ⟨envelope, hleg, hzl, _, hfl, hstr⟩
    exact ⟨{ tx with strDZeel := none }, _, ⟨rfl, envelope, .of_strDZeel hleg, hfl⟩, _, _,
      ⟨hzl, hstr⟩, rfl, rfl⟩

end CheetahDex.Chain
