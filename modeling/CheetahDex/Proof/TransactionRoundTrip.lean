import CheetahDex.Chain.TransactionKinds

/-!
# Transactions on the wire and back

What is written is read back as the same transaction if the reader of its kind is the first that
takes the bytes. The bytes of a transaction with a time can also be those of a standard transaction
with something behind it, and those of an overwintered transaction without transparent outputs can
be those of a transaction with a time; what is behind is not looked at.
-/

namespace CheetahDex.Chain

open Lib Lib.Decoder List Transaction
open CompactInteger (Spelling Shortest)

namespace Transaction

/-! ## The supported kinds -/

variable (tx : Transaction)

/-- No list is longer than the reader allows, and no byte string. -/
structure Small : Prop where
  inputs : InputsFit tx.inputs
  outputs : OutputsFit tx.outputs
  witnesses : WitnessesFit tx.inputs
  shielded : tx.shieldedSpends.length ≤ maxListSize ∧ tx.shieldedOutputs.length ≤ maxListSize
  joinSplits : tx.joinSplits.length ≤ maxListSize
  strDZeel : ∀ s ∈ tx.strDZeel, s.utf8ByteSize ≤ bytesDecodeLimit

/-- No field of the overwintered transactions is set. -/
structure Transparent : Prop where
  overwintered : tx.overwintered = false
  group : tx.versionGroupId = 0
  expiry : tx.expiryHeight = 0
  shielded : (tx.valueBalance, tx.shieldedSpends, tx.shieldedOutputs) = (0, [], [])
  joinSplits : tx.joinSplits = []
  joinSplitKeys : tx.joinSplitPubkey = .replicate 32 0 ∧ tx.joinSplitSig = .replicate 64 0
  bindingSig : tx.bindingSig = .replicate 64 0
  zcash : tx.zcash = false

/-- A standard transaction, with or without witnesses. -/
structure Standard : Prop extends Transparent tx where
  nTime : tx.nTime = none
  inputs : tx.inputs ≠ []
  strDZeel : tx.strDZeel = none

/-- A transaction with a time. -/
structure Timed : Prop extends Transparent tx where
  nTime : tx.nTime.isSome
  witnesses : ∀ i ∈ tx.inputs, i.scriptWitness = []

/-- An overwintered transaction, with the parts that its version has. -/
structure Overwintered : Prop where
  overwintered : tx.overwintered = true
  nTime : tx.nTime = none
  witnesses : ∀ i ∈ tx.inputs, i.scriptWitness = []
  expiry : ¬3 ≤ tx.version → tx.expiryHeight = 0
  shielded : ¬4 ≤ tx.version → (tx.valueBalance, tx.shieldedSpends, tx.shieldedOutputs) =
    (0, [], [])
  proofs : ∀ joinSplit ∈ tx.joinSplits, joinSplit.zkproof.isGroth = decide (2 < tx.version)
  unsigned : tx.joinSplits = [] →
    tx.joinSplitPubkey = .replicate 32 0 ∧ tx.joinSplitSig = .replicate 64 0
  bindingSig : tx.hasBindingSig = false → tx.bindingSig = .replicate 64 0
  zcash : tx.zcash = true
  strDZeel : tx.strDZeel = none

/-- A transaction of one of the kinds that are supported. -/
def Supported : Prop := tx.Small ∧ (tx.Standard ∨ tx.Timed ∨ tx.Overwintered)

/-- The bytes of the transaction are read as those of its own kind. -/
structure Recoverable : Prop where
  version : 0 ≤ tx.version
  outputs : tx.Standard → tx.outputs ≠ []
  timed : tx.Timed → ¬StartsWith .standardWithWitness (tx.serializeWith true)
  overwintered : tx.Overwintered → tx.outputs = [] →
    ¬StartsWith .posWithNTime (tx.serializeWith true) ∧ ¬ZeelOverflows (tx.serializeWith true)

/-- The transaction with the hash that the reader assumes. -/
def withDsha256 : Transaction := { tx with txHashAlgo := .dsha256 }

/-! ## Each kind by its own reader -/

variable {tx : Transaction}

theorem hasWitness_eq_false : tx.hasWitness = false ↔ ∀ i ∈ tx.inputs, i.scriptWitness = [] := by
  simp [hasWitness, TransactionInput.hasWitness]

variable {envelope : Bool} {txType : TxType}

theorem Transparent.legible (h : tx.Transparent) (hsm : tx.Small) (hver : 0 ≤ tx.version)
    (hnt : tx.nTime.isSome ↔ txType = .posWithNTime)
    (hpl : if envelope then txType = .standardWithWitness
      else ¬(tx.inputs = [] ∧ txType = .standardWithWitness))
    (hwt : envelope = false → ∀ i ∈ tx.inputs, i.scriptWitness = [])
    (hspd : ¬(tx.outputs = [] ∧ txType = .standardWithWitness)) (hkn : txType ≠ .zcash) :
    tx.withDsha256.Legible txType envelope where
  version := hver
  group _ := h.group
  nTime := hnt
  inputs := hsm.inputs
  outputs := hsm.outputs
  place := by
    cases envelope with
    | true => exact ⟨h.overwintered, hpl⟩
    | false => exact fun hemp => hpl ⟨hemp.1, hemp.2.2⟩
  witnesses := by
    cases envelope with
    | true => exact hsm.witnesses
    | false => exact hwt rfl
  spends := hspd
  expiry _ := h.expiry
  shielded _ := h.shielded
  shieldedLengths := hsm.shielded
  zcash := by
    show tx.zcash = (tx.overwintered || decide (txType = .zcash))
    rw [h.zcash, h.overwintered]
    simpa using hkn
  joinSplits := ⟨fun _ => h.joinSplits, hsm.joinSplits, by
    show ∀ joinSplit ∈ tx.joinSplits, _
    simp [h.joinSplits], fun _ => h.joinSplitKeys⟩
  bindingSig _ := h.bindingSig
  txHashAlgo := rfl

theorem Overwintered.legible (h : tx.Overwintered) (hsm : tx.Small) (hver : 0 ≤ tx.version)
    (hkn : txType ≠ .posWithNTime)
    (hspd : ¬(tx.outputs = [] ∧ txType = .standardWithWitness)) :
    tx.withDsha256.Legible txType false where
  version := hver
  group hpn := absurd (h.overwintered.symm.trans hpn) Bool.noConfusion
  nTime := by simp [withDsha256, h.nTime, hkn]
  inputs := hsm.inputs
  outputs := hsm.outputs
  place hpn := absurd (h.overwintered.symm.trans hpn.2.1) Bool.noConfusion
  witnesses := h.witnesses
  spends := hspd
  expiry hold := h.expiry fun hth => hold ⟨h.overwintered, hth⟩
  shielded hold := h.shielded fun hfr => hold ⟨h.overwintered, Int32.le_trans (by decide) hfr, hfr⟩
  shieldedLengths := hsm.shielded
  zcash := by
    show tx.zcash = (tx.overwintered || decide (txType = .zcash))
    rw [h.zcash, h.overwintered, Bool.true_or]
  joinSplits := by
    refine ⟨fun hab => ?_, hsm.joinSplits, h.proofs, h.unsigned⟩
    have hpr : tx.hasJoinSplits = true := by simp [hasJoinSplits, h.zcash, h.overwintered]
    exact absurd (hpr.symm.trans hab) Bool.noConfusion
  bindingSig := h.bindingSig
  txHashAlgo := rfl

/-- A transaction that a reader can give is written as its text says, in an envelope if it has
witnesses. -/
theorem Legible.serializeWith_eq {rest : Bytes} (h : tx.Legible txType envelope)
    (hzl : ZeelFits txType tx.strDZeel rest) (henv : envelope = tx.hasWitness) :
    tx.serializeWith true = spell serialize (tx.text tx.hasWitness) := by
  subst henv
  unfold serializeWith
  cases hwit : tx.hasWitness with
  | true =>
    rw [hwit] at h
    obtain ⟨hpn, rfl⟩ := h.place
    refine serializeEnvelope_eq hpn ?_ ?_ ?_
    · have hnt := h.nTime
      simpa using hnt
    · rw [h.zcash, hpn]
      rfl
    · by_contra hso
      exact absurd (hzl.placed (Option.isSome_iff_ne_none.mpr hso)) (by decide)
  | false => exact serializeStripped_eq tx

/-- The bytes of a transaction that the reader of one kind can give. -/
theorem reads_serializeWith {env : CoinVariant}
    (hleg : tx.withDsha256.Legible txType tx.hasWitness)
    (hzl : ZeelFits txType tx.strDZeel []) :
    Reads (deserializeTx txType) env (tx.serializeWith true) tx.withDsha256 [] := by
  refine reads_deserializeTx.mpr ⟨tx.hasWitness, hleg, hzl, _, (append_nil _).symm, ?_⟩
  exact spells_of_shortest (spells_shortest_iff.mpr (hleg.serializeWith_eq hzl rfl))

theorem zeelFits_none (h : tx.strDZeel = none) : ZeelFits txType tx.strDZeel [] :=
  ⟨by simp [h], by simp [h], fun _ _ => rfl⟩

variable (env : CoinVariant)

theorem Standard.reads (h : tx.Standard) (hsm : tx.Small)
    (hver : 0 ≤ tx.version) (hot : tx.outputs ≠ []) :
    Reads (deserializeTx .standardWithWitness) env (tx.serializeWith true) tx.withDsha256 [] := by
  refine reads_serializeWith (h.legible hsm hver (by simp [h.nTime]) ?_
    hasWitness_eq_false.mp (fun hemp => hot hemp.1) (by decide)) (zeelFits_none h.strDZeel)
  split
  · rfl
  · exact fun hemp => h.inputs hemp.1

theorem Timed.reads (h : tx.Timed) (hsm : tx.Small)
    (hver : 0 ≤ tx.version) :
    Reads (deserializeTx .posWithNTime) env (tx.serializeWith true) tx.withDsha256 [] := by
  have hwit := hasWitness_eq_false.mpr h.witnesses
  refine reads_serializeWith (h.legible hsm hver (by simp [h.nTime]) ?_
    hasWitness_eq_false.mp (by simp) (by decide)) ⟨fun _ => rfl, fun s hs => ?_, fun _ _ => rfl⟩
  · simp [hwit]
  · exact (hsm.strDZeel s hs).trans (by decide)

theorem Overwintered.reads (txType : TxType) (h : tx.Overwintered)
    (hsm : tx.Small) (hver : 0 ≤ tx.version) (hkn : txType ≠ .posWithNTime)
    (hspd : ¬(tx.outputs = [] ∧ txType = .standardWithWitness)) :
    Reads (deserializeTx txType) env (tx.serializeWith true) tx.withDsha256 [] := by
  have hleg := h.legible hsm hver hkn hspd
  rw [← hasWitness_eq_false.mpr h.witnesses] at hleg
  exact reads_serializeWith hleg (zeelFits_none h.strDZeel)

/-! ## The first reader that takes the bytes -/

/-- The reader sees in the version whether a transaction is overwintered. -/
theorem Legible.reads_version {bytes : Bytes} (h : tx.Legible txType envelope)
    (hsp : Spells Spelling (tx.text envelope) bytes) (env : CoinVariant) (rest : Bytes) :
    ∃ left, Reads readVersion env (bytes ++ rest)
      (tx.version, tx.overwintered, tx.versionGroupId) left := by
  simp only [text, fieldsText, append_assoc] at hsp
  obtain ⟨version, bytes, rfl, hver, _⟩ := spells_append.mp hsp
  exact ⟨bytes ++ rest, accepts_readVersion.mpr
    ⟨⟨h.version, h.group⟩, version, append_assoc .., hver⟩⟩

/-- An overwintered transaction that the standard reader gives is given by the last reader too. -/
theorem Legible.zcash_of_overwintered (h : tx.Legible .standardWithWitness envelope)
    (hwin : tx.overwintered = true) : tx.Legible .zcash envelope := by
  have hpn : envelope = false := by
    cases envelope with
    | true => exact absurd (hwin.symm.trans h.place.1) Bool.noConfusion
    | false => rfl
  subst hpn
  refine ⟨h.version, h.group, ?_, h.inputs, h.outputs, by simp, h.witnesses, by simp, h.expiry,
    h.shielded, h.shieldedLengths, ?_, h.joinSplits, h.bindingSig, h.txHashAlgo⟩
  · have hnt := h.nTime
    simp only [reduceCtorEq, iff_false] at hnt ⊢
    exact hnt
  · rw [h.zcash, hwin, Bool.true_or, Bool.true_or]

/-- Without transparent outputs, an overwintered transaction is no standard transaction. -/
theorem Overwintered.not_startsWith (h : tx.Overwintered) (hsm : tx.Small)
    (hver : 0 ≤ tx.version) (hot : tx.outputs = []) :
    ¬StartsWith .standardWithWitness (tx.serializeWith true) := by
  rintro ⟨other, envelope, bytes, rest, hleg, hzl, heq, hsp⟩
  have hown : Reads (deserializeTx .zcash) .standard (tx.serializeWith true) tx.withDsha256 [] :=
    h.reads _ _ hsm hver (by decide) (by simp)
  obtain ⟨envelope', hleg', _, bytes', heq', hsp'⟩ := reads_deserializeTx.mp hown
  have hwin : other.overwintered = true := by
    obtain ⟨_, hoth⟩ := hleg.reads_version hsp .standard rest
    obtain ⟨_, he⟩ := hleg'.reads_version hsp' .standard []
    rw [← heq] at hoth
    rw [← heq'] at he
    have := (hoth.unique he).1
    simp only [Prod.mk.injEq] at this
    exact this.2.1.trans h.overwintered
  have hoth : Reads (deserializeTx .zcash) .standard (tx.serializeWith true) other rest :=
    reads_deserializeTx.mpr ⟨envelope, hleg.zcash_of_overwintered hwin,
      ⟨fun hso => absurd (hzl.placed hso) (by decide), hzl.small, nofun⟩, bytes, heq, hsp⟩
  obtain ⟨rfl, _⟩ := hoth.unique hown
  exact hleg.spends ⟨hot, rfl⟩

/-- A supported transaction comes back from the wire, up to the hash it is identified by, exactly if
its bytes are read as those of its kind. -/
theorem roundTrip_iff_recoverable (h : tx.Supported) :
    (Chain.deserialize deserialize (tx.serializeWith true)).outcome =
      .ok tx.withDsha256 [] ↔ tx.Recoverable := by
  obtain ⟨hsm, hkn⟩ := h
  rw [deserialize_eq_ok, reads_transaction]
  simp only [true_and, and_true]
  constructor
  · rintro ⟨txType, left, hre, hrd⟩
    obtain ⟨envelope, hleg, _⟩ := reads_deserializeTx.mp hrd
    have hspd : ¬(tx.outputs = [] ∧ txType = .standardWithWitness) := hleg.spends
    have hnt : tx.nTime.isSome ↔ txType = .posWithNTime := hleg.nTime
    have hzc : tx.zcash = (tx.overwintered || decide (txType = .zcash)) := hleg.zcash
    refine ⟨hleg.version, fun hstd hemp => ?_, fun htm => ?_, fun hwin hemp => ?_⟩
    · cases txType with
      | standardWithWitness => exact hspd ⟨hemp, rfl⟩
      | posWithNTime => simp [hstd.nTime] at hnt
      | zcash => simp [hstd.zcash, hstd.overwintered] at hzc
    · obtain rfl := hnt.mp htm.nTime
      exact hre.1
    · cases txType with
      | standardWithWitness => exact absurd ⟨hemp, rfl⟩ hspd
      | posWithNTime => simp [hwin.nTime] at hnt
      | zcash => exact ⟨hre.2.1, hre.2.2.1⟩
  · intro hrec
    rcases hkn with hstd | htm | hwin
    · have hrd := hstd.reads .standard hsm hrec.version (hrec.outputs hstd)
      exact ⟨.standardWithWitness, [], (startsWith_iff .standard).mpr ⟨_, _, hrd⟩, hrd⟩
    · have hrd := htm.reads .standard hsm hrec.version
      exact ⟨.posWithNTime, [], ⟨hrec.timed htm, (startsWith_iff .standard).mpr ⟨_, _, hrd⟩⟩, hrd⟩
    · by_cases hot : tx.outputs = []
      · have hrd := hwin.reads .standard .zcash hsm hrec.version (by decide) (by simp)
        obtain ⟨hpos, hov⟩ := hrec.overwintered hwin hot
        exact ⟨.zcash, [], ⟨hwin.not_startsWith hsm hrec.version hot, hpos, hov,
          (startsWith_iff .standard).mpr ⟨_, _, hrd⟩⟩, hrd⟩
      · have hrd := hwin.reads .standard .standardWithWitness hsm hrec.version
          (by decide) (fun hemp => hot hemp.1)
        exact ⟨.standardWithWitness, [], (startsWith_iff .standard).mpr ⟨_, _, hrd⟩, hrd⟩

/-- A payment of one input to one output. -/
def payment : Transaction where
  version := 2
  nTime := none
  overwintered := false
  versionGroupId := 0
  inputs := [⟨⟨.replicate 32 7, 1⟩, [], 0xffffffff, []⟩]
  outputs := [⟨1000, [0x51]⟩]
  lockTime := 0
  expiryHeight := 0
  shieldedSpends := []
  shieldedOutputs := []
  joinSplits := []
  valueBalance := 0
  joinSplitPubkey := .replicate 32 0
  joinSplitSig := .replicate 64 0
  bindingSig := .replicate 64 0
  zcash := false
  strDZeel := none
  txHashAlgo := .dsha256

theorem payment_small : payment.Small where
  inputs := ⟨by decide, by simp [payment]⟩
  outputs := ⟨by decide, by simp [payment, bytesDecodeLimit]⟩
  witnesses := by simp [WitnessesFit, payment]
  shielded := ⟨by decide, by decide⟩
  joinSplits := by decide
  strDZeel := by simp [payment]

theorem payment_supported : payment.Supported :=
  ⟨payment_small, .inl ⟨⟨rfl, rfl, rfl, rfl, rfl, ⟨rfl, rfl⟩, rfl, rfl⟩, rfl, by simp [payment],
    rfl⟩⟩

/-- The standard kind is the first that is tried. -/
theorem payment_roundTrip : payment.Supported ∧ payment.Recoverable ∧
    (Chain.deserialize deserialize (payment.serializeWith true)).outcome =
      .ok payment.withDsha256 [] := by
  have hrec : payment.Recoverable :=
    ⟨by decide, fun _ => cons_ne_nil _ _, fun h => absurd h.nTime (by decide),
      fun h => absurd h.overwintered (by decide)⟩
  exact ⟨payment_supported, hrec, (roundTrip_iff_recoverable payment_supported).mpr hrec⟩

/-- A payment with a time in March 2024, whose bytes `00 01 01 66` begin an envelope to the reader
of standard transactions. -/
def timedPayment : Transaction :=
  { payment with
    nTime := some 0x66010100
    inputs := [⟨⟨.replicate 32 7, 1⟩, [0, 0, 1, 0, 0, 0, 0, 0, 0, 0, 0, 0, 0, 0, 0, 0, 0],
      0xffffffff, []⟩] }

theorem timedPayment_supported : timedPayment.Supported := by
  refine ⟨{ payment_small with inputs := ?_, witnesses := ?_ }, .inr
    (.inl ⟨⟨rfl, rfl, rfl, rfl, rfl, ⟨rfl, rfl⟩, rfl, rfl⟩, rfl, ?_⟩)⟩
  · exact ⟨by decide, by simp [timedPayment, bytesDecodeLimit]⟩
  · simp [WitnessesFit, timedPayment]
  · simp [timedPayment]

/-- The payment with a time comes back as a standard transaction that spends another output. -/
theorem timedPayment_misread : timedPayment.Supported ∧
    (Chain.deserialize deserialize (timedPayment.serializeWith true)).outcome ≠
      .ok timedPayment.withDsha256 [] :=
  ⟨timedPayment_supported, by decide +kernel⟩

/-! ## Accepted bytes -/

/-- The bytes are a transaction of one kind and nothing more, every length in its shortest form,
with an envelope only around a transaction that has witnesses. -/
def Canonical (txType : TxType) (input : Bytes) : Prop :=
  ∃ (tx : Transaction) (envelope : Bool), tx.Legible txType envelope ∧
    ZeelFits txType tx.strDZeel [] ∧ (envelope = true → tx.hasWitness = true) ∧
    Spells Shortest (tx.text envelope) input

theorem Legible.no_witness (h : tx.Legible txType false) : tx.hasWitness =
    false :=
  hasWitness_eq_false.mpr h.witnesses

/-- What the reader took up is written back exactly if the bytes were canonical. -/
theorem serializeWith_eq_iff {input left : Bytes}
    (hrd : Reads (deserializeTx txType) .standard input tx left) :
    tx.serializeWith true = input ↔ Canonical txType input := by
  constructor
  · intro heq
    obtain ⟨envelope, hleg, hzl, bytes, rfl, hsp⟩ := reads_deserializeTx.mp hrd
    obtain ⟨hle, hsh⟩ := hsp.shortest CompactInteger.Spelling.shortest
    have henv : envelope = tx.hasWitness := by
      cases envelope with
      | false => exact hleg.no_witness.symm
      | true =>
        -- without witnesses the envelope would not be written, and the bytes would be too many
        by_contra hwit
        have hln := length_envelope tx
        have hst : tx.serializeWith true = tx.serializeStripped := by
          rw [serializeWith, Bool.eq_false_iff.mpr (Ne.symm hwit)]
          rfl
        rw [hst, serializeStripped_eq] at heq
        rw [heq, length_append] at hln
        omega
    rw [hleg.serializeWith_eq hzl henv, ← henv] at heq
    have hlen := congrArg List.length heq
    rw [length_append] at hlen
    obtain rfl := length_eq_zero_iff.mp (by omega : left.length = 0)
    exact ⟨tx, envelope, hleg, hzl, fun h => henv ▸ h, spells_shortest_iff.mpr heq.symm⟩
  · rintro ⟨other, envelope, hleg, hzl, hwit, hsp⟩
    have hoth : Reads (deserializeTx txType) .standard input other [] :=
      reads_deserializeTx.mpr ⟨envelope, hleg, hzl, input, (append_nil _).symm,
        spells_of_shortest hsp⟩
    obtain ⟨rfl, _⟩ := hrd.unique hoth
    have henv : envelope = tx.hasWitness := by
      cases envelope with
      | false => exact hleg.no_witness.symm
      | true => exact (hwit rfl).symm
    rw [hleg.serializeWith_eq hzl henv, ← henv]
    exact (spells_shortest_iff.mp hsp).symm

/-- An accepted transaction is written back as the received bytes, so that its hashes are theirs,
exactly if the bytes were canonical for the kind they are read as. -/
theorem accepted_eq_received_iff (sha256 : Bytes → H256) {input : Bytes}
    (h : (Chain.deserialize deserialize input).outcome = .ok tx []) :
    (tx.serializeWith true = input ∧ tx.witnessHash sha256 = dhash256 sha256 input ∧
      (tx.hasWitness = false → tx.hash sha256 = dhash256 sha256 input)) ↔
    ∃ txType, ReadAs input txType ∧ Canonical txType input := by
  obtain ⟨_, txType, left, hre, hrd⟩ := reads_transaction.mp (deserialize_eq_ok.mp h).1
  constructor
  · rintro ⟨heq, _⟩
    exact ⟨txType, hre, (serializeWith_eq_iff hrd).mp heq⟩
  · rintro ⟨txType', hrd', hcn⟩
    obtain rfl := hre.unique hrd'
    have heq := (serializeWith_eq_iff hrd).mpr hcn
    refine ⟨heq, by rw [witnessHash, heq], fun hwit => ?_⟩
    obtain ⟨_, hleg, _⟩ := reads_deserializeTx.mp hrd
    have hst : Chain.serialize tx = tx.serializeWith true := by
      show serializeWith false tx = _
      simp [serializeWith, hwit]
    rw [hash, hleg.txHashAlgo]
    rw [hst, heq]

/-- The bytes of a payment are canonical. -/
theorem payment_received :
    (Chain.deserialize deserialize (payment.serializeWith true)).outcome = .ok payment [] ∧
    ∃ txType, ReadAs (payment.serializeWith true) txType ∧
      Canonical txType (payment.serializeWith true) := by
  have h : (Chain.deserialize deserialize (payment.serializeWith true)).outcome =
      .ok payment [] := by
    decide +kernel
  exact ⟨h, (accepted_eq_received_iff (fun _ => .replicate 32 0) h).mp ⟨rfl, rfl, fun _ => rfl⟩⟩

/-- A payment with a byte behind it is accepted, and the byte is lost. -/
theorem payment_trailing :
    (Chain.deserialize deserialize (payment.serializeWith true ++ [0])).outcome = .ok payment [] ∧
    payment.serializeWith true ≠ payment.serializeWith true ++ [0] := by
  decide +kernel

end Transaction

end CheetahDex.Chain
