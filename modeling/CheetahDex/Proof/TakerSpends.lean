import CheetahDex.Utxo.TakerSpends

/-!
# What a validated preimage leaves open, and what the maker is paid

Both validations look at the input and at the outputs of the transaction they are given, and the
validator then signs that very transaction. The funding has the fee but not the part of it that is
burnt, and the spend of the payment pays both: what is burnt is taken from the maker. The spends
with one signature do not check that the payment has as much as the fee.
-/

namespace CheetahDex.Utxo.SpendCoin

open Chain (Bytes Transaction TransactionOutput)
open Lib List Option Except
open Script (Builder)
open Swap (DexFee toDecimal)
open SwapV2 (GenTakerFundingSpendArgs GenTakerPaymentSpendArgs TxPreimageWithSig
  ValidateTakerFundingArgs)

variable {c : SpendCoin}

/-! ## The transaction that is sent -/

/-- The transaction is the one that was to be signed. -/
structure Finished (signer : TransactionInputSigner) (tx : Transaction) : Prop where
  version : tx.version = signer.version
  lockTime : tx.lockTime = signer.lockTime
  outputs : tx.outputs = signer.outputs
  inputs : ∃ input, signer.inputs[0]? = some input ∧
    tx.inputs.map (fun i => (i.previousOutput, i.sequence)) =
      [(input.previousOutput, input.sequence)]

variable {tx : Transaction} {p : TxPreimageWithSig standardTypes}
  {args : GenTakerPaymentSpendArgs standardTypes} {secret : Bytes} {fee : UInt64}
  {sats : UInt64 × UInt64}

variable {signer : TransactionInputSigner} {dexFee : DexFee} {output : TransactionOutput}

theorem finish_spec {scriptSig : Option Bytes} (h : c.finish signer scriptSig = .ok tx) :
    Finished signer tx := by
  obtain ⟨script, -, input, hinp, h⟩ := of_bind₂_ok h
  cases h
  exact ⟨rfl, rfl, rfl, input, orError_ok_iff.1 hinp, rfl⟩

theorem signAndSend_spec {args : GenTakerFundingSpendArgs standardTypes}
    (h : c.signAndSendTakerFundingSpend args p = .ok tx) : Finished p.preimage tx := by
  obtain ⟨_, -, _, -, _, -, h⟩ := of_bind₃_ok h
  exact finish_spec h

theorem signAndBroadcast_spec (h : c.signAndBroadcastTakerPaymentSpend args p secret = .ok tx) :
    ∃ added, c.addedOutputs args.dexFee = .ok added ∧
      Finished { p.preimage with outputs := p.preimage.outputs ++ added } tx := by
  obtain ⟨_, -, _, -, added, hadd, h⟩ := of_bind₃_ok h
  obtain ⟨_, -, h⟩ := of_bind_ok h
  exact ⟨added, hadd, finish_spec h⟩

/-! ## The transaction that the validator expects -/

/-- The spend of the funding that its validator would make. -/
def fundingSkeleton (c : SpendCoin) (args : GenTakerFundingSpendArgs standardTypes) (fee : UInt64) :
    Except SpendError TransactionInputSigner := do
  let output ← orError args.fundingTx.outputs[0]? .panic
  return c.unsigned args.fundingTx output [⟨output.value - fee, ← c.p2sh (c.paymentRedeem args)⟩]

/-- The spend of the payment that its validator would make, with the output that it adds. -/
def paymentSkeleton (c : SpendCoin) (args : GenTakerPaymentSpendArgs standardTypes) (fee : UInt64) :
    Except SpendError TransactionInputSigner := do
  let output ← orError args.takerTx.outputs[0]? .panic
  let makerScript ← orError (Builder.buildP2pkh args.makerAddress.toList) .panic
  let sats ← c.feeSats (.internalError "amount") args.dexFee
  let value ← orError (makerValue output.value fee sats) .prevOutputTooLow
  return c.unsigned args.takerTx output (⟨value, makerScript⟩ ::
    (← c.fixedOutputs sats args.dexFee) ++ (← c.addedOutputs args.dexFee))

/-- What the inputs have and the outputs do not is within a tenth of the fee. -/
def FeeInRange (fee : UInt64) (sk : TransactionInputSigner)
    (outputs : List TransactionOutput) : Prop :=
  10 * |((sk.inputs.map (·.amount.toNat)).sum : ℤ) -
    (outputs.map (·.value.toNat)).sum - fee.toNat| ≤ fee.toNat

instance (fee : UInt64) (sk : TransactionInputSigner) (outputs : List TransactionOutput) :
    Decidable (FeeInRange fee sk outputs) := inferInstanceAs (Decidable (_ ≤ _))

/-- A transaction that is as it was expected. -/
def Pinned (fee : UInt64) (sk : TransactionInputSigner) (tx : Transaction) : Prop :=
  tx.version = sk.version ∧ tx.lockTime = sk.lockTime ∧
  tx.inputs.map (fun i => (i.previousOutput, i.sequence)) =
    sk.inputs.map (fun i => (i.previousOutput, i.sequence)) ∧
  tx.outputs.map (·.scriptPubkey) = sk.outputs.map (·.scriptPubkey) ∧
  FeeInRange fee sk tx.outputs

/-- What no validation looks at is as expected in what the other side has signed. -/
def Expected (fee : UInt64) (sk signer : TransactionInputSigner) : Prop :=
  signer.version = sk.version ∧ signer.lockTime = sk.lockTime ∧
  signer.inputs.map (·.sequence) = sk.inputs.map (·.sequence) ∧
  FeeInRange fee sk signer.outputs

instance (fee : UInt64) (sk signer : TransactionInputSigner) :
    Decidable (Expected fee sk signer) := instDecidableAnd

variable {sk : TransactionInputSigner}

/-- The outpoint and the scripts are what a validation looks at. -/
structure Checked (sk signer : TransactionInputSigner) : Prop where
  inputs : signer.inputs.map (·.previousOutput) = sk.inputs.map (·.previousOutput)
  one : sk.inputs.length = 1
  scripts : signer.outputs.map (·.scriptPubkey) = sk.outputs.map (·.scriptPubkey)

theorem Finished.pinned_iff (h : Finished signer tx) (hch : Checked sk signer) :
    Pinned fee sk tx ↔ Expected fee sk signer := by
  obtain ⟨hver, hlc, hot, input, hinp, hpr⟩ := h
  obtain ⟨hins, hone, hsc⟩ := hch
  obtain ⟨expected, hexpected⟩ := length_eq_one_iff.1 hone
  obtain ⟨input', hsg⟩ : ∃ input', signer.inputs = [input'] := by
    refine length_eq_one_iff.1 ?_
    have hlen := congrArg List.length hins
    rw [length_map, length_map, hone] at hlen
    exact hlen
  rw [hsg] at hinp hins
  obtain rfl : input' = input := some.inj hinp
  rw [hexpected] at hins
  have hpv : input'.previousOutput = expected.previousOutput := singleton_inj.1 hins
  unfold Pinned Expected
  rw [hver, hlc, hpr, hot, hsg, hexpected, hsc]
  simp [hpv]

theorem validateFunding_spec {args : GenTakerFundingSpendArgs standardTypes}
    (h : c.validateTakerFundingSpendPreimage args p = .ok ())
    (hsk : c.fundingSkeleton args fee = .ok sk) : Checked sk p.preimage := by
  obtain ⟨output, -, script, hscr, hsk⟩ := of_bind₂_ok hsk
  cases hsk
  obtain ⟨_, -, _, -, _, -, h⟩ := of_bind₃_ok h
  obtain ⟨_, hinp, h⟩ := of_bind_ok h
  refine ⟨not_not.1 (not_of_check hinp), rfl, ?_⟩
  split at h
  · rename_i signed hsig
    obtain ⟨script', hscr', h⟩ := of_bind_ok h
    cases hscr'.symm.trans hscr
    obtain ⟨_, hchk, -⟩ := of_bind_ok h
    rw [hsig]
    exact congrArg (fun s => [s]) (not_not.1 (not_of_check hchk))
  · cases h

theorem fixedOutputs_spec {fixed signed : List TransactionOutput}
    (h : c.fixedOutputs sats dexFee = .ok fixed)
    (hlen : signed.length + 1 = expectedOutputsLen dexFee)
    (hchk : checkFixedOutputs sats fixed signed = .ok ()) :
    signed.map (·.scriptPubkey) = fixed.map (·.scriptPubkey) := by
  have hn (hlen : signed.length + 1 = 1) : signed = [] :=
    eq_nil_of_length_eq_zero (Nat.succ.inj hlen)
  cases dexFee with
  | noFee | standard amount =>
    cases h
    rw [hn hlen]
  | withBurn feeAmount burnAmount destination =>
    obtain ⟨feeOut, -, burnOut, -, h⟩ := of_bind₂_ok h
    cases h
    obtain ⟨feeOut', burnOut', rfl⟩ := length_eq_two.1 (Nat.succ.inj hlen)
    obtain ⟨_, hfee, _, -, _, hbu, -⟩ := of_bind₃_ok hchk
    have hfs := not_not.1 (not_of_check hfee)
    have hbt := not_not.1 (not_of_check hbu)
    simp [hfs, hbt]

/-- What passes the check has the outpoint and the scripts of the expected spend. -/
theorem validatePayment_spec {added : List TransactionOutput}
    (h : c.validateTakerPaymentSpendPreimage args p = .ok ())
    (hsk : c.paymentSkeleton args fee = .ok sk)
    (hadd : c.addedOutputs args.dexFee = .ok added) :
    Checked sk { p.preimage with outputs := p.preimage.outputs ++ added } := by
  obtain ⟨output, -, script, hscr, sats, hst, hsk⟩ := of_bind₃_ok hsk
  obtain ⟨value, -, fixed, hfix, added', hadd', hsk⟩ := of_bind₃_ok hsk
  cases hadd'.symm.trans hadd
  cases hsk
  obtain ⟨_, -, _, -, script', hscr', h⟩ := of_bind₃_ok h
  obtain ⟨sats', hst', _, -, _, hinp, h⟩ := of_bind₃_ok h
  obtain ⟨_, hlen, makerOutput, hmk, _, hma, h⟩ := of_bind₃_ok h
  obtain ⟨_, -, fixed', hfix', _, hchk, -⟩ := of_bind₃_ok h
  cases hscr'.symm.trans hscr
  cases hst'.symm.trans hst
  cases hfix'.symm.trans hfix
  obtain ⟨tail, hot⟩ := head?_eq_some_iff.1 (head?_eq_getElem?.trans (orError_ok_iff.1 hmk))
  have hlen' := not_not.1 (not_of_check hlen)
  rw [hot] at hlen' hchk
  have htl := fixedOutputs_spec hfix hlen' hchk
  refine ⟨not_not.1 (not_of_check hinp), rfl, ?_⟩
  rw [hot]
  simp [unsigned, not_not.1 (not_of_check hma), htl]

/-- **What is signed and sent after a validation is as the validator expects exactly if the other
side has not changed what no validation looks at, and has left a fee in the range.** -/
theorem preimage_pinned_iff (c : SpendCoin) (fee : UInt64) :
    (∀ args p tx sk, c.htlcSpendFee = .ok fee →
      c.fundingSkeleton args fee = .ok sk →
      c.validateTakerFundingSpendPreimage args p = .ok () →
      c.signAndSendTakerFundingSpend args p = .ok tx →
      (Pinned fee sk tx ↔ Expected fee sk p.preimage)) ∧
    ∀ args p secret tx sk added, c.htlcSpendFee = .ok fee →
      c.paymentSkeleton args fee = .ok sk → c.addedOutputs args.dexFee = .ok added →
      c.validateTakerPaymentSpendPreimage args p = .ok () →
      c.signAndBroadcastTakerPaymentSpend args p secret = .ok tx →
      (Pinned fee sk tx ↔
        Expected fee sk { p.preimage with outputs := p.preimage.outputs ++ added }) := by
  refine ⟨fun args p tx sk _ hsk hval hsn => ?_,
    fun args p secret tx sk added _ hsk hadd hval hsn => ?_⟩
  · exact (signAndSend_spec hsn).pinned_iff (validateFunding_spec hval hsk)
  · obtain ⟨added', hadd', hfin⟩ := signAndBroadcast_spec hsn
    cases hadd'.symm.trans hadd
    exact hfin.pinned_iff (validatePayment_spec hval hsk hadd)

/-- A coin whose hash functions and signatures are as simple as can be. -/
def plain : SpendCoin where
  hashes := ⟨fun _ => .replicate 32 0, fun _ => .replicate 20 0⟩
  signatureHash := fun _ _ _ _ _ => .replicate 32 0
  verify := fun _ digest signature => .ok (signature = digest.toList)
  digits := 100
  fee := ⟨"RICK", 8, 1000, true⟩
  txVersion := 1
  overwintered := false
  versionGroupId := 0
  consensusBranchId := 0
  zcash := false
  forkId := 0
  txHashAlgo := .dsha256
  dexFeePubkey := .replicate 33 3
  nTime := none
  htlcPubkey := .ok (.compressed (.replicate 33 2))
  sign := fun digest => .ok digest.toList
  htlcSpendFee := .ok 1000

/-- A transaction that pays an amount to the hash of any script. -/
def paying (value : UInt64) : Transaction :=
  ⟨1, none, false, 0, [], [⟨value, [0xa9, 20] ++ .replicate 20 0 ++ [0x87]⟩], 0, 0, [], [], [], 0,
    .replicate 32 0, .replicate 64 0, .replicate 64 0, false, none, .dsha256⟩

def plainArgs : GenTakerFundingSpendArgs standardTypes where
  fundingTx := paying 100000
  makerPub := .compressed (.replicate 33 2)
  takerPub := .compressed (.replicate 33 3)
  fundingTimeLock := 3000
  takerSecretHash := .replicate 32 1
  takerPaymentTimeLock := 1000
  makerSecretHash := .replicate 32 2

def plainSpendArgs : GenTakerPaymentSpendArgs standardTypes where
  takerTx := paying 99000
  timeLock := 1000
  makerSecretHash := .replicate 32 2
  makerPub := .compressed (.replicate 33 2)
  makerAddress := .replicate 20 0
  takerPub := .compressed (.replicate 33 3)
  dexFee := .noFee
  premiumAmount := 0
  tradingAmount := 1 / 1000

/-- The spends of the two transactions. -/
def fundingSpend : TxPreimageWithSig standardTypes :=
  ⟨plain.unsigned (paying 100000) ⟨100000, []⟩ (paying 99000).outputs, .replicate 32 0⟩

def paymentSpend : TxPreimageWithSig standardTypes :=
  ⟨plain.unsigned (paying 99000) ⟨99000, []⟩
    [⟨98000, [0x76, 0xa9, 20] ++ .replicate 20 0 ++ [0x88, 0xac]⟩], .replicate 32 0⟩

set_option maxRecDepth 8000 in
theorem plain_pinned :
    (∃ sk tx, plain.fundingSkeleton plainArgs 1000 = .ok sk ∧
      plain.validateTakerFundingSpendPreimage plainArgs fundingSpend = .ok () ∧
      plain.signAndSendTakerFundingSpend plainArgs fundingSpend = .ok tx ∧
      Pinned 1000 sk tx) ∧
    ∃ sk tx, plain.paymentSkeleton plainSpendArgs 1000 = .ok sk ∧
      plain.validateTakerPaymentSpendPreimage plainSpendArgs paymentSpend = .ok () ∧
      plain.signAndBroadcastTakerPaymentSpend plainSpendArgs paymentSpend [7] = .ok tx ∧
      Pinned 1000 sk tx := by
  have hpn := preimage_pinned_iff plain 1000
  refine ⟨⟨_, _, rfl, rfl, rfl, (hpn.1 plainArgs fundingSpend _ _ rfl rfl rfl rfl).2 ?_⟩,
    _, _, rfl, rfl, rfl,
    (hpn.2 plainSpendArgs paymentSpend [7] _ _ [] rfl rfl rfl rfl rfl).2 ?_⟩
  · decide +kernel
  · decide +kernel

/-- The same transaction, for miners in the year 2030. -/
def late (p : TxPreimageWithSig standardTypes) : TxPreimageWithSig standardTypes :=
  { p with preimage := { p.preimage with
    lockTime := 1893456000
    inputs := p.preimage.inputs.map fun input => { input with sequence := 0 } } }

set_option maxRecDepth 8000 in
theorem late_accepted :
    (∃ sk tx, plain.fundingSkeleton plainArgs 1000 = .ok sk ∧
      plain.validateTakerFundingSpendPreimage plainArgs (late fundingSpend) = .ok () ∧
      plain.signAndSendTakerFundingSpend plainArgs (late fundingSpend) = .ok tx ∧
      ¬Pinned 1000 sk tx) ∧
    ∃ sk tx, plain.paymentSkeleton plainSpendArgs 1000 = .ok sk ∧
      plain.validateTakerPaymentSpendPreimage plainSpendArgs (late paymentSpend) = .ok () ∧
      plain.signAndBroadcastTakerPaymentSpend plainSpendArgs (late paymentSpend) [7] = .ok tx ∧
      ¬Pinned 1000 sk tx := by
  refine ⟨⟨_, _, rfl, rfl, rfl, fun h => absurd h.2.1 ?_⟩,
    _, _, rfl, rfl, rfl, fun h => absurd h.2.1 ?_⟩
  · decide +kernel
  · decide +kernel

/-! ## What the maker is paid -/

variable {m t : SpendCoin}

theorem toNat_sub_add_iff {a b : UInt64} : (a - b).toNat + b.toNat = a.toNat ↔ b ≤ a := by
  rw [UInt64.le_iff_toNat_le]
  constructor
  · omega
  · intro hle
    rw [UInt64.toNat_sub_of_le a b (UInt64.le_iff_toNat_le.2 hle)]
    exact Nat.sub_add_cancel hle

theorem toNat_of_checkedSub {a b d : UInt64} (h : checkedSub a b = some d) :
    d.toNat + b.toNat = a.toNat := by
  unfold checkedSub at h
  split at h
  · rename_i hle
    cases h
    exact toNat_sub_add_iff.2 hle
  · cases h

theorem toNat_of_makerValue {value fee maker : UInt64}
    (h : makerValue value fee sats = some maker) :
    maker.toNat + fee.toNat + sats.2.toNat + sats.1.toNat = value.toNat := by
  obtain ⟨unburnt, hun, hfee⟩ := Option.bind_eq_some_iff.1 h
  obtain ⟨unpaid, hud, hbu⟩ := Option.bind_eq_some_iff.1 hun
  have hva := toNat_of_checkedSub hud
  have hr := toNat_of_checkedSub hbu
  have hmk := toNat_of_checkedSub hfee
  omega

/-- The payment has what the fee leaves of the funding. -/
theorem genFundingSpend_spec {args : GenTakerFundingSpendArgs standardTypes}
    (h : m.genTakerFundingSpendPreimage args = .ok p) : ∃ fee output payment,
      m.htlcSpendFee = .ok fee ∧ args.fundingTx.outputs[0]? = some output ∧
      p.preimage.outputs = [payment] ∧ payment.value.toNat + fee.toNat = output.value.toNat := by
  obtain ⟨fee, hfee, signer, hsg, h⟩ := of_bind₂_ok h
  obtain ⟨output, hout, _, hlow, script, -, hsg⟩ := of_bind₃_ok hsg
  cases hsg
  obtain ⟨_, -, _, -, h⟩ := of_bind₂_ok h
  cases h
  exact ⟨fee, output, _, of_mapError_ok hfee, orError_ok_iff.1 hout, rfl,
    toNat_sub_add_iff.2 (UInt64.le_of_lt (UInt64.not_le.1 (not_of_check hlow)))⟩

/-- The values that the outputs for a fee should have. -/
def feeValues (sats : UInt64 × UInt64) : DexFee → List UInt64
  | .noFee => []
  | .standard _ => [sats.1]
  | .withBurn .. => [sats.1, sats.2]

theorem value_of_dexFee {sat : UInt64} (h : m.dexFeeStandardOutput sat = .ok output) :
    output.value = sat := by
  obtain ⟨_, -, _, -, h⟩ := of_bind₂_ok h
  cases h
  rfl

/-- What the output has that burns something. -/
def burntValue (sats : UInt64 × UInt64) : DexFee → UInt64
  | .withBurn _ _ .kmdOpReturn => 0
  | _ => sats.2

section feeOutputs

variable {err : SpendError} {fixed added : List TransactionOutput}
  (hst : m.feeSats err dexFee = .ok sats) (hfix : t.fixedOutputs sats dexFee = .ok fixed)
  (hadd : m.addedOutputs dexFee = .ok added)

include hst hfix hadd

/-- The outputs for the fee have the values they should, except that nothing can be burnt with the
script that nothing can spend. -/
theorem feeOutputs_spec :
    (fixed ++ added).map (·.value) = feeValues (sats.1, burntValue sats dexFee) dexFee := by
  cases dexFee with
  | noFee =>
    cases hfix
    cases hadd
    simp [feeValues]
  | standard amount =>
    obtain ⟨sat, hsat, hst⟩ := of_bind_ok hst
    obtain ⟨sat', hsat', hadd⟩ := of_bind_ok hadd
    cases (orError_ok_iff.1 hsat).symm.trans (orError_ok_iff.1 hsat')
    obtain ⟨output, hout, hadd⟩ := of_bind_ok hadd
    cases hadd
    cases hst
    cases hfix
    simp [feeValues, value_of_dexFee hout]
  | withBurn feeAmount burnAmount destination =>
    cases hadd
    obtain ⟨feeOutput, hft, burnOutput, hbr, hfix⟩ := of_bind₂_ok hfix
    cases hfix
    have hfee := value_of_dexFee hft
    cases destination with
    | kmdOpReturn =>
      obtain ⟨_, -, hbr⟩ := of_bind_ok hbr
      cases hbr
      simp [feeValues, burntValue, hfee]
    | preBurnAccount burnPubkey =>
      obtain ⟨_, -, _, -, hbr⟩ := of_bind₂_ok hbr
      cases hbr
      simp [feeValues, burntValue, hfee]

theorem feeOutputs_iff : (fixed ++ added).map (·.value) = feeValues sats dexFee ↔
    ∀ feeAmount burnAmount, dexFee = .withBurn feeAmount burnAmount .kmdOpReturn → sats.2 = 0 := by
  rw [feeOutputs_spec hst hfix hadd]
  rcases dexFee with _ | _ | ⟨_, _, _ | _⟩ <;> simp [feeValues, burntValue, eq_comm]

theorem feeOutputs_le :
    ((fixed ++ added).map (·.value.toNat)).sum ≤ sats.1.toNat + sats.2.toNat := by
  have hvl := congrArg (List.map UInt64.toNat) (feeOutputs_spec hst hfix hadd)
  rw [List.map_map] at hvl
  change (fixed ++ added).map (·.value.toNat) = _ at hvl
  rw [hvl]
  rcases dexFee with _ | _ | ⟨_, _, _ | _⟩ <;> simp [feeValues, burntValue]

end feeOutputs

theorem feeSats_congr (hdecimals : t.fee.decimals = m.fee.decimals) (hdigits : t.digits = m.digits)
    (err : SpendError) (dexFee : DexFee) : t.feeSats err dexFee = m.feeSats err dexFee := by
  cases dexFee <;> simp [feeSats, sat, hdecimals, hdigits]

/-- The outputs of the spend of a payment, without what the maker adds. -/
theorem genPaymentSpend_spec (h : t.genTakerPaymentSpendPreimage args = .ok p) :
    ∃ fee payment sats maker script fixed, t.htlcSpendFee = .ok fee ∧
      args.takerTx.outputs[0]? = some payment ∧ t.feeSats .numConversion args.dexFee = .ok sats ∧
      makerValue payment.value fee sats = some maker ∧
      t.fixedOutputs sats args.dexFee = .ok fixed ∧
      p.preimage.outputs = ⟨maker, script⟩ :: fixed := by
  obtain ⟨payment, hpay, fee, hfee, script, -, h⟩ := of_bind₃_ok h
  obtain ⟨sats, hst, maker, hmk, fixed, hfix, h⟩ := of_bind₃_ok h
  obtain ⟨_, -, _, -, h⟩ := of_bind₂_ok h
  cases h
  exact ⟨fee, payment, sats, maker, script, fixed, of_mapError_ok hfee,
    orError_ok_iff.1 hpay, hst, orError_ok_iff.1 hmk, hfix, rfl⟩

/-- The maker gets what is traded and the premium but for the fees of the network, and the other
outputs have the amounts of the fee. -/
def PaidInFull (c : SpendCoin) (args : ValidateTakerFundingArgs standardTypes) (fees : ℕ)
    (spend : Transaction) : Prop :=
  ∃ traded sats maker, c.sat (args.tradingAmount + args.premiumAmount) = some traded ∧
    c.feeSats .numConversion args.dexFee = .ok sats ∧
    spend.outputs.map (·.value) = maker :: feeValues sats args.dexFee ∧
    maker.toNat + fees = traded.toNat

/-- The units of the total are those of what is traded, of the fee and of what is burnt, and nothing
is burnt with the script that nothing can spend. -/
def Covered (c : SpendCoin) (args : ValidateTakerFundingArgs standardTypes) : Prop :=
  ∃ total traded sats, c.sat (args.tradingAmount + args.premiumAmount +
      toDecimal c.digits args.dexFee.feeAmount) = some total ∧
    c.sat (args.tradingAmount + args.premiumAmount) = some traded ∧
    c.feeSats .numConversion args.dexFee = .ok sats ∧
    total.toNat = traded.toNat + sats.1.toNat + sats.2.toNat ∧
    ∀ feeAmount burnAmount, args.dexFee = .withBurn feeAmount burnAmount .kmdOpReturn → sats.2 = 0

/-- The way from a funding to the maker: the maker accepts the funding and makes its spend, which
the taker sends, and the taker makes the spend of the payment, which the maker sends. -/
def conduct (m t : SpendCoin) (funding : ValidateTakerFundingArgs standardTypes)
    (gen : GenTakerFundingSpendArgs standardTypes) (args : GenTakerPaymentSpendArgs standardTypes)
    (secret : Bytes) : Except SpendError Transaction := do
  m.validateTakerFunding funding
  let gen := { gen with fundingTx := funding.fundingTx }
  let payment ← t.signAndSendTakerFundingSpend gen (← m.genTakerFundingSpendPreimage gen)
  let args := { args with takerTx := payment, dexFee := funding.dexFee }
  m.signAndBroadcastTakerPaymentSpend args (← t.genTakerPaymentSpendPreimage args) secret

/-- **The maker is paid in full exactly if what the funding has covers what is burnt.** -/
theorem maker_paid_iff {funding : ValidateTakerFundingArgs standardTypes}
    {gen : GenTakerFundingSpendArgs standardTypes} {fee fee' : UInt64} {spend : Transaction}
    (hdecimals : t.fee.decimals = m.fee.decimals) (hdigits : t.digits = m.digits)
    (hfee : m.htlcSpendFee = .ok fee) (hfee' : t.htlcSpendFee = .ok fee')
    (h : conduct m t funding gen args secret = .ok spend) :
    PaidInFull m funding (fee.toNat + fee'.toNat) spend ↔ Covered m funding := by
  obtain ⟨_, hval, p, hp, payment, hpay, h⟩ := of_bind₃_ok h
  obtain ⟨q, hq, hsp⟩ := of_bind_ok h
  -- the funding has the total in its first output
  obtain ⟨_, -, _, -, total, htt, hval⟩ := of_bind₃_ok hval
  obtain ⟨output, hout, _, -, hval⟩ := of_bind₂_ok hval
  obtain rfl := not_not.1 (not_of_check hval)
  rw [orError_ok_iff] at hout htt
  obtain ⟨fee₁, output₁, paid, hfee₁, hot₁, hpd, hva⟩ := genFundingSpend_spec hp
  cases hfee.symm.trans hfee₁
  cases hout.symm.trans hot₁
  have hout' : payment.outputs[0]? = some paid := by
    rw [(signAndSend_spec hpay).outputs, hpd]
    rfl
  obtain ⟨fee₂, paid₂, sats, maker, script, fixed, hfee₂, hpd₂, hst, hmk, hfix, hq'⟩ :=
    genPaymentSpend_spec hq
  cases hfee'.symm.trans hfee₂
  cases hout'.symm.trans hpd₂
  obtain ⟨added, hadd, hfin⟩ := signAndBroadcast_spec hsp
  have hot : spend.outputs = ⟨maker, script⟩ :: fixed ++ added :=
    hfin.outputs.trans (congrArg (· ++ added) hq')
  rw [feeSats_congr hdecimals hdigits] at hst
  have hfe := feeOutputs_iff hst hfix hadd
  have hnat := toNat_of_makerValue hmk
  constructor
  · rintro ⟨traded, sats', maker', htr, hst', hvl, hfl⟩
    cases hst.symm.trans hst'
    rw [hot] at hvl
    obtain ⟨hmk', hr⟩ := List.cons.inj hvl
    obtain rfl : maker = maker' := hmk'
    exact ⟨_, traded, sats, htt, htr, hst, by omega, hfe.1 hr⟩
  · rintro ⟨total, traded, sats', htt', htr, hst', hus, hbu⟩
    cases hst.symm.trans hst'
    cases htt.symm.trans htt'
    refine ⟨traded, sats, maker, htr, hst, ?_, by omega⟩
    rw [hot]
    exact congrArg (maker :: ·) (hfe.2 hbu)

def plainFunding (value : UInt64) (dexFee : DexFee) : ValidateTakerFundingArgs standardTypes where
  fundingTx := paying value
  fundingTimeLock := 3000
  paymentTimeLock := 1000
  takerSecretHash := .replicate 32 1
  makerSecretHash := .replicate 32 2
  takerPub := .compressed (.replicate 33 3)
  dexFee := dexFee
  premiumAmount := 0
  tradingAmount := 1 / 1000
  swapUniqueData := []

theorem standardFee_paid :
    let funding := plainFunding 110000 (.standard (1 / 10000))
    ∃ spend, conduct plain plain funding plainArgs plainSpendArgs [7] = .ok spend ∧
      PaidInFull plain funding 2000 spend := by
  intro funding
  have hvl : (conduct plain plain funding plainArgs plainSpendArgs [7]).map
      (fun spend => spend.outputs.map (·.value)) = .ok [98000, 10000] := by decide +kernel
  obtain ⟨spend, hsp, -⟩ := of_map_ok hvl
  have hfee : plain.htlcSpendFee = .ok 1000 := rfl
  refine ⟨spend, hsp, (maker_paid_iff rfl rfl hfee hfee hsp).2
    ⟨110000, 100000, (10000, 0), ?_, ?_, ?_, rfl, ?_⟩⟩
  · decide +kernel
  · decide +kernel
  · decide +kernel
  · intro _ _ hbu
    cases hbu

/-- A fee of a tenth, and half as much to be burnt. -/
def burning : DexFee := .withBurn (1 / 10000) (1 / 20000) (.preBurnAccount (.replicate 33 4))

theorem burning_underpaid :
    ∃ spend, conduct plain plain (plainFunding 110000 burning) plainArgs plainSpendArgs [7] =
      .ok spend ∧ ¬PaidInFull plain (plainFunding 110000 burning) 2000 spend := by
  have hvl : (conduct plain plain (plainFunding 110000 burning) plainArgs plainSpendArgs
      [7]).map (fun spend => spend.outputs.map (·.value)) = .ok [93000, 10000, 5000] := by
    decide +kernel
  have htr : plain.sat (1 / 1000 + 0) = some 100000 := by decide +kernel
  obtain ⟨spend, hsp, hspn⟩ := of_map_ok hvl
  refine ⟨spend, hsp, ?_⟩
  rintro ⟨traded, sats, maker, htr', -, hmk, hfl⟩
  cases htr.symm.trans htr'
  rw [hspn] at hmk
  obtain ⟨rfl, -⟩ := List.cons.inj hmk
  exact absurd hfl (by decide)

/-! ## What a spend leaves of a payment -/

/-- The outputs have no more than the output that is spent. -/
def Within (prev : Transaction) (outputs : List TransactionOutput) : Prop :=
  ∃ output, prev.outputs[0]? = some output ∧ (outputs.map (·.value.toNat)).sum ≤ output.value.toNat

/-- The payment and the fee with which a spend comes to its subtraction. -/
def Reached (c : SpendCoin) (w : Wallet) (prevTx : Bytes) (prev : Transaction) (fee : UInt64) :
    Prop :=
  c.readPayment prevTx = .ok prev ∧ (∃ script, w.ownScript = .ok script) ∧ c.htlcSpendFee = .ok fee

/-- The subtraction is that of the numbers, and no value is created. -/
structure Conserving (c : SpendCoin) (w : Wallet) (input : HtlcInput) (prevTx : Bytes) : Prop where
  exact : ∀ prev fee, c.Reached w prevTx prev fee → ∃ output, prev.outputs[0]? = some output ∧
    (output.value - fee).toNat + fee.toNat = output.value.toNat
  first : ∀ tx, c.sendSpend w input prevTx = .ok tx →
    ∃ prev, c.readPayment prevTx = .ok prev ∧ Within prev tx.outputs
  second : ∀ tx, c.buildAndBroadcastMakerV2Spend w input prevTx = .ok tx →
    ∃ prev, c.readPayment prevTx = .ok prev ∧ Within prev tx.outputs

variable {w : Wallet} {input : HtlcInput} {prev : Transaction} {script : Bytes}

/-- Where the fee is covered the rest is within the payment. -/
theorem within_of_spendPayment {prevTx : Bytes} (hrd : c.readPayment prevTx = .ok prev)
    (hscr : w.ownScript = .ok script) (h : c.spendPayment w input prev script = .ok tx)
    (hcv : ∀ prev fee, c.Reached w prevTx prev fee →
      ∃ output, prev.outputs[0]? = some output ∧ fee ≤ output.value) :
    ∃ prev, c.readPayment prevTx = .ok prev ∧ Within prev tx.outputs := by
  obtain ⟨fee, hfee, output, hout, h⟩ := of_bind₂_ok h
  obtain ⟨_, -, _, -, _, -, h⟩ := of_bind₃_ok h
  obtain ⟨output', hout', hle⟩ := hcv prev fee ⟨hrd, ⟨script, hscr⟩, of_mapError_ok hfee⟩
  rw [orError_ok_iff] at hout
  cases hout.symm.trans hout'
  refine ⟨prev, hrd, output, hout, ?_⟩
  have hexact := toNat_sub_add_iff.2 hle
  rw [(finish_spec h).outputs]
  change (output.value - fee).toNat + 0 ≤ _
  omega

/-- **A spend with one signature creates no value exactly if the payment has an output that covers
the fee. What both sides sign never does when it is made, and is sent as it was made.** -/
theorem conserving_iff (c : SpendCoin) (w : Wallet) (input : HtlcInput) (prevTx : Bytes) :
    (c.Conserving w input prevTx ↔ ∀ prev fee, c.Reached w prevTx prev fee →
      ∃ output, prev.outputs[0]? = some output ∧ fee ≤ output.value) ∧
    (∀ args p, c.genTakerFundingSpendPreimage args = .ok p →
      Within args.fundingTx p.preimage.outputs) ∧
    (∀ args p tx, c.signAndSendTakerFundingSpend args p = .ok tx →
      tx.outputs = p.preimage.outputs) ∧
    (∀ args p added, c.genTakerPaymentSpendPreimage args = .ok p →
      c.addedOutputs args.dexFee = .ok added →
      Within args.takerTx (p.preimage.outputs ++ added)) ∧
    ∀ args p secret tx, c.signAndBroadcastTakerPaymentSpend args p secret = .ok tx →
      ∃ added, c.addedOutputs args.dexFee = .ok added ∧
        tx.outputs = p.preimage.outputs ++ added := by
  refine ⟨⟨fun h prev fee hrc => ?_, fun h => ?_⟩, fun args p h => ?_,
    fun args p tx hsn => (signAndSend_spec hsn).outputs, fun args p added h hadd => ?_,
    fun args p secret tx hsn => ?_⟩
  · obtain ⟨output, hout, hexact⟩ := h.exact prev fee hrc
    exact ⟨output, hout, toNat_sub_add_iff.1 hexact⟩
  · refine ⟨fun prev fee hrc => ?_, fun tx htx => ?_, fun tx htx => ?_⟩
    · obtain ⟨output, hout, hle⟩ := h prev fee hrc
      exact ⟨output, hout, toNat_sub_add_iff.2 hle⟩
    · obtain ⟨script, hscr, prev, hrd, htx⟩ := of_bind₂_ok htx
      exact within_of_spendPayment hrd (of_mapError_ok hscr) htx h
    · obtain ⟨prev, hrd, script, hscr, htx⟩ := of_bind₂_ok htx
      exact within_of_spendPayment hrd (of_mapError_ok hscr) htx h
  · obtain ⟨fee, output, payment, -, hout, hpay, hva⟩ := genFundingSpend_spec h
    refine ⟨output, hout, ?_⟩
    rw [hpay, map_singleton, sum_singleton]
    omega
  · obtain ⟨fee, payment, sats, maker, script, fixed, -, hpay, hst, hmk, hfix, hp⟩ :=
      genPaymentSpend_spec h
    have hfe := feeOutputs_le hst hfix hadd
    have hnat := toNat_of_makerValue hmk
    refine ⟨payment, hpay, ?_⟩
    rw [hp]
    change maker.toNat + ((fixed ++ added).map (·.value.toNat)).sum ≤ _
    omega
  · obtain ⟨added, hadd, hfin⟩ := signAndBroadcast_spec hsn
    exact ⟨added, hadd, hfin.outputs⟩

/-- A payment of half of the fee, as it is stored. -/
def tinyPayment : Bytes :=
  { paying 500 with inputs := [⟨⟨.replicate 32 0, 0⟩, [], 0, []⟩] }.serializeWith true

set_option maxRecDepth 8000 in
theorem tinyPayment_refund_creates :
    ∃ input prev tx, sendTakerRefundsPayment 1000 (.compressed (.replicate 33 2))
        (.compressed (.replicate 33 3)) (.replicate 20 1) = some input ∧
      (plain.atRate ⟨.ok (.fixedPerKb 1000), none⟩).readPayment tinyPayment = .ok prev ∧
      (plain.atRate ⟨.ok (.fixedPerKb 1000), none⟩).sendSpend
        ⟨.ok [], .ok ⟨false, 0, 2000⟩, false⟩ input tinyPayment = .ok tx ∧
      ¬Within prev tx.outputs := by
  refine ⟨_, _, _, rfl, rfl, rfl, ?_⟩
  rintro ⟨output, hout, hle⟩
  cases hout
  exact absurd hle (by decide +kernel)

end CheetahDex.Utxo.SpendCoin

