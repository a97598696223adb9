import CheetahDex.Proof.FeeAgreement
import CheetahDex.Utxo.TakerFee

/-!
# The fee that is sent is accepted

Whatever outputs the taker builds for a fee, the maker finds in any transaction that begins with
them. The builder is stricter: an output that can be spent must not be dust.
-/

namespace CheetahDex.Utxo

open Chain (Bytes Transaction TransactionOutput)
open Lib List Proof UInt64
open Ordermatch (MmNumber)
open Swap (DexFee FeeCoin NetConfig netConfigFor satFromBigDecimal unitsFromBigDecimal toDecimal
  dexFeeAmountFromTakerCoin computeDexFeeWithTakerPubkey)

/-! ## Scripts and amounts -/

theorem p2pkh_eq (hash : H160) :
    p2pkh hash = .ok ([0x76, 0xa9] ++ 20 :: hash.toList ++ [0x88] ++ [0xac]) := by
  have hlen : hash.toList.length = 20 := by simp
  simp only [p2pkh, Script.Builder.buildP2pkh, Script.Builder.pushBytes, hlen]
  rfl

variable {script : Bytes} {change : Bytes} {dust : UInt64} {outputs : List TransactionOutput}

theorem startsWithReturn_p2pkh {hash : H160} (h : p2pkh hash = .ok script) :
    startsWithReturn script = false := by
  rw [p2pkh_eq] at h
  cases h
  rfl

section amounts

variable {digits : ℕ} {coin : FeeCoin} {amount : MmNumber}

/-- The units of an amount can be sent. -/
def Fits (digits : ℕ) (coin : FeeCoin) (amount : MmNumber) : Prop :=
  units coin.decimals (toDecimal digits amount) < 2 ^ 64

instance (digits : ℕ) (coin : FeeCoin) (amount : MmNumber) : Decidable (Fits digits coin amount) :=
  inferInstanceAs (Decidable (_ < _))

theorem satOf_eq_ok (hnn : 0 ≤ amount) (hft : Fits digits coin amount) :
    satOf digits coin amount = .ok (.ofNat (units coin.decimals (toDecimal digits amount))) := by
  have hdc : ¬ toDecimal digits amount < 0 := not_lt.2 (truncDigits_nonneg hnn)
  have hlt : units coin.decimals (toDecimal digits amount) < 2 ^ 64 := hft
  rw [satOf, satFromBigDecimal, unitsFromBigDecimal, if_neg hdc, if_pos hlt]
  rfl

theorem Fits.of_satOf {sat : UInt64} (h : satOf digits coin amount = .ok sat) :
    Fits digits coin amount := by
  by_contra hft
  have hno : satFromBigDecimal (toDecimal digits amount) coin.decimals = none := by
    rw [satFromBigDecimal, unitsFromBigDecimal]
    split
    · rfl
    · exact if_neg hft
  rw [satOf, hno] at h
  cases h

theorem fits_zero : Fits digits coin 0 := by
  have hz : toDecimal digits 0 = 0 := by simp [toDecimal, truncDigits, cutAt]
  rw [Fits, hz]
  simp [units]

/-- Every amount in units has few enough digits to be written exactly. -/
theorem hasDigits_div {n : ℕ} (hn : n < 2 ^ 64) (hdigits : 20 ≤ digits) (decimals : ℕ) :
    HasDigits digits ((n : ℚ) / 10 ^ decimals) := by
  have hpow : 10 ^ 20 ≤ 10 ^ digits := Nat.pow_le_pow_right (by norm_num) hdigits
  refine ⟨n, by omega, -decimals, ?_⟩
  rw [zpow_neg, zpow_natCast, div_eq_mul_inv]

theorem minTxAmount_eq (hdust : coin.dustAmount < 2 ^ 64) (hdigits : 20 ≤ digits) :
    coin.minTxAmount digits = coin.dustAmount / 10 ^ coin.decimals := by
  have hnn : (0 : ℚ) ≤ coin.dustAmount / 10 ^ coin.decimals := by positivity
  exact le_antisymm (truncDigits_le hnn)
    ((hasDigits_div hdust hdigits coin.decimals).le_truncDigits hnn le_rfl)

/-- What is not below the least amount of a transaction is sent as an output that is not dust. -/
theorem dust_le_sat (hdust : coin.dustAmount < 2 ^ 64) (hdigits : 20 ≤ digits)
    (hmin : coin.minTxAmount digits ≤ amount) (hft : Fits digits coin amount) :
    ofNat coin.dustAmount ≤ ofNat (units coin.decimals (toDecimal digits amount)) := by
  have hnn : 0 ≤ amount := (minTxAmount_nonneg digits coin).trans hmin
  have hle : coin.dustAmount ≤ units coin.decimals (toDecimal digits amount) := by
    rcases Nat.eq_zero_or_pos coin.dustAmount with hz | hpos
    · omega
    rw [le_units_iff hpos]
    refine (hasDigits_div hdust hdigits coin.decimals).le_truncDigits hnn ?_
    rwa [← minTxAmount_eq hdust hdigits]
  rw [le_iff_toNat_le, toNat_ofNat_of_lt' hdust, toNat_ofNat_of_lt' hft]
  exact hle

end amounts

/-! ## The builder -/

theorem sumOutputs_ok_iff {sums : OutputSums} :
    (∃ sums', sumOutputs dust change sums outputs = .ok sums') ↔
      ∀ output ∈ outputs, startsWithReturn output.scriptPubkey = true ∨ dust ≤ output.value := by
  induction outputs generalizing sums with
  | nil => simp [sumOutputs]
  | cons output outputs ih =>
    rw [sumOutputs, forall_mem_cons]
    split
    next hdust =>
      refine ⟨fun ⟨_, hok⟩ => (nomatch hok), fun ⟨hhd, _⟩ => ?_⟩
      rcases hhd with hrt | hle
      · exact absurd (hdust.1.symm.trans hrt) Bool.false_ne_true
      · exact absurd hdust.2 (UInt64.not_lt.2 hle)
    next hdust =>
      have hhd : startsWithReturn output.scriptPubkey = true ∨ dust ≤ output.value := by
        rcases Bool.eq_false_or_eq_true (startsWithReturn output.scriptPubkey) with htr | hfl
        · exact .inl htr
        · exact .inr (UInt64.not_lt.1 fun hlt => hdust ⟨hfl, hlt⟩)
      rw [ih, and_iff_right hhd]

theorem checkOutputs_ok_iff :
    (∃ sums, checkOutputs dust change outputs = .ok sums) ↔
      outputs ≠ [] ∧
        ∀ output ∈ outputs, startsWithReturn output.scriptPubkey = true ∨ dust ≤ output.value := by
  rw [checkOutputs]
  split
  next hnil => exact ⟨fun ⟨_, hok⟩ => (nomatch hok), fun hbt => absurd hnil hbt.1⟩
  next hcn => rw [sumOutputs_ok_iff, and_iff_right hcn]

/-! ## The maker -/

section maker

variable {h : Hashes} {digits : ℕ} {coin : FeeCoin} {dexFee : DexFee} {feeAddress : H160}
  {outputs : List TransactionOutput} {tx : Transaction}

variable {index : ℕ} {sat : UInt64}

theorem validateDexOutput_ok (hscr : p2pkh feeAddress = .ok script)
    (hout : tx.outputs[index]? = some ⟨sat, script⟩) :
    validateDexOutput tx index feeAddress sat = .ok () := by
  have hle : ¬ sat < sat := UInt64.lt_irrefl sat
  rw [validateDexOutput, hout, hscr]
  simp [bind, Except.bind, hle]

theorem validateBurnOutput_ok (hout : tx.outputs[index]? = some ⟨sat, script⟩) :
    validateBurnOutput tx index script sat = .ok () := by
  have hle : ¬ sat < sat := UInt64.lt_irrefl sat
  rw [validateBurnOutput, hout]
  simp [hle]

/-- **A transaction that begins with the outputs that were built for a fee pays that fee.** -/
theorem validateFeeOutputs_of_generate
    (hgen : generateTakerFeeTxOutputs h digits coin dexFee feeAddress = .ok outputs)
    (hsta : outputs <+: tx.outputs) :
    validateFeeOutputs h digits coin tx 0 dexFee feeAddress = .ok () := by
  obtain ⟨rest, hr⟩ := hsta
  match dexFee with
  | .noFee => rfl
  | .standard amount =>
    obtain ⟨sat, hsat, script, hscr, hgen⟩ := of_bind₂_ok hgen
    cases hgen
    exact ok_bind_ok hsat (validateDexOutput_ok hscr (by rw [← hr]; rfl))
  | .withBurn feeAmount burnAmount .kmdOpReturn =>
    obtain ⟨feeSat, hfee, burnSat, hbr, script, hscr, hgen⟩ := of_bind₃_ok hgen
    obtain ⟨burnScript, hbu, hgen⟩ := of_bind_ok hgen
    cases hgen
    refine ok_bind_ok hfee (ok_bind_ok (validateDexOutput_ok hscr (by rw [← hr]; rfl)) ?_)
    exact ok_bind_ok hbr (ok_bind_ok hbu (validateBurnOutput_ok (by rw [← hr]; rfl)))
  | .withBurn feeAmount burnAmount (.preBurnAccount burnPubkey) =>
    obtain ⟨feeSat, hfee, burnSat, hbr, script, hscr, hgen⟩ := of_bind₃_ok hgen
    obtain ⟨burnAddress, had, burnScript, hbu, hgen⟩ := of_bind₂_ok hgen
    cases hgen
    refine ok_bind_ok hfee (ok_bind_ok (validateDexOutput_ok hscr (by rw [← hr]; rfl)) ?_)
    exact ok_bind_ok hbr (ok_bind_ok (ok_bind_ok had hbu)
      (validateBurnOutput_ok (by rw [← hr]; rfl)))

/-- The taker has signed, and the server has the transaction, confirmed not too early. -/
structure FeeAnswers.Good (answers : FeeAnswers) (tx : Transaction) : Prop where
  signedBySender : answers.signedBySender = .ok true
  fromRpc : answers.fromRpc = .ok (Chain.serialize tx) ∨
    answers.fromRpc = .ok (tx.serializeWith true)
  confirmedBefore : answers.confirmedBefore = .ok false

theorem Public.fromSlice_bytes (key : Public) : Public.fromSlice key.bytes = some key := by
  cases key with
  | normal key =>
    have hlen : key.toList.length = 65 := by simp
    rw [Public.fromSlice, Public.bytes, dif_neg (by omega), dif_pos hlen]
    rfl
  | compressed key =>
    have hlen : key.toList.length = 33 := by simp
    rw [Public.fromSlice, Public.bytes, dif_pos hlen]
    rfl

/-- With good answers only the outputs are left to be checked. -/
theorem validateFee_eq {answers : FeeAnswers} (hgd : answers.Good tx) (outputIndex : ℕ)
    (minBlockNumber : UInt64) (feeKey : Public) :
    validateFee h digits coin answers tx outputIndex dexFee minBlockNumber feeKey.bytes =
      validateFeeOutputs h digits coin tx outputIndex dexFee (feeKey.addressHash h) := by
  rw [validateFee, addressFromRawPubkey, Public.fromSlice_bytes, hgd.signedBySender,
    hgd.confirmedBefore]
  rcases hgd.fromRpc with hrpc | hrpc
  · rw [hrpc]
    simp [orError, answered, bind, Except.bind]
  · rw [hrpc]
    simp [orError, answered, bind, Except.bind]

end maker

/-! ## Both -/

section both

variable (h : Hashes) (digits : ℕ) (coin : FeeCoin) (changeScriptPubkey : Bytes) (dexFee : DexFee)
  (feeKey : Public)

/-- The outputs for a fee are built and pass the builder, and the maker accepts every transaction
that begins with them. -/
def FeeAccepted : Prop :=
  ∃ outputs, generateTakerFeeTxOutputs h digits coin dexFee (feeKey.addressHash h) = .ok outputs ∧
    (∃ sums, checkOutputs (.ofNat coin.dustAmount) changeScriptPubkey outputs = .ok sums) ∧
    ∀ (tx : Transaction) (answers : FeeAnswers) (minBlockNumber : UInt64),
      outputs <+: tx.outputs → answers.Good tx →
        validateFee h digits coin answers tx defaultFeeVout dexFee minBlockNumber feeKey.bytes =
          .ok ()

end both

section accepted

variable {h : Hashes} {digits : ℕ} {coin : FeeCoin} {change : Bytes} {dexFee : DexFee}
  {feeKey : Public} {total feeAmount burnAmount : MmNumber}

/-- It is the builder that decides. -/
theorem feeAccepted_iff :
    FeeAccepted h digits coin change dexFee feeKey ↔
      ∃ outputs,
        generateTakerFeeTxOutputs h digits coin dexFee (feeKey.addressHash h) = .ok outputs ∧
        outputs ≠ [] ∧ ∀ output ∈ outputs, startsWithReturn output.scriptPubkey = true ∨
          ofNat coin.dustAmount ≤ output.value := by
  refine exists_congr fun outputs => and_congr_right fun hgen => ?_
  rw [checkOutputs_ok_iff]
  refine and_iff_left fun tx answers minBlockNumber hsta hgd => ?_
  rw [validateFee_eq hgd]
  exact validateFeeOutputs_of_generate hgen hsta

section

variable (hdust : coin.dustAmount < 2 ^ 64)

include hdust

theorem feeAccepted_standard_iff (hdigits : 20 ≤ digits)
    (hmin : coin.minTxAmount digits ≤ total) :
    FeeAccepted h digits coin change (.standard total) feeKey ↔ Fits digits coin total := by
  rw [feeAccepted_iff]
  constructor
  · rintro ⟨outputs, hgen, -⟩
    obtain ⟨sat, hsat, -⟩ := of_bind_ok hgen
    exact .of_satOf hsat
  · intro hft
    have hnn : 0 ≤ total := (minTxAmount_nonneg digits coin).trans hmin
    refine ⟨_, ok_bind_ok (satOf_eq_ok hnn hft) (ok_bind_ok (p2pkh_eq _) rfl), cons_ne_nil _ _, ?_⟩
    rw [forall_mem_singleton]
    exact .inr (dust_le_sat hdust hdigits hmin hft)

/-- The part of nothing is an output that can be spent. -/
theorem feeAccepted_directly_iff (hnn : 0 ≤ total) :
    FeeAccepted h digits coin change (.withBurn 0 total .kmdOpReturn) feeKey ↔
      coin.dustAmount = 0 ∧ Fits digits coin total := by
  have hz : satOf digits coin 0 = .ok 0 := by
    have hdc : toDecimal digits 0 = 0 := by simp [toDecimal, truncDigits, cutAt]
    rw [satOf_eq_ok le_rfl fits_zero, hdc]
    simp [units]
  rw [feeAccepted_iff]
  constructor
  · rintro ⟨outputs, hgen, -, hall⟩
    obtain ⟨feeSat, hfee, burnSat, hbr, script, hscr, hgen⟩ := of_bind₃_ok hgen
    obtain ⟨burnScript, -, hgen⟩ := of_bind_ok hgen
    cases hgen
    cases hz.symm.trans hfee
    refine ⟨?_, .of_satOf hbr⟩
    rcases hall _ mem_cons_self with hrt | hle
    · rw [startsWithReturn_p2pkh hscr] at hrt
      cases hrt
    · rw [le_iff_toNat_le, toNat_ofNat_of_lt' hdust] at hle
      exact Nat.le_zero.1 hle
  · rintro ⟨hds, hft⟩
    refine ⟨_, ok_bind_ok hz (ok_bind_ok (satOf_eq_ok hnn hft)
      (ok_bind_ok (p2pkh_eq _) (ok_bind_ok (a := [0x6a]) rfl rfl))),
      cons_ne_nil _ _, ?_⟩
    rw [forall_mem_cons, forall_mem_singleton]
    refine ⟨.inr ?_, .inl rfl⟩
    rw [hds]
    exact UInt64.le_refl _

/-- Both outputs are checked, each for its own amount. -/
theorem feeAccepted_account_iff (hdigits : 20 ≤ digits)
    {burnPubkey : Bytes} {burnAddress : H160}
    (had : addressFromRawPubkey h burnPubkey = some burnAddress)
    (hfm : coin.minTxAmount digits ≤ feeAmount)
    (hbn : coin.minTxAmount digits ≤ burnAmount) :
    FeeAccepted h digits coin change (.withBurn feeAmount burnAmount (.preBurnAccount burnPubkey))
        feeKey ↔
      Fits digits coin feeAmount ∧ Fits digits coin burnAmount := by
  rw [feeAccepted_iff]
  constructor
  · rintro ⟨outputs, hgen, -⟩
    obtain ⟨feeSat, hfee, burnSat, hbr, -⟩ := of_bind₂_ok hgen
    exact ⟨.of_satOf hfee, .of_satOf hbr⟩
  · rintro ⟨hfee, hbr⟩
    have hnn := minTxAmount_nonneg digits coin
    have had' : orError (addressFromRawPubkey h burnPubkey) FeeError.burnAddress =
        .ok burnAddress := by
      rw [had]
      rfl
    refine ⟨_, ok_bind_ok (satOf_eq_ok (hnn.trans hfm) hfee)
      (ok_bind_ok (satOf_eq_ok (hnn.trans hbn) hbr) (ok_bind_ok (p2pkh_eq _)
        (ok_bind_ok had' (ok_bind_ok (p2pkh_eq _) rfl)))),
      cons_ne_nil _ _, ?_⟩
    rw [forall_mem_cons, forall_mem_singleton]
    exact ⟨.inr (dust_le_sat hdust hdigits hfm hfee), .inr (dust_le_sat hdust hdigits hbn hbr)⟩

end

end accepted

/-- **The computed fee is sent and accepted exactly if its parts fit into an output and, on a
network that burns, the coin is not one that is burnt directly, unless nothing is dust for it.** -/
theorem takerFee_accepted_iff (h : Hashes) (digits : ℕ) (hdigits : 20 ≤ digits) (regtest : Bool)
    (netid : ℕ) (cfg : NetConfig) (hcfg : netConfigFor regtest netid = some cfg) (coin : FeeCoin)
    (hdust : coin.dustAmount < 2 ^ 64) (makerCoin : String) (tradeAmount : MmNumber)
    (takerPubkey changeScriptPubkey : Bytes) (feeKey : Public) :
    let dexFee := computeDexFeeWithTakerPubkey digits cfg coin makerCoin tradeAmount takerPubkey
    dexFee ≠ .noFee →
      (FeeAccepted h digits coin changeScriptPubkey dexFee feeKey ↔
        (cfg.burnEnabled = true ∧ coin.shouldBurnDirectly = true → coin.dustAmount = 0) ∧
          Fits digits coin dexFee.feeAmount ∧ Fits digits coin dexFee.burnAmount) := by
  intro dexFee hfee
  set total := dexFeeAmountFromTakerCoin digits cfg coin makerCoin tradeAmount with htt
  have hmin : coin.minTxAmount digits ≤ total := by
    rw [htt, dexFeeAmountFromTakerCoin, Swap.dexFeeAmount_eq_max]
    exact (minTxAmount_le_threshold digits cfg coin).trans (le_max_left _ _)
  have hnn : 0 ≤ total := (minTxAmount_nonneg digits coin).trans hmin
  have hnew : dexFee = DexFee.newFromTakerCoin digits coin cfg total := by
    by_contra hne
    have hcs : dexFee = .noFee ∨ dexFee = DexFee.newFromTakerCoin digits coin cfg total :=
      ite_eq_or_eq _ _ _
    exact hcs.elim hfee hne
  rw [hnew]
  by_cases hdir : cfg.burnEnabled = true ∧ coin.shouldBurnDirectly = true
  · rw [newFromTakerCoin_directly hdir hmin, feeAccepted_directly_iff hdust hnn, imp_iff_right hdir]
    exact and_congr_right fun _ => (and_iff_right fits_zero).symm
  rw [and_iff_right fun h => absurd h hdir]
  by_cases hbt : Proof.BurnsToAccount cfg coin ∧ Proof.Splits digits cfg coin total
  · obtain ⟨hbs, hspl⟩ := hbt
    -- the account that burns has a key on every network that burns
    obtain ⟨burnAddress, had⟩ :
        ∃ address, addressFromRawPubkey h (DexFee.burnKey cfg coin) = some address := by
      have hen := hbs.1
      unfold netConfigFor at hcfg
      split_ifs at hcfg <;> cases hcfg
      · cases hen
      · exact ⟨_, rfl⟩
      · cases hen
    rw [newFromTakerCoin_splits hbs hspl]
    exact feeAccepted_account_iff hdust hdigits had hspl.1 hspl.2
  · rw [newFromTakerCoin_standard hdir hbt, feeAccepted_standard_iff hdust hdigits hmin]
    exact (and_iff_left fits_zero).symm

/-- A fee of two parts. -/
theorem splitFee_accepted : docCoin.dustAmount < 2 ^ 64 ∧
    ∀ (h : Hashes) (changeScriptPubkey : Bytes) (feeKey : Public),
      FeeAccepted h 100 docCoin changeScriptPubkey
        (computeDexFeeWithTakerPubkey 100 Swap.netid6133 docCoin "KMD" 1 []) feeKey := by
  refine ⟨by decide, fun h changeScriptPubkey feeKey => ?_⟩
  refine (takerFee_accepted_iff h 100 (by decide) false 6133 Swap.netid6133 rfl docCoin
    (by decide) "KMD" 1 [] changeScriptPubkey feeKey (by decide +kernel)).2 ⟨?_, ?_⟩
  · exact fun hbt => absurd hbt.2 (by decide)
  · exact ⟨by decide +kernel, by decide +kernel⟩

/-- The fee in a coin that is burnt directly, of which the builder refuses the part of nothing. -/
theorem burntFee_refused : netConfigFor false 6133 = some Swap.netid6133 ∧
    ∀ (h : Hashes) (changeScriptPubkey : Bytes) (feeKey : Public),
      ¬ FeeAccepted h 100 ⟨"KMD", 8, 1000, true⟩ changeScriptPubkey
        (computeDexFeeWithTakerPubkey 100 Swap.netid6133 ⟨"KMD", 8, 1000, true⟩ "DOC" 1 [])
        feeKey := by
  refine ⟨rfl, fun h changeScriptPubkey feeKey hac => ?_⟩
  have hfee : computeDexFeeWithTakerPubkey 100 Swap.netid6133 ⟨"KMD", 8, 1000, true⟩ "DOC" 1 [] =
      .withBurn 0 (1 / 50) .kmdOpReturn := by decide +kernel
  rw [hfee, feeAccepted_directly_iff (by decide) (by norm_num)] at hac
  exact absurd hac.1 (by decide)

end CheetahDex.Utxo
