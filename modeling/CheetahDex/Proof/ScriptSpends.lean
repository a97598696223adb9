import CheetahDex.Script.Written
import CheetahDex.Utxo.SwapScripts

/-!
# The inputs that spend the payments

Each redeem script is a tree of branches, and its builder writes that tree. An input that the
wallet assembles then spends the payment exactly if the tree accepts what it pushes.
-/

namespace CheetahDex.Utxo

open Chain (Bytes H256)
open Script Lib Lib.BitcoinScript List Option Tree Nat

/-! ## Redeem scripts as trees -/

theorem Public.length_bytes (p : Public) : 1 ≤ p.bytes.length ∧ p.bytes.length ≤ 65 := by
  cases p <;> simp [Public.bytes]

variable (lock : UInt32)

/-- The bytes of a lock time. -/
def lockBytes : Bytes := leBytes 4 lock.toNat

def paymentTree (hash : Bytes) (pub0 pub1 : Public) : Tree :=
  .branch (.lockedUntil (lockBytes lock) (.signedBy pub0.bytes))
    (.lockedBy hash (.signedBy pub1.bytes)) .done

variable (hash : Bytes) (takerPub makerPub : Public)

def takerFundingTree : Tree :=
  .branch (.lockedUntil (lockBytes lock) (.signedBy takerPub.bytes))
    (.branch (.checkedBy takerPub.bytes (.signedBy makerPub.bytes))
      (.lockedBy hash (.signedBy takerPub.bytes)) .done) .done

def takerPaymentTree : Tree :=
  .branch (.lockedUntil (lockBytes lock) (.signedBy takerPub.bytes))
    (.lockedBy hash (.checkedBy takerPub.bytes (.signedBy makerPub.bytes))) .done

def makerPaymentTree (makerHash takerHash : Bytes) (makerPub takerPub : Public) : Tree :=
  .branch (.lockedUntil (lockBytes lock) (.signedBy makerPub.bytes))
    (.branch (.lockedBy makerHash (.signedBy takerPub.bytes))
      (.lockedBy takerHash (.signedBy makerPub.bytes)) .done) .done

open Builder

theorem length_h160Of (h : Hashes) (x : Bytes) : (h160Of h x).length = 20 := Vector.length_toList

variable {b : Builder} {ts : List Token} {size : ℕ}

theorem writes_public (h : b.Writes ts size) (p : Public) :
    (b.pushBytes p.bytes).Writes (ts ++ [.op (.push p.bytes)]) (size + 66) := by
  obtain ⟨hpos, hle⟩ := p.length_bytes
  exact (h.pushBytes ⟨hpos, hle.trans (by decide)⟩).mono (by omega)

/-- The branch that is open to one side after a time, up to the other branch. -/
theorem writes_refund (h : b.Writes ts size) (lock : UInt32) (p : Public) :
    (b |>.pushOpcode .opIf |>.pushBytes (lockBytes lock) |>.pushOpcode .opCheckLockTimeVerify
      |>.pushOpcode .opDrop |>.pushBytes p.bytes |>.pushOpcode .opCheckSig
      |>.pushOpcode .opElse).Writes (ts ++ .openIf ::
        ((lockedUntil (lockBytes lock) (.signedBy p.bytes)).flatten ++ [.orElse]))
      (size + 76) := by
  have hlo : (lockBytes lock).length = 4 := length_leBytes ..
  have hws := h.pushOpcode means_opIf |>.pushBytes (x := lockBytes lock) (by omega)
    |>.pushOpcode means_opCheckLockTimeVerify |>.pushOpcode means_opDrop
  have hre := writes_public hws p |>.pushOpcode means_opCheckSig |>.pushOpcode means_opElse
  simp only [append_assoc] at hre
  exact hre.mono (by omega)

/-- The check of a secret. -/
theorem writes_secret (h : b.Writes ts size) (hash : Bytes)
    (hhs : 1 ≤ hash.length ∧ hash.length ≤ 75) :
    (b |>.pushOpcode .opSize |>.pushBytes [32] |>.pushOpcode .opEqualVerify
      |>.pushOpcode .opHash160 |>.pushBytes hash |>.pushOpcode .opEqualVerify).Writes
      (ts ++ (lockedBy hash .done).flatten) (size + (7 + hash.length)) := by
  have hws := h.pushOpcode means_opSize |>.pushBytes (x := [32]) (by decide)
    |>.pushOpcode means_opEqualVerify |>.pushOpcode means_opHash160 |>.pushBytes hhs
    |>.pushOpcode means_opEqualVerify
  simp only [append_assoc] at hws
  exact hws.mono (by simp only [length_singleton]; omega)

/-- A redeem script that can be pushed in one piece, with its tree. -/
def IsRedeem (script : Option Bytes) (t : Tree) : Prop :=
  ∃ s, script = some s ∧ s.length ≤ 520 ∧ Spells s t

variable {t : Tree} {input : Option HtlcInput} {signature : Bytes} {ws : List Bytes}
  {redeem : Option Bytes}

theorem IsRedeem.of_writes {b : Builder} {size : ℕ} (h : b.Writes t.flatten size)
    (hsz : size ≤ 520) (hcnt : t.flatten.length ≤ 201) : IsRedeem b.intoScript t := by
  obtain ⟨s, hdt, hws⟩ := h
  obtain ⟨is, _, _, _, hlen⟩ := id hws
  exact ⟨s, hdt, le_trans hlen hsz, hws.spells (le_trans hsz (by decide)) hcnt⟩

variable (h : Hashes) (lock : UInt32) {clock : ChainClock}

theorem isRedeem_paymentScript {hash : Bytes} (pub0 pub1 : Public)
    (hhs : 1 ≤ hash.length ∧ hash.length ≤ 75) :
    IsRedeem (paymentScript lock hash pub0 pub1) (paymentTree lock hash pub0 pub1) := by
  have hws := writes_public (writes_secret (writes_refund .default lock pub0) hash hhs) pub1
    |>.pushOpcode means_opCheckSig |>.pushOpcode means_opEndIf
  exact .of_writes hws (by omega) (le_of_ble_eq_true rfl)

variable (secretHash : Bytes) (takerPub makerPub : Public)

theorem isRedeem_takerFundingScript :
    IsRedeem (takerFundingScript h lock secretHash takerPub makerPub)
      (takerFundingTree lock (h160Of h secretHash) takerPub makerPub) := by
  have hhs := length_h160Of h secretHash
  have hbt := writes_public ((writes_public ((writes_refund .default lock takerPub).pushOpcode
    means_opIf) takerPub).pushOpcode means_opCheckSigVerify) makerPub
    |>.pushOpcode means_opCheckSig |>.pushOpcode means_opElse
  have hws := writes_public (writes_secret hbt (h160Of h secretHash) (by omega))
    takerPub |>.pushOpcode means_opCheckSig |>.pushOpcode means_opEndIf |>.pushOpcode means_opEndIf
  exact .of_writes hws (by omega) (le_of_ble_eq_true rfl)

theorem isRedeem_takerPaymentScript :
    IsRedeem (takerPaymentScript h lock secretHash takerPub makerPub)
      (takerPaymentTree lock (h160Of h secretHash) takerPub makerPub) := by
  have hhs := length_h160Of h secretHash
  have hsec := writes_secret (writes_refund .default lock takerPub) (h160Of h secretHash) (by omega)
  have hws := writes_public ((writes_public hsec takerPub).pushOpcode
    means_opCheckSigVerify) makerPub |>.pushOpcode means_opCheckSig |>.pushOpcode means_opEndIf
  exact .of_writes hws (by omega) (le_of_ble_eq_true rfl)

theorem isRedeem_makerPaymentScript (makerHash takerHash : Bytes) (makerPub takerPub : Public) :
    IsRedeem (makerPaymentScript h lock makerHash takerHash makerPub takerPub)
      (makerPaymentTree lock (h160Of h makerHash) (h160Of h takerHash) makerPub takerPub) := by
  have hmk := length_h160Of h makerHash
  have htk := length_h160Of h takerHash
  have hsp := writes_public (writes_secret ((writes_refund .default lock makerPub).pushOpcode
    means_opIf) (h160Of h makerHash) (by omega)) takerPub
    |>.pushOpcode means_opCheckSig |>.pushOpcode means_opElse
  have hws := writes_public (writes_secret hsp (h160Of h takerHash) (by omega))
    makerPub |>.pushOpcode means_opCheckSig |>.pushOpcode means_opEndIf |>.pushOpcode means_opEndIf
  exact .of_writes hws (by omega) (le_of_ble_eq_true rfl)

/-! ## The inputs that are assembled -/

/-- What the two parties have agreed on, and their secrets. -/
structure Terms where
  timeLock : UInt64
  makerSecret : H256
  takerSecret : H256
  makerSecretHash : Bytes
  takerSecretHash : Bytes
  makerPub : Public
  takerPub : Public

/-- The lock time as the scripts have it. -/
abbrev Terms.time (x : Terms) : UInt32 := x.timeLock.toUInt32

/-- The signatures that go into an input, without the byte that says what is signed. -/
structure Signatures where
  maker : Bytes
  taker : Bytes
  forkId : UInt32
  sighashByte : UInt8

/-- The maker's signature with that byte. -/
abbrev Signatures.makerAll (sigs : Signatures) : Bytes := sigs.maker ++ [1 ||| sigs.forkId.toUInt8]

@[inherit_doc Signatures.makerAll]
abbrev Signatures.takerAll (sigs : Signatures) : Bytes := sigs.taker ++ [1 ||| sigs.forkId.toUInt8]

/-- The signatures are not longer than DER allows. -/
def Signatures.Short (sigs : Signatures) : Prop := sigs.maker.length ≤ 72 ∧ sigs.taker.length ≤ 72

/-- The builders. -/
inductive Spend where
  | makerSpendsTakerPayment
  | takerSpendsMakerPayment
  | takerRefundsPayment
  | makerRefundsPayment
  | makerPaymentTimelock
  | makerPaymentSecret
  | makerPaymentSpend
  | takerFundingTimelock
  | takerFundingSecret
  | takerFundingCooperative
  | takerPaymentRefund
  | takerPaymentCooperative
  deriving DecidableEq

/-- An input with the script that it spends, its sequence and the lock time of its transaction. -/
structure Assembled where
  redeem : Bytes
  scriptSig : Bytes
  sequence : UInt32
  lockTime : UInt32

/-- An input with one signature. -/
def signed (clock : ChainClock) (forkId : UInt32) (signature : Bytes) (input : Option HtlcInput) :
    Option Assembled := do
  let i ← input
  return ⟨i.redeemScript, ← i.p2shSpendWithSignature forkId signature, i.sequence,
    p2shTxLocktime clock i.lockTime⟩

/-- What each of the builders assembles. -/
def Spend.assemble (clock : ChainClock) (x : Terms) (sigs : Signatures) : Spend → Option Assembled
  | makerSpendsTakerPayment => signed clock sigs.forkId sigs.maker
    (sendMakerSpendsTakerPayment h x.time x.takerPub x.makerPub x.makerSecret.toList)
  | takerSpendsMakerPayment => signed clock sigs.forkId sigs.taker
    (sendTakerSpendsMakerPayment h x.time x.makerPub x.takerPub x.makerSecret.toList)
  | takerRefundsPayment => signed clock sigs.forkId sigs.taker
    (sendTakerRefundsPayment x.time x.makerPub x.takerPub (h.dhash160 x.makerSecret.toList).toList)
  | makerRefundsPayment => signed clock sigs.forkId sigs.maker
    (sendMakerRefundsPayment x.time x.takerPub x.makerPub (h.dhash160 x.makerSecret.toList).toList)
  | makerPaymentTimelock => signed clock sigs.forkId sigs.maker
    (refundMakerPaymentV2Timelock h x.timeLock
      (.makerPaymentV2 x.makerSecretHash x.takerSecretHash) x.makerPub x.takerPub)
  | makerPaymentSecret => signed clock sigs.forkId sigs.maker
    (refundMakerPaymentV2Secret h x.timeLock x.makerSecretHash x.takerSecretHash x.takerSecret
      x.makerPub x.takerPub)
  | makerPaymentSpend => signed clock sigs.forkId sigs.taker
    (spendMakerPaymentV2 h x.timeLock x.makerSecretHash x.takerSecretHash x.makerSecret
      x.makerPub x.takerPub)
  | takerFundingTimelock => signed clock sigs.forkId sigs.taker
    (refundTakerFundingTimelock h x.timeLock (.takerFunding x.takerSecretHash) x.takerPub
      x.makerPub)
  | takerFundingSecret => signed clock sigs.forkId sigs.taker
    (refundTakerFundingSecret h x.timeLock x.takerSecretHash x.takerSecret x.takerPub x.makerPub)
  | takerFundingCooperative => do
    let redeem ← takerFundingScript h x.time x.takerSecretHash x.takerPub x.makerPub
    return ⟨redeem, ← buildFundingSpendCooperativeScriptSig sigs.maker sigs.taker sigs.forkId
      redeem, sequenceFinal, 0⟩
  | takerPaymentRefund => signed clock sigs.forkId sigs.taker
    (refundCombinedTakerPayment h x.timeLock
      (.takerPaymentV2 x.makerSecretHash x.takerSecretHash) x.takerPub x.makerPub)
  | takerPaymentCooperative => do
    let redeem ← takerPaymentScript h x.time x.makerSecretHash x.takerPub x.makerPub
    return ⟨redeem, ← buildTakerPaymentSpendCooperativeScriptSig sigs.maker sigs.taker
      x.makerSecret.toList sigs.sighashByte redeem, sequenceFinal, 0⟩

variable (x : Terms) (sigs : Signatures)

/-- What each input pushes below the redeem script, the first push first. -/
def Spend.pushed : Spend → List Bytes
  | makerSpendsTakerPayment => [sigs.makerAll, x.makerSecret.toList, []]
  | takerSpendsMakerPayment => [sigs.takerAll, x.makerSecret.toList, []]
  | makerRefundsPayment | makerPaymentTimelock => [sigs.makerAll, [1]]
  | takerRefundsPayment | takerPaymentRefund => [sigs.takerAll, [1]]
  | makerPaymentSecret => [sigs.makerAll, x.takerSecret.toList, [], []]
  | makerPaymentSpend => [sigs.takerAll, x.makerSecret.toList, [1], []]
  | takerFundingTimelock => [sigs.takerAll, [1], []]
  | takerFundingSecret => [sigs.takerAll, x.takerSecret.toList, [], []]
  | takerFundingCooperative =>
    [sigs.maker ++ [(1 ||| sigs.forkId).toUInt8], sigs.taker ++ [(1 ||| sigs.forkId).toUInt8],
      [1], []]
  | takerPaymentCooperative =>
    [sigs.maker ++ [sigs.sighashByte], sigs.taker ++ [sigs.sighashByte], x.makerSecret.toList, []]

/-- The script that each input spends. -/
def Spend.tree : Spend → Tree
  | makerSpendsTakerPayment | takerRefundsPayment =>
    paymentTree x.time (h.dhash160 x.makerSecret.toList).toList x.takerPub x.makerPub
  | takerSpendsMakerPayment | makerRefundsPayment =>
    paymentTree x.time (h.dhash160 x.makerSecret.toList).toList x.makerPub x.takerPub
  | makerPaymentTimelock | makerPaymentSecret | makerPaymentSpend =>
    makerPaymentTree x.time (h160Of h x.makerSecretHash) (h160Of h x.takerSecretHash)
      x.makerPub x.takerPub
  | takerFundingTimelock | takerFundingSecret | takerFundingCooperative =>
    takerFundingTree x.time (h160Of h x.takerSecretHash) x.takerPub x.makerPub
  | takerPaymentRefund | takerPaymentCooperative =>
    takerPaymentTree x.time (h160Of h x.makerSecretHash) x.takerPub x.makerPub

/-- Whether the builder is a refund by the time lock. -/
def Spend.timeLocked : Spend → Bool
  | takerRefundsPayment | makerRefundsPayment | makerPaymentTimelock | takerFundingTimelock
  | takerPaymentRefund => true
  | _ => false

theorem pushes_of_writes {b : Builder} {vs : List Bytes} {size : ℕ}
    (hws : b.Writes (pushing vs).flatten size) (hsz : size ≤ 10000)
    (hcnt : vs.length ≤ 201) : ∃ s, b.intoScript = some s ∧ Pushes s vs := by
  obtain ⟨s, hdt, hs⟩ := hws
  exact ⟨s, hdt, hs.pushes hsz hcnt⟩

/-- An input that is ready to be signed: its script, what its data push, its sequence and its
lock time. -/
def IsInput (input : Option HtlcInput) (t : Tree) (ws : List Bytes) (sequence lockTime : UInt32) :
    Prop :=
  ∃ r d size, input = some ⟨r, d, sequence, lockTime⟩ ∧ r.length ≤ 520 ∧ Spells r t ∧
    Script.Writes d (pushing ws).flatten size ∧ size ≤ 1000 ∧ ws.length ≤ 100

theorem length_signed (byte : UInt8) (hsig : signature.length ≤ 72) :
    (signature ++ [byte]).length ≤ 520 := by
  rw [length_append, length_singleton]
  omega

/-- A signed input pushes the signature, then what the data push, then the redeem script. -/
theorem IsInput.signed {sequence lockTime : UInt32} (hinp : IsInput input t ws sequence lockTime)
    (clock : ChainClock) (forkId : UInt32) (hsig : signature.length ≤ 72) :
    ∃ a, signed clock forkId signature input = some a ∧
      Pushes a.scriptSig ((signature ++ [1 ||| forkId.toUInt8]) :: ws ++ [a.redeem]) ∧
        Spells a.redeem t ∧ a.sequence = sequence ∧ a.lockTime = p2shTxLocktime clock lockTime := by
  obtain ⟨r, d, size, rfl, hlen, hsps, hws, hsz, hcnt⟩ := hinp
  have hsi := length_signed (1 ||| forkId.toUInt8) hsig
  obtain ⟨first, hfst, hfr⟩ := Writes.default.pushData hsi
  obtain ⟨last, hlast, hls⟩ := Writes.default.pushData hlen
  refine ⟨⟨r, first ++ d ++ last, sequence, p2shTxLocktime clock lockTime⟩, ?_, ?_, hsps, rfl, rfl⟩
  · simp [Utxo.signed, intoScript, HtlcInput.p2shSpendWithSignature, hfst, hlast]
  · have hall := (hfr.append hws).append hls
    have htok : [] ++ [Token.op (.push (signature ++ [1 ||| forkId.toUInt8]))] ++
        (pushing ws).flatten ++ ([] ++ [Token.op (.push r)]) =
          (pushing ((signature ++ [1 ||| forkId.toUInt8]) :: ws ++ [r])).flatten := by
      rw [flatten_pushing_append]
      rfl
    rw [htok] at hall
    refine hall.pushes (by omega) ?_
    simp only [length_append, length_cons, length_nil]
    omega

theorem IsRedeem.isInput {data : Builder} (hrd : IsRedeem redeem t)
    (hdt : data.Writes (pushing ws).flatten size) (hsz : size ≤ 1000)
    (hcnt : ws.length ≤ 100) (sequence lockTime : UInt32) :
    IsInput (do
      let scriptData ← data.intoScript
      return ⟨← redeem, scriptData, sequence, lockTime⟩) t ws sequence lockTime := by
  obtain ⟨r, rfl, hlen, hsps⟩ := hrd
  obtain ⟨d, hd, hws⟩ := hdt
  refine ⟨r, d, _, ?_, hlen, hsps, hws, hsz, hcnt⟩
  rw [intoScript, hd]
  rfl

theorem length_h256 (secret : H256) : secret.toList.length = 32 := Vector.length_toList

theorem isInput_spendsPayment (otherPub ownPub : Public) (secret : H256) :
    IsInput (spendsPayment h lock otherPub ownPub secret.toList)
      (paymentTree lock (h.dhash160 secret.toList).toList otherPub ownPub) [secret.toList, []]
        sequenceFinal lock :=
  (isRedeem_paymentScript lock otherPub ownPub (by simp)).isInput
    ((Writes.default.pushData (x := secret.toList) (by simp)).pushOpcode means_op0)
    (by simp) (by simp) _ _

theorem IsRedeem.isInput_refundsPayment (hrd : IsRedeem redeem t) :
    IsInput (refundsPayment redeem lock) t [[1]] (sequenceFinal - 1) lock :=
  hrd.isInput (Writes.default.pushOpcode means_op1) (by decide) (by decide) _ _

theorem IsRedeem.isInput_spendsWithSecret (hrd : IsRedeem redeem t) (secret : H256)
    {inner : Opcode} {flag : Bytes} (hin : Means inner (.op (.push flag))) :
    IsInput (spendsWithSecret redeem secret inner) t [secret.toList, flag, []]
      sequenceFinal 0 :=
  hrd.isInput
    ((Writes.default.pushData (x := secret.toList) (by simp)).pushOpcode hin
      |>.pushOpcode means_op0)
    (by simp) (by simp) _ _

theorem isInput_refundTakerFundingTimelock (timeLock : UInt64) (secretHash : Bytes)
    (ownPub makerPub : Public) :
    IsInput (refundTakerFundingTimelock h timeLock (.takerFunding secretHash) ownPub makerPub)
      (takerFundingTree timeLock.toUInt32 (h160Of h secretHash) ownPub makerPub) [[1], []]
        (sequenceFinal - 1) timeLock.toUInt32 := by
  obtain ⟨r, hr, hlen, hsps⟩ :=
    isRedeem_takerFundingScript h timeLock.toUInt32 secretHash ownPub makerPub
  obtain ⟨d, hd, hws⟩ := Writes.default.pushOpcode means_op1 |>.pushOpcode means_op0
  refine ⟨r, d, _, ?_, hlen, hsps, hws, by omega, by decide⟩
  rw [refundTakerFundingTimelock, SwapTxTypeWithSecretHash.redeemScript, hr, intoScript, hd]
  rfl

/-- What a builder assembles: the pushes of the input, the script that is spent, and the sequence
and lock time of a refund. -/
structure Spend.Assembles (clock : ChainClock) (x : Terms) (sigs : Signatures) (s : Spend)
    (a : Assembled) : Prop where
  assembled : s.assemble h clock x sigs = some a
  pushes : Pushes a.scriptSig (s.pushed x sigs ++ [a.redeem])
  spells : Spells a.redeem (s.tree h x)
  lockTime : s.timeLocked = true → a.sequence = sequenceFinal - 1 ∧
    a.lockTime = p2shTxLocktime clock x.time

variable {s : Spend}

theorem Spend.assembles_of_signed {x : Terms} {sigs : Signatures} {sequence lockTime : UInt32}
    (hinp : IsInput input (s.tree h x) ws sequence lockTime) (hsig : signature.length ≤ 72)
    (hal : s.assemble h clock x sigs = signed clock sigs.forkId signature input)
    (hpd : s.pushed x sigs = (signature ++ [1 ||| sigs.forkId.toUInt8]) :: ws)
    (hlo : s.timeLocked = true → sequence = sequenceFinal - 1 ∧ lockTime = x.time) :
    ∃ a, s.Assembles h clock x sigs a := by
  obtain ⟨a, ha, hpu, hsps, hseq, hlc⟩ := hinp.signed clock sigs.forkId hsig
  refine ⟨a, hal.trans ha, by rw [hpd]; exact hpu, hsps, fun htm => ?_⟩
  obtain ⟨rfl, rfl⟩ := hlo htm
  exact ⟨hseq, hlc⟩

/-- Every builder assembles an input. -/
theorem Spend.assembles {sigs : Signatures} (hsg : sigs.Short) (s : Spend) :
    ∃ a, s.Assembles h clock x sigs a := by
  obtain ⟨hmk, htk⟩ := hsg
  cases s with
  | makerSpendsTakerPayment =>
    exact assembles_of_signed h (isInput_spendsPayment h _ _ _ x.makerSecret) hmk rfl rfl
      (by simp [timeLocked])
  | takerSpendsMakerPayment =>
    exact assembles_of_signed h (isInput_spendsPayment h _ _ _ x.makerSecret) htk rfl rfl
      (by simp [timeLocked])
  | takerRefundsPayment =>
    exact assembles_of_signed h
      (IsRedeem.isInput_refundsPayment _ (isRedeem_paymentScript _ _ _ (by simp)))
      htk rfl rfl fun _ => ⟨rfl, rfl⟩
  | makerRefundsPayment =>
    exact assembles_of_signed h
      (IsRedeem.isInput_refundsPayment _ (isRedeem_paymentScript _ _ _ (by simp)))
      hmk rfl rfl fun _ => ⟨rfl, rfl⟩
  | makerPaymentTimelock =>
    exact assembles_of_signed h
      (IsRedeem.isInput_refundsPayment _ (isRedeem_makerPaymentScript h _ _ _ _ _))
      hmk rfl rfl fun _ => ⟨rfl, rfl⟩
  | makerPaymentSecret =>
    exact assembles_of_signed h
      (IsRedeem.isInput_spendsWithSecret (isRedeem_makerPaymentScript h _ _ _ _ _) _ means_op0)
      hmk rfl rfl (by simp [timeLocked])
  | makerPaymentSpend =>
    exact assembles_of_signed h
      (IsRedeem.isInput_spendsWithSecret (isRedeem_makerPaymentScript h _ _ _ _ _) _ means_op1)
      htk rfl rfl (by simp [timeLocked])
  | takerFundingTimelock =>
    exact assembles_of_signed h (isInput_refundTakerFundingTimelock h _ _ _ _) htk rfl rfl
      fun _ => ⟨rfl, rfl⟩
  | takerFundingSecret =>
    exact assembles_of_signed h
      (IsRedeem.isInput_spendsWithSecret (isRedeem_takerFundingScript h _ _ _ _) _ means_op0)
      htk rfl rfl (by simp [timeLocked])
  | takerFundingCooperative =>
    -- two signatures: what is pushed is followed push by push
    obtain ⟨r, hr, hlen, hsps⟩ := isRedeem_takerFundingScript h x.time
      x.takerSecretHash x.takerPub x.makerPub
    have hws := Writes.default
      |>.pushData (length_signed (1 ||| sigs.forkId).toUInt8 hmk)
      |>.pushData (length_signed (1 ||| sigs.forkId).toUInt8 htk)
      |>.pushOpcode means_op1 |>.pushOpcode means_op0 |>.pushData hlen
    obtain ⟨scriptSig, hsc, hpu⟩ :=
      @pushes_of_writes _ (takerFundingCooperative.pushed x sigs ++ [r]) _ hws
        (by simp only [length_append, length_singleton]; omega)
        (le_of_ble_eq_true rfl)
    refine ⟨⟨r, scriptSig, sequenceFinal, 0⟩, ?_, hpu, hsps, by simp [timeLocked]⟩
    rw [assemble, hr, Option.bind_eq_bind, Option.bind_some, buildFundingSpendCooperativeScriptSig,
      hsc]
    rfl
  | takerPaymentRefund =>
    exact assembles_of_signed h
      (IsRedeem.isInput_refundsPayment _ (isRedeem_takerPaymentScript h _ _ _ _))
      htk rfl rfl fun _ => ⟨rfl, rfl⟩
  -- here the secret stands between the signatures and the branch
  | takerPaymentCooperative =>
    obtain ⟨r, hr, hlen, hsps⟩ := isRedeem_takerPaymentScript h x.time
      x.makerSecretHash x.takerPub x.makerPub
    have hsec := length_h256 x.makerSecret
    have hws := Writes.default
      |>.pushData (length_signed sigs.sighashByte hmk)
      |>.pushData (length_signed sigs.sighashByte htk)
      |>.pushData (x := x.makerSecret.toList) (by rw [hsec]; decide)
      |>.pushOpcode means_op0 |>.pushData hlen
    obtain ⟨scriptSig, hsc, hpu⟩ :=
      @pushes_of_writes _ (takerPaymentCooperative.pushed x sigs ++ [r]) _ hws
        (by simp only [length_append, length_singleton]; omega)
        (le_of_ble_eq_true rfl)
    refine ⟨⟨r, scriptSig, sequenceFinal, 0⟩, ?_, hpu, hsps, by simp [timeLocked]⟩
    rw [assemble, hr, Option.bind_eq_bind, Option.bind_some,
      buildTakerPaymentSpendCooperativeScriptSig, hsc]
    rfl

/-! ## What the branches ask for -/

/-- What a branch asks for: signatures, a secret and that a lock time has passed. -/
structure Requirement where
  signatures : List (Bytes × Public)
  secret : Option (H256 × Bytes)
  lock : Option UInt32

def Requirement.Met (c : Context) (r : Requirement) : Prop :=
  (∀ p ∈ r.signatures, c.checkSig p.1 p.2.bytes = true) ∧
    (∀ p ∈ r.secret, c.hash160 p.1.toList = p.2) ∧ ∀ l ∈ r.lock, c.Passed l.toNat

/-- The branch that the builder's name states, by the choices made on the way to it. -/
def Spend.path : Spend → List Bool
  | makerSpendsTakerPayment | takerSpendsMakerPayment | takerPaymentCooperative => [false]
  | takerRefundsPayment | makerRefundsPayment | makerPaymentTimelock | takerFundingTimelock
  | takerPaymentRefund => [true]
  | makerPaymentSecret | takerFundingSecret => [false, false]
  | makerPaymentSpend | takerFundingCooperative => [false, true]

/-- What that branch is meant to ask for. -/
def Spend.requirement : Spend → Requirement
  | makerSpendsTakerPayment => ⟨[(sigs.makerAll, x.makerPub)],
      some (x.makerSecret, (h.dhash160 x.makerSecret.toList).toList), none⟩
  | takerSpendsMakerPayment => ⟨[(sigs.takerAll, x.takerPub)],
      some (x.makerSecret, (h.dhash160 x.makerSecret.toList).toList), none⟩
  | makerRefundsPayment | makerPaymentTimelock => ⟨[(sigs.makerAll, x.makerPub)], none, some x.time⟩
  | takerRefundsPayment | takerFundingTimelock | takerPaymentRefund =>
    ⟨[(sigs.takerAll, x.takerPub)], none, some x.time⟩
  | makerPaymentSecret => ⟨[(sigs.makerAll, x.makerPub)],
      some (x.takerSecret, h160Of h x.takerSecretHash), none⟩
  | makerPaymentSpend => ⟨[(sigs.takerAll, x.takerPub)],
      some (x.makerSecret, h160Of h x.makerSecretHash), none⟩
  | takerFundingSecret => ⟨[(sigs.takerAll, x.takerPub)],
      some (x.takerSecret, h160Of h x.takerSecretHash), none⟩
  | takerFundingCooperative =>
    ⟨[(sigs.taker ++ [(1 ||| sigs.forkId).toUInt8], x.takerPub),
      (sigs.maker ++ [(1 ||| sigs.forkId).toUInt8], x.makerPub)], none, none⟩
  | takerPaymentCooperative =>
    ⟨[(sigs.taker ++ [sigs.sighashByte], x.takerPub),
      (sigs.maker ++ [sigs.sighashByte], x.makerPub)],
      some (x.makerSecret, h160Of h x.makerSecretHash), none⟩

/-- For a builder's tree and what its input pushes: whether the script accepts. -/
theorem accepts_branch_cons {c : Context} {yes no : Tree} {v : Bytes} {stack : Stack}
    {choices : List Bool} : (branch yes no .done).Accepts c (v :: stack) choices ↔
      ∃ l, choices = truth v :: l ∧ (bif truth v then yes else no).Accepts c stack l := by
  rw [accepts_branch]
  simp only [List.cons.injEq, and_assoc, exists_and_left, exists_eq_left']

theorem toNumber_lockBytes : toNumber (lockBytes lock) =
    if lock.toNat < 2 ^ 31 then (lock.toNat : ℤ) else 2 ^ 31 - lock.toNat := by
  have hlt := lock.toNat_lt
  have hbs : ofLeBytes (lockBytes lock) = lock.toNat := by
    rw [lockBytes, ofLeBytes_leBytes_of_lt]
    exact hlt
  have hlen : (lockBytes lock).length = 4 := length_leBytes ..
  rw [toNumber, hbs, hlen]
  refine if_congr (by omega) rfl ?_
  rw [show ((2 : ℤ) ^ 8) ^ 4 / 2 = 2 ^ 31 by decide]

section Clauses

variable {c : Context} {key sig : Bytes} {choices : List Bool}

/-- The time lock of a refund, for a lock time that is not read as a negative number. -/
theorem accepts_refund (hlo : lock.toNat < 2 ^ 31) :
    (lockedUntil (lockBytes lock) (.signedBy key)).Accepts c [sig] choices ↔
      choices = [] ∧ c.checkSig sig key = true ∧ c.Passed lock.toNat := by
  have hlen : (lockBytes lock).length = 4 := length_leBytes ..
  rw [accepts_lockedUntil, accepts_signedBy, toNumber_lockBytes, if_pos hlo, hlen]
  simp only [Int.toNat_natCast, List.cons.injEq]
  constructor
  · rintro ⟨-, ⟨-, -, hps⟩, _, _, ⟨rfl, rfl⟩, -, hsig, hdn⟩
    exact ⟨hdn, hsig, hps⟩
  · rintro ⟨hdn, hsig, hps⟩
    exact ⟨by simp, ⟨by decide, Int.natCast_nonneg _, hps⟩, sig, [], ⟨rfl, rfl⟩, by decide,
      hsig, hdn⟩

end Clauses

variable {c : Context}

/-- With the one exception, an input is accepted exactly in the branch of its name and for what
that branch is meant to ask for. -/
theorem Spend.accepts_iff (hs : s ≠ takerFundingTimelock)
    (hlo : s.timeLocked = true → x.time.toNat < 2 ^ 31) (choices : List Bool) :
    (s.tree h x).Accepts c (s.pushed x sigs).reverse choices ↔
      choices = s.path ∧ (s.requirement h x sigs).Met c := by
  have htr : truth [1] = true := rfl
  have hfl : truth [] = false := rfl
  cases s with
  | takerFundingTimelock => exact absurd rfl hs
  | takerRefundsPayment | makerRefundsPayment | makerPaymentTimelock | takerPaymentRefund =>
    simp [tree, pushed, paymentTree, makerPaymentTree, takerPaymentTree, path, requirement,
      Requirement.Met, accepts_branch_cons, htr, accepts_refund _ (hlo rfl)]
  | makerSpendsTakerPayment | takerSpendsMakerPayment | makerPaymentSecret | makerPaymentSpend
  | takerFundingSecret | takerFundingCooperative | takerPaymentCooperative =>
    simp [tree, pushed, paymentTree, makerPaymentTree, takerFundingTree, takerPaymentTree, path,
      requirement, Requirement.Met, accepts_branch_cons, hfl, htr, accepts_lockedBy,
      accepts_signedBy, accepts_checkedBy, and_comm (a := c.hash160 _ = _)]

/-- The flags of the refund of the taker funding select the branch of both signatures, and one is
missing. -/
theorem Spend.fundingTimelock_not_accepts (c : Context) (choices : List Bool) :
    ¬(takerFundingTimelock.tree h x).Accepts c
      (takerFundingTimelock.pushed x sigs).reverse choices := by
  have htr : truth [1] = true := rfl
  have hfl : truth [] = false := rfl
  simp [tree, pushed, takerFundingTree, accepts_branch_cons, htr, hfl, accepts_checkedBy,
    accepts_signedBy]

/-- A refund whose input is accepted has found the time lock passed. -/
theorem Spend.passed_of_accepts {x : Terms} {sigs : Signatures} {choices : List Bool}
    (htm : s.timeLocked = true)
    (hacc : (s.tree h x).Accepts c (s.pushed x sigs).reverse choices) :
    0 ≤ toNumber (lockBytes x.time) ∧ c.Passed (toNumber (lockBytes x.time)).toNat := by
  have htr : truth [1] = true := rfl
  cases s with
  | takerFundingTimelock => exact absurd hacc (fundingTimelock_not_accepts h x sigs c _)
  | takerRefundsPayment | makerRefundsPayment | makerPaymentTimelock | takerPaymentRefund =>
    obtain ⟨l, -, href⟩ := accepts_branch_cons.mp hacc
    rw [htr, cond_true, accepts_lockedUntil] at href
    exact href.2.1.2
  | _ => exact absurd htm (by decide)

/-! ## The builders -/

/-- The input spends the payment through the branch that the builder's name states. -/
def Spend.Through (clock : ChainClock) (x : Terms) (sigs : Signatures) (c : Context) (s : Spend) :
    Prop :=
  ∃ a, s.assemble h clock x sigs = some a ∧ Spends c a.scriptSig a.redeem s.path

theorem Spend.through_iff_accepts {x : Terms} {sigs : Signatures} (hsg : sigs.Short)
    (c : Context) (s : Spend) : s.Through h clock x sigs c ↔
      (s.tree h x).Accepts c (s.pushed x sigs).reverse s.path := by
  obtain ⟨a, ha⟩ := @Spend.assembles h clock x sigs hsg s
  have hcnt : (s.pushed x sigs).length < 1000 := by cases s <;> exact le_of_ble_eq_true rfl
  have hspd := @spends_iff c _ _ _ _ s.path ha.pushes hcnt ha.spells
  rw [← hspd, Through, ha.assembled]
  simp only [some.injEq, exists_eq_left']

/-- The context is that of the assembled input: the signatures are by the keys of the branch, its
secret has the hash of the script, and the transaction has the lock time that was computed. -/
structure Spend.Prepared (clock : ChainClock) (x : Terms) (sigs : Signatures) (c : Context)
    (s : Spend) : Prop where
  short : sigs.Short
  signatures : ∀ p ∈ (s.requirement h x sigs).signatures, c.checkSig p.1 p.2.bytes = true
  secret : ∀ p ∈ (s.requirement h x sigs).secret, c.hash160 p.1.toList = p.2
  transaction : ∀ a, s.assemble h clock x sigs = some a →
    c.sequence = a.sequence.toNat ∧ c.lockTime = a.lockTime.toNat

theorem Spend.requirement_lock (s : Spend) :
    (s.requirement h x sigs).lock = if s.timeLocked then some x.time else none := by
  cases s <;> rfl

/-- The transaction of a refund is late enough for the lock time and its input is not final. -/
theorem Spend.Prepared.of_timeLocked {x : Terms} {sigs : Signatures}
    (hp : s.Prepared h clock x sigs c) (htm : s.timeLocked = true) :
    c.sequence ≠ 0xffffffff ∧ c.lockTime = max clock.time.toNat x.time.toNat := by
  obtain ⟨a, ha⟩ := @Spend.assembles h clock x sigs hp.short s
  obtain ⟨hseq, hlc⟩ := hp.transaction a ha.assembled
  obtain ⟨hs, hl⟩ := ha.lockTime htm
  rw [hs] at hseq
  rw [hl, p2shTxLocktime] at hlc
  refine ⟨by rw [hseq]; decide, hlc.trans ?_⟩
  show (if clock.time ≤ x.time then x.time else clock.time).toNat = _
  split_ifs with hle
  · exact (max_eq_right (UInt32.le_iff_toNat_le.mp hle)).symm
  · exact (Nat.max_eq_left
      (Nat.le_of_lt (Nat.lt_of_not_le (mt UInt32.le_iff_toNat_le.mpr hle)))).symm

/-- A refund that is prepared: every signature is good, and the transaction has the lock time that
was computed. -/
def refundContext (clock : ChainClock) (x : Terms) : Context :=
  ⟨fun b => (h.dhash160 b).toList, fun _ _ => true,
    (p2shTxLocktime clock x.time).toNat, (sequenceFinal - 1).toNat⟩

theorem Spend.prepared_refundContext {x : Terms} {sigs : Signatures} (hsg : sigs.Short)
    (htm : s.timeLocked = true) : s.Prepared h clock x sigs (refundContext h clock x) where
  short := hsg
  signatures _ _ := rfl
  secret p hp := by
    cases s with
    | takerRefundsPayment | makerRefundsPayment | makerPaymentTimelock | takerFundingTimelock
    | takerPaymentRefund => exact absurd hp (by simp [requirement])
    | _ => exact absurd htm (by decide)
  transaction a hal := by
    obtain ⟨a', ha⟩ := @Spend.assembles h clock x sigs hsg s
    obtain rfl : a' = a := some.inj (ha.assembled.symm.trans hal)
    obtain ⟨hseq, hlc⟩ := ha.lockTime htm
    rw [hseq, hlc]
    exact ⟨rfl, rfl⟩

/-- A builder's input goes through its branch, and for what the branch is meant to ask for only,
exactly if the builder is not the refund of the taker funding by its time lock, and the lock time of
a refund is before 2038 and of the kind of the chain's time. -/
theorem Spend.sound_iff {x : Terms} {sigs : Signatures} {c : Context} {s : Spend}
    (hp : s.Prepared h clock x sigs c) :
    (s.Through h clock x sigs c ∧ ∀ sigs' c', sigs'.Short →
      (s.Through h clock x sigs' c' ↔ (s.requirement h x sigs').Met c')) ↔
    s ≠ takerFundingTimelock ∧ (s.timeLocked = true → x.time.toNat < 2 ^ 31 ∧
      (x.time.toNat < lockTimeThreshold → clock.time.toNat < lockTimeThreshold)) := by
  constructor
  · rintro ⟨hth, -⟩
    have hacc := (through_iff_accepts h hp.short c s).mp hth
    refine ⟨?_, fun htm => ?_⟩
    · rintro rfl
      exact fundingTimelock_not_accepts h x sigs c _ hacc
    · obtain ⟨-, hlc⟩ := hp.of_timeLocked h htm
      have hps := passed_of_accepts h htm hacc
      have her : x.time.toNat < 2 ^ 31 := by
        by_contra hla
        -- a lock time from 2038 on is read as a negative number, or as zero
        rw [toNumber_lockBytes, if_neg hla] at hps
        obtain ⟨hnn, hcl, -⟩ := hps
        have hz : (2 ^ 31 - (x.time.toNat : ℤ)).toNat = 0 := by omega
        rw [hz] at hcl
        have hht := hcl.mp (by decide)
        unfold lockTimeThreshold at hht
        omega
      rw [toNumber_lockBytes, if_pos her] at hps
      refine ⟨her, fun hht => ?_⟩
      have hcl := hps.2.1.mp hht
      omega
  · rintro ⟨hs, hlo⟩
    have hiff (sigs' : Signatures) (c' : Context) (hsh : sigs'.Short) :
        s.Through h clock x sigs' c' ↔ (s.requirement h x sigs').Met c' := by
      rw [through_iff_accepts h hsh, accepts_iff h x sigs' hs fun htm => (hlo htm).1]
      exact and_iff_right rfl
    refine ⟨(hiff sigs c hp.short).mpr ⟨hp.signatures, hp.secret, fun l hl => ?_⟩, hiff⟩
    rw [requirement_lock] at hl
    cases htm : s.timeLocked with
    | false => exact absurd hl (by simp [htm])
    | true =>
      rw [htm, if_pos rfl] at hl
      obtain rfl : x.time = l := some.inj hl
      obtain ⟨hseq, hlc⟩ := hp.of_timeLocked h htm
      have hcl := (hlo htm).2
      exact ⟨by omega, by omega, hseq⟩

/-- Two parties with a lock time in 2023, and a chain that has just passed it. -/
def plainTerms : Terms where
  timeLock := 1700000000
  makerSecret := .replicate 32 1
  takerSecret := .replicate 32 2
  makerSecretHash := []
  takerSecretHash := []
  makerPub := .compressed (.replicate 33 2)
  takerPub := .compressed (.replicate 33 3)

def plainClock : ChainClock := ⟨false, 0, 1700000001⟩

def plainSignatures : Signatures := ⟨[48], [49], 0, 1⟩

def plainHashes : Hashes := ⟨fun _ => .replicate 32 0, fun _ => .replicate 20 0⟩

/-- The maker's refund by the time lock goes through. -/
theorem makerPayment_refunded :
    Spend.makerPaymentTimelock.Through plainHashes plainClock plainTerms plainSignatures
      (refundContext plainHashes plainClock plainTerms) :=
  ((Spend.sound_iff plainHashes (Spend.prepared_refundContext plainHashes ⟨by decide, by decide⟩
    rfl)).mpr ⟨by decide, fun _ => ⟨by decide, by decide⟩⟩).1

/-- The taker's refund of the funding by the time lock spends nothing, with a good signature and a
lock time that has passed. -/
theorem takerFunding_not_refunded :
    Spend.takerFundingTimelock.Prepared plainHashes plainClock plainTerms plainSignatures
      (refundContext plainHashes plainClock plainTerms) ∧
    ∀ a choices, Spend.takerFundingTimelock.assemble plainHashes plainClock plainTerms
        plainSignatures = some a →
      ¬Spends (refundContext plainHashes plainClock plainTerms) a.scriptSig a.redeem choices := by
  have hsg : plainSignatures.Short := ⟨by decide, by decide⟩
  refine ⟨Spend.prepared_refundContext plainHashes hsg rfl, fun a choices hal hspd => ?_⟩
  obtain ⟨a', ha⟩ := @Spend.assembles plainHashes plainClock plainTerms _ hsg .takerFundingTimelock
  obtain rfl : a' = a := some.inj (ha.assembled.symm.trans hal)
  exact Spend.fundingTimelock_not_accepts _ _ _ _ _
    ((spends_iff ha.pushes (le_of_ble_eq_true rfl) ha.spells).mp hspd)

end CheetahDex.Utxo
