import CheetahDex.SwapV2.Maker
import CheetahDex.SwapV2.Taker

/-!
# What the two sides of a negotiation expect of each other

The maker takes the taker's lock times for right if they follow from the time at which the taker
says that it started. The taker computes the maker's lock time from its own starting time. So the
two agree only if they started in the same second, although a difference of a minute is allowed.
-/

namespace CheetahDex.SwapV2

open Lib Maker
open Ordermatch (MmNumber Uuid)
open Swap (Bytes Hash)

variable {MC TC : CoinTypes}

/-! ## What is accepted -/

theorem Taker.acceptNegotiation_isOk_iff {t : Taker.Machine MC TC} {msg : MakerNegotiation} :
    (∃ data, Taker.acceptNegotiation t msg = .ok data) ↔
      ¬ absDiff t.startedAt msg.startedAt > maxStartedAtDiff ∧
      (msg.secretHash.length = 20 ∨ msg.secretHash.length = 32) ∧
      msg.paymentLocktime = t.startedAt + 2 * t.lockDuration ∧
      (∃ pub, t.makerCoin.parsePubkey msg.makerCoinHtlcPub = .ok pub) ∧
      ∃ pub, t.takerCoin.parsePubkey msg.takerCoinHtlcPub = .ok pub := by
  simp only [Taker.acceptNegotiation, check_bind_iff, mapError_bind_iff, not_and_or,
    not_not, exists_and_left]
  refine and_congr_right fun _ => and_congr_right fun _ => and_congr_right fun _ => ?_
  constructor
  · rintro ⟨data, pub, hmk, pub', htk, -⟩
    exact ⟨⟨pub, hmk⟩, pub', htk⟩
  · rintro ⟨⟨pub, hmk⟩, pub', htk⟩
    exact ⟨_, pub, hmk, pub', htk, rfl⟩

theorem Maker.acceptNegotiation_isOk_iff {m : Maker.Machine MC TC} {data : TakerNegotiationData} :
    (∃ stored, acceptNegotiation m data = .ok stored) ↔
      ¬ absDiff m.startedAt data.startedAt > maxStartedAtDiff ∧
      data.paymentLocktime = data.startedAt + m.lockDuration ∧
      data.fundingLocktime = data.startedAt + 3 * m.lockDuration ∧
      (∃ pub, m.takerCoin.parsePubkey data.takerCoinHtlcPub = .ok pub) ∧
      ∃ pub, m.makerCoin.parsePubkey data.makerCoinHtlcPub = .ok pub := by
  simp only [acceptNegotiation, check_bind_iff, mapError_bind_iff, not_not, exists_and_left]
  refine and_congr_right fun _ => and_congr_right fun _ => and_congr_right fun _ => ?_
  constructor
  · rintro ⟨stored, pub, htk, pub', hmk, -⟩
    exact ⟨⟨pub, htk⟩, pub', hmk⟩
  · rintro ⟨⟨pub, htk⟩, pub', hmk⟩
    exact ⟨_, pub, htk, pub', hmk, rfl⟩

/-- The taker goes on after the negotiation, whatever it found when it started. -/
def Taker.Accepts (env : Taker.Env MC TC) (t : Taker.Machine MC TC) : Prop :=
  ∀ mb tb fee spendFee, ∃ data,
    (Taker.onChanged env t (.initialized mb tb fee spendFee)).next =
      some (.negotiated mb tb data fee spendFee)

/-- The maker goes on after the negotiation, whatever it found when it started. -/
def Maker.Accepts (env : Maker.Env MC TC) (m : Maker.Machine MC TC) : Prop :=
  ∀ mb tb fee spendFee, ∃ data,
    (onChanged env m (.initialized mb tb fee spendFee)).next =
      some (.waitingForTakerFunding mb tb data fee)

/-! ## Honest parties -/

/-- A maker and a taker of one swap that derive their keys and send each other the messages the code
has for them. A key that one of the nodes derives is one for the other. -/
structure Exchange (m : Maker.Machine MC TC) (t : Taker.Machine MC TC) (envM : Maker.Env MC TC)
    (envT : Taker.Env MC TC) (msg : MakerNegotiation) (data : TakerNegotiationData) : Prop where
  lockDuration : t.lockDuration = m.lockDuration
  makerMsg : negotiationMsg envM m = .ok msg
  takerMsg : Taker.negotiationMsg envT t = .ok data
  toTaker : envT.makerNegotiation = .ok msg
  toMaker : envM.takerNegotiation = .ok (some (.continue data))
  confirmed : envT.makerNegotiated = .ok ⟨true, none⟩
  makerKeyOfMaker : ∀ pub, ∃ pub', t.makerCoin.parsePubkey (m.makerCoin.pubkeyBytes pub) = .ok pub'
  takerKeyOfMaker : ∀ pub, ∃ pub', t.takerCoin.parsePubkey (m.takerCoin.pubkeyBytes pub) = .ok pub'
  makerKeyOfTaker : ∀ pub, ∃ pub', m.makerCoin.parsePubkey (t.makerCoin.pubkeyBytes pub) = .ok pub'
  takerKeyOfTaker : ∀ pub, ∃ pub', m.takerCoin.parsePubkey (t.takerCoin.pubkeyBytes pub) = .ok pub'

section exchange

variable {m : Maker.Machine MC TC} {t : Taker.Machine MC TC} {envM : Maker.Env MC TC}
  {envT : Taker.Env MC TC} {msg : MakerNegotiation} {data : TakerNegotiationData}

theorem deriveHtlcPubkeyBytes_eq_ok {C : CoinTypes} {answers : CoinAnswers C} {coin : Coin C}
    {uniqueData bytes : Bytes} (h : answers.deriveHtlcPubkeyBytes coin uniqueData = .ok bytes) :
    ∃ pub, bytes = coin.pubkeyBytes pub := by
  obtain ⟨pub, -, hbs⟩ := of_map_ok h
  exact ⟨pub, hbs.symm⟩

/-- The message of a maker. -/
theorem Maker.negotiationMsg_eq_ok (h : negotiationMsg envM m = .ok msg) :
    msg.startedAt = m.startedAt ∧ msg.paymentLocktime = m.makerPaymentLocktime ∧
      msg.secretHash = m.secretHash ∧
      (∃ pub, msg.makerCoinHtlcPub = m.makerCoin.pubkeyBytes pub) ∧
      ∃ pub, msg.takerCoinHtlcPub = m.takerCoin.pubkeyBytes pub := by
  simp only [negotiationMsg, mapError_bind_iff] at h
  obtain ⟨makerPub, hmk, takerPub, htk, addr, -, hmsg⟩ := h
  cases hmsg
  exact ⟨rfl, rfl, rfl, deriveHtlcPubkeyBytes_eq_ok hmk, deriveHtlcPubkeyBytes_eq_ok htk⟩

/-- The message of a taker. -/
theorem Taker.negotiationMsg_eq_ok (h : Taker.negotiationMsg envT t = .ok data) :
    data.startedAt = t.startedAt ∧ data.fundingLocktime = t.takerFundingLocktime ∧
      data.paymentLocktime = t.takerPaymentLocktime ∧
      (∃ pub, data.makerCoinHtlcPub = t.makerCoin.pubkeyBytes pub) ∧
      ∃ pub, data.takerCoinHtlcPub = t.takerCoin.pubkeyBytes pub := by
  simp only [Taker.negotiationMsg, mapError_bind_iff] at h
  obtain ⟨makerPub, hmk, takerPub, htk, hdt⟩ := h
  cases hdt
  exact ⟨rfl, rfl, rfl, deriveHtlcPubkeyBytes_eq_ok hmk, deriveHtlcPubkeyBytes_eq_ok htk⟩

theorem Taker.accepts_iff (h : Exchange m t envM envT msg data) :
    Taker.Accepts envT t ↔ ∃ stored, Taker.acceptNegotiation t msg = .ok stored := by
  constructor
  · intro hac
    cases hacc : Taker.acceptNegotiation t msg with
    | ok stored => exact ⟨stored, rfl⟩
    | error reason =>
      obtain ⟨stored, hx⟩ := hac 0 0 0 0
      rw [Taker.onChanged, Taker.initialized, h.toTaker, collapse_ok, hacc, collapse_error] at hx
      cases hx
  · rintro ⟨stored, hacc⟩ mb tb fee spendFee
    refine ⟨stored, ?_⟩
    rw [Taker.onChanged, Taker.initialized, h.toTaker, collapse_ok, hacc, collapse_ok,
      h.takerMsg, collapse_ok, h.confirmed, collapse_ok]
    rfl

theorem Maker.accepts_iff (h : Exchange m t envM envT msg data) :
    Maker.Accepts envM m ↔ ∃ stored, acceptNegotiation m data = .ok stored := by
  constructor
  · intro hac
    cases hacc : acceptNegotiation m data with
    | ok stored => exact ⟨stored, rfl⟩
    | error reason =>
      obtain ⟨stored, hx⟩ := hac 0 0 0 0
      rw [onChanged, initialized, h.makerMsg, collapse_ok, h.toMaker,
        collapse_ok, continued, collapse_ok, hacc, collapse_error] at hx
      cases hx
  · rintro ⟨stored, hacc⟩ mb tb fee spendFee
    refine ⟨stored, ?_⟩
    rw [onChanged, initialized, h.makerMsg, collapse_ok, h.toMaker,
      collapse_ok, continued, collapse_ok, hacc, collapse_ok]
    rfl

theorem absDiff_comm (a b : UInt64) : absDiff a b = absDiff b a := by
  unfold absDiff
  by_cases hlt : a < b
  · rw [if_pos hlt, if_neg (UInt64.lt_asymm hlt)]
  · by_cases hgt : b < a
    · rw [if_neg hlt, if_pos hgt]
    · rw [UInt64.le_antisymm (UInt64.not_lt.mp hgt) (UInt64.not_lt.mp hlt)]

theorem Maker.Machine.length_secretHash (m : Maker.Machine MC TC) :
    m.secretHash.length = 20 ∨ m.secretHash.length = 32 := by
  unfold Maker.Machine.secretHash
  cases m.secretHashAlgo with
  | dhash160 => exact .inl (Vector.length_toList)
  | sha256 => exact .inr (Vector.length_toList)

section

variable (h : Exchange m t envM envT msg data)
  (hdiff : absDiff m.startedAt t.startedAt ≤ maxStartedAtDiff)

include h hdiff

/-- An honest maker accepts the answer of an honest taker: it asks for what follows from the time
that the taker sends. -/
theorem Exchange.maker_accepts : Maker.Accepts envM m := by
  obtain ⟨hstd, hfn, hpay, ⟨makerPub, hmk⟩, takerPub, htk⟩ := Taker.negotiationMsg_eq_ok h.takerMsg
  rw [accepts_iff h, acceptNegotiation_isOk_iff, hstd, hfn, hpay, hmk, htk, ← h.lockDuration]
  exact ⟨UInt64.not_lt.mpr hdiff, rfl, rfl, h.takerKeyOfTaker takerPub, h.makerKeyOfTaker makerPub⟩

/-- An honest taker accepts the message of an honest maker exactly if the two started at the same
time. -/
theorem Exchange.taker_accepts_iff : Taker.Accepts envT t ↔ m.startedAt = t.startedAt := by
  obtain ⟨hstd, hpay, hhs, ⟨makerPub, hmk⟩, takerPub, htk⟩ := negotiationMsg_eq_ok h.makerMsg
  rw [absDiff_comm] at hdiff
  rw [Taker.accepts_iff h, Taker.acceptNegotiation_isOk_iff, hstd, hpay, hhs, hmk,
    htk, h.lockDuration, Maker.Machine.makerPaymentLocktime, UInt64.add_left_inj]
  exact ⟨fun hat => hat.2.2.1, fun he =>
    ⟨UInt64.not_lt.mpr hdiff, m.length_secretHash, he,
    h.makerKeyOfMaker makerPub, h.takerKeyOfMaker takerPub⟩⟩

end

/-! ## The lock times -/

/-- The maker's lock time is a lock duration after the taker's, unless only it wraps around. -/
theorem lockTimes_apart_iff (start lock : UInt64) :
    (lock.toNat : ℤ) - maxStartedAtDiff.toNat ≤
        ((start + 2 * lock).toNat : ℤ) - (start + lock).toNat ↔
      (start.toNat + 2 * lock.toNat) / 2 ^ 64 = (start.toNat + lock.toNat) / 2 ^ 64 := by
  have hmax : maxStartedAtDiff.toNat = 60 := rfl
  rw [hmax, UInt64.toNat_add, UInt64.toNat_add, UInt64.toNat_mul]
  have htwo : (2 : UInt64).toNat = 2 := rfl
  rw [htwo]
  omega

/-- Both sides accept what the other sends, and then the maker's money is locked for long enough
after the taker's. -/
def Negotiates (m : Maker.Machine MC TC) (t : Taker.Machine MC TC) (envM : Maker.Env MC TC)
    (envT : Taker.Env MC TC) : Prop :=
  (Taker.Accepts envT t ∧ Maker.Accepts envM m) ∧
    (Taker.Accepts envT t → Maker.Accepts envM m →
      (m.lockDuration.toNat : ℤ) - maxStartedAtDiff.toNat ≤
        (m.makerPaymentLocktime.toNat : ℤ) - t.takerPaymentLocktime.toNat)

/-- **Honest parties agree exactly if they started in the same second and no lock time wraps around
alone.** -/
theorem negotiates_iff (h : Exchange m t envM envT msg data)
    (hdiff : absDiff m.startedAt t.startedAt ≤ maxStartedAtDiff) :
    Negotiates m t envM envT ↔ m.startedAt = t.startedAt ∧
      (m.startedAt.toNat + 2 * m.lockDuration.toNat) / 2 ^ 64 =
        (m.startedAt.toNat + m.lockDuration.toNat) / 2 ^ 64 := by
  have hmk := h.maker_accepts hdiff
  have htk := h.taker_accepts_iff hdiff
  have hgap := lockTimes_apart_iff m.startedAt m.lockDuration
  unfold Negotiates Maker.Machine.makerPaymentLocktime Taker.Machine.takerPaymentLocktime
  rw [htk, h.lockDuration]
  constructor
  · rintro ⟨⟨he, -⟩, hap⟩
    refine ⟨he, hgap.mp ?_⟩
    have hfar := hap he hmk
    rwa [← he] at hfar
  · rintro ⟨he, hwr⟩
    refine ⟨⟨he, hmk⟩, fun _ _ => ?_⟩
    rw [← he]
    exact hgap.mpr hwr

end exchange

/-! ## Plain machines

A coin whose transactions are bytes, and a network on which everything works.
-/

abbrev plainTypes : CoinTypes := ⟨String, Bytes, Bytes, Bytes, Bytes⟩

def plainCoin (ticker : String) : Coin plainTypes where
  fee := ⟨ticker, 8, 1000, true⟩
  swapContractAddress := none
  showAddress := id
  parsePubkey := .ok
  pubkeyBytes := id
  parseTx := .ok
  txHex := id
  parsePreimage := .ok
  preimageBytes := id
  parseSignature := .ok
  signatureBytes := id
  skipTakerPaymentSpendPreimage := false

def plainCtx : Ctx where
  digits := 100
  netConfig := Swap.netid8762
  hashes := ⟨fun _ => .replicate 32 0, fun _ => .replicate 20 0⟩
  showDecimal := fun _ => ""

def plainAnswers : CoinAnswers plainTypes where
  currentBlock := .ok 1
  senderTradeFee := fun _ => .ok 0
  receiverTradeFee := .ok 0
  mySpendableBalance := .ok 10
  deriveHtlcPubkey := fun _ => .ok [2]
  myAddr := .ok "R"
  waitForConfirmations := fun _ => .ok ()
  canRefundHtlc := [.ok .canRefundNow]

def plainMakerCoin : MakerCoinAnswers plainTypes where
  toCoinAnswers := plainAnswers
  sendMakerPaymentV2 := fun _ => .sent [1]
  validateMakerPaymentV2 := fun _ => .ok ()
  refundMakerPaymentV2Timelock := fun _ => .sent [11]
  spendMakerPaymentV2 := fun _ => .sent [12]

def plainTakerCoin : TakerCoinAnswers plainTypes where
  toCoinAnswers := plainAnswers
  sendTakerFunding := fun _ => .sent [2]
  validateTakerFunding := fun _ => .ok ()
  refundTakerFundingSecret := fun _ => .sent [21]
  fundingPolls := [⟨0, fun _ _ _ => .ok (some (.transferredToTakerPayment [3]))⟩]
  genTakerFundingSpendPreimage := fun _ _ => .ok ⟨[4], [5]⟩
  validateTakerFundingSpendPreimage := fun _ _ => .ok ()
  signAndSendTakerFundingSpend := fun _ _ _ => .sent [3]
  refundCombinedTakerPayment := fun _ => .sent [31]
  genTakerPaymentSpendPreimage := fun _ _ => .ok ⟨[6], [7]⟩
  validateTakerPaymentSpendPreimage := fun _ _ => .ok ()
  signAndBroadcastTakerPaymentSpend := fun _ _ _ _ => .sent [8]
  findTakerPaymentSpendTx := fun _ _ _ => .ok [8]
  extractSecretV2 := fun _ _ => .ok (.replicate 32 0)

variable (startedAt lockDuration : UInt64)

def plainMaker : Maker.Machine plainTypes plainTypes where
  ctx := plainCtx
  makerCoin := plainCoin "RICK"
  makerVolume := 1
  secret := .replicate 32 0
  secretHashAlgo := .dhash160
  startedAt
  lockDuration
  takerCoin := plainCoin "MORTY"
  takerVolume := 1
  takerPremium := 0
  confSettings := ⟨1, false, 1, false⟩
  uuid := 0
  requireTakerFundingConfirm := false
  requireTakerPaymentSpendConfirm := true
  swapVersion := 2

def plainTaker : Taker.Machine plainTypes plainTypes where
  ctx := plainCtx
  startedAt
  lockDuration
  makerCoin := plainCoin "RICK"
  makerVolume := 1
  takerCoin := plainCoin "MORTY"
  takerVolume := 1
  takerPremium := 0
  secretHashAlgo := .dhash160
  confSettings := ⟨1, false, 1, false⟩
  uuid := 0
  takerSecret := .replicate 32 1
  requireMakerPaymentConfirm := true
  requireMakerPaymentSpendConfirm := true
  swapVersion := 2

variable (m : Maker.Machine plainTypes plainTypes)

/-- The message of a plain maker. -/
def plainMakerMsg : MakerNegotiation :=
  ⟨m.startedAt, m.makerPaymentLocktime, m.secretHash, [2], [2], none, none, "R"⟩

variable (t : Taker.Machine plainTypes plainTypes)

/-- The message of a plain taker. -/
def plainTakerMsg : TakerNegotiationData :=
  ⟨t.startedAt, t.takerFundingLocktime, t.takerPaymentLocktime, t.takerSecretHash, [2], [2], none,
    none⟩

/-- A maker to which the given taker answers. -/
def plainMakerEnv : Maker.Env plainTypes plainTypes where
  makerCoin := plainMakerCoin
  takerCoin := plainTakerCoin
  takerNegotiation := .ok (some (.continue (plainTakerMsg t)))
  takerFunding := .ok [2]
  takerPaymentSpendPreimage := .ok ⟨[7], [6]⟩

/-- A taker to which the given maker writes. -/
def plainTakerEnv : Taker.Env plainTypes plainTypes where
  makerCoin := plainMakerCoin
  takerCoin := plainTakerCoin
  makerNegotiation := .ok (plainMakerMsg m)
  makerNegotiated := .ok ⟨true, none⟩
  makerPayment := .ok ⟨[1], [5], [4]⟩

theorem plain_exchange (start start' lock : UInt64) :
    Exchange (plainMaker start lock) (plainTaker start' lock)
      (plainMakerEnv (plainTaker start' lock)) (plainTakerEnv (plainMaker start lock))
      (plainMakerMsg (plainMaker start lock)) (plainTakerMsg (plainTaker start' lock)) where
  lockDuration := rfl
  makerMsg := rfl
  takerMsg := rfl
  toTaker := rfl
  toMaker := rfl
  confirmed := rfl
  makerKeyOfMaker := fun pub => ⟨pub, rfl⟩
  takerKeyOfMaker := fun pub => ⟨pub, rfl⟩
  makerKeyOfTaker := fun pub => ⟨pub, rfl⟩
  takerKeyOfTaker := fun pub => ⟨pub, rfl⟩

/-- Two nodes that start together. -/
theorem startedTogether_negotiates :
    Negotiates (plainMaker 1000 7800) (plainTaker 1000 7800) (plainMakerEnv (plainTaker 1000 7800))
      (plainTakerEnv (plainMaker 1000 7800)) :=
  (negotiates_iff (plain_exchange 1000 1000 7800) (by decide)).mpr ⟨rfl, by decide⟩

/-- A taker that starts a second after the maker refuses its message. -/
theorem startedApart_refused :
    absDiff (plainMaker 1000 7800).startedAt (plainTaker 1001 7800).startedAt ≤ maxStartedAtDiff ∧
    Exchange (plainMaker 1000 7800) (plainTaker 1001 7800) (plainMakerEnv (plainTaker 1001 7800))
      (plainTakerEnv (plainMaker 1000 7800)) (plainMakerMsg (plainMaker 1000 7800))
      (plainTakerMsg (plainTaker 1001 7800)) ∧
    ¬ Negotiates (plainMaker 1000 7800) (plainTaker 1001 7800)
      (plainMakerEnv (plainTaker 1001 7800)) (plainTakerEnv (plainMaker 1000 7800)) := by
  have hexchange := plain_exchange 1000 1001 7800
  refine ⟨by decide, hexchange, fun hng => ?_⟩
  have he := (hexchange.taker_accepts_iff (by decide)).mp hng.1.1
  exact absurd he (by decide)

end CheetahDex.SwapV2
