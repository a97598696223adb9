import Mathlib.Algebra.Order.Group.Abs
import CheetahDex.Proof.TakerRecovery

/-!
# What a negotiation accepts

Both sides compare the starting times as signed numbers and the peer's lock time with a sum, all of
it modulo `2 ^ 64` and with numbers the peer chooses. A difference of `2 ^ 63` is its own negative,
so it passes the check on the absolute value, and a sum that wraps is equal to a lock time in the
past.
-/

namespace CheetahDex.Proof

open Lib Ordermatch Swap
open MakerRecovery (plainMakerSwap lostPaymentEnv)
open TakerRecovery (plainTakerEnv plainTakerSwap)

/-! ## Times modulo `2 ^ 64` -/

/-- The difference of two times over the integers. -/
def timeGap (mine other : UInt64) : Int := |(mine.toNat : Int) - other.toNat|

theorem toInt_toInt64 (x : UInt64) : x.toInt64.toInt = (x.toNat : Int).bmod (2 ^ 64) :=
  BitVec.toInt_eq_toNat_bmod x.toBitVec

theorem toInt_abs {x : Int64} (hx : -2 ^ 63 < x.toInt) : x.abs.toInt = |x.toInt| := by
  have hmin : x.toBitVec ≠ BitVec.intMin 64 := by
    intro heq
    have hint : x.toInt = -2 ^ 63 := by
      change x.toBitVec.toInt = _
      rw [heq]
      decide
    omega
  change x.toBitVec.abs.toInt = |x.toBitVec.toInt|
  rw [BitVec.toInt_abs_eq_ite, if_neg hmin, BitVec.msb_eq_toInt]
  by_cases hneg : x.toBitVec.toInt < 0
  · rw [if_pos (decide_eq_true hneg), abs_of_neg hneg]
  · rw [if_neg (by simpa using hneg), abs_of_nonneg (not_lt.1 hneg)]

/-- The difference that `negotiate` computes is the right one, unless it is too big for a signed
number. -/
theorem toInt_timeDif {mine other : UInt64} (h : timeGap mine other < 2 ^ 63) :
    (timeDif mine other).toInt = timeGap mine other := by
  have hdif : (mine.toInt64 - other.toInt64).toInt = (mine.toNat : Int) - other.toNat := by
    rw [Int64.toInt_sub, toInt_toInt64, toInt_toInt64, Int.sub_bmod_bmod, Int.bmod_sub_bmod]
    rw [timeGap, abs_lt] at h
    exact Int.bmod_eq_of_le (by omega) (by omega)
  rw [timeDif, toInt_abs, hdif, timeGap]
  rw [hdif]
  exact (abs_lt.1 h).1

/-- Times that pass the check are close, unless they are very far apart. -/
theorem timeGap_le_iff {mine other : UInt64} (hacc : ¬ timeDif mine other > 60) :
    timeGap mine other ≤ 60 ↔ timeGap mine other < 2 ^ 63 := by
  refine ⟨fun h => by omega, fun h => ?_⟩
  have hle : ¬ (60 : Int) < (timeDif mine other).toInt := by
    intro hlt
    exact hacc (Int64.lt_iff_toInt_lt.2 hlt)
  rw [toInt_timeDif h] at hle
  omega

theorem toNat_add_eq_iff (a b : UInt64) :
    (a + b).toNat = a.toNat + b.toNat ↔ a.toNat + b.toNat < 2 ^ 64 := by
  rw [UInt64.toNat_add]
  omega

theorem toNat_add_two_mul (a b : UInt64) :
    (a + b * 2).toNat = (a.toNat + 2 * b.toNat) % 2 ^ 64 := by
  rw [UInt64.toNat_add, UInt64.toNat_mul]
  change (a.toNat + b.toNat * 2 % 2 ^ 64) % 2 ^ 64 = _
  omega

/-! ## The two sides -/

/-- What a maker's negotiation should accept: the taker started at about the same time, its payment
is locked for the lock duration, and the maker's payment is locked for about that much longer. -/
def MakerConsistent (data : MakerSwapData) (takerStarted takerLock : UInt64) : Prop :=
  timeGap data.startedAt takerStarted ≤ 60 ∧
    takerLock.toNat = takerStarted.toNat + data.lockDuration.toNat ∧
    (data.lockDuration.toNat : Int) - 60 ≤ (data.makerPaymentLock.toNat : Int) - takerLock.toNat

instance (data : MakerSwapData) (takerStarted takerLock : UInt64) :
    Decidable (MakerConsistent data takerStarted takerLock) :=
  inferInstanceAs (Decidable (_ ∧ _ ∧ _))

/-- What a taker's negotiation should accept. -/
def TakerConsistent (data : TakerSwapData) (makerStarted makerLock : UInt64) : Prop :=
  timeGap data.startedAt makerStarted ≤ 60 ∧
    makerLock.toNat = makerStarted.toNat + 2 * data.lockDuration.toNat ∧
    (data.lockDuration.toNat : Int) - 60 ≤ (makerLock.toNat : Int) - data.takerPaymentLock.toNat

/-! ## What was checked -/

theorem makerNegotiate_accepted {env : MakerEnv} {swap : MakerSwap} {events : List MakerSwapEvent}
    {takerData : NegotiationDataMsg} (hrp : env.negotiationReply = .ok takerData)
    (h : swap.negotiate env = .returned (some .waitForTakerFee) events) :
    ¬ timeDif swap.mutable.data.startedAt takerData.startedAt > 60 ∧
      takerData.paymentLocktime = takerData.startedAt + swap.mutable.data.lockDuration := by
  unfold MakerSwap.negotiate at h
  rw [hrp, collapse_ok] at h
  by_cases hdif : timeDif swap.mutable.data.startedAt takerData.startedAt > 60
  · simp only [check, if_pos hdif] at h
    exact absurd (Outcome.returned.inj h).1 (by simp)
  · refine ⟨hdif, ?_⟩
    by_contra hlc
    simp only [check, if_neg hdif, if_pos hlc] at h
    exact absurd (Outcome.returned.inj h).1 (by simp)

theorem takerNegotiate_accepted {env : TakerEnv} {swap : TakerSwap} {events : List TakerSwapEvent}
    {makerData : NegotiationDataMsg} (hrp : env.negotiation = .ok makerData)
    (h : swap.negotiate env = .returned (some .sendTakerFee) events) :
    ¬ timeDif swap.mutable.data.startedAt makerData.startedAt > 60 ∧
      makerData.paymentLocktime = makerData.startedAt + swap.mutable.data.lockDuration * 2 := by
  unfold TakerSwap.negotiate at h
  rw [hrp, collapse_ok] at h
  by_cases hdif : timeDif swap.mutable.data.startedAt makerData.startedAt > 60
  · simp only [check, if_pos hdif] at h
    exact absurd (Outcome.returned.inj h).1 (by simp)
  · refine ⟨hdif, ?_⟩
    by_contra hlc
    simp only [check, if_neg hdif, if_pos hlc] at h
    exact absurd (Outcome.returned.inj h).1 (by simp)

/-- **What a swap that was started accepts in its negotiation is consistent exactly if the two times
are less than `2 ^ 63` apart and no lock time wraps around.** -/
theorem negotiated_consistent_iff (maker : MakerSwap) (taker : TakerSwap) :
    (∀ (startEnv env : MakerEnv) (next : Option MakerSwapCommand) (data : MakerSwapData)
        (now : UInt64) (takerData : NegotiationDataMsg) (events : List MakerSwapEvent),
      maker.start startEnv = .returned next [.started data] →
      env.negotiationReply = .ok takerData →
      (maker.applyEvent now (.started data)).negotiate env =
        .returned (some .waitForTakerFee) events →
      (MakerConsistent data takerData.startedAt takerData.paymentLocktime ↔
        timeGap data.startedAt takerData.startedAt < 2 ^ 63 ∧
          takerData.startedAt.toNat + data.lockDuration.toNat < 2 ^ 64 ∧
          data.startedAt.toNat + 2 * data.lockDuration.toNat < 2 ^ 64)) ∧
    (∀ (startEnv env : TakerEnv) (next : Option TakerSwapCommand) (data : TakerSwapData)
        (now : UInt64) (makerData : NegotiationDataMsg) (events : List TakerSwapEvent),
      taker.start startEnv = .returned next [.started data] →
      env.negotiation = .ok makerData →
      (taker.applyEvent now (.started data)).negotiate env = .returned (some .sendTakerFee) events →
      (TakerConsistent data makerData.startedAt makerData.paymentLocktime ↔
        timeGap data.startedAt makerData.startedAt < 2 ^ 63 ∧
          makerData.startedAt.toNat + 2 * data.lockDuration.toNat < 2 ^ 64)) := by
  refine ⟨?_, ?_⟩
  · intro startEnv env next data now takerData events hsta hrp hng
    obtain ⟨hdif, hsum⟩ := makerNegotiate_accepted hrp hng
    change ¬timeDif data.startedAt takerData.startedAt > 60 at hdif
    change _ = takerData.startedAt + data.lockDuration at hsum
    rw [MakerConsistent, timeGap_le_iff hdif, hsum]
    refine and_congr_right fun hgap => (and_congr_left' (toNat_add_eq_iff _ _)).trans ?_
    refine and_congr_right fun hft => ?_
    have hcl := abs_le.1 ((timeGap_le_iff hdif).2 hgap)
    rw [(MakerReturns.started_of_start hsta).makerPaymentLock, toNat_add_two_mul,
      (toNat_add_eq_iff _ _).2 hft]
    omega
  · intro startEnv env next data now makerData events hsta hrp hng
    obtain ⟨hdif, hsum⟩ := takerNegotiate_accepted hrp hng
    change ¬timeDif data.startedAt makerData.startedAt > 60 at hdif
    change _ = makerData.startedAt + data.lockDuration * 2 at hsum
    rw [TakerConsistent, timeGap_le_iff hdif, hsum, toNat_add_two_mul]
    refine and_congr_right fun hgap => ?_
    have hcl := abs_le.1 ((timeGap_le_iff hdif).2 hgap)
    -- the taker's own lock time may wrap around: that only makes it smaller
    rw [(TakerReturns.started_of_start hsta).takerPaymentLock, UInt64.toNat_add]
    omega

theorem negotiated_consistent_plain :
    (∃ data, plainMakerSwap.start lostPaymentEnv = .returned (some .negotiate) [.started data] ∧
      MakerConsistent data 100 7900) ∧
    (∃ data, plainTakerSwap.start (plainTakerEnv (.error "no")) =
        .returned (some .negotiate) [.started data] ∧ TakerConsistent data 100 15700) :=
  ⟨⟨_, rfl, ((negotiated_consistent_iff plainMakerSwap plainTakerSwap).1 lostPaymentEnv
      lostPaymentEnv (some .negotiate) _ 100 _ _ rfl rfl rfl).2 (by decide +kernel)⟩,
    ⟨_, rfl, ((negotiated_consistent_iff plainMakerSwap plainTakerSwap).2
      (plainTakerEnv (.error "no")) (plainTakerEnv (.error "no")) (some .negotiate) _ 100 _ _
      rfl rfl rfl).2 (by decide +kernel)⟩⟩

/-- The taker's clock is `2 ^ 63` seconds ahead of the maker's. -/
def farClockEnv : MakerEnv :=
  { lostPaymentEnv with
    negotiationReply :=
      .ok (.v1 9223372036854775908 9223372036854783708 (.replicate 20 0) (.replicate 33 3)) }

theorem farClock_accepted : ∃ data events,
    plainMakerSwap.start lostPaymentEnv = .returned (some .negotiate) [.started data] ∧
      (plainMakerSwap.applyEvent 100 (.started data)).negotiate farClockEnv =
        .returned (some .waitForTakerFee) events ∧
      ¬ MakerConsistent data 9223372036854775908 9223372036854783708 :=
  ⟨_, _, rfl, rfl, by decide +kernel⟩

end CheetahDex.Proof
