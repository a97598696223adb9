import CheetahDex.Swap.DexFee
import Mathlib.Tactic.FieldSimp
import Mathlib.Tactic.Linarith

/-!
# The largest volume

The volume that a balance allows a taker is the one that costs, together with its fee, exactly what
is available.
-/

namespace CheetahDex.Proof

open Lib Swap Ordermatch

variable (cfg : NetConfig) (base rel : String) (minTxAmount : MmNumber)

/-- What a volume costs together with its fee. -/
def costWithFee (vol : MmNumber) : MmNumber :=
  vol + dexFeeAmount cfg base rel vol (dexFeeThreshold cfg minTxAmount)

theorem costWithFee_strictMono : StrictMono (costWithFee cfg base rel minTxAmount) := by
  intro vol vol' hlt
  have hrt := (dexFeeRate_pos cfg base rel).le
  rw [costWithFee, costWithFee, dexFeeAmount_eq_max, dexFeeAmount_eq_max]
  exact add_lt_add_of_lt_of_le hlt (max_le_max_left _ (mul_le_mul_of_nonneg_right hlt.le hrt))

/-- The volume is where the two formulas for the fee meet what is available. -/
theorem costWithFee_maxVol (available : MmNumber) :
    let rate := dexFeeRate cfg base rel
    let threshold := dexFeeThreshold cfg minTxAmount
    costWithFee cfg base rel minTxAmount (if available > threshold * ((1 + rate) / rate) then
      available / (1 + rate) else available - threshold) = available := by
  intro rate threshold
  have hrt : 0 < rate := dexFeeRate_pos cfg base rel
  have hsum : 0 < 1 + rate := by linarith
  rw [costWithFee, dexFeeAmount_eq_max]
  split
  · rename_i hab
    have hfee : threshold ≤ available / (1 + rate) * rate := by
      rw [gt_iff_lt, mul_div_assoc', div_lt_iff₀ hrt] at hab
      rw [div_mul_eq_mul_div, le_div_iff₀ hsum]
      exact hab.le
    rw [max_eq_right hfee]
    field_simp
  · rename_i hbel
    have hfee : (available - threshold) * rate ≤ threshold := by
      rw [gt_iff_lt, not_lt, mul_div_assoc', le_div_iff₀ hrt] at hbel
      linarith
    rw [max_eq_left hfee]
    exact sub_add_cancel ..

/-- **The volume that is returned costs exactly what is available, and a volume is refused only if
none above the least amount can be paid for.** -/
theorem maxTakerVol_exact (available : MmNumber) (hmin : 0 ≤ minTxAmount) :
    (∀ vol, maxTakerVolFromAvailable cfg available base rel minTxAmount = .ok vol →
      0 < vol ∧ costWithFee cfg base rel minTxAmount vol = available ∧
      ∀ vol' > vol, available < costWithFee cfg base rel minTxAmount vol') ∧
    ∀ e, maxTakerVolFromAvailable cfg available base rel minTxAmount = .error e →
      ∀ vol > 0, minTxAmount < vol → available < costWithFee cfg base rel minTxAmount vol := by
  have hcs := costWithFee_maxVol cfg base rel minTxAmount available
  have hmn := costWithFee_strictMono cfg base rel minTxAmount
  unfold maxTakerVolFromAvailable
  dsimp only at hcs ⊢
  set maxVol : MmNumber := if available > _ then _ else _
  constructor
  · intro vol hvol
    obtain ⟨_, hchk, hvol⟩ := of_bind_ok hvol
    cases hvol
    exact ⟨hmin.trans_lt (not_le.1 (not_of_check hchk)), hcs, fun vol' hlt =>
      hcs.symm.trans_lt (hmn hlt)⟩
  · intro e he vol _ hlt
    by_cases hle : maxVol ≤ minTxAmount
    · exact hcs.symm.trans_lt (hmn (hle.trans_lt hlt))
    · simp [check, hle] at he

theorem oneRick_exact :
    maxTakerVolFromAvailable netid8762 1 "RICK" "MORTY" (1 / 100000) = .ok (777 / 778) ∧
      costWithFee netid8762 "RICK" "MORTY" (1 / 100000) (777 / 778) = 1 :=
  have hvol : maxTakerVolFromAvailable netid8762 1 "RICK" "MORTY" (1 / 100000) =
      .ok (777 / 778) := by
    decide +kernel
  ⟨hvol, ((maxTakerVol_exact netid8762 "RICK" "MORTY" _ 1 (by norm_num)).1 _ hvol).2.1⟩

end CheetahDex.Proof
