import Mathlib.Data.Int.Log
import Mathlib.Data.Rat.Floor
import Mathlib.Tactic.Positivity

/-!
# Decimals with a fixed number of digits

Rational numbers cut to a fixed number of significant digits, and then to a whole number of the
smallest units of a currency. Cutting to digits is the greatest number with so many digits that is
not above (`le_truncDigits_iff`). So two numbers come to different units exactly if a number that
has so many digits and is whole lies between them (`units_lt_iff`).
-/

namespace CheetahDex.Lib

open Int

/-- A number that is written with so many digits, wherever the point is. -/
def HasDigits (digits : ℕ) (q : ℚ) : Prop := ∃ m : ℕ, m < 10 ^ digits ∧ ∃ e : ℤ, q = m * 10 ^ e

variable (places : ℤ)

/-- Cut to a given number of places after the point. -/
def cutAt (q : ℚ) : ℚ := ⌊q * 10 ^ places⌋ / 10 ^ places

/-- Cut to a given number of significant digits, towards zero. -/
def truncDigits (digits : ℕ) (q : ℚ) : ℚ :=
  if 0 ≤ q then cutAt (digits - 1 - log 10 q) q else -cutAt (digits - 1 - log 10 (-q)) (-q)

/-- The whole smallest units in an amount, of which `10 ^ decimals` are one. -/
def units (decimals : ℕ) (q : ℚ) : ℕ := ⌊q * 10 ^ decimals⌋₊

theorem ten_zpow_pos (e : ℤ) : (0 : ℚ) < 10 ^ e := zpow_pos (by norm_num) e

theorem cutAt_le (q : ℚ) : cutAt places q ≤ q := by
  rw [cutAt, div_le_iff₀ (ten_zpow_pos places)]
  exact floor_le _

/-- What is left of a number is a natural number at the last place. -/
theorem exists_floor_eq {q : ℚ} (hq : 0 ≤ q) : ∃ n : ℕ, ⌊q * 10 ^ places⌋ = n :=
  eq_ofNat_of_zero_le (floor_nonneg.2 (mul_nonneg hq (ten_zpow_pos places).le))

theorem cutAt_nonneg {q : ℚ} (hq : 0 ≤ q) : 0 ≤ cutAt places q := by
  obtain ⟨n, hn⟩ := exists_floor_eq places hq
  rw [cutAt, hn]
  exact div_nonneg (Nat.cast_nonneg n) (ten_zpow_pos places).le

theorem exists_zpow_eq {e : ℤ} (he : 0 ≤ e) : ∃ n : ℕ, (10 : ℚ) ^ e = n := by
  obtain ⟨k, rfl⟩ := eq_ofNat_of_zero_le he
  exact ⟨10 ^ k, by push_cast; exact zpow_natCast 10 k⟩

/-- What is whole at the last place is not cut. -/
theorem cutAt_eq {places : ℤ} {q : ℚ} {n : ℕ} (h : q * 10 ^ places = n) : cutAt places q = q := by
  rw [cutAt, h, floor_natCast, cast_natCast, ← h, mul_div_cancel_right₀ _ (ten_zpow_pos places).ne']

/-- What is whole at the last place is not cut off. -/
theorem le_cutAt {places : ℤ} {q y : ℚ} {n : ℤ} (hn : y * 10 ^ places ≤ n)
    (hle : (n : ℚ) ≤ q * 10 ^ places) : y ≤ cutAt places q := by
  rw [cutAt, le_div_iff₀ (ten_zpow_pos places)]
  have hfl : n ≤ ⌊q * 10 ^ places⌋ := le_floor.2 hle
  exact hn.trans (by exact_mod_cast hfl)

/-! ## Significant digits -/

section digits

variable {digits : ℕ} {x y : ℚ}

theorem truncDigits_of_nonneg (hx : 0 ≤ x) :
    truncDigits digits x = cutAt (digits - 1 - log 10 x) x := if_pos hx

theorem truncDigits_nonneg (hx : 0 ≤ x) : 0 ≤ truncDigits digits x := by
  rw [truncDigits_of_nonneg hx]
  exact cutAt_nonneg _ hx

theorem truncDigits_le (hx : 0 ≤ x) : truncDigits digits x ≤ x := by
  rw [truncDigits_of_nonneg hx]
  exact cutAt_le _ x

theorem truncDigits_nonpos (hx : x < 0) : truncDigits digits x ≤ 0 := by
  rw [truncDigits, if_neg (not_le.2 hx)]
  exact neg_nonpos.2 (cutAt_nonneg _ (neg_nonneg.2 hx.le))

/-- The digits that are kept are those asked for. -/
theorem hasDigits_truncDigits (hx : 0 ≤ x) : HasDigits digits (truncDigits digits x) := by
  rw [truncDigits_of_nonneg hx]
  set places : ℤ := digits - 1 - log 10 x with hpl
  obtain ⟨m, hm⟩ := exists_floor_eq places hx
  refine ⟨m, ?_, -places, ?_⟩
  · -- `x` is below the next power of ten
    have hlt : x * 10 ^ places < 10 ^ digits := by
      have hlog : x < 10 ^ (log 10 x + 1) := by
        exact_mod_cast lt_zpow_succ_log_self (by norm_num : 1 < 10) x
      calc x * 10 ^ places < 10 ^ (log 10 x + 1) * 10 ^ places :=
            mul_lt_mul_of_pos_right hlog (ten_zpow_pos places)
        _ = 10 ^ (digits : ℤ) := by
            rw [← zpow_add₀ (by norm_num), hpl]
            congr 1
            ring
        _ = 10 ^ digits := zpow_natCast _ _
    have hint : ⌊x * 10 ^ places⌋ < (10 ^ digits : ℕ) := floor_lt.2 (by exact_mod_cast hlt)
    omega
  · rw [cutAt, hm, cast_natCast, div_eq_mul_inv, ← zpow_neg]

/-- A number with so many digits that is not above `x` is not above `x` cut to the digits. -/
theorem HasDigits.le_truncDigits (hy : HasDigits digits y) (hx : 0 ≤ x) (hle : y ≤ x) :
    y ≤ truncDigits digits x := by
  obtain ⟨m, hm, e, rfl⟩ := hy
  rcases Nat.eq_zero_or_pos m with rfl | hpos
  · simpa using truncDigits_nonneg hx
  have hdig : digits ≠ 0 := by
    rintro rfl
    simp at hm
    omega
  have hyp : (0 : ℚ) < m * 10 ^ e := mul_pos (by exact_mod_cast hpos) (ten_zpow_pos e)
  rw [truncDigits_of_nonneg hx]
  set places : ℤ := digits - 1 - log 10 x with hpl
  rcases le_or_gt 0 (e + places) with hwh | hsm
  · -- it is whole at the last place
    obtain ⟨k, hk⟩ := exists_zpow_eq hwh
    have hmul : (m : ℚ) * 10 ^ e * 10 ^ places = ((m * k : ℕ) : ℤ) := by
      rw [mul_assoc, ← zpow_add₀ (by norm_num), hk]
      push_cast
      rfl
    exact le_cutAt hmul.le (hmul.ge.trans (mul_le_mul_of_nonneg_right hle (ten_zpow_pos places).le))
  · -- it has a digit after the last place, so it is below the leading digit of `x`
    have hld : (m : ℚ) * 10 ^ e * 10 ^ places ≤ ((10 ^ (digits - 1) : ℕ) : ℤ) := by
      have hmle : (m : ℚ) ≤ 10 ^ (digits : ℤ) := by
        rw [zpow_natCast]
        exact_mod_cast hm.le
      calc (m : ℚ) * 10 ^ e * 10 ^ places = m * 10 ^ (e + places) := by
            rw [mul_assoc, ← zpow_add₀ (by norm_num)]
        _ ≤ 10 ^ (digits : ℤ) * 10 ^ (-1 : ℤ) := by
            refine mul_le_mul hmle (zpow_le_zpow_right₀ (by norm_num) (by omega))
              (ten_zpow_pos _).le (ten_zpow_pos _).le
        _ = ((10 ^ (digits - 1) : ℕ) : ℤ) := by
            rw [← zpow_add₀ (by norm_num)]
            push_cast
            rw [← zpow_natCast]
            congr 1
            omega
    refine le_cutAt hld ?_
    have hlog : (10 : ℚ) ^ log 10 x ≤ x := by
      exact_mod_cast zpow_log_le_self (by norm_num : 1 < 10) (hyp.trans_le hle)
    calc (((10 ^ (digits - 1) : ℕ) : ℤ) : ℚ) = 10 ^ log 10 x * 10 ^ places := by
          rw [← zpow_add₀ (by norm_num), hpl]
          push_cast
          rw [← zpow_natCast]
          congr 1
          omega
      _ ≤ x * 10 ^ places := mul_le_mul_of_nonneg_right hlog (ten_zpow_pos places).le

/-- **Cutting to digits gives the greatest number with so many digits that is not above.** -/
theorem le_truncDigits_iff (hy : HasDigits digits y) (hx : 0 ≤ x) :
    y ≤ truncDigits digits x ↔ y ≤ x :=
  ⟨fun h => h.trans (truncDigits_le hx), hy.le_truncDigits hx⟩

/-- What has so many digits is not cut. -/
theorem HasDigits.truncDigits_eq (hx : HasDigits digits x) (hnn : 0 ≤ x) :
    truncDigits digits x = x :=
  le_antisymm (truncDigits_le hnn) (hx.le_truncDigits hnn le_rfl)

/-- What is cut once is not cut again. -/
theorem truncDigits_truncDigits (x : ℚ) :
    truncDigits digits (truncDigits digits x) = truncDigits digits x := by
  have hcut : ∀ {y : ℚ}, 0 ≤ y → truncDigits digits (truncDigits digits y) = truncDigits digits y :=
    fun hy => (hasDigits_truncDigits hy).truncDigits_eq (truncDigits_nonneg hy)
  rcases le_or_gt 0 x with hx | hx
  · exact hcut hx
  · -- a negative number is cut as its absolute value
    have hneg : ∀ {y : ℚ}, 0 < y → truncDigits digits (-y) = -truncDigits digits y := by
      intro y hy
      rw [truncDigits, if_neg (by linarith), truncDigits_of_nonneg hy.le, neg_neg]
    obtain ⟨y, rfl⟩ : ∃ y, x = -y := ⟨-x, (neg_neg x).symm⟩
    have hy : 0 < y := neg_neg_iff_pos.1 hx
    rw [hneg hy]
    rcases (truncDigits_nonneg hy.le : 0 ≤ truncDigits digits y).eq_or_lt with hz | hpos
    · have hzr' := hcut hy.le
      rw [← hz] at hzr' ⊢
      rw [neg_zero]
      exact hzr'
    · rw [hneg hpos, hcut hy.le]

end digits

/-! ## Whole units -/

/-- A whole number of smallest units, not none, with so many digits. -/
def IsWhole (digits decimals : ℕ) (q : ℚ) : Prop :=
  HasDigits digits q ∧ ∃ n : ℕ, 0 < n ∧ q = n / 10 ^ decimals

section units

variable {digits decimals : ℕ} {x x' y : ℚ}

theorem IsWhole.pos (h : IsWhole digits decimals y) : 0 < y := by
  obtain ⟨-, n, hn, rfl⟩ := h
  positivity

theorem le_units_iff {n : ℕ} (hn : 0 < n) : n ≤ units decimals x ↔ (n : ℚ) / 10 ^ decimals ≤ x := by
  rw [units, Nat.le_floor_iff' (Nat.pos_iff_ne_zero.1 hn), div_le_iff₀ (by positivity)]

theorem units_mono (h : x' ≤ x) : units decimals x' ≤ units decimals x :=
  Nat.floor_le_floor (mul_le_mul_of_nonneg_right h (by positivity))

theorem units_div_le (hx : 0 ≤ x) : (units decimals x : ℚ) / 10 ^ decimals ≤ x := by
  rw [div_le_iff₀ (by positivity)]
  exact Nat.floor_le (mul_nonneg hx (by positivity))

/-- Cutting to units leaves no more digits. -/
theorem HasDigits.units_div (h : HasDigits digits x) :
    HasDigits digits ((units decimals x : ℚ) / 10 ^ decimals) := by
  obtain ⟨m, hm, e, rfl⟩ := h
  rcases le_or_gt 0 (e + decimals) with hwh | hsm
  · -- nothing is cut
    obtain ⟨k, hk⟩ := exists_zpow_eq hwh
    have hmul : (m : ℚ) * 10 ^ e * 10 ^ decimals = (m * k : ℕ) := by
      rw [mul_assoc, ← zpow_natCast, ← zpow_add₀ (by norm_num), hk, Nat.cast_mul]
    refine ⟨m, hm, e, ?_⟩
    rw [units, hmul, Nat.floor_natCast, ← hmul, mul_div_cancel_right₀ _ (by positivity)]
  · -- the units are a part of the digits
    refine ⟨units decimals (m * 10 ^ e), lt_of_le_of_lt ?_ hm, -decimals, ?_⟩
    · refine Nat.floor_le_of_le ?_
      rw [mul_assoc, ← zpow_natCast, ← zpow_add₀ (by norm_num)]
      refine mul_le_of_le_one_right (by positivity) ?_
      exact zpow_le_one_of_nonpos₀ (by norm_num) hsm.le
    · rw [zpow_neg, zpow_natCast, div_eq_mul_inv]

/-- A whole number of units stays whole when it is cut at any place. -/
theorem exists_cutAt_eq (places : ℤ) (n decimals : ℕ) :
    ∃ k : ℕ, cutAt places ((n : ℚ) / 10 ^ decimals) = k / 10 ^ decimals := by
  have hsh : ∀ e e' : ℤ, (10 : ℚ) ^ (e - e') = 10 ^ e / 10 ^ e' := zpow_sub₀ (by norm_num)
  rcases le_or_gt places decimals with hle | hgt
  · -- the last place is one of whole units
    obtain ⟨m, hm⟩ := exists_floor_eq places (show (0 : ℚ) ≤ (n : ℚ) / 10 ^ decimals by positivity)
    obtain ⟨k, hk⟩ := exists_zpow_eq (sub_nonneg.2 hle)
    rw [hsh, zpow_natCast] at hk
    refine ⟨m * k, ?_⟩
    rw [cutAt, hm, Nat.cast_mul, ← hk]
    field_simp
    push_cast
    rfl
  · -- nothing is cut
    obtain ⟨k, hk⟩ := exists_zpow_eq (sub_nonneg.2 hgt.le)
    rw [hsh, zpow_natCast] at hk
    refine ⟨n, cutAt_eq (?_ : _ = ((n * k : ℕ) : ℚ))⟩
    rw [Nat.cast_mul, ← hk, div_mul_eq_mul_div, mul_div_assoc]

/-- A whole number of units, cut to digits, is whole or nothing. -/
theorem isWhole_truncDigits {n : ℕ} (h : 0 < truncDigits digits ((n : ℚ) / 10 ^ decimals)) :
    IsWhole digits decimals (truncDigits digits ((n : ℚ) / 10 ^ decimals)) := by
  have hnn : (0 : ℚ) ≤ (n : ℚ) / 10 ^ decimals := by positivity
  refine ⟨hasDigits_truncDigits hnn, ?_⟩
  rw [truncDigits_of_nonneg hnn] at h ⊢
  obtain ⟨k, hk⟩ := exists_cutAt_eq (digits - 1 - log 10 ((n : ℚ) / 10 ^ decimals)) n decimals
  refine ⟨k, Nat.pos_of_ne_zero ?_, hk⟩
  rintro rfl
  rw [hk] at h
  simp at h

/-- **Two amounts come to different units exactly if a whole number of units with so many digits is
between them.** -/
theorem units_lt_iff (hx' : 0 ≤ x') (hx : 0 ≤ x) :
    units decimals (truncDigits digits x') < units decimals (truncDigits digits x) ↔
      ∃ y, IsWhole digits decimals y ∧ x' < y ∧ y ≤ x := by
  constructor
  · intro h
    -- the units of the greater one are such a number
    set n := units decimals (truncDigits digits x) with hn
    have hpos : 0 < n := lt_of_le_of_lt (Nat.zero_le _) h
    have hwh : IsWhole digits decimals ((n : ℚ) / 10 ^ decimals) :=
      ⟨(hasDigits_truncDigits hx).units_div, n, hpos, rfl⟩
    refine ⟨_, hwh, ?_, ?_⟩
    · by_contra hle
      have hle' := (le_truncDigits_iff hwh.1 hx').2 (not_lt.1 hle)
      exact absurd ((le_units_iff hpos).2 hle') (not_le.2 h)
    · exact (units_div_le (truncDigits_nonneg hx)).trans (truncDigits_le hx)
  · rintro ⟨y, hwh, hlt, hle⟩
    obtain ⟨-, n, hn, rfl⟩ := id hwh
    have hge : n ≤ units decimals (truncDigits digits x) :=
      (le_units_iff hn).2 ((le_truncDigits_iff hwh.1 hx).2 hle)
    refine lt_of_lt_of_le (not_le.1 fun hle' => ?_) hge
    exact absurd ((le_truncDigits_iff hwh.1 hx').1 ((le_units_iff hn).1 hle')) (not_le.2 hlt)

/-- For two amounts of which the first is not greater. -/
theorem units_eq_iff (hx' : 0 ≤ x') (hle : x' ≤ x) :
    units decimals (truncDigits digits x) = units decimals (truncDigits digits x') ↔
      ∀ y, IsWhole digits decimals y → x' < y → ¬ y ≤ x := by
  have hmn : units decimals (truncDigits digits x') ≤ units decimals (truncDigits digits x) := by
    refine units_mono ((le_truncDigits_iff (hasDigits_truncDigits hx') (hx'.trans hle)).2 ?_)
    exact (truncDigits_le hx').trans hle
  have hiff : units decimals (truncDigits digits x') < units decimals (truncDigits digits x) ↔ _ :=
    units_lt_iff hx' (hx'.trans hle)
  constructor
  · intro heq y hwh hlt hle'
    exact absurd (hiff.2 ⟨y, hwh, hlt, hle'⟩) (heq ▸ lt_irrefl _)
  · intro hno
    refine le_antisymm (not_lt.1 fun hlt => ?_) hmn
    obtain ⟨y, hwh, hlt', hle'⟩ := hiff.1 hlt
    exact hno y hwh hlt' hle'

/-- For two amounts of which both a share is taken. -/
theorem units_mul_eq_iff {c : ℚ} (hc : 0 ≤ c) (hx' : 0 ≤ x') (hle : x' ≤ x) :
    units decimals (truncDigits digits (x * c)) = units decimals (truncDigits digits (x' * c)) ↔
      ∀ y, IsWhole digits decimals (y * c) → x' < y → ¬ y ≤ x := by
  rw [units_eq_iff (mul_nonneg hx' hc) (mul_le_mul_of_nonneg_right hle hc)]
  constructor
  · intro h y hwh hlt hle'
    have hcp : 0 < c := (pos_iff_pos_of_mul_pos hwh.pos).1 (hx'.trans_lt hlt)
    exact h _ hwh (mul_lt_mul_of_pos_right hlt hcp) (mul_le_mul_of_nonneg_right hle' hc)
  · intro h y hwh hlt hle'
    have hcp : 0 < c := by
      refine lt_of_le_of_ne hc fun hz => ?_
      rw [← hz, mul_zero] at hle'
      exact absurd hwh.pos (not_lt.2 hle')
    refine h (y / c) ?_ ((lt_div_iff₀ hcp).2 hlt) ((div_le_iff₀ hcp).2 hle')
    rwa [div_mul_cancel₀ y hcp.ne']

end units

end CheetahDex.Lib
