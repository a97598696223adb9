import CheetahDex.Chain.Target
import Mathlib.Data.Nat.Bitwise
import Mathlib.Order.Bounds.Defs

/-!
# Compact targets

A compact target has the three leading bytes of the value, or two where the first of them would be
read as a sign. So it is decoded to the value rounded down to a multiple of a power of 256, and no
other compact target is between the two.
-/

namespace CheetahDex.Chain.Compact

theorem and_sign (n : ℕ) : n &&& 0x00800000 = 0 ↔ n / 2 ^ 23 % 2 = 0 := by
  rw [show 0x00800000 = 2 ^ 23 from rfl, Nat.and_two_pow, Nat.toNat_testBit]
  simp

theorem mul_pow_div_of_le {a b : ℕ} (h : b ≤ a) (x : ℕ) :
    x * 256 ^ a / 256 ^ b = x * 256 ^ (a - b) := by
  obtain ⟨d, rfl⟩ := Nat.exists_eq_add_of_le' h
  rw [Nat.add_sub_cancel, Nat.pow_add, ← Nat.mul_assoc,
    Nat.mul_div_cancel _ (Nat.pow_pos (by omega))]

theorem mul_pow_div_of_ge {a b : ℕ} (h : a ≤ b) (x : ℕ) :
    x * 256 ^ a / 256 ^ b = x / 256 ^ (b - a) := by
  obtain ⟨d, rfl⟩ := Nat.exists_eq_add_of_le' h
  rw [Nat.add_sub_cancel, Nat.pow_add, Nat.mul_div_mul_right _ _ (Nat.pow_pos (by omega))]

/-- What a mantissa and an exponent that fit are decoded to. -/
theorem toU256_pack {m e : ℕ} (hm : m < 2 ^ 23) (he : e < 34) (h33 : e = 33 → m < 2 ^ 16)
    (hfit : m * 256 ^ e / 256 ^ 3 < 2 ^ 256) :
    (Compact.mk (.ofNat (m ||| e <<< 24))).toU256 = .ok (m * 256 ^ e / 256 ^ 3) := by
  have hn : (UInt32.ofNat (m ||| e <<< 24)).toNat = e * 2 ^ 24 + m := by
    rw [Nat.or_comm, ← Nat.shiftLeft_add_eq_or_of_lt (by omega), Nat.shiftLeft_eq,
      UInt32.toNat_ofNat_of_lt']
    change _ < 2 ^ 32
    omega
  generalize UInt32.ofNat (m ||| e <<< 24) = n at hn
  have hexp : (n >>> 24).toNat = e := by
    rw [UInt32.toNat_shiftRight, hn, Nat.shiftRight_eq_div_pow]
    change (e * 2 ^ 24 + m) / 2 ^ 24 = e
    omega
  have hman : (n &&& 0x007fffff).toNat = m := by
    rw [UInt32.toNat_and, hn]
    change (e * 2 ^ 24 + m) &&& (2 ^ 23 - 1) = m
    rw [Nat.and_two_pow_sub_one_eq_mod]
    omega
  have hpos : n &&& 0x00800000 = 0 := by
    rw [← UInt32.toNat_inj, UInt32.toNat_and, hn]
    exact (and_sign _).mpr (by omega)
  simp only [toU256, hexp, hman, hpos, ne_eq, not_true_eq_false, and_false, false_or]
  by_cases h3 : e ≤ 3
  · simp only [if_pos h3]
    rw [if_neg (by omega), Nat.shiftRight_eq_div_pow, Nat.pow_mul, mul_pow_div_of_ge h3]
  · simp only [if_neg h3]
    rw [mul_pow_div_of_le (by omega)] at hfit ⊢
    rw [if_neg (by omega), Nat.shiftLeft_eq, Nat.pow_mul, Nat.mod_eq_of_lt hfit]

/-- A target is a mantissa of 23 bits in some unit. -/
theorem toU256_shape {c : Compact} {t : ℕ} (h : c.toU256 = .ok t) :
    ∃ m < 2 ^ 23, ∃ k, t = m * 256 ^ k := by
  have hp : (c.value &&& 0x007fffff).toNat < 2 ^ 23 := by
    rw [UInt32.toNat_and]
    exact Nat.and_lt_two_pow _ (by decide)
  unfold toU256 at h
  extract_lets e p m t' at h
  split_ifs at h
  rw [← Except.ok.inj h]
  have hm : m < 2 ^ 23 := by
    unfold m
    split_ifs
    · exact (Nat.shiftRight_le _ _).trans_lt hp
    · exact hp
  unfold t'
  split_ifs
  · exact ⟨m, hm, 0, (Nat.mul_one m).symm⟩
  · rw [Nat.shiftLeft_eq, Nat.pow_mul]
    obtain hle | hlt := Nat.le_total (e - 3) 32
    · refine ⟨m % 256 ^ (32 - (e - 3)), (Nat.mod_le _ _).trans_lt hm, e - 3, ?_⟩
      rw [← Nat.mul_mod_mul_right, ← Nat.pow_add, Nat.sub_add_cancel hle]
      rfl
    · refine ⟨0, by decide, 0, Nat.mod_eq_zero_of_dvd (Nat.dvd_mul_left_of_dvd ?_ m)⟩
      exact Nat.pow_dvd_pow 256 hlt

/-- The leading bytes of a value, with the exponent they belong to. -/
theorem toU256_leading {v e : ℕ} (hv : v < 2 ^ 256) (he : e < 34)
    (hlt : v * 256 ^ 3 < 2 ^ 23 * 256 ^ e) :
    (Compact.mk (.ofNat (v * 256 ^ 3 / 256 ^ e ||| e <<< 24))).toU256 =
      .ok (v / 256 ^ (e - 3) * 256 ^ (e - 3)) := by
  have heq : v * 256 ^ 3 / 256 ^ e * 256 ^ e / 256 ^ 3 = v / 256 ^ (e - 3) * 256 ^ (e - 3) := by
    obtain h3 | h3 := Nat.le_total e 3
    · rw [mul_pow_div_of_le h3, Nat.mul_assoc, ← Nat.pow_add, Nat.sub_add_cancel h3,
        Nat.sub_eq_zero_of_le h3, Nat.mul_div_cancel _ (by decide), Nat.pow_zero, Nat.div_one,
        Nat.mul_one]
    · rw [mul_pow_div_of_ge h3, mul_pow_div_of_le h3]
  rw [← heq]
  refine toU256_pack ((Nat.div_lt_iff_lt_mul (Nat.pow_pos (by decide))).mpr hlt) he ?_ ?_
  · rintro rfl
    omega
  · rw [heq]
    exact (Nat.div_mul_le_self _ _).trans_lt hv

/-- A value is rounded to a multiple of a unit in which it has at least 15 bits. -/
theorem toU256_fromU256 {v : ℕ} (hv : v < 2 ^ 256) : ∃ k,
    (0 < k → 2 ^ 15 * 256 ^ k ≤ v) ∧ (fromU256 v).toU256 = .ok (v / 256 ^ k * 256 ^ k) := by
  obtain ⟨s, hs⟩ : ∃ s, s = (v.size + 7) / 8 := ⟨_, rfl⟩
  have hs32 : s ≤ 32 := by
    have := Nat.size_le.mpr hv
    omega
  have hlt : v < 256 ^ s := by
    rw [show 256 = 2 ^ 8 from rfl, ← Nat.pow_mul, ← Nat.size_le]
    omega
  have hmn : (if s ≤ 3 then v <<< (8 * (3 - s)) else v >>> (8 * (s - 3))) =
      v * 256 ^ 3 / 256 ^ s := by
    split_ifs with h3
    · rw [mul_pow_div_of_le h3, Nat.shiftLeft_eq, Nat.pow_mul]
    · rw [mul_pow_div_of_ge (by omega), Nat.shiftRight_eq_div_pow, Nat.pow_mul]
  have hdiv (b) := Nat.div_lt_iff_lt_mul (x := v * 256 ^ 3) (y := b)
    (Nat.pow_pos (by decide) : 0 < 256 ^ s)
  have hfit := (hdiv (2 ^ 24)).mpr (by omega)
  have hclr := hdiv (2 ^ 23)
  have hmod : v * 256 ^ 3 / 256 ^ s % 2 ^ 32 = v * 256 ^ 3 / 256 ^ s := Nat.mod_eq_of_lt (by omega)
  simp only [fromU256, ← hs, hmn, hmod, and_sign, ne_eq, ite_not]
  split_ifs with hsg
  · refine ⟨s - 3, fun h3 => ?_, toU256_leading hv (by omega) (hclr.mp (by omega))⟩
    obtain ⟨k, rfl⟩ : ∃ k, s = k + 3 := ⟨s - 3, by omega⟩
    have hsz : 2 ^ (8 * (k + 2)) ≤ v := Nat.lt_size.mp (by omega)
    rw [Nat.pow_mul, show 2 ^ 8 = 256 from rfl, Nat.pow_add] at hsz
    rw [Nat.add_sub_cancel]
    omega
  · have hset := hclr.not.mp fun hlt => hsg (by rw [Nat.div_eq_of_lt hlt])
    refine ⟨s + 1 - 3, fun h3 => ?_, ?_⟩
    · obtain ⟨k, rfl⟩ : ∃ k, s = k + 2 := ⟨s - 2, by omega⟩
      rw [Nat.pow_add] at hset
      rw [Nat.add_sub_cancel (m := 3)]
      omega
    · rw [Nat.shiftRight_eq_div_pow, Nat.div_div_eq_div_mul, ← Nat.pow_succ 256 s]
      exact toU256_leading hv (by omega) (by omega)

/-- **A target is encoded as the greatest one with an encoding that does not exceed it.** -/
theorem fromU256_rounds_down (v : ℕ) (hv : v < 2 ^ 256) :
    ∃ t, (fromU256 v).toU256 = .ok t ∧
      IsGreatest {t | t ≤ v ∧ ∃ c : Compact, c.toU256 = .ok t} t ∧
      ∀ c : Compact, c.toU256 = .ok v → t = v := by
  obtain ⟨k, hk, heq⟩ := toU256_fromU256 hv
  have hle : v / 256 ^ k * 256 ^ k ≤ v := Nat.div_mul_le_self _ _
  have greatest : ∀ c : Compact, ∀ t ≤ v, c.toU256 = .ok t → t ≤ v / 256 ^ k * 256 ^ k := by
    intro c t ht hc
    obtain ⟨m, hm, j, rfl⟩ := toU256_shape hc
    by_cases hj : k ≤ j
    · -- a multiple of the unit that `v` is rounded to
      rw [← Nat.div_mul_cancel (Nat.dvd_mul_left_of_dvd (Nat.pow_dvd_pow 256 hj) m)]
      exact Nat.mul_le_mul_right _ (Nat.div_le_div_right ht)
    · -- in a smaller unit all mantissas end below what `v` has in its own
      obtain ⟨d, rfl⟩ : ∃ d, k = j + d + 1 := ⟨k - j - 1, by omega⟩
      have hun := (Nat.le_div_iff_mul_le (Nat.pow_pos (by decide))).mpr (hk (by omega))
      calc m * 256 ^ j ≤ 2 ^ 23 * 256 ^ (j + d) :=
            Nat.mul_le_mul hm.le (Nat.pow_le_pow_right (by decide) (by omega))
        _ = 2 ^ 15 * 256 ^ (j + d + 1) := by omega
        _ ≤ _ := Nat.mul_le_mul_right _ hun
  exact ⟨_, heq, ⟨⟨hle, _, heq⟩, fun t ⟨ht, c, hc⟩ => greatest c t ht hc⟩,
    fun c hc => hle.antisymm (greatest c v le_rfl hc)⟩

/-- A value whose first byte would be taken for a sign. -/
theorem fromU256_rounds_down_sign : ∃ t, (fromU256 0x8000123456).toU256 = .ok t ∧
    IsGreatest {t | t ≤ 0x8000123456 ∧ ∃ c : Compact, c.toU256 = .ok t} t ∧
    ∀ c : Compact, c.toU256 = .ok 0x8000123456 → t = 0x8000123456 :=
  fromU256_rounds_down _ (by decide)

end CheetahDex.Chain.Compact
