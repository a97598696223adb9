import CheetahDex.Ordermatch.Vwap
import Mathlib.Tactic.Linarith

/-!
# The price floor is an average

Among past swaps with positive amounts nothing is divided by zero: the sums of a direction stay a
weighted mean of its rates, and so do the averages of both.
-/

namespace CheetahDex.Ordermatch

open List Option

/-- The amounts of a swap that has finished successfully. -/
def SavedSwap.taken (kind : VwapSide) (swap : SavedSwap) : Option (MmNumber × MmNumber) :=
  if swap.isFinishedAndSuccess then swap.getMyInfo.map (·.amounts kind) else none

/-- The rates of the swaps that have finished successfully. -/
def rates (kind : VwapSide) (swaps : List SavedSwap) : List MmNumber :=
  (swaps.filterMap (·.taken kind)).map fun amounts => amounts.1 / amounts.2

def SavedSwap.Positive (swap : SavedSwap) : Prop :=
  ∀ x, swap.getMyInfo = some x → 0 < x.myAmount ∧ 0 < x.otherAmount

/-- The price is the calculated one if there are no rates, and at most whatever bounds that one and
the rates. -/
def Averages (calculatedPrice : MmNumber) (rates : List MmNumber) (price : MmNumber) : Prop :=
  (rates = [] → price = calculatedPrice) ∧
    ∀ bound, calculatedPrice ≤ bound → (∀ r ∈ rates, r ≤ bound) → price ≤ bound

variable {k : VwapSide} {swaps : List SavedSwap} {calculatedPrice : MmNumber}

theorem vwapSwap_eq {swap : SavedSwap} (h : swap.Positive) (t : VwapTotals) :
    swap.taken k = none ∧ vwapSwap k t swap = some t ∨
    ∃ a b, swap.taken k = some (a, b) ∧ 0 < a ∧ 0 < b ∧
      vwapSwap k t swap = some ⟨t.sumPriceVolume + a, t.vol + b⟩ := by
  obtain ⟨_ | _, _ | x⟩ := swap
  · exact .inl ⟨rfl, rfl⟩
  · exact .inl ⟨rfl, rfl⟩
  · exact .inl ⟨rfl, rfl⟩
  · obtain ⟨hmy, hoth⟩ := h x rfl
    have hsum {a b : MmNumber} (hb : 0 < b) :
        sumVwap a b t = some ⟨t.sumPriceVolume + a, t.vol + b⟩ := by
      simp [sumVwap, divided, hb.ne']
    cases k with
    | base => exact .inr ⟨_, _, rfl, hmy, hoth, hsum hoth⟩
    | rel => exact .inr ⟨_, _, rfl, hoth, hmy, hsum hmy⟩

/-- The sums stay a weighted mean of the rates. -/
theorem foldlM_vwapSwap (hpos : ∀ swap ∈ swaps, swap.Positive) {t : VwapTotals}
    (ht : 0 ≤ t.sumPriceVolume ∧ 0 ≤ t.vol) : ∃ t', swaps.foldlM (vwapSwap k) t = some t' ∧
      (t' = t ∨ 0 < t'.vol) ∧ (rates k swaps = [] → t' = t) ∧
      ∀ bound, (∀ r ∈ rates k swaps, r ≤ bound) →
        t.sumPriceVolume ≤ bound * t.vol → t'.sumPriceVolume ≤ bound * t'.vol := by
  induction swaps generalizing t with
  | nil => exact ⟨t, rfl, .inl rfl, fun _ => rfl, fun _ _ h => h⟩
  | cons swap swaps ih =>
    obtain ⟨hsw, hre⟩ := forall_mem_cons.mp hpos
    rw [foldlM_cons]
    rcases vwapSwap_eq hsw t with ⟨htk, heq⟩ | ⟨a, b, htk, ha, hb, heq⟩
    · rw [heq, rates, filterMap_cons_none htk]
      exact ih hre ht
    · rw [heq, rates, filterMap_cons_some htk, map_cons]
      have hvol : 0 < t.vol + b := add_pos_of_nonneg_of_pos ht.2 hb
      obtain ⟨t', hfl, hgd, -, hbd⟩ := ih hre (t := ⟨t.sumPriceVolume + a, t.vol + b⟩)
        ⟨add_nonneg ht.1 ha.le, hvol.le⟩
      refine ⟨t', hfl, .inr ?_, by simp, fun bound hle h => ?_⟩
      · rcases hgd with rfl | hgd
        · exact hvol
        · exact hgd
      · obtain ⟨hfst, hle⟩ := forall_mem_cons.mp hle
        refine hbd bound hle ?_
        rw [mul_add]
        exact add_le_add h ((div_le_iff₀ hb).mp hfst)

theorem averages_self (rates : List MmNumber) : Averages calculatedPrice rates calculatedPrice :=
  ⟨fun _ => rfl, fun _ h _ => h⟩

theorem vwapCalculation_averages (hpos : ∀ swap ∈ swaps, swap.Positive)
    (calculatedPrice : MmNumber) :
    ∃ v, vwapCalculation k swaps calculatedPrice = some v ∧
      Averages calculatedPrice (rates k swaps) v := by
  obtain ⟨t, hfl, hgd, hn, hbd⟩ := foldlM_vwapSwap (k := k) hpos (t := ⟨0, 0⟩) ⟨le_rfl, le_rfl⟩
  simp only [vwapCalculation, hfl, bind_eq_bind, bind_some]
  by_cases hz : t.sumPriceVolume = 0
  · rw [if_pos hz]
    exact ⟨_, rfl, averages_self _⟩
  · have hvol : 0 < t.vol := hgd.resolve_left fun h => hz (h ▸ rfl)
    rw [if_neg hz, divided, if_neg hvol.ne']
    refine ⟨_, rfl, fun h => absurd (hn h ▸ rfl) hz, fun bound _ hle => ?_⟩
    exact (div_le_iff₀ hvol).mpr (hbd bound hle (by simp))

/-- **The price floor is sound**: nothing is divided by zero, and the price is not below the
calculated one. -/
theorem vwap_sound (baseSwaps relSwaps : List SavedSwap) (calculatedPrice : MmNumber)
    (hpos : ∀ swap ∈ baseSwaps ++ relSwaps, swap.Positive) :
    ∃ price, vwap baseSwaps relSwaps calculatedPrice = some price ∧ calculatedPrice ≤ price ∧
      Averages calculatedPrice (rates .rel baseSwaps ++ rates .base relSwaps) price := by
  obtain ⟨hbs, hrel⟩ := forall_mem_append.mp hpos
  obtain ⟨v, hv, hvn, hvle⟩ := vwapCalculation_averages hbs calculatedPrice (k := .rel)
  obtain ⟨w, hw, hwn, hwle⟩ := vwapCalculation_averages hrel calculatedPrice (k := .base)
  unfold vwap
  split_ifs with hemp
  · exact ⟨_, rfl, le_rfl, averages_self _⟩
  have hdv : (0 : MmNumber) <
      (if baseSwaps.isEmpty then 0 else 1) + if relSwaps.isEmpty then 0 else 1 := by
    split_ifs with hb hr
    · rw [List.isEmpty_iff] at hb hr
      simp [hb, hr] at hemp
    all_goals norm_num
  -- a direction without swaps does not count, and its average is the calculated price
  have hmn : Averages calculatedPrice (rates .rel baseSwaps ++ rates .base relSwaps)
      (((if baseSwaps.isEmpty then 0 else v) + if relSwaps.isEmpty then 0 else w) /
        ((if baseSwaps.isEmpty then 0 else 1) + if relSwaps.isEmpty then 0 else 1)) := by
    refine ⟨fun h => (div_eq_iff hdv.ne').mpr ?_, fun bound hc hle => (div_le_iff₀ hdv).mpr ?_⟩
    · obtain ⟨hb, hr⟩ := append_eq_nil_iff.mp h
      rw [hvn hb, hwn hr]
      split_ifs <;> linarith
    · obtain ⟨hb, hr⟩ := forall_mem_append.mp hle
      have hvb := hvle bound hc hb
      have hwb := hwle bound hc hr
      split_ifs <;> linarith
  simp only [vwapLogic, hv, hw, divided, if_neg hdv.ne', bind_eq_bind, bind_some]
  generalize (_ + _ : MmNumber) / _ = mean at hmn ⊢
  by_cases heq : v = calculatedPrice ∧ w = calculatedPrice
  · rw [if_pos heq]
    exact ⟨_, rfl, le_rfl, averages_self _⟩
  · rw [if_neg heq]
    refine ⟨_, rfl, ?_⟩
    split_ifs with hgt
    · exact ⟨hgt.le, hmn⟩
    · exact ⟨le_rfl, averages_self _⟩

/-- A swap in each direction, at the rates three and four. -/
theorem vwap_sound_bothSides : ∃ price,
    vwap [⟨true, some ⟨1, 3⟩⟩] [⟨true, some ⟨4, 1⟩⟩] 2 = some price ∧ 2 ≤ price ∧ price ≤ 4 := by
  obtain ⟨price, hpr, hle, -, hbd⟩ := vwap_sound [⟨true, some ⟨1, 3⟩⟩] [⟨true, some ⟨4, 1⟩⟩] 2
    (by simp [SavedSwap.Positive])
  refine ⟨price, hpr, hle, hbd 4 (by norm_num) ?_⟩
  have hrt : rates .rel [⟨true, some ⟨1, 3⟩⟩] ++ rates .base [⟨true, some ⟨4, 1⟩⟩] = [3, 4] := by
    simp [rates, SavedSwap.taken, MySwapInfo.amounts]
  norm_num [hrt]

end CheetahDex.Ordermatch
