import CheetahDex.Swap.PubkeyBanning

/-!
# How long bans last

Each ban that was made and not lifted is recorded with the second in which it is to end. The map
says the same from every call on, if no ban is replaced by one that ends earlier.
-/

namespace CheetahDex.Swap

open Lib Ordermatch Option

inductive BanCall where
  | failedSwap (pubkey : Hash 32) (swapUuid : Uuid) (event : MakerSwapEvent ⊕ TakerSwapEvent)
  | ban (req : BanPubkeysReq)
  | unban (req : UnbanPubkeysReq)
  | query (pubkey : Hash 32)
  | list

/-- The map, the time of the last call, and the bans that were made and not lifted, each with the
second in which it is to end. -/
structure BanHistory where
  banned : BannedPubkeys
  nowMs : UInt64
  bans : List (Hash 32 × Option ℕ)

namespace BanHistory

def start : BanHistory := ⟨∅, 0, []⟩

variable (h : BanHistory)

def step : UInt64 × BanCall → BanHistory
  | (nowMs, .failedSwap pubkey swapUuid event) =>
    ⟨banPubkeyOnFailedSwap nowMs h.banned pubkey swapUuid event, nowMs,
      (pubkey, some (nowMs.toNat / 1000 + 3600)) :: h.bans⟩
  | (nowMs, .ban req) =>
    ⟨(banPubkeyRpc nowMs h.banned req).2, nowMs,
      match (banPubkeyRpc nowMs h.banned req).1 with
      | .ok () => (req.pubkey, req.durationMin.map (nowMs.toNat / 1000 + ·.toNat * 60)) :: h.bans
      | .error _ => h.bans⟩
  | (nowMs, .unban req) =>
    ⟨(unbanPubkeysRpc nowMs h.banned req).2, nowMs,
      match req with
      | .all => []
      | .few pubkeys => h.bans.filter (·.1 ∉ pubkeys)⟩
  | (nowMs, .query pubkey) => ⟨(isPubkeyBanned nowMs h.banned pubkey).2, nowMs, h.bans⟩
  | (nowMs, .list) => ⟨(listBannedPubkeysRpc nowMs h.banned).2, nowMs, h.bans⟩

/-- There is a ban that lasts beyond a second. -/
def InForce (bans : List (Hash 32 × Option ℕ)) (pubkey : Hash 32) (t : ℕ) : Prop :=
  ∃ expiry, (pubkey, expiry) ∈ bans ∧ ∀ second ∈ expiry, t < second

/-- From the last call on, who is reported as banned is who has a ban that has not ended. -/
def Reported : Prop :=
  ∀ nowMs ≥ h.nowMs, ∀ pubkey,
    (isPubkeyBanned nowMs h.banned pubkey).1 = true ↔ InForce h.bans pubkey (nowMs.toNat / 1000)

/-- Time passes, the ban that a failed swap replaces does not last longer than an hour, and the end
of a ban by hand is a number of seconds. -/
def Lasting : UInt64 × BanCall → Bool
  | (nowMs, .failedSwap pubkey _ _) => h.nowMs ≤ nowMs ∧
    (h.banned.lookup pubkey).all fun entry =>
      entry.expiresAt.any (·.toNat ≤ nowMs.toNat / 1000 + 3600)
  | (nowMs, .ban req) => h.nowMs ≤ nowMs ∧ (req.pubkey ∈ purgeExpired nowMs h.banned ∨
    req.durationMin.all (nowMs.toNat / 1000 + ·.toNat * 60 < 2 ^ 64))
  | (nowMs, _) => h.nowMs ≤ nowMs

/-! ## What the map has to say -/

variable {h : BanHistory} {banned : BannedPubkeys} {nowMs : UInt64} {pubkey : Hash 32} {t : ℕ}

/-- The place of a pubkey has a ban that lasts beyond a second. -/
def Banned (banned : BannedPubkeys) (pubkey : Hash 32) (t : ℕ) : Prop :=
  ∃ entry, banned.lookup pubkey = some entry ∧ ∀ expiresAt ∈ entry.expiresAt, t < expiresAt.toNat

theorem mem_purgeExpired_iff :
    pubkey ∈ purgeExpired nowMs banned ↔ Banned banned pubkey (nowMs.toNat / 1000) := by
  rw [Finmap.mem_iff]
  simp only [purgeExpired, HashMap.lookup_retain, filter_eq_some_iff, all_eq_true,
    decide_eq_true_eq, gt_iff_lt, UInt64.lt_iff_toNat_lt, UInt64.toNat_div]
  rfl

/-- What has expired does not last beyond a later second. -/
theorem banned_purgeExpired (ht : nowMs.toNat / 1000 ≤ t) :
    Banned (purgeExpired nowMs banned) pubkey t ↔ Banned banned pubkey t := by
  refine exists_congr fun entry => and_congr_left fun hls => ?_
  rw [purgeExpired, HashMap.lookup_retain, filter_eq_some_iff, and_iff_left]
  rw [all_eq_true]
  intro expiresAt hexpires
  rw [decide_eq_true_eq, gt_iff_lt, UInt64.lt_iff_toNat_lt, UInt64.toNat_div]
  exact ht.trans_lt (hls expiresAt hexpires)

variable {p : Hash 32}

theorem banned_insert {entry : BannedPubkey} :
    Banned (banned.insert p entry) pubkey t ↔
      if pubkey = p then ∀ expiresAt ∈ entry.expiresAt, t < expiresAt.toNat
      else Banned banned pubkey t := by
  unfold Banned
  rw [HashMap.lookup_insert_ite]
  split
  · simp
  · rfl

theorem lookup_unbanFew (found : BannedPubkeys × BannedPubkeys × List (Hash 32))
    (pubkeys : List (Hash 32)) : (unbanFew found pubkeys).1.lookup pubkey =
      if pubkey ∈ pubkeys then none else found.1.lookup pubkey := by
  induction pubkeys generalizing found with
  | nil => rfl
  | cons p pubkeys ih =>
    obtain ⟨banned, unbanned, wereNotBanned⟩ := found
    rw [unbanFew]
    split
    · rw [ih, HashMap.lookup_erase_ite]
      by_cases hp : pubkey = p
      · simp [hp]
      · simp [hp]
    · rename_i hn
      rw [ih]
      by_cases hp : pubkey = p
      · subst hp
        simp [hn]
      · simp [hp]

/-- The places have a ban that lasts exactly where there is one, from the last call on. -/
def Kept (h : BanHistory) : Prop :=
  ∀ t, h.nowMs.toNat / 1000 ≤ t → ∀ pubkey, Banned h.banned pubkey t ↔ InForce h.bans pubkey t

section

variable (hkp : Kept h)

include hkp

theorem Kept.later (hle : h.nowMs ≤ nowMs) : Kept ⟨h.banned, nowMs, h.bans⟩ := by
  intro t ht
  exact hkp t ((Nat.div_le_div_right (UInt64.le_iff_toNat_le.mp hle)).trans ht)

theorem Kept.purge (hle : h.nowMs ≤ nowMs) : Kept ⟨purgeExpired nowMs h.banned, nowMs, h.bans⟩ :=
  fun t ht pubkey => (banned_purgeExpired ht).trans (hkp.later hle t ht pubkey)

/-- A ban that takes the place of one that lasts no longer. -/
theorem Kept.insert {entry : BannedPubkey} {expiry : Option ℕ}
    (hexpiry : entry.expiresAt.map UInt64.toNat = expiry)
    (hpl : ∀ t, Banned h.banned p t → ∀ second ∈ expiry, t < second) :
    Kept ⟨h.banned.insert p entry, h.nowMs, (p, expiry) :: h.bans⟩ := by
  intro t ht pubkey
  have hnew : (∀ expiresAt ∈ entry.expiresAt, t < expiresAt.toNat) ↔
      ∀ second ∈ expiry, t < second := by
    rw [← hexpiry]
    simp
  have hba : InForce ((p, expiry) :: h.bans) pubkey t ↔
      (pubkey = p ∧ ∀ second ∈ expiry, t < second) ∨ InForce h.bans pubkey t := by
    simp [InForce, or_and_right, exists_or, and_assoc]
  rw [banned_insert, hnew, hba, ← hkp t ht]
  split
  · rename_i hp
    subst hp
    simpa using hpl t
  · rename_i hp
    simp [hp]

theorem Kept.failedSwap (swapUuid : Uuid)
    (event : MakerSwapEvent ⊕ TakerSwapEvent)
    (hpl : ∀ entry, h.banned.lookup p = some entry →
      ∃ expiresAt ∈ entry.expiresAt, expiresAt.toNat ≤ h.nowMs.toNat / 1000 + 3600) :
    Kept (h.step (h.nowMs, .failedSwap p swapUuid event)) := by
  refine hkp.insert ?_ ?_
  · have hlt := h.nowMs.toNat_lt
    have hft : h.nowMs.toNat / 1000 + 3600 < 2 ^ 64 := by omega
    rw [map_some, failedSwapBanSecs, UInt64.toNat_add, UInt64.toNat_div]
    exact congrArg some (Nat.mod_eq_of_lt hft)
  · rintro t ⟨entry, hlk, hls⟩ second ⟨⟩
    obtain ⟨expiresAt, hexpires, hle⟩ := hpl entry hlk
    exact (hls expiresAt hexpires).trans_le hle

theorem Kept.ban {req : BanPubkeysReq}
    (hft : req.pubkey ∈ purgeExpired h.nowMs h.banned ∨
      ∀ minutes ∈ req.durationMin, h.nowMs.toNat / 1000 + minutes.toNat * 60 < 2 ^ 64) :
    Kept (h.step (h.nowMs, .ban req)) := by
  have hpr := hkp.purge (UInt64.le_refl _)
  simp only [BanHistory.step, banPubkeyRpc]
  by_cases hmem : req.pubkey ∈ purgeExpired h.nowMs h.banned
  · simpa only [if_pos hmem] using hpr
  · simp only [if_neg hmem]
    refine hpr.insert ?_ ?_
    · rw [map_map]
      refine map_congr fun minutes hmn => ?_
      have hlt := hft.resolve_left hmem minutes hmn
      change (h.nowMs / 1000 + minutes * 60).toNat = _
      rw [UInt64.toNat_add, UInt64.toNat_div, UInt64.toNat_mul, Nat.add_mod_mod]
      exact Nat.mod_eq_of_lt hlt
    · rintro t ⟨entry, hlk, -⟩
      exact absurd (Finmap.mem_iff.mpr ⟨entry, hlk⟩) hmem

theorem Kept.unban (req : UnbanPubkeysReq) : Kept (h.step (h.nowMs, .unban req)) := by
  intro t ht pubkey
  cases req with
  | all => simp [BanHistory.step, unbanPubkeysRpc, Banned, InForce]
  | few pubkeys =>
    have hkp := hkp.purge (UInt64.le_refl _) t ht pubkey
    simp only [BanHistory.step, unbanPubkeysRpc, Banned, InForce, lookup_unbanFew, List.mem_filter,
      decide_eq_true_eq]
    by_cases hmem : pubkey ∈ pubkeys
    · simp [hmem]
    · simpa [hmem, Banned, InForce] using hkp

/-- Every lasting call keeps the places in step with the bans in force. -/
theorem Kept.step {e : UInt64 × BanCall} (hlasting : Lasting h e) : Kept (h.step e) := by
  obtain ⟨nowMs, call⟩ := e
  cases call with
  | failedSwap p swapUuid event =>
    obtain ⟨hle, hpl⟩ := of_decide_eq_true hlasting
    refine (hkp.later hle).failedSwap swapUuid event fun entry hlk => ?_
    simpa [hlk, any_eq_true] using hpl
  | ban req =>
    obtain ⟨hle, hft⟩ := of_decide_eq_true hlasting
    exact (hkp.later hle).ban (hft.imp_right fun hall => by simpa [all_eq_true] using hall)
  | unban req => exact (hkp.later (of_decide_eq_true hlasting)).unban req
  | query p => exact hkp.purge (of_decide_eq_true hlasting)
  | list => exact hkp.purge (of_decide_eq_true hlasting)

theorem Kept.reported : Reported h := by
  intro nowMs hle pubkey
  simp only [isPubkeyBanned, decide_eq_true_eq, mem_purgeExpired_iff]
  exact hkp.later hle _ le_rfl pubkey

end

/-- **Bans last as stated in every run in which none that is to last longer is replaced.** -/
theorem reported_of_lasting (calls : List (UInt64 × BanCall))
    (hlasting : Guarded step (fun h e => Lasting h e) start calls) :
    Always step Reported start calls := by
  have hsta : Kept start := by simp [Kept, start, Banned, InForce]
  exact (Always.of_guarded (fun _ _ hkp hok => hkp.step hok) hsta hlasting).mono
    fun _ hkp => hkp.reported

/-- Somebody who is banned for good, and fails a swap at the second `1`. -/
def bannedForGood (pubkey : Hash 32) : List (UInt64 × BanCall) :=
  [(0, .ban ⟨pubkey, "", none⟩), (1000, .failedSwap pubkey 0 (.inl .finished))]

set_option maxRecDepth 8000 in
/-- It is no longer banned after the hour. -/
theorem bannedForGood_ends :
    let h := (bannedForGood (.replicate 32 7)).foldl step start
    (.replicate 32 7, none) ∈ h.bans ∧ h.nowMs ≤ 3601000 ∧
      (isPubkeyBanned 3601000 h.banned (.replicate 32 7)).1 = false ∧
      ¬ Always step Reported start (bannedForGood (.replicate 32 7)) := by
  refine ⟨by decide +kernel, by decide +kernel, by decide +kernel, fun hal => ?_⟩
  have hbn := (hal.last 3601000 (by decide +kernel) (.replicate 32 7)).mpr
    ⟨none, by decide +kernel, by simp⟩
  exact absurd hbn (by decide +kernel)

/-- A ban for good of another pubkey, and one for ten minutes that a failed swap prolongs. -/
theorem reported_after_failedSwap :
    Always step Reported start
      [(0, .ban ⟨.replicate 32 8, "", none⟩), (0, .ban ⟨.replicate 32 7, "", some 10⟩),
        (1000, .failedSwap (.replicate 32 7) 0 (.inl .finished)), (2000, .query (.replicate 32 7)),
        (3000, .unban (.few [.replicate 32 8])), (3601000, .list)] :=
  reported_of_lasting _ (by decide +kernel)

end BanHistory

end CheetahDex.Swap
