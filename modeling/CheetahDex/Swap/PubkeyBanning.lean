import CheetahDex.Swap.MakerSwap
import CheetahDex.Swap.TakerSwap

/-!
# Banned pubkeys

A pubkey is banned by hand, for some minutes or until it is unbanned, and for an hour after a failed
swap. There is one place for each pubkey. A ban after a failed swap takes it whatever is there, so
that a ban which was to last longer, or for good, ends after the hour.

`now_ms` is read more than once in a call; here a call has one time.
-/

namespace CheetahDex.Swap

open Lib Ordermatch

def failedSwapBanSecs : UInt64 := 3600

inductive BanReason where
  | manual (reason : String)
  | failedSwap (causedBySwap : Uuid) (causedByEvent : MakerSwapEvent ⊕ TakerSwapEvent)

/-- A ban without an expiry, which is in seconds, is permanent. -/
structure BannedPubkey where
  reason : BanReason
  expiresAt : Option UInt64

abbrev BannedPubkeys := HashMap (Hash 32) BannedPubkey

variable (nowMs : UInt64) (banned : BannedPubkeys)

def purgeExpired : BannedPubkeys :=
  banned.retain fun _ entry => entry.expiresAt.all fun expiresAt => expiresAt > nowMs / 1000

def bareReasons : HashMap (Hash 32) BanReason := banned.mapValues BannedPubkey.reason

def banPubkeyOnFailedSwap (pubkey : Hash 32)
    (swapUuid : Uuid) (event : MakerSwapEvent ⊕ TakerSwapEvent) : BannedPubkeys :=
  banned.insert pubkey ⟨.failedSwap swapUuid event, some (nowMs / 1000 + failedSwapBanSecs)⟩

def isPubkeyBanned (pubkey : Hash 32) : Bool × BannedPubkeys :=
  let banned := purgeExpired nowMs banned
  (pubkey ∈ banned, banned)

def listBannedPubkeysRpc : HashMap (Hash 32) BanReason × BannedPubkeys :=
  let banned := purgeExpired nowMs banned
  (bareReasons banned, banned)

structure BanPubkeysReq where
  pubkey : Hash 32
  reason : String
  durationMin : Option UInt64

def banPubkeyRpc (req : BanPubkeysReq) : Except String Unit × BannedPubkeys :=
  let banned := purgeExpired nowMs banned
  if req.pubkey ∈ banned then (.error "Pubkey is banned already", banned)
  else
    (.ok (), banned.insert req.pubkey
      ⟨.manual req.reason, req.durationMin.map fun minutes => nowMs / 1000 + minutes * 60⟩)

inductive UnbanPubkeysReq where
  | all
  | few (pubkeys : List (Hash 32))

structure UnbanPubkeysRes where
  stillBanned : HashMap (Hash 32) BanReason
  unbanned : HashMap (Hash 32) BanReason
  wereNotBanned : List (Hash 32)

/-- The loop of `unban_pubkeys_rpc`, with what is still banned, was unbanned and was not banned. -/
def unbanFew : BannedPubkeys × BannedPubkeys × List (Hash 32) → List (Hash 32) →
    BannedPubkeys × BannedPubkeys × List (Hash 32)
  | found, [] => found
  | (banned, unbanned, wereNotBanned), pubkey :: pubkeys =>
    match banned.lookup pubkey with
    | some removed =>
      unbanFew (banned.erase pubkey, unbanned.insert pubkey removed, wereNotBanned) pubkeys
    | none => unbanFew (banned, unbanned, wereNotBanned ++ [pubkey]) pubkeys

def unbanPubkeysRpc (req : UnbanPubkeysReq) : UnbanPubkeysRes × BannedPubkeys :=
  let banned := purgeExpired nowMs banned
  let (banned, unbanned, wereNotBanned) :=
    match req with
    | .all => (∅, banned, [])
    | .few pubkeys => unbanFew (banned, ∅, []) pubkeys
  (⟨bareReasons banned, bareReasons unbanned, wereNotBanned⟩, banned)

end CheetahDex.Swap
