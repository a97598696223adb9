import CheetahDex.Ordermatch.StartSwap
import CheetahDex.Proof.MatchAgreement

/-!
# Both sides lock for the same time

The settings go from the maker's order into its reservation and from the taker's order into its
request, so both sides choose from the same four. That they are still the same when the maker starts
the swap is an invariant of the order: while a match waits for its taker, no update goes through.
What they do not agree on is which coins are slow: each asks for the ticker its own node knows the
coin by.
-/

namespace CheetahDex.Proof

open Lib Common Ordermatch

/-! ## The settings of a waiting match -/

variable {order : MakerOrder} {coins : Coins} {makerMatch : MakerMatch} {makerOrder : MakerOrder}
  {start : SwapStart}

/-- A match that waits for its taker has been offered the settings the order has. -/
structure SettingsInv (s : OrderState) : Prop where
  settings : s.order.confSettings.isSome
  waiting : ∀ u m, s.order.matches.lookup u = some m → m.connect = none → m.connected = none →
    m.reserved.confSettings = s.order.confSettings
  updates : UpdatesPrepared s

theorem confSettingsOf_eq (h : order.confSettings.isSome) (baseCoin relCoin : Coin) :
    confSettingsOf order baseCoin relCoin = order.confSettings := by
  obtain ⟨settings, hsettings⟩ := Option.isSome_iff_exists.1 h
  rw [confSettingsOf, hsettings]
  rfl

/-- No move changes the settings of an order while a match waits. -/
theorem SettingsInv.move {s s' : OrderState} {event : OrderEvent} (h : SettingsInv s)
    (hmv : OrderMove event s s') : SettingsInv s' := by
  have hup := h.updates.move hmv
  cases hmv with
  | stay => exact h
  | reserve _ _ hsettings =>
    refine ⟨h.settings, fun u m hm hcon hcn => ?_, hup⟩
    dsimp only [MakerOrder.reserve] at hm
    rw [HashMap.lookup_insert_ite] at hm
    split at hm
    · rw [← Option.some.inj hm]
      exact hsettings.trans (confSettingsOf_eq h.settings _ _)
    · exact h.waiting u m hm hcon hcn
  | start _ =>
    refine ⟨h.settings, fun u m hm hcon hcn => ?_, hup⟩
    dsimp only [MakerOrder.startSwap] at hm
    rw [HashMap.lookup_insert_ite] at hm
    split at hm
    · -- this one does not wait any more
      rw [← Option.some.inj hm] at hcon
      exact absurd hcon (by simp [MakerMatch.connectedBy])
    · exact h.waiting u m hm hcon hcn
  | timeout now =>
    refine ⟨h.settings, fun u m hm => ?_, hup⟩
    dsimp only [MakerOrder.dropTimedOut] at hm
    rw [HashMap.lookup_retain, Option.filter_eq_some_iff] at hm
    exact h.waiting u m hm.1
  | prepare _ => exact ⟨h.settings, h.waiting, hup⟩
  | commit hmem he _ _ =>
    -- no match was waiting when the update was checked, and nothing has happened since
    have hid := (h.updates _ hmem).idle
    rw [← he] at hid
    refine ⟨?_, fun u m hm hcon hcn => ?_, hup⟩
    · dsimp only [MakerOrder.applyUpdated]
      simp [h.settings]
    · exact absurd (hasOngoingMatches_of_lookup hm hcon hcn) (ne_true_of_eq_false hid)
  | forget _ | setVolume _ _ => exact ⟨h.settings, h.waiting, hup⟩

/-! ## The two durations -/

/-- One of the coins is slow. -/
def slowPair (makerCoin takerCoin : String) : Prop :=
  makerCoin = "BTC" ∨ takerCoin = "BTC" ∨
    coinWith4xLocktime makerCoin ∨ coinWith4xLocktime takerCoin

/-- Whether the taker wants the maker's coin to be notarized. -/
def makerCoinNotaOf (action : TakerAction) (settings : OrderConfirmationsSettings) : Bool :=
  match action with
  | .buy => settings.baseNota
  | .sell => settings.relNota

variable {takerSettings makerSettings : OrderConfirmationsSettings}

/-- What both sides make of the settings: the maker wants the taker's coin notarized, or the taker
the maker's coin. -/
theorem requiresNotarization_iff {request : TakerRequest} {reserved : MakerReserved}
    (hrequest : request.confSettings = some takerSettings)
    (hreserved : reserved.confSettings = some makerSettings) (makerCoin takerCoin : Coin) :
    ((chooseMakerConfsAndNotas
        (some makerSettings) request makerCoin takerCoin).requiresNotarization ∨
      (chooseTakerConfsAndNotas request reserved makerCoin takerCoin).requiresNotarization) ↔
    (makerSettings.relNota ∨ makerCoinNotaOf request.action takerSettings) := by
  unfold chooseMakerConfsAndNotas chooseTakerConfsAndNotas takerConfsAndNotas
    SwapConfirmationsSettings.requiresNotarization makerCoinNotaOf
  rw [hrequest, hreserved]
  cases request.action <;>
    simp only [Option.getD_some, Bool.or_eq_true, Bool.not_eq_true', Bool.ite_eq_true_distrib]
  · cases makerSettings.relNota <;> cases takerSettings.baseNota <;> simp
  · cases makerSettings.relNota <;> cases takerSettings.relNota <;> simp

/-- The time that follows from what one side finds about the coins and both about the settings. -/
noncomputable def lockTimeOf (slow nota : Prop) : ℕ :=
  open Classical in if slow ∨ nota then paymentLocktime * 4 else paymentLocktime

theorem lpAtomicLocktimeV2_eq (makerCoin takerCoin : String) {my other : SwapConfirmationsSettings}
    {nota : Prop} (h : (my.requiresNotarization ∨ other.requiresNotarization) ↔ nota) :
    lpAtomicLocktimeV2 makerCoin takerCoin my other =
      lockTimeOf (slowPair makerCoin takerCoin) nota := by
  unfold lpAtomicLocktimeV2 lockTimeOf slowPair
  rw [← h]
  simp only [or_assoc]

theorem lockTimeOf_eq_iff {slow slow' nota : Prop} :
    lockTimeOf slow nota = lockTimeOf slow' nota ↔ nota ∨ (slow ↔ slow') := by
  by_cases hnt : nota <;> by_cases hsl : slow <;> by_cases hsl' : slow' <;>
    simp [lockTimeOf, hnt, hsl, hsl', paymentLocktime]

/-- A notarization is required, or both sides find the same about the coins as they know them. -/
def NotarizedOrAlike (makerOrder : MakerOrder) (takerOrder : TakerOrder) : Prop :=
  (∃ s, makerOrder.confSettings = some s ∧ s.relNota) ∨
  (∃ s, takerOrder.request.confSettings = some s ∧ makerCoinNotaOf takerOrder.request.action s) ∨
  (slowPair makerOrder.base makerOrder.rel ↔
    slowPair takerOrder.makerCoinTicker takerOrder.takerCoinTicker)

theorem lpConnectStartBob_lockTime (h : lpConnectStartBob coins makerMatch makerOrder = some start)
    (hrequest : makerMatch.request.confSettings = some takerSettings)
    (hreserved : makerMatch.reserved.confSettings = some makerSettings)
    (hord : makerOrder.confSettings = some makerSettings) :
    start.lockTime = lockTimeOf (slowPair makerOrder.base makerOrder.rel)
      (makerSettings.relNota ∨ makerCoinNotaOf makerMatch.request.action takerSettings) := by
  obtain ⟨takerCoin, htk, h⟩ := Option.bind_eq_some_iff.1 h
  obtain ⟨makerCoin, hmk, h⟩ := Option.bind_eq_some_iff.1 h
  rw [← Option.some.inj h, ← coins.ticker_of_find hmk, ← coins.ticker_of_find htk, hord]
  simp only [hrequest]
  exact lpAtomicLocktimeV2_eq _ _ (requiresNotarization_iff hrequest hreserved makerCoin takerCoin)

theorem lpConnectedAlice_lockTime {takerOrder : TakerOrder} {takerMatch : TakerMatch}
    (h : lpConnectedAlice coins takerOrder takerMatch = some start)
    (hrequest : takerOrder.request.confSettings = some takerSettings)
    (hreserved : takerMatch.reserved.confSettings = some makerSettings) :
    start.lockTime = lockTimeOf (slowPair takerOrder.makerCoinTicker takerOrder.takerCoinTicker)
      (makerSettings.relNota ∨ makerCoinNotaOf takerOrder.request.action takerSettings) := by
  obtain ⟨takerCoin, htk, h⟩ := Option.bind_eq_some_iff.1 h
  obtain ⟨makerCoin, hmk, h⟩ := Option.bind_eq_some_iff.1 h
  rw [← Option.some.inj h, ← coins.ticker_of_find hmk, ← coins.ticker_of_find htk]
  simp only [hreserved]
  exact lpAtomicLocktimeV2_eq _ _
    (or_comm.trans (requiresNotarization_iff hrequest hreserved makerCoin takerCoin))

/-- **In every run of an order, a maker that starts a swap and its taker lock for the same time
exactly if a notarization is required or both find the same about the coins as their nodes know
them.** -/
theorem lockTime_eq_iff (order : MakerOrder) (hsettings : order.confSettings.isSome)
    (hfresh : order.matches = ∅) (events : List OrderEvent)
    (ourPublicId senderPubkey takerKey : H256)
    (connectMsg : TakerConnect) (makerMatch : MakerMatch) (makerOrder : MakerOrder)
    (hstart : ((events.foldl OrderState.step ⟨order, []⟩).order.processConnect ourPublicId
      senderPubkey connectMsg).2 = some (makerMatch, makerOrder))
    (takerOrder : TakerOrder) (takerMatch : TakerMatch)
    (hrequest : takerOrder.received takerKey = some makerMatch.request)
    (hreserved : makerMatch.reserved.received makerOrder ourPublicId = some takerMatch.reserved)
    (makerCoins takerCoins : Coins) (bob alice : SwapStart)
    (hbob : lpConnectStartBob makerCoins makerMatch makerOrder = some bob)
    (halice : lpConnectedAlice takerCoins takerOrder takerMatch = some alice) :
    bob.lockTime = alice.lockTime ↔ NotarizedOrAlike makerOrder takerOrder := by
  have hinv : SettingsInv (events.foldl OrderState.step ⟨order, []⟩) := by
    have hin : SettingsInv ⟨order, []⟩ := ⟨hsettings, by simp [hfresh], by simp [UpdatesPrepared]⟩
    exact (Always.of_step (P := SettingsInv)
      (fun s event h => h.move (orderMove_step s event)) hin
      events).last
  -- a match that is started carries the settings of its order
  obtain ⟨hmk, he⟩ : makerOrder.confSettings.isSome ∧
      makerMatch.reserved.confSettings = makerOrder.confSettings := by
    rcases processConnect_cases ourPublicId _ senderPubkey connectMsg with heq | hnew
    · rw [heq] at hstart
      exact absurd hstart (by simp)
    · obtain ⟨m, hlk, hcon, hcn, heq⟩ := hnew
      rw [heq] at hstart
      obtain ⟨rfl, rfl⟩ := Prod.mk.inj (Option.some.inj hstart)
      exact ⟨hinv.settings, hinv.waiting _ m hlk hcon hcn⟩
  obtain ⟨makerSettings, hma⟩ := Option.isSome_iff_exists.1 hmk
  rw [hma] at he
  obtain ⟨htk, hreq⟩ := received_request hrequest
  obtain ⟨takerSettings, hta⟩ := Option.isSome_iff_exists.1 htk
  -- both sides hold the settings of both orders
  rw [received_reserved (by rw [he]; rfl)] at hreserved
  have hrs : takerMatch.reserved.confSettings = some makerSettings := by
    rw [← Option.some.inj hreserved]
    exact he
  have hrq : makerMatch.request.confSettings = some takerSettings := by
    rw [hreq]
    exact hta
  rw [lpConnectStartBob_lockTime hbob hrq he hma,
    lpConnectedAlice_lockTime halice hta hrs, hreq, lockTimeOf_eq_iff]
  unfold NotarizedOrAlike
  rw [hma, hta]
  simp [or_assoc]

/-! ## Two tickers of one coin -/

/-- The order book lists `BTC-segwit` as `BTC`. -/
def segwitTickers (ticker : String) : Option String :=
  if ticker = "BTC-segwit" then some "BTC" else none

def segwitOrder (rel : String) : MakerOrder :=
  { plainOrder with rel, relOrderbookTicker := segwitTickers rel }

def segwitTaker (rel : String) : TakerOrder :=
  { plainTaker .any with
    request := { (plainTaker .any).request with rel }, relOrderbookTicker := segwitTickers rel }

def segwitConnect : TakerConnect :=
  { takerOrderUuid := 11, makerOrderUuid := 1, senderPubkey := 0, destPubKey := 0 }

/-- A taker's order is reserved for and accepted, and both sides start the swap. -/
def segwitStarts (makerRel takerRel : String) : Option (SwapStart × SwapStart) := do
  let request ← (segwitTaker takerRel).received 7
  let s := OrderState.step ⟨segwitOrder makerRel, []⟩ (.request plainCoins 0 3 1 request)
  let (makerMatch, makerOrder) ← (s.order.processConnect 3 7 segwitConnect).2
  let reserved ← makerMatch.reserved.received makerOrder 3
  let takerMatch ← (segwitTaker takerRel).acceptReserved plainCoins 7 0 [reserved]
  let bob ← lpConnectStartBob plainCoins makerMatch makerOrder
  let alice ← lpConnectedAlice plainCoins (segwitTaker takerRel) takerMatch
  return (bob, alice)

/-- **The maker knows the coin as `BTC` and the taker as `BTC-segwit`: the maker locks four times as
long as the taker.** -/
theorem segwit_lockTime_ne :
    (segwitStarts "BTC" "BTC-segwit").map (fun (bob, alice) => (bob.lockTime, alice.lockTime)) =
      some (31200, 7800) := by
  decide +kernel

/-- What both start with when both know the coin as `BTC`. -/
def btcStart : SwapStart where
  uuid := 11
  confSettings := { makerCoinConfs := 1, makerCoinNota := false, takerCoinConfs := 1,
                    takerCoinNota := false }
  makerCoin := "KMD"
  takerCoin := "BTC"
  lockTime := 31200

theorem lockTime_eq_iff_btc :
    segwitStarts "BTC" "BTC" = some (btcStart, btcStart) ∧
      (btcStart.lockTime = btcStart.lockTime ↔
        NotarizedOrAlike (segwitOrder "BTC") (segwitTaker "BTC")) := by
  let request : TakerRequest := { (segwitTaker "BTC").request with senderPubkey := 7 }
  let reserved :=
    (segwitOrder "BTC").reservedMsg 3 1 (plainCoin "KMD") (plainCoin "BTC") 6 12 request
  let makerMatch : MakerMatch := MakerMatch.connectedBy
    { request, reserved, connect := none, connected := none, lastUpdated := 0 } 3 segwitConnect
  let makerOrder := ((segwitOrder "BTC").reserve 0 request reserved).startSwap 11 makerMatch
  let takerMatch : TakerMatch :=
    { reserved := { reserved with destPubKey := 0 }
      connect := { segwitConnect with senderPubkey := 7, destPubKey := 3 }
      connected := none
      lastUpdated := 0 }
  have hiff := lockTime_eq_iff (segwitOrder "BTC") rfl rfl [.request plainCoins 0 3 1 request] 3 7 7
    segwitConnect makerMatch makerOrder (by decide +kernel) (segwitTaker "BTC") takerMatch
    (by decide +kernel) (by decide +kernel) plainCoins plainCoins btcStart btcStart
    (by decide +kernel) (by decide +kernel)
  exact ⟨by decide +kernel, hiff⟩

end CheetahDex.Proof
