import CheetahDex.Lib.Decimals
import CheetahDex.Swap.Types

/-!
# The fee of a swap

How the fee is computed from the amount the taker pays, and split between the address that collects
it and one that burns it. An amount is an exact rational until it is turned into a decimal, with a
fixed number of significant digits, and from there into whole smallest units.
-/

namespace CheetahDex.Swap

open Lib Ordermatch

/-! ## Networks -/

/-- `NetConfig`, as far as it is about the fee. -/
structure NetConfig where
  netid : Nat
  dexFeeRate : MmNumber
  feeDiscountTickers : List String
  dexFeeRateDiscounted : MmNumber
  dexFeeMinThreshold : MmNumber
  burnEnabled : Bool := false
  dexFeeShare : MmNumber := 1
  burnAddrRawPubkey : Bytes := []
  rate_pos : 0 < dexFeeRate := by norm_num
  discounted_pos : 0 < dexFeeRateDiscounted := by norm_num
  threshold_pos : 0 < dexFeeMinThreshold := by norm_num
  share_nonneg : 0 ≤ dexFeeShare := by norm_num
  share_le_one : dexFeeShare ≤ 1 := by norm_num

def netid8762 : NetConfig where
  netid := 8762
  dexFeeRate := 1 / 777
  feeDiscountTickers := ["KMD"]
  dexFeeRateDiscounted := 9 / 7770
  dexFeeMinThreshold := 1 / 10000

def netid6133 : NetConfig where
  netid := 6133
  dexFeeRate := 2 / 100
  feeDiscountTickers := ["GLEEC"]
  dexFeeRateDiscounted := 1 / 100
  dexFeeMinThreshold := 1 / 10000
  burnEnabled := true
  dexFeeShare := 3 / 4
  burnAddrRawPubkey :=
    [0x03, 0xa7, 0x78, 0xd9, 0xbd, 0x34, 0x6f, 0xa7, 0x04, 0xcf, 0x3e, 0x25, 0x08, 0xcd, 0x07,
      0x4d, 0x93, 0xa1, 0xbb, 0xc1, 0xe5, 0x04, 0xfb, 0xec, 0xbb, 0x0a, 0x8d, 0x48, 0xe7, 0xcc,
      0xcb, 0xbf, 0x5c]

/-- `define_test_netid!`. -/
def testNetid (netid : Nat) : NetConfig := { netid8762 with netid }

/-- `net_config_for`; `regtest` is the feature that adds the networks for tests. -/
def netConfigFor (regtest : Bool) (netid : Nat) : Option NetConfig :=
  if netid = 8762 then some netid8762
  else if netid = 6133 then some netid6133
  else if regtest ∧ netid ∈ [8100, 8999, 9000, 9998] then some (testNetid netid)
  else none

/-! ## Numbers -/

variable (digits : Nat)

/-- `to_decimal`: a decimal, as the number it is. -/
def toDecimal (amount : MmNumber) : MmNumber := truncDigits digits amount

/-- The conversion of a decimal to whole smallest units, which fails for a number that is negative
or too big. -/
def unitsFromBigDecimal (limit : Nat) (amount : MmNumber) (decimals : Nat) : Option Nat :=
  if amount < 0 then none
  else if units decimals amount < limit then some (units decimals amount)
  else none

/-- For at most 19 decimals: `10u64.pow(decimals)` wraps from 20 on. -/
def satFromBigDecimal : MmNumber → Nat → Option Nat := unitsFromBigDecimal (2 ^ 64)

/-! ## The taker's coin -/

/-- A coin, as far as the fee depends on it. `dustAmount` is the least amount a transaction may
have, in smallest units. -/
structure FeeCoin where
  ticker : String
  decimals : Nat
  dustAmount : Nat
  utxoStandard : Bool

namespace FeeCoin

variable (coin : FeeCoin)

def minTxAmount : MmNumber := toDecimal digits (coin.dustAmount / 10 ^ coin.decimals)

def shouldBurnDexFee : Bool := coin.utxoStandard

def shouldBurnDirectly : Bool := coin.utxoStandard && coin.ticker == "KMD"

/-- `burn_pubkey`: no coin has its own. -/
def burnPubkey (_ : FeeCoin) : Bytes := []

end FeeCoin

/-! ## The amount -/

variable (cfg : NetConfig)

def dexFeeThreshold (minTxAmount : MmNumber) : MmNumber :=
  if cfg.dexFeeMinThreshold < minTxAmount then minTxAmount else cfg.dexFeeMinThreshold

def dexFeeRate (base rel : String) : MmNumber :=
  if base ∈ cfg.feeDiscountTickers ∨ rel ∈ cfg.feeDiscountTickers then cfg.dexFeeRateDiscounted
  else cfg.dexFeeRate

def dexFeeAmount (base rel : String) (tradeAmount threshold : MmNumber) :
    MmNumber :=
  let feeAmount := tradeAmount * dexFeeRate cfg base rel
  if feeAmount < threshold then threshold else feeAmount

theorem dexFeeRate_pos (base rel : String) : 0 < dexFeeRate cfg base rel := by
  unfold dexFeeRate
  split
  · exact cfg.discounted_pos
  · exact cfg.rate_pos

theorem dexFeeAmount_eq_max {cfg : NetConfig} {amount : MmNumber} (base rel : String)
    (threshold : MmNumber) : dexFeeAmount cfg base rel amount threshold =
      max threshold (amount * dexFeeRate cfg base rel) := by
  unfold dexFeeAmount
  dsimp only
  split
  · rename_i hlt
    rw [max_eq_left hlt.le]
  · rename_i hge
    rw [max_eq_right (not_lt.1 hge)]

variable (takerCoin : FeeCoin) (makerCoin : String) (tradeAmount : MmNumber)

def dexFeeAmountFromTakerCoin : MmNumber :=
  dexFeeAmount cfg takerCoin.ticker makerCoin tradeAmount
    (dexFeeThreshold cfg (takerCoin.minTxAmount digits))

structure MaxTakerVolumeLessThanDust where
  maxVol : MmNumber
  minTxAmount : MmNumber
  deriving DecidableEq

def maxTakerVolFromAvailable (available : MmNumber) (base rel : String)
    (minTxAmount : MmNumber) : Except MaxTakerVolumeLessThanDust MmNumber := do
  let feeThreshold := dexFeeThreshold cfg minTxAmount
  let rate := dexFeeRate cfg base rel
  let thresholdCoef := (1 + rate) / rate
  let maxVol :=
    if available > feeThreshold * thresholdCoef then available / (1 + rate)
    else available - feeThreshold
  check (maxVol ≤ minTxAmount) ⟨maxVol, minTxAmount⟩
  return maxVol

/-! ## The split -/

def calcDexFeeForOpReturn (fee minTxAmount : MmNumber) : DexFee :=
  if fee < minTxAmount then .standard fee else .withBurn 0 fee .kmdOpReturn

def calcDexFeeForBurnAccount (fee minTxAmount feeShare : MmNumber) (burnPubkey : Bytes) : DexFee :=
  let feePart := fee * feeShare
  let burnPart := fee - feePart
  if burnPart < minTxAmount ∨ feePart < minTxAmount then .standard fee
  else .withBurn feePart burnPart (.preBurnAccount burnPubkey)

namespace DexFee

def feeAmount : DexFee → MmNumber
  | noFee => 0
  | standard amount => amount
  | withBurn feeAmount _ _ => feeAmount

def burnAmount : DexFee → MmNumber
  | noFee => 0
  | standard _ => 0
  | withBurn _ burnAmount _ => burnAmount

/-- The key of the account that burns: the coin's own, or else the network's. -/
def burnKey : Bytes :=
  if takerCoin.burnPubkey ≠ [] then takerCoin.burnPubkey else cfg.burnAddrRawPubkey

variable (cfg : NetConfig) (baseFee : MmNumber)

def newFromTakerCoin :
    DexFee :=
  if !cfg.burnEnabled || !takerCoin.shouldBurnDexFee then .standard baseFee
  else if takerCoin.shouldBurnDirectly then
    calcDexFeeForOpReturn baseFee (takerCoin.minTxAmount digits)
  else
    calcDexFeeForBurnAccount baseFee (takerCoin.minTxAmount digits) cfg.dexFeeShare
      (burnKey cfg takerCoin)

def newWithTakerPubkey (takerPubkey : Bytes) : DexFee :=
  if burnKey cfg takerCoin ≠ [] ∧ burnKey cfg takerCoin = takerPubkey then .noFee
  else newFromTakerCoin digits takerCoin cfg baseFee

end DexFee

def computeDexFeeWithTakerPubkey (takerPubkey : Bytes) : DexFee :=
  DexFee.newWithTakerPubkey digits takerCoin cfg
    (dexFeeAmountFromTakerCoin digits cfg takerCoin makerCoin tradeAmount) takerPubkey

end CheetahDex.Swap
