import CheetahDex.Ordermatch.Types

/-!
# The price floor from past swaps

The bot does not sell below what it has got so far. The past swaps of a pair are averaged by volume
in each direction, and the mean of the two averages is a floor for the calculated price.
-/

namespace CheetahDex.Ordermatch

inductive VwapSide where
  | base
  | rel

/-- The amounts in a `MySwapInfo`. -/
structure MySwapInfo where
  myAmount : MmNumber
  otherAmount : MmNumber

/-- The amounts in the order in which `sum_vwap` takes them. -/
def MySwapInfo.amounts (x : MySwapInfo) : VwapSide → MmNumber × MmNumber
  | .base => (x.myAmount, x.otherAmount)
  | .rel => (x.otherAmount, x.myAmount)

/-- What is read of a `SavedSwap`: `is_finished_and_success` and `get_my_info`. -/
structure SavedSwap where
  isFinishedAndSuccess : Bool
  getMyInfo : Option MySwapInfo

/-- The division of `MmNumber`, which panics if there is nothing to divide by. -/
def divided (a b : MmNumber) : Option MmNumber := if b = 0 then none else some (a / b)

/-- The sum of the prices times their volumes, and the sum of the volumes. -/
structure VwapTotals where
  sumPriceVolume : MmNumber
  vol : MmNumber

def sumVwap (baseAmount relAmount : MmNumber) (t : VwapTotals) : Option VwapTotals := do
  let curPrice ← divided baseAmount relAmount
  return ⟨t.sumPriceVolume + curPrice * relAmount, t.vol + relAmount⟩

/-- The body of the loop. -/
def vwapSwap (kind : VwapSide) (t : VwapTotals) (swap : SavedSwap) : Option VwapTotals :=
  if swap.isFinishedAndSuccess then
    match swap.getMyInfo with
    | none => some t
    | some x => sumVwap (x.amounts kind).1 (x.amounts kind).2 t
  else some t

def vwapCalculation (kind : VwapSide) (swaps : List SavedSwap) (calculatedPrice : MmNumber) :
    Option MmNumber := do
  let t ← swaps.foldlM (vwapSwap kind) ⟨0, 0⟩
  if t.sumPriceVolume = 0 then return calculatedPrice
  divided t.sumPriceVolume t.vol

section vwap

variable (baseSwaps relSwaps : List SavedSwap) (calculatedPrice : MmNumber)

def vwapLogic : Option MmNumber := do
  let baseVwap ← vwapCalculation .rel baseSwaps calculatedPrice
  let relVwap ← vwapCalculation .base relSwaps calculatedPrice
  if baseVwap = calculatedPrice ∧ relVwap = calculatedPrice then return calculatedPrice
  let toDivide := (if baseSwaps.isEmpty then 0 else 1) + if relSwaps.isEmpty then 0 else 1
  let totalVwap := (if baseSwaps.isEmpty then 0 else baseVwap) +
    if relSwaps.isEmpty then 0 else relVwap
  let vwapPrice ← divided totalVwap toDivide
  return if vwapPrice > calculatedPrice then vwapPrice else calculatedPrice

def vwap : Option MmNumber :=
  if relSwaps.length = baseSwaps.length ∧ ¬(!relSwaps.isEmpty && !baseSwaps.isEmpty) then
    some calculatedPrice
  else vwapLogic baseSwaps relSwaps calculatedPrice

end vwap

end CheetahDex.Ordermatch
