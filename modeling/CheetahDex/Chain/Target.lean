import CheetahDex.Chain.Header
import Mathlib.Data.Nat.Size

/-!
# Targets

The target of a header is packed into 32 bits: a mantissa of 23 bits, a sign and an exponent.
-/

namespace CheetahDex.Chain

/-- `Compact::to_u256`. A negative value or one that does not fit is an error, which holds what
could be computed. -/
def Compact.toU256 (compact : Compact) : Except ℕ ℕ :=
  let exponent := (compact.value >>> 24).toNat
  let packed := (compact.value &&& 0x007fffff).toNat
  let mantissa := if exponent ≤ 3 then packed >>> (8 * (3 - exponent)) else packed
  let target := if exponent ≤ 3 then mantissa else (mantissa <<< (8 * (exponent - 3))) % 2 ^ 256
  let negative := mantissa ≠ 0 ∧ compact.value &&& 0x00800000 ≠ 0
  let overflow := mantissa ≠ 0 ∧ 34 < exponent ∨ 0xff < mantissa ∧ 33 < exponent ∨
    0xffff < mantissa ∧ 32 < exponent
  if negative ∨ overflow then .error target else .ok target

/-- `Compact::from_u256`. -/
def Compact.fromU256 (value : ℕ) : Compact :=
  let size := (value.size + 7) / 8
  let mantissa := (if size ≤ 3 then value <<< (8 * (3 - size))
    else value >>> (8 * (size - 3))) % 2 ^ 32
  -- the high bit of the mantissa is the sign
  if mantissa &&& 0x00800000 ≠ 0 then ⟨.ofNat (mantissa >>> 8 ||| (size + 1) <<< 24)⟩
  else ⟨.ofNat (mantissa ||| size <<< 24)⟩

def BlockHeader.target {Tx : Type} (header : BlockHeader Tx) : Except ℕ ℕ :=
  match header.bits with
  | .compact compact => compact.toU256
  | .u32 nb => .ok nb.toNat

end CheetahDex.Chain
