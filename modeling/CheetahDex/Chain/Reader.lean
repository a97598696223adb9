import CheetahDex.Chain.Codec
import CheetahDex.Lib.Decoder

/-!
# The reading side of the codec

Memory is requested for lists and byte strings before their elements are read; a request of more
bytes than an `isize` can count ends the program.
-/

namespace CheetahDex.Chain

open Lib Lib.Decoder

inductive Error where
  | malformedData
  | unexpectedEnd
  | unreadData
  | custom (message : String)
  deriving DecidableEq

inductive CoinVariant where
  | standard
  | qtum

def CoinVariant.isQtum : CoinVariant → Bool
  | .standard => false
  | .qtum => true

/-- What can be done with a `Reader`. -/
abbrev Decoder := Lib.Decoder CoinVariant UInt8 Error

/-- `Deserializable`: how a value is read, and the memory that one takes in a vector. -/
class Deserializable (α : Type) where
  deserialize : Decoder α
  size : ℕ

def read {α : Type} [Deserializable α] : Decoder α := Deserializable.deserialize

def readSlice (n : ℕ) : Decoder Bytes := next .unexpectedEnd n

/-- `isize::MAX`. -/
def isizeMax : ℕ := 2 ^ 63 - 1

/-- A vector with room for `len` elements. -/
def allocate (len size : ℕ) : Decoder Unit :=
  if isizeMax < len * size then abort else request (len * size)

/-! ## Integers and hashes -/

/-- An unsigned integer of `k` bytes. -/
def readLe (k : ℕ) : Decoder ℕ := do
  let bytes ← readSlice k
  return ofLeBytes bytes

instance : Deserializable UInt8 where
  deserialize := do return .ofNat (← readLe 1)
  size := 1

instance : Deserializable UInt16 where
  deserialize := do return .ofNat (← readLe 2)
  size := 2

instance : Deserializable UInt32 where
  deserialize := do return .ofNat (← readLe 4)
  size := 4

instance : Deserializable UInt64 where
  deserialize := do return .ofNat (← readLe 8)
  size := 8

instance : Deserializable Int32 where
  deserialize := do return (← (read : Decoder UInt32)).toInt32
  size := 4

instance : Deserializable Int64 where
  deserialize := do return (← (read : Decoder UInt64)).toInt64
  size := 8

/-- The bytes as a vector, zeros in the place of those that are missing. -/
def padTo (n : ℕ) (bytes : Bytes) : Vector UInt8 n := Vector.ofFn fun i => bytes.getD i 0

instance {n : ℕ} : Deserializable (Vector UInt8 n) where
  deserialize := do return padTo n (← readSlice n)
  size := n

instance : Deserializable CompactInteger where
  deserialize := do
    let flag ← (read : Decoder UInt8)
    if flag ≤ 0xfc then return ⟨flag.toUInt64⟩
    else if flag = 0xfd then return ⟨(← (read : Decoder UInt16)).toUInt64⟩
    else if flag = 0xfe then return ⟨(← (read : Decoder UInt32)).toUInt64⟩
    else return ⟨← (read : Decoder UInt64)⟩
  size := 8

/-! ## Byte strings and lists -/

def bytesDecodeLimit : ℕ := 65536

instance : Serializable Bytes where
  serialize bytes := serialize (⟨.ofNat bytes.length⟩ : CompactInteger) ++ bytes

instance : Deserializable Bytes where
  deserialize := do
    let len ← (read : Decoder CompactInteger)
    if bytesDecodeLimit < len.asUsize then fail .malformedData
    else do
      allocate len.asUsize 1
      readSlice len.asUsize
  size := 24

section lists

variable (α : Type) [Deserializable α]

def readList : Decoder (List α) := do
  let len ← (read : Decoder CompactInteger)
  allocate len.asUsize (Deserializable.size α)
  many read len.asUsize

def readListMax (max : ℕ) : Decoder (List α) := do
  let len ← (read : Decoder CompactInteger)
  if max < len.asUsize then fail .malformedData
  else do
    allocate len.asUsize (Deserializable.size α)
    many read len.asUsize

end lists

/-- `deserialize`: a value that takes up the whole input. -/
def deserialize {α : Type} (decoder : Decoder α) (buffer : Bytes) : Attempt UInt8 Error α :=
  (do
    let value ← decoder
    if ← finished then return value else fail .unreadData : Decoder α) .standard buffer

end CheetahDex.Chain
