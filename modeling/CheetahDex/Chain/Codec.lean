import CheetahDex.Lib.LeBytes

/-!
# The codec of the peer-to-peer protocol

Values are written one after the other, integers in little-endian order, and lists after their
length as a compact integer.
-/

namespace CheetahDex.Chain

open Lib

abbrev Bytes := List UInt8

abbrev H256 := Vector UInt8 32

def dhash256 (sha256 : Bytes → H256) (input : Bytes) : H256 := sha256 (sha256 input).toList

/-- `Serializable`: what a value appends to a stream. -/
class Serializable (α : Type) where
  serialize : α → Bytes

export Serializable (serialize)

instance : Serializable UInt8 := ⟨fun n => [n]⟩

instance : Serializable UInt16 := ⟨fun n => leBytes 2 n.toNat⟩

instance : Serializable UInt32 := ⟨fun n => leBytes 4 n.toNat⟩

instance : Serializable UInt64 := ⟨fun n => leBytes 8 n.toNat⟩

instance : Serializable Int32 := ⟨fun n => serialize n.toUInt32⟩

instance : Serializable Int64 := ⟨fun n => serialize n.toUInt64⟩

instance {n : ℕ} : Serializable (Vector UInt8 n) := ⟨Vector.toList⟩

/-- A value that is written only if it is there. -/
def serializeSome {α : Type} [Serializable α] : Option α → Bytes
  | none => []
  | some a => serialize a

/-! ## Compact integers -/

structure CompactInteger where
  value : UInt64

inductive CompactIntegerError where
  | parseError (message : String)

namespace CompactInteger

def asUsize (n : CompactInteger) : Nat := n.value.toNat

def serializedLength (n : CompactInteger) : Nat :=
  if n.value ≤ 0xfc then 1
  else if n.value ≤ 0xffff then 3
  else if n.value ≤ 0xffffffff then 5
  else 9

def dataLength (flag : UInt8) : Nat :=
  if flag = 0xfd then 2 else if flag = 0xfe then 4 else if flag = 0xff then 8 else 0

instance : Serializable CompactInteger where
  serialize n :=
    if n.value ≤ 0xfc then serialize n.value.toUInt8
    else if n.value ≤ 0xffff then serialize (0xfd : UInt8) ++ serialize n.value.toUInt16
    else if n.value ≤ 0xffffffff then serialize (0xfe : UInt8) ++ serialize n.value.toUInt32
    else serialize (0xff : UInt8) ++ serialize n.value

end CompactInteger

def parseCompactInt : Bytes → Except CompactIntegerError CompactInteger
  | [] => .error (.parseError "Empty buffer!")
  | flag :: rest =>
    let payloadLen := CompactInteger.dataLength flag
    if payloadLen = 0 then .ok ⟨flag.toUInt64⟩
    else if (flag :: rest).length < 1 + payloadLen then .error (.parseError "Insufficient bytes!")
    else
      let padded := rest.take payloadLen ++ List.replicate (8 - payloadLen) 0
      .ok ⟨.ofNat (ofLeBytes padded)⟩

/-- `Stream::append_list`. -/
def serializeList {α : Type} [Serializable α] (items : List α) : Bytes :=
  serialize (⟨.ofNat items.length⟩ : CompactInteger) ++ items.flatMap serialize

end CheetahDex.Chain
