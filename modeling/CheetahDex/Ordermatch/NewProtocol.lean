import CheetahDex.Lib.Serde
import CheetahDex.Ordermatch.TakerOrder

/-!
# Messages on the wire

A struct is the array of its fields and an enum the map from the index of the variant to what it
carries; the enum of updates is untagged, so its variants are tried in turn. Two of the structs
leave out fields that have their default, and those are not only the last ones.

A hash set or hash map is written in the order in which it is iterated, which nobody controls.
-/

namespace CheetahDex.Ordermatch

open Lib Reader

def SwapVersion.isLegacy (version : SwapVersion) : Bool := version.version = 1

namespace NewProtocol

abbrev H64 := Vector UInt8 8

/-! ## Messages -/

structure MakerOrderCreated where
  uuid : Uuid
  base : String
  rel : String
  price : MmNumber
  maxVolume : MmNumber
  minVolume : MmNumber
  createdAt : Nat
  confSettings : OrderConfirmationsSettings
  timestamp : Nat
  pairTrieRoot : H64
  baseProtocolInfo : List UInt8
  relProtocolInfo : List UInt8
  deriving DecidableEq

structure MakerOrderCancelled where
  uuid : Uuid
  timestamp : Nat
  pairTrieRoot : H64
  deriving DecidableEq

structure MakerOrderUpdatedV1 where
  uuid : Uuid
  newPrice : Option MmNumber
  newMaxVolume : Option MmNumber
  newMinVolume : Option MmNumber
  timestamp : Nat
  pairTrieRoot : H64
  deriving DecidableEq

structure MakerOrderUpdatedV2 where
  uuid : Uuid
  newPrice : Option MmNumber
  newMaxVolume : Option MmNumber
  newMinVolume : Option MmNumber
  timestamp : Nat
  pairTrieRoot : H64
  confSettings : Option OrderConfirmationsSettings
  deriving DecidableEq

inductive MakerOrderUpdated where
  | v1 (msg : MakerOrderUpdatedV1)
  | v2 (msg : MakerOrderUpdatedV2)
  deriving DecidableEq

structure TakerConnect where
  takerOrderUuid : Uuid
  makerOrderUuid : Uuid
  deriving DecidableEq

structure MakerConnected where
  takerOrderUuid : Uuid
  makerOrderUuid : Uuid
  deriving DecidableEq

inductive OrdermatchMessage where
  | makerOrderCreated (msg : MakerOrderCreated)
  | makerOrderUpdated (msg : MakerOrderUpdated)
  | pubkeyKeepAlive (msg : PubkeyKeepAlive H64)
  | makerOrderCancelled (msg : MakerOrderCancelled)
  | takerRequest (msg : TakerRequest)
  | makerReserved (msg : MakerReserved)
  | takerConnect (msg : TakerConnect)
  | makerConnected (msg : MakerConnected)
  deriving DecidableEq

/-! ## How they are written -/

/-- The orders in which the sets and maps of a message are iterated. -/
structure Orders where
  uuids : Iteration Uuid
  pubkeys : Iteration H256
  pairs : Iteration AlbOrderedOrderbookPair

/-- A variant is a map with one entry, the index of the variant and what it carries. -/
def variant (index : ℤ) (content : Value) : Value := .map [(.int index, content)]

namespace Wire

open Codec

/-- `CompactUuid`: sixteen raw bytes. -/
def compactUuid : Codec Uuid := word bytes 16

/-- `[u8; 32]`: a sequence of bytes. -/
def pubkey : Codec H256 := word uint8.list 32

def h64 : Codec H64 := uint8.vector 8

/-- `Vec<u8>`. -/
def byteVec : Codec (List UInt8) := uint8.list

/-- `Option<BigRational>`. -/
def ratio? : Codec (Option MmNumber) := bigRational.option fun _ => nofun

def takerAction : Codec TakerAction where
  serialize
    | .buy => variant 0 .nil
    | .sell => variant 1 .nil
  deserialize
    | .map [(.int 0, .nil)] => some .buy
    | .map [(.int 1, .nil)] => some .sell
    | _ => none
  deserialize_serialize action := by cases action <;> rfl

def swapVersion : Codec SwapVersion where
  serialize version := .array [uint8.serialize version.version]
  deserialize := struct do return { version := ← uint8.field }
  deserialize_serialize version := struct_array (by
    simp only [run_field_bind]
    rfl)

def confSettings : Codec OrderConfirmationsSettings where
  serialize settings :=
    .array [nat.serialize settings.baseConfs, bool.serialize settings.baseNota,
      nat.serialize settings.relConfs, bool.serialize settings.relNota]
  deserialize := struct do
    return { baseConfs := ← nat.field
             baseNota := ← bool.field
             relConfs := ← nat.field
             relNota := ← bool.field }
  deserialize_serialize settings := struct_array (by rfl)

/-- `Option<OrderConfirmationsSettings>`. -/
def confSettings? : Codec (Option OrderConfirmationsSettings) := confSettings.option fun _ => nofun

variable (orders : Orders)

def matchBy : Codec MatchBy where
  serialize
    | .any => variant 0 .nil
    | .orders uuids => variant 1 ((compactUuid.hashSet orders.uuids).serialize uuids)
    | .pubkeys pubkeys => variant 2 ((pubkey.hashSet orders.pubkeys).serialize pubkeys)
  deserialize
    | .map [(.int 0, .nil)] => some .any
    | .map [(.int 1, v)] => ((compactUuid.hashSet orders.uuids).deserialize v).map .orders
    | .map [(.int 2, v)] => ((pubkey.hashSet orders.pubkeys).deserialize v).map .pubkeys
    | _ => none
  deserialize_serialize
    | .any => rfl
    | .orders uuids => by simp [variant]
    | .pubkeys pubkeys => by simp [variant]

def makerOrderCreated : Codec MakerOrderCreated where
  serialize msg :=
    .array [compactUuid.serialize msg.uuid, string.serialize msg.base,
      string.serialize msg.rel, bigRational.serialize msg.price,
      bigRational.serialize msg.maxVolume, bigRational.serialize msg.minVolume,
      nat.serialize msg.createdAt, confSettings.serialize msg.confSettings,
      nat.serialize msg.timestamp, h64.serialize msg.pairTrieRoot,
      byteVec.serialize msg.baseProtocolInfo, byteVec.serialize msg.relProtocolInfo]
  deserialize := struct do
    return { uuid := ← compactUuid.field
             base := ← string.field
             rel := ← string.field
             price := ← bigRational.field
             maxVolume := ← bigRational.field
             minVolume := ← bigRational.field
             createdAt := ← nat.field
             confSettings := ← confSettings.field
             timestamp := ← nat.field
             pairTrieRoot := ← h64.field
             baseProtocolInfo := ← byteVec.fieldD []
             relProtocolInfo := ← byteVec.fieldD [] }
  deserialize_serialize msg := struct_array (by
    simp only [run_field_bind, run_fieldD_bind]
    rfl)

def pubkeyKeepAlive : Codec (PubkeyKeepAlive H64) where
  serialize msg :=
    .array [(string.hashMap h64 orders.pairs).serialize msg.trieRoots, nat.serialize msg.timestamp]
  deserialize := struct do
    return { trieRoots := ← (string.hashMap h64 orders.pairs).field
             timestamp := ← nat.field }
  deserialize_serialize msg := struct_array (by
    simp only [run_field_bind]
    rfl)

def makerOrderCancelled : Codec MakerOrderCancelled where
  serialize msg :=
    .array [compactUuid.serialize msg.uuid, nat.serialize msg.timestamp,
      h64.serialize msg.pairTrieRoot]
  deserialize := struct do
    return { uuid := ← compactUuid.field
             timestamp := ← nat.field
             pairTrieRoot := ← h64.field }
  deserialize_serialize msg := struct_array (by
    simp only [run_field_bind]
    rfl)

def makerOrderUpdatedV1 : Codec MakerOrderUpdatedV1 where
  serialize msg :=
    .array [compactUuid.serialize msg.uuid, ratio?.serialize msg.newPrice,
      ratio?.serialize msg.newMaxVolume, ratio?.serialize msg.newMinVolume,
      nat.serialize msg.timestamp, h64.serialize msg.pairTrieRoot]
  deserialize := struct do
    return { uuid := ← compactUuid.field
             newPrice := ← ratio?.field
             newMaxVolume := ← ratio?.field
             newMinVolume := ← ratio?.field
             timestamp := ← nat.field
             pairTrieRoot := ← h64.field }
  deserialize_serialize msg := struct_array (by
    simp only [run_field_bind]
    rfl)

def makerOrderUpdatedV2 : Codec MakerOrderUpdatedV2 where
  serialize msg :=
    .array [compactUuid.serialize msg.uuid, ratio?.serialize msg.newPrice,
      ratio?.serialize msg.newMaxVolume, ratio?.serialize msg.newMinVolume,
      nat.serialize msg.timestamp, h64.serialize msg.pairTrieRoot,
      confSettings?.serialize msg.confSettings]
  deserialize := struct do
    return { uuid := ← compactUuid.field
             newPrice := ← ratio?.field
             newMaxVolume := ← ratio?.field
             newMinVolume := ← ratio?.field
             timestamp := ← nat.field
             pairTrieRoot := ← h64.field
             confSettings := ← confSettings?.field }
  deserialize_serialize msg := struct_array (by
    simp only [run_field_bind]
    rfl)

/-- The first version has one field less, so it refuses the array of the second. -/
theorem makerOrderUpdatedV1_deserialize_v2 (msg : MakerOrderUpdatedV2) :
    makerOrderUpdatedV1.deserialize (makerOrderUpdatedV2.serialize msg) = none := by
  simp only [makerOrderUpdatedV1, makerOrderUpdatedV2, struct, run_field_bind]
  rfl

/-- An untagged enum: the variants are tried in turn. -/
def makerOrderUpdated : Codec MakerOrderUpdated where
  serialize
    | .v1 msg => makerOrderUpdatedV1.serialize msg
    | .v2 msg => makerOrderUpdatedV2.serialize msg
  deserialize v :=
    ((makerOrderUpdatedV1.deserialize v).map .v1).or ((makerOrderUpdatedV2.deserialize v).map .v2)
  deserialize_serialize
    | .v1 msg => by simp
    | .v2 msg => by simp [makerOrderUpdatedV1_deserialize_v2]

def takerConnect : Codec TakerConnect where
  serialize msg :=
    .array [compactUuid.serialize msg.takerOrderUuid, compactUuid.serialize msg.makerOrderUuid]
  deserialize := struct do
    return { takerOrderUuid := ← compactUuid.field
             makerOrderUuid := ← compactUuid.field }
  deserialize_serialize msg := struct_array (by
    simp only [run_field_bind]
    rfl)

def makerConnected : Codec MakerConnected where
  serialize msg :=
    .array [compactUuid.serialize msg.takerOrderUuid, compactUuid.serialize msg.makerOrderUuid]
  deserialize := struct do
    return { takerOrderUuid := ← compactUuid.field
             makerOrderUuid := ← compactUuid.field }
  deserialize_serialize msg := struct_array (by
    simp only [run_field_bind]
    rfl)

/-! The two structs that leave fields out. -/

/-- `Option<Vec<u8>>`. -/
def byteVec? : Codec (Option (List UInt8)) := byteVec.option fun _ => nofun

/-- The last three fields, each left out if it has its default. -/
def skippedFields (baseProtocolInfo relProtocolInfo : Option (List UInt8))
    (version : SwapVersion) : List Value :=
  [if baseProtocolInfo.isNone then none else some (byteVec?.serialize baseProtocolInfo),
    if relProtocolInfo.isNone then none else some (byteVec?.serialize relProtocolInfo),
    if version.isLegacy then none else some (swapVersion.serialize version)].reduceOption

def takerRequest : Serde TakerRequest where
  serialize msg :=
    .array ([string.serialize msg.base, string.serialize msg.rel,
      bigRational.serialize msg.baseAmount, bigRational.serialize msg.relAmount,
      takerAction.serialize msg.action, compactUuid.serialize msg.uuid,
      (matchBy orders).serialize msg.matchBy, confSettings.serialize msg.confSettings] ++
      skippedFields msg.baseProtocolInfo msg.relProtocolInfo msg.swapVersion)
  deserialize := struct do
    return { base := ← string.field
             rel := ← string.field
             baseAmount := ← bigRational.field
             relAmount := ← bigRational.field
             action := ← takerAction.field
             uuid := ← compactUuid.field
             matchBy := ← (matchBy orders).field
             confSettings := ← confSettings.field
             baseProtocolInfo := ← byteVec?.fieldD none
             relProtocolInfo := ← byteVec?.fieldD none
             swapVersion := ← swapVersion.fieldD {} }

def makerReserved : Serde MakerReserved where
  serialize msg :=
    .array ([string.serialize msg.base, string.serialize msg.rel,
      bigRational.serialize msg.baseAmount, bigRational.serialize msg.relAmount,
      compactUuid.serialize msg.takerOrderUuid, compactUuid.serialize msg.makerOrderUuid,
      confSettings.serialize msg.confSettings] ++
      skippedFields msg.baseProtocolInfo msg.relProtocolInfo msg.swapVersion)
  deserialize := struct do
    return { base := ← string.field
             rel := ← string.field
             baseAmount := ← bigRational.field
             relAmount := ← bigRational.field
             takerOrderUuid := ← compactUuid.field
             makerOrderUuid := ← compactUuid.field
             confSettings := ← confSettings.field
             baseProtocolInfo := ← byteVec?.fieldD none
             relProtocolInfo := ← byteVec?.fieldD none
             swapVersion := ← swapVersion.fieldD {} }

def ordermatchMessage : Serde OrdermatchMessage where
  serialize
    | .makerOrderCreated msg => variant 0 (makerOrderCreated.serialize msg)
    | .makerOrderUpdated msg => variant 1 (makerOrderUpdated.serialize msg)
    | .pubkeyKeepAlive msg => variant 2 ((pubkeyKeepAlive orders).serialize msg)
    | .makerOrderCancelled msg => variant 3 (makerOrderCancelled.serialize msg)
    | .takerRequest msg => variant 4 ((takerRequest orders).serialize msg)
    | .makerReserved msg => variant 5 (makerReserved.serialize msg)
    | .takerConnect msg => variant 6 (takerConnect.serialize msg)
    | .makerConnected msg => variant 7 (makerConnected.serialize msg)
  deserialize
    | .map [(.int 0, v)] => (makerOrderCreated.deserialize v).map .makerOrderCreated
    | .map [(.int 1, v)] => (makerOrderUpdated.deserialize v).map .makerOrderUpdated
    | .map [(.int 2, v)] => ((pubkeyKeepAlive orders).deserialize v).map .pubkeyKeepAlive
    | .map [(.int 3, v)] => (makerOrderCancelled.deserialize v).map .makerOrderCancelled
    | .map [(.int 4, v)] => ((takerRequest orders).deserialize v).map .takerRequest
    | .map [(.int 5, v)] => (makerReserved.deserialize v).map .makerReserved
    | .map [(.int 6, v)] => (takerConnect.deserialize v).map .takerConnect
    | .map [(.int 7, v)] => (makerConnected.deserialize v).map .makerConnected
    | _ => none

end Wire

variable {α β : Type*} (format : Format β) (serde : Serde α)

def encodeMessage (msg : α) : β := format.write (serde.serialize msg)

def decodeMessage (bytes : β) : Option α := (format.read bytes).bind serde.deserialize

end NewProtocol

end CheetahDex.Ordermatch
