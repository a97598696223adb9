import CheetahDex.Ordermatch.NewProtocol
import Mathlib.Data.List.ReduceOption
import Mathlib.Data.String.Basic

/-!
# What is read back of a message

Every message but two is read back as it was written, whatever its options are. A taker request and
a reservation leave out the fields at their end that have their default, and a field after one that
was left out is taken for that one. The swap version, an array with one byte, is then taken for the
protocol info of a coin.
-/

namespace CheetahDex.Proof

open Lib Ordermatch NewProtocol Wire

/-! ## The fields at the end -/

variable (baseProtocolInfo relProtocolInfo : Option (List UInt8)) (version : SwapVersion)

/-- What is sent of the last three fields, as bytes. -/
def sentFields : List (List UInt8) :=
  baseProtocolInfo.toList ++ relProtocolInfo.toList ++
    if version.isLegacy then [] else [[version.version]]

/-- What is read of the last three fields: the position decides. -/
def readFields : Option (List UInt8) × Option (List UInt8) × SwapVersion :=
  let sent := sentFields baseProtocolInfo relProtocolInfo version
  (sent[0]?, sent[1]?, if sent.length = 3 then version else {})

/-- No field that is left out is followed by one that is sent. -/
def LeavesOutLast : Prop :=
  (relProtocolInfo.isSome → baseProtocolInfo.isSome) ∧
    (version.isLegacy = false → baseProtocolInfo.isSome ∧ relProtocolInfo.isSome)

theorem eq_default_of_isLegacy {version : SwapVersion} (h : version.isLegacy) : version = {} := by
  obtain ⟨version⟩ := version
  rw [SwapVersion.isLegacy, decide_eq_true_iff] at h
  exact congrArg SwapVersion.mk h

theorem readFields_eq_iff :
    readFields baseProtocolInfo relProtocolInfo version =
      (baseProtocolInfo, relProtocolInfo, version) ↔
    LeavesOutLast baseProtocolInfo relProtocolInfo version := by
  cases hlg : version.isLegacy with
  | true =>
    have hver := eq_default_of_isLegacy hlg
    cases baseProtocolInfo <;> cases relProtocolInfo <;>
      simp [readFields, sentFields, LeavesOutLast, hlg, ← hver]
  | false =>
    cases baseProtocolInfo <;> cases relProtocolInfo <;>
      simp [readFields, sentFields, LeavesOutLast, hlg]

/-- A version is written as the bytes it is taken for. -/
theorem swapVersion_serialize :
    swapVersion.serialize version = byteVec?.serialize (some [version.version]) := rfl

/-- Reading the last three fields. -/
theorem run_skippedFields {γ : Type}
    (f : Option (List UInt8) → Option (List UInt8) → SwapVersion → Reader γ)
    (baseProtocolInfo relProtocolInfo : Option (List UInt8)) (version : SwapVersion) :
    StateT.run (do
      let base ← byteVec?.fieldD none
      let rel ← byteVec?.fieldD none
      let version ← swapVersion.fieldD {}
      f base rel version) (skippedFields baseProtocolInfo relProtocolInfo version) =
    (f (readFields baseProtocolInfo relProtocolInfo version).1
      (readFields baseProtocolInfo relProtocolInfo version).2.1
      (readFields baseProtocolInfo relProtocolInfo version).2.2).run [] := by
  cases hlg : version.isLegacy with
  | true =>
    cases baseProtocolInfo <;> cases relProtocolInfo <;>
      simp [readFields, sentFields, skippedFields, hlg, Codec.run_fieldD_bind,
        Serde.run_fieldD_bind_nil, List.reduceOption_nil, -StateT.run_bind]
  | false =>
    -- Where a protocol info is missing, the version is read in its place.
    cases baseProtocolInfo with
    | none =>
      cases relProtocolInfo <;>
        simp [readFields, sentFields, skippedFields, hlg, Codec.run_fieldD_bind,
          Serde.run_fieldD_bind_nil, swapVersion_serialize, -StateT.run_bind]
    | some base =>
      cases relProtocolInfo with
      | none =>
        simp [readFields, sentFields, skippedFields, hlg, Codec.run_fieldD_bind,
          Serde.run_fieldD_bind_nil, swapVersion_serialize, -StateT.run_bind]
      | some rel =>
        simp [readFields, sentFields, skippedFields, hlg, Codec.run_fieldD_bind, -StateT.run_bind]

/-! ## The messages -/

/-- What is read of a taker request. -/
def readTakerRequest (msg : NewProtocol.TakerRequest) : NewProtocol.TakerRequest :=
  let last := readFields msg.baseProtocolInfo msg.relProtocolInfo msg.swapVersion
  { msg with baseProtocolInfo := last.1, relProtocolInfo := last.2.1, swapVersion := last.2.2 }

variable (msg : NewProtocol.MakerReserved)

/-- What is read of a reservation. -/
def readMakerReserved : NewProtocol.MakerReserved :=
  let last := readFields msg.baseProtocolInfo msg.relProtocolInfo msg.swapVersion
  { msg with baseProtocolInfo := last.1, relProtocolInfo := last.2.1, swapVersion := last.2.2 }

theorem takerRequest_deserialize (orders : Orders) (msg : NewProtocol.TakerRequest) :
    (takerRequest orders).deserialize ((takerRequest orders).serialize msg) =
      some (readTakerRequest msg) := by
  refine Reader.struct_array ?_
  simp only [List.cons_append, List.nil_append, Codec.run_field_bind]
  exact run_skippedFields _ _ _ _

theorem makerReserved_deserialize :
    makerReserved.deserialize (makerReserved.serialize msg) = some (readMakerReserved msg) := by
  refine Reader.struct_array ?_
  simp only [List.cons_append, List.nil_append, Codec.run_field_bind]
  exact run_skippedFields _ _ _ _

theorem readTakerRequest_eq_iff (msg : NewProtocol.TakerRequest) :
    readTakerRequest msg = msg ↔
      LeavesOutLast msg.baseProtocolInfo msg.relProtocolInfo msg.swapVersion := by
  rw [← readFields_eq_iff]
  constructor
  · intro h
    exact congrArg (fun m : NewProtocol.TakerRequest =>
      (m.baseProtocolInfo, m.relProtocolInfo, m.swapVersion)) h
  · intro h
    rw [readTakerRequest, h]

theorem readMakerReserved_eq_iff :
    readMakerReserved msg = msg ↔
      LeavesOutLast msg.baseProtocolInfo msg.relProtocolInfo msg.swapVersion := by
  rw [← readFields_eq_iff]
  constructor
  · intro h
    exact congrArg (fun m : NewProtocol.MakerReserved =>
      (m.baseProtocolInfo, m.relProtocolInfo, m.swapVersion)) h
  · intro h
    rw [readMakerReserved, h]

/-- What is read of a message. -/
def readMessage : OrdermatchMessage → OrdermatchMessage
  | .takerRequest msg => .takerRequest (readTakerRequest msg)
  | .makerReserved msg => .makerReserved (readMakerReserved msg)
  | msg => msg

/-- A message leaves out no field before one that it sends. -/
def SendsInPlace : OrdermatchMessage → Prop
  | .takerRequest msg => LeavesOutLast msg.baseProtocolInfo msg.relProtocolInfo msg.swapVersion
  | .makerReserved msg => LeavesOutLast msg.baseProtocolInfo msg.relProtocolInfo msg.swapVersion
  | _ => True

theorem ordermatchMessage_deserialize (orders : Orders) (msg : OrdermatchMessage) :
    (ordermatchMessage orders).deserialize ((ordermatchMessage orders).serialize msg) =
      some (readMessage msg) := by
  cases msg with
  | takerRequest msg =>
    simp only [ordermatchMessage, variant, takerRequest_deserialize, Option.map_some, readMessage]
  | makerReserved msg =>
    simp only [ordermatchMessage, variant, makerReserved_deserialize, Option.map_some, readMessage]
  | _ msg =>
    simp only [ordermatchMessage, variant, Codec.deserialize_serialize, Option.map_some,
      readMessage]

variable {β : Type*} (format : Format β) (orders : Orders) (msg : OrdermatchMessage)

theorem decodeMessage_encodeMessage :
    decodeMessage format (ordermatchMessage orders)
      (encodeMessage format (ordermatchMessage orders) msg) = some (readMessage msg) := by
  rw [decodeMessage, encodeMessage, format.read_write, Option.bind_some,
    ordermatchMessage_deserialize]

/-- A message is read back exactly if it leaves out no field before one that it sends. -/
theorem decode_encode_iff :
    decodeMessage format (ordermatchMessage orders)
      (encodeMessage format (ordermatchMessage orders) msg) = some msg ↔
    SendsInPlace msg := by
  rw [decodeMessage_encodeMessage, Option.some.injEq]
  cases msg with
  | takerRequest msg =>
    rw [readMessage, OrdermatchMessage.takerRequest.injEq, readTakerRequest_eq_iff, SendsInPlace]
  | makerReserved msg =>
    rw [readMessage, OrdermatchMessage.makerReserved.injEq, readMakerReserved_eq_iff, SendsInPlace]
  | _ msg => exact iff_of_true rfl trivial

/-- Every set and map in the order of its keys. -/
def sortedOrders : Orders where
  uuids := sortedUuids
  pubkeys := .sortedBy BitVec.toNat fun _ _ => BitVec.eq_of_toNat_eq
  pairs := .sortedBy id Function.injective_id

/-- A request for a swap of the second version, without protocol infos. -/
def upgradedRequest : NewProtocol.TakerRequest where
  base := "KMD"
  rel := "BTC"
  baseAmount := 1
  relAmount := 2
  action := .buy
  uuid := 1
  matchBy := .any
  confSettings := ⟨1, false, 1, false⟩
  baseProtocolInfo := none
  relProtocolInfo := none
  swapVersion := ⟨2⟩

/-- The version is read as the protocol info of the base coin, and the request as one for a swap of
the first version. -/
theorem upgradedRequest_reads_legacy :
    decodeMessage .tree (ordermatchMessage sortedOrders)
      (encodeMessage .tree (ordermatchMessage sortedOrders) (.takerRequest upgradedRequest)) =
      some (.takerRequest
        { upgradedRequest with baseProtocolInfo := some [2], swapVersion := ⟨1⟩ }) ∧
    decodeMessage .tree (ordermatchMessage sortedOrders)
      (encodeMessage .tree (ordermatchMessage sortedOrders) (.takerRequest upgradedRequest)) ≠
      some (.takerRequest upgradedRequest) := by
  rw [decodeMessage_encodeMessage]
  exact ⟨rfl, by decide⟩

end CheetahDex.Proof
