import Tanos.Protocols.RmWiredPayload

/-!
# Control messages

`MessageTypes` are the kinds of control messages and `RMMessage` is the message itself. The type of
a message that has come over the network is any 32-bit value, `MessageTypes.ofCode` recovers the
enumerator if there is one.

`networkToRm` decodes a message in place: a field that cannot be read keeps its value, and the
payload size is what the fields before it have left of the buffer. Only a complete header makes the
message independent of what it was before (`networkToRm_of_header`). `rmToNetwork` writes such a
header, so that the decoded message has the fields of the encoded one (`decoded_bytes`).
-/

set_option autoImplicit false
set_option relaxedAutoImplicit false

namespace Tanos

open Library

/-- `RM_ID`, the identifier of the resource manager. -/
def rmId : UInt32 := 99

/-- `enum MessageTypes`. -/
inductive MessageTypes where
  | noop
  | errorInterface
  | rmClientStart
  | rmClientStop
  | rmClientPause
  | rmClientReconfigureHw
  | rmClientReconfigureSw
  | rmClientExit
  | rmClientSyncTimestampStart
  | rmClientSyncTimestampStop
  | rmClientSyncTimestampPause
  | rmClientSyncTimestampReconfigure
  | rmClientSyncTimestampReconfigureHw
  | rmClientSyncTimestampReconfigureSw
  | rmClientSyncTimestampReconfigureSyncObjectHw
  | rmClientSyncTimestampReconfigureSyncObjectSw
  | rmClientSyncTimestampExit
  | rmClientSyncRequest
  | rmClientSyncReceive
  | rmClientSyncReconfigureDone
  | rmClientRelease
deriving DecidableEq, Repr

namespace MessageTypes

/-- All enumerators, in the order of their values. -/
def all : List MessageTypes :=
  [noop, errorInterface, rmClientStart, rmClientStop, rmClientPause, rmClientReconfigureHw,
    rmClientReconfigureSw, rmClientExit, rmClientSyncTimestampStart, rmClientSyncTimestampStop,
    rmClientSyncTimestampPause, rmClientSyncTimestampReconfigure,
    rmClientSyncTimestampReconfigureHw, rmClientSyncTimestampReconfigureSw,
    rmClientSyncTimestampReconfigureSyncObjectHw, rmClientSyncTimestampReconfigureSyncObjectSw,
    rmClientSyncTimestampExit, rmClientSyncRequest, rmClientSyncReceive,
    rmClientSyncReconfigureDone, rmClientRelease]

/-- The value of an enumerator. -/
def code (type : MessageTypes) : UInt32 := UInt32.ofNat (all.idxOf type)

/-- The enumerator with a value. -/
def ofCode (value : UInt32) : Option MessageTypes := all[value.toNat]?

@[simp] theorem ofCode_code (type : MessageTypes) : ofCode type.code = some type := by
  cases type <;> rfl

end MessageTypes

/-- `enum ProtocolIDs`. -/
inductive ProtocolIDs where
  | none
  | basic
  | basicPeriod
  | rmBasic
deriving DecidableEq, Repr

/-- The value of an enumerator. -/
def ProtocolIDs.value : ProtocolIDs → UInt32
  | none => 0
  | basic => 1
  | basicPeriod => 2
  | rmBasic => 3

/-- `RMConfig::max_payload`, the size of the payload array. -/
def maxPayload : ℕ := 1024

/-- The bytes of the fields before the payload on the wire. -/
def headerLength : ℕ := 34

/-- `class RMMessage`. The payload is the whole payload array of the source, of which the first
`payloadSize` bytes are in use. -/
structure RMMessage where
  messageType : UInt32
  priority : UInt8
  sourceId : UInt32
  destinationId : UInt32
  serviceId : UInt64
  mode : UInt8
  timeStamp : ℤ
  protocolId : UInt32
  payloadSize : UInt16
  payload : List UInt8
deriving DecidableEq, Repr

namespace RMMessage

/-- `RMMessage()`. -/
def new : RMMessage :=
  ⟨MessageTypes.noop.code, 0xFF, 0, 0, 0xFFFFFFFFFFFFFFFF, 0xFF, 0, ProtocolIDs.none.value, 0,
    List.replicate maxPayload 0⟩

/-- `clear`, of which the message before is no part. -/
def clear : RMMessage :=
  ⟨MessageTypes.noop.code, 0xFF, 0xFFFF, 0xFFFF, 0xFFFFFFFFFFFFFFFF, 0xFF, 0,
    ProtocolIDs.none.value, 0, List.replicate maxPayload 0⟩

/-- The constructor for messages without a mode and a payload. The reading of the clock is a
parameter. -/
def ofRequest (messageType : MessageTypes) (priority : UInt8) (sourceId destinationId : UInt32)
    (serviceId : UInt64) (now : ℤ) : RMMessage :=
  ⟨messageType.code, priority, sourceId, destinationId, serviceId, 0xFF, now,
    ProtocolIDs.none.value, 0, List.replicate maxPayload 0⟩

/-- The constructor for messages with a payload. The reading of the clock is a parameter. -/
def ofPayload (messageType : MessageTypes) (priority : UInt8) (sourceId destinationId : UInt32)
    (serviceId : UInt64) (mode : UInt8) (protocolId : ProtocolIDs) (rmPayloadMessage : MessageNet)
    (now : ℤ) : RMMessage :=
  let payloadSize := UInt16.ofNat rmPayloadMessage.length
  ⟨messageType.code, priority, sourceId, destinationId, serviceId, mode, now, protocolId.value,
    payloadSize, MessageNet.store (List.replicate maxPayload 0) 0
      (rmPayloadMessage.buffer.take payloadSize.toNat)⟩

/-- `rm_to_network`. -/
def rmToNetwork (message : RMMessage) : StateM MessageNet Unit := do
  let _ ← MessageNet.add (LittleEndian.encode 4 message.messageType.toNat)
  let _ ← MessageNet.add (LittleEndian.encode 1 message.priority.toNat)
  let _ ← MessageNet.add (LittleEndian.encode 4 message.sourceId.toNat)
  let _ ← MessageNet.add (LittleEndian.encode 4 message.destinationId.toNat)
  let _ ← MessageNet.add (LittleEndian.encode 8 message.serviceId.toNat)
  let _ ← MessageNet.add (LittleEndian.encode 1 message.mode.toNat)
  let _ ← MessageNet.add (LittleEndian.encodeSigned 8 message.timeStamp)
  let _ ← MessageNet.add (LittleEndian.encode 4 message.protocolId.toNat)
  let _ ← MessageNet.add (message.payload.take message.payloadSize.toNat)

/-- `network_to_rm`. -/
def networkToRm (message : RMMessage) : StateM MessageNet RMMessage := do
  let messageType ← MessageNet.readUInt32 message.messageType
  let priority ← MessageNet.readUInt8 message.priority
  let sourceId ← MessageNet.readUInt32 message.sourceId
  let destinationId ← MessageNet.readUInt32 message.destinationId
  let serviceId ← MessageNet.readUInt64 message.serviceId
  let mode ← MessageNet.readUInt8 message.mode
  let timeStamp ← MessageNet.readCount message.timeStamp
  let protocolId ← MessageNet.readUInt32 message.protocolId
  let net ← get
  let payloadSize := UInt16.ofNat (net.length - net.pos)
  let payload ← MessageNet.readInto payloadSize.toNat
    (fun bytes ↦ MessageNet.store message.payload 0 bytes) message.payload
  return ⟨messageType, priority, sourceId, destinationId, serviceId, mode, timeStamp, protocolId,
    payloadSize, payload⟩

/-! ### On the wire -/

/-- The payload bytes in use. -/
def usedPayload (message : RMMessage) : List UInt8 :=
  message.payload.take message.payloadSize.toNat

/-- The object representations of the fields, in the order of the wire. -/
def bytes (message : RMMessage) : List UInt8 :=
  LittleEndian.encode 4 message.messageType.toNat ++
    (LittleEndian.encode 1 message.priority.toNat ++
    (LittleEndian.encode 4 message.sourceId.toNat ++
    (LittleEndian.encode 4 message.destinationId.toNat ++
    (LittleEndian.encode 8 message.serviceId.toNat ++
    (LittleEndian.encode 1 message.mode.toNat ++
    (LittleEndian.encodeSigned 8 message.timeStamp ++
    (LittleEndian.encode 4 message.protocolId.toNat ++
    (message.usedPayload ++ []))))))))

theorem writes_rmToNetwork (message : RMMessage) :
    MessageNet.Writes message.rmToNetwork message.bytes := by
  unfold rmToNetwork bytes
  refine (MessageNet.writes_add _).bind fun _ ↦ ?_
  refine (MessageNet.writes_add _).bind fun _ ↦ ?_
  refine (MessageNet.writes_add _).bind fun _ ↦ ?_
  refine (MessageNet.writes_add _).bind fun _ ↦ ?_
  refine (MessageNet.writes_add _).bind fun _ ↦ ?_
  refine (MessageNet.writes_add _).bind fun _ ↦ ?_
  refine (MessageNet.writes_add _).bind fun _ ↦ ?_
  refine (MessageNet.writes_add _).bind fun _ ↦ ?_
  exact (MessageNet.writes_add _).bind fun _ ↦ MessageNet.writes_pure _

theorem length_bytes (message : RMMessage) :
    message.bytes.length = headerLength + message.usedPayload.length := by
  simp only [bytes, headerLength, List.length_append, LittleEndian.length_encode,
    LittleEndian.length_encodeSigned, List.length_nil]
  omega

/-- The message in a datagram with a complete header, for the payload array it is decoded to. -/
def decoded (payload datagram : List UInt8) : RMMessage where
  messageType := UInt32.ofNat (LittleEndian.decode (datagram.take 4))
  priority := UInt8.ofNat (LittleEndian.decode ((datagram.drop 4).take 1))
  sourceId := UInt32.ofNat (LittleEndian.decode ((datagram.drop 5).take 4))
  destinationId := UInt32.ofNat (LittleEndian.decode ((datagram.drop 9).take 4))
  serviceId := UInt64.ofNat (LittleEndian.decode ((datagram.drop 13).take 8))
  mode := UInt8.ofNat (LittleEndian.decode ((datagram.drop 21).take 1))
  timeStamp := LittleEndian.decodeSigned ((datagram.drop 22).take 8)
  protocolId := UInt32.ofNat (LittleEndian.decode ((datagram.drop 30).take 4))
  payloadSize := UInt16.ofNat (datagram.length - headerLength)
  payload := MessageNet.store payload 0 (datagram.drop headerLength)

/-- A message with a complete header does not depend on what it is decoded into, its payload array
apart. -/
theorem networkToRm_of_header (message : RMMessage) {net : MessageNet}
    (hheader : headerLength ≤ net.length) (hbuffer : net.length ≤ net.buffer.length)
    (hlength : net.length < 2 ^ 16) :
    (message.networkToRm (net.seek 0)).1 =
      decoded message.payload (net.buffer.take net.length) := by
  unfold headerLength at hheader
  have hsize : (UInt16.ofNat (net.length - 34)).toNat = net.length - 34 :=
    Nat.mod_eq_of_lt (by omega)
  have hpayload : 34 + (UInt16.ofNat (net.length - 34)).toNat ≤ net.length := by omega
  have hfield : ∀ pos size, pos + size ≤ 34 → (net.buffer.drop pos).take size =
      ((net.buffer.take net.length).drop pos).take size := by
    intro pos size hfits
    rw [List.drop_take, List.take_take, min_eq_left (by omega)]
  unfold networkToRm MessageNet.readUInt8 MessageNet.readUInt32 MessageNet.readUInt64
    MessageNet.readCount
  rw [MessageNet.readInto_bind_of_le _ _ _ (by omega),
    MessageNet.readInto_bind_of_le _ _ _ (by omega),
    MessageNet.readInto_bind_of_le _ _ _ (by omega),
    MessageNet.readInto_bind_of_le _ _ _ (by omega),
    MessageNet.readInto_bind_of_le _ _ _ (by omega),
    MessageNet.readInto_bind_of_le _ _ _ (by omega),
    MessageNet.readInto_bind_of_le _ _ _ (by omega),
    MessageNet.readInto_bind_of_le _ _ _ (by omega), MessageNet.get_bind]
  simp only [MessageNet.length_seek, MessageNet.pos_seek, Nat.reduceAdd]
  rw [MessageNet.readInto_bind_of_le _ _ _ hpayload, hsize]
  have hdatagram : (net.buffer.take net.length).length = net.length :=
    List.length_take_of_le hbuffer
  have hrest : (net.buffer.drop 34).take (net.length - 34) =
      (net.buffer.take net.length).drop 34 := List.drop_take.symm
  rw [decoded, hdatagram, hrest, hfield _ _ (by decide), hfield _ _ (by decide),
    hfield _ _ (by decide), hfield _ _ (by decide), hfield _ _ (by decide),
    hfield _ _ (by decide), hfield _ _ (by decide), hfield _ _ (by decide)]
  rfl

/-- The payload in use of a decoded message is the datagram behind the header. -/
theorem usedPayload_decoded (payload : List UInt8) {datagram : List UInt8}
    (hlength : datagram.length ≤ headerLength + maxPayload) :
    (decoded payload datagram).usedPayload = datagram.drop headerLength := by
  have hsize : (decoded payload datagram).payloadSize.toNat =
      (datagram.drop headerLength).length := by
    rw [List.length_drop]
    unfold headerLength maxPayload at *
    exact Nat.mod_eq_of_lt (by omega)
  rw [usedPayload, hsize]
  exact MessageNet.take_store_zero payload _

/-- The payload size is never more than what has been written. -/
theorem payloadSize_networkToRm_le (message : RMMessage) (net : MessageNet) :
    (message.networkToRm net).1.payloadSize.toNat ≤ net.length := by
  have hread : ∀ {α : Type} (size : ℕ) (decode : List UInt8 → α) (value : α)
      (next : α → StateM MessageNet RMMessage),
      (∀ value net, (next value net).1.payloadSize.toNat ≤ net.length) → ∀ net,
        ((MessageNet.readInto size decode value >>= next) net).1.payloadSize.toNat ≤
          net.length := by
    intro α size decode value next hnext net
    rw [← MessageNet.length_readInto size decode value net]
    exact hnext _ _
  revert net
  unfold networkToRm MessageNet.readUInt8 MessageNet.readUInt32 MessageNet.readUInt64
    MessageNet.readCount
  refine hread _ _ _ _ fun _ ↦ hread _ _ _ _ fun _ ↦ hread _ _ _ _ fun _ ↦ hread _ _ _ _ fun _ ↦
    hread _ _ _ _ fun _ ↦ hread _ _ _ _ fun _ ↦ hread _ _ _ _ fun _ ↦ hread _ _ _ _ fun _ ↦ ?_
  intro net
  have hsize : (UInt16.ofNat (net.length - net.pos)).toNat ≤ net.length :=
    (Nat.mod_le _ _).trans (Nat.sub_le _ _)
  rw [MessageNet.get_bind]
  exact hsize

/-- The decoded message has the fields of the message whose bytes are decoded, with a time stamp
that may have wrapped around. -/
theorem decoded_bytes (payload : List UInt8) {message : RMMessage}
    (hpayload : message.usedPayload.length = message.payloadSize.toNat) :
    decoded payload message.bytes =
      { message with
        timeStamp := Int.bmod message.timeStamp (256 ^ 8)
        payload := MessageNet.store payload 0 message.usedPayload } := by
  have hrest : message.bytes.drop headerLength = message.usedPayload := by
    rw [← List.append_nil message.usedPayload]
    rfl
  have hmessageType : LittleEndian.decode (message.bytes.take 4) = message.messageType.toNat :=
    LittleEndian.decode_of_eq_encode (rfl : _ = LittleEndian.encode 4 _)
      message.messageType.toNat_lt
  have hpriority : LittleEndian.decode ((message.bytes.drop 4).take 1) = message.priority.toNat :=
    LittleEndian.decode_of_eq_encode (rfl : _ = LittleEndian.encode 1 _) message.priority.toNat_lt
  have hsourceId : LittleEndian.decode ((message.bytes.drop 5).take 4) = message.sourceId.toNat :=
    LittleEndian.decode_of_eq_encode (rfl : _ = LittleEndian.encode 4 _) message.sourceId.toNat_lt
  have hdestinationId :
      LittleEndian.decode ((message.bytes.drop 9).take 4) = message.destinationId.toNat :=
    LittleEndian.decode_of_eq_encode (rfl : _ = LittleEndian.encode 4 _)
      message.destinationId.toNat_lt
  have hserviceId :
      LittleEndian.decode ((message.bytes.drop 13).take 8) = message.serviceId.toNat :=
    LittleEndian.decode_of_eq_encode (rfl : _ = LittleEndian.encode 8 _) message.serviceId.toNat_lt
  have hmode : LittleEndian.decode ((message.bytes.drop 21).take 1) = message.mode.toNat :=
    LittleEndian.decode_of_eq_encode (rfl : _ = LittleEndian.encode 1 _) message.mode.toNat_lt
  have htimeStamp : LittleEndian.decodeSigned ((message.bytes.drop 22).take 8) =
      Int.bmod message.timeStamp (256 ^ 8) :=
    LittleEndian.decodeSigned_encodeSigned 8 message.timeStamp
  have hprotocolId :
      LittleEndian.decode ((message.bytes.drop 30).take 4) = message.protocolId.toNat :=
    LittleEndian.decode_of_eq_encode (rfl : _ = LittleEndian.encode 4 _) message.protocolId.toNat_lt
  rw [decoded, hrest, hmessageType, hpriority, hsourceId, hdestinationId, hserviceId, hmode,
    htimeStamp, hprotocolId, length_bytes, Nat.add_sub_cancel_left, hpayload, UInt32.ofNat_toNat,
    UInt8.ofNat_toNat, UInt32.ofNat_toNat, UInt32.ofNat_toNat, UInt64.ofNat_toNat,
    UInt8.ofNat_toNat, UInt32.ofNat_toNat, UInt16.ofNat_toNat]

/-- Decoding from an empty buffer only loses the payload. -/
theorem networkToRm_empty (message : RMMessage) :
    (message.networkToRm MessageNet.new).1 = { message with payloadSize := 0 } := by
  rfl

/-- The constructor takes over the payload of the buffer. -/
theorem payload_ofPayload (messageType : MessageTypes) (priority : UInt8)
    (sourceId destinationId : UInt32) (serviceId : UInt64) (mode : UInt8)
    (protocolId : ProtocolIDs) {rmPayloadMessage : MessageNet} {bytes : List UInt8} (now : ℤ)
    (hholds : rmPayloadMessage.Holds bytes) (hlength : bytes.length ≤ maxPayload) :
    let message := ofPayload messageType priority sourceId destinationId serviceId mode protocolId
      rmPayloadMessage now
    message.payloadSize.toNat = bytes.length ∧ message.usedPayload = bytes := by
  have hsize : (UInt16.ofNat rmPayloadMessage.length).toNat = bytes.length := by
    rw [hholds.length_eq]
    unfold maxPayload at hlength
    exact Nat.mod_eq_of_lt (by omega)
  refine ⟨hsize, ?_⟩
  simp only [ofPayload, usedPayload]
  rw [hsize, hholds.take_eq]
  exact MessageNet.take_store_zero _ bytes

/-- `MessageNet_t payload; payload.add(message.payload, message.payload_size); payload.reset()`,
the buffer a client decodes the payload of a message from. -/
def payloadNet (message : RMMessage) : MessageNet :=
  (MessageNet.add (message.payload.take message.payloadSize.toNat) MessageNet.new).2.reset

/-- A client decodes the payload whose bytes a message carries. -/
theorem received_payloadNet {message : RMMessage} {payload : RMPayload}
    (h : payload.Representable)
    (hbytes : message.payload.take message.payloadSize.toNat = payload.bytes) :
    RMPayload.received message.payloadNet = payload := by
  have hroom : payload.bytes.length < MessageNet.new.maxSize := by
    rw [RMPayload.length_bytes h]
    decide
  refine RMPayload.received_of_unread h ?_
  rw [payloadNet, hbytes]
  exact MessageNet.unread_reset ((MessageNet.writes_add payload.bytes).holds_of_new hroom)

end RMMessage

end Tanos
