import Tanos.Messages

/-!
# The control channel

The resource manager speaks to its clients through the `send_*` functions of `RMCommunication`. A
`ControlCommand` is one such call. The mode is the one the caller passes, before it is narrowed to
the single byte of the message. A `ServiceCommand` also says for which registered service the call
is made, which is not always the service id the call puts into the message.

`sendoutControlMessage` makes the datagram of a message and `receiveControlMessage` takes a datagram
apart, in place: it decodes into a message object that its callers use for all datagrams.
`receiveControlMessage_sendoutControlMessage` is the way from one end to the other.
-/

set_option autoImplicit false
set_option relaxedAutoImplicit false

namespace Tanos

/-- `RM_PRIORITY`, the priority of all control messages. -/
def rmPriority : UInt8 := 0

/-- `udp::endpoint`. -/
structure UdpEndpoint where
  address : String
  port : UInt16
deriving DecidableEq, Repr

/-- The arguments of the payload constructor for timed commands. -/
structure TimestampPayload where
  rmClientAction : RMCommand
  timestampStop : Timespec
  timestampReconfig : Timespec
  timestampStart : Timespec
deriving DecidableEq, Repr

/-- One call of a `send_*` function. The address is none where the source reads the first element
of an empty list of addresses, the payload is none where it passes an empty buffer. -/
structure ControlCommand where
  messageType : MessageTypes
  targetAddress : Option UdpEndpoint
  sourceId : UInt32
  destinationId : UInt32
  serviceId : UInt64
  mode : UInt32
  payload : Option TimestampPayload
deriving DecidableEq, Repr

/-- A call of a `send_*` function, made for a service. -/
structure ServiceCommand extends ControlCommand where
  service : UInt64
deriving DecidableEq, Repr

namespace ControlCommand

/-- The payload buffer of a call. The bytes of the resource request are those of an object that the
constructor of the payload leaves uninitialised. -/
def rmPayload (command : ControlCommand) (uninitialised : List UInt8) : MessageNet :=
  match command.payload with
  | none => MessageNet.new
  | some payload =>
    ((RMPayload.ofTimestamps payload.rmClientAction payload.timestampStop payload.timestampReconfig
      payload.timestampStart uninitialised).serialize MessageNet.new).2

/-- The message a call makes. -/
def rmMessageOut (command : ControlCommand) (uninitialised : List UInt8) (now : ℤ) : RMMessage :=
  RMMessage.ofPayload command.messageType rmPriority command.sourceId command.destinationId
    command.serviceId command.mode.toUInt8 .rmBasic (command.rmPayload uninitialised) now

end ControlCommand

namespace RMCommunication

/-- `send_start`. -/
def sendStart (targetAddress : Option UdpEndpoint) (sourceId mode : UInt32) (serviceId : UInt64)
    (payload : Option TimestampPayload) : ControlCommand :=
  ⟨.rmClientStart, targetAddress, sourceId, sourceId, serviceId, mode, payload⟩

/-- `send_start_sync`. -/
def sendStartSync (targetAddress : Option UdpEndpoint) (sourceId mode : UInt32)
    (serviceId : UInt64) (payload : Option TimestampPayload) : ControlCommand :=
  ⟨.rmClientSyncTimestampStart, targetAddress, sourceId, sourceId, serviceId, mode, payload⟩

/-- `send_reconfig`. -/
def sendReconfig (targetAddress : Option UdpEndpoint) (sourceId destinationId : UInt32)
    (serviceId : UInt64) (mode : UInt32) (payload : Option TimestampPayload) : ControlCommand :=
  ⟨.rmClientReconfigureHw, targetAddress, sourceId, destinationId, serviceId, mode, payload⟩

/-- `send_sync_reconfig_type`. -/
def sendSyncReconfigType (targetAddress : Option UdpEndpoint) (sourceId destinationId : UInt32)
    (serviceId : UInt64) (mode : UInt32) (messageType : MessageTypes)
    (payload : Option TimestampPayload) : ControlCommand :=
  ⟨messageType, targetAddress, sourceId, destinationId, serviceId, mode, payload⟩

/-- `send_sync_stop_exit`. -/
def sendSyncStopExit (targetAddress : Option UdpEndpoint) (sourceId : UInt32) (serviceId : UInt64)
    (mode : UInt32) (payload : Option TimestampPayload) : ControlCommand :=
  ⟨.rmClientSyncTimestampExit, targetAddress, sourceId, sourceId, serviceId, mode, payload⟩

/-- `send_stop_exit`. -/
def sendStopExit (targetAddress : Option UdpEndpoint) (sourceId : UInt32) (serviceId : UInt64)
    (mode : UInt32) (payload : Option TimestampPayload) : ControlCommand :=
  ⟨.rmClientExit, targetAddress, sourceId, sourceId, serviceId, mode, payload⟩

/-- `send_sync_request`, the message of a client that asks to be managed. -/
def sendSyncRequest (sourceId : UInt32) (mode : UInt8) (serviceId : UInt64) (payload : MessageNet)
    (now : ℤ) : RMMessage :=
  RMMessage.ofPayload .rmClientSyncRequest rmPriority sourceId sourceId serviceId mode .rmBasic
    payload now

/-- `send_release`, the message of a client that gives its service back. -/
def sendRelease (sourceId : UInt32) (serviceId : UInt64) (now : ℤ) : RMMessage :=
  RMMessage.ofRequest .rmClientRelease rmPriority sourceId sourceId serviceId now

/-! ### Datagrams -/

/-- `sendout_control_message`, the datagram of a message. -/
def sendoutControlMessage (message : RMMessage) : List UInt8 :=
  let rmBuffer := (message.rmToNetwork MessageNet.new).2
  rmBuffer.buffer.take rmBuffer.length

/-- The buffer that `receive_from` fills, with as much of the datagram as it holds. -/
def receivedNet (datagram : List UInt8) : MessageNet :=
  { MessageNet.new with
    buffer := MessageNet.store MessageNet.new.buffer 0 (datagram.take maxLength)
    length := (datagram.take maxLength).length }

/-- `receive_control_message`, for the message object of the caller. It is none where the payload
does not fit into the payload array and the source writes beyond the end of it. -/
def receiveControlMessage (message : RMMessage) (datagram : List UInt8) : Option RMMessage :=
  let received := (message.networkToRm (receivedNet datagram)).1
  if received.payloadSize.toNat ≤ maxPayload then some received else none

/-- Assumes: the message fits into a buffer. -/
theorem sendoutControlMessage_eq_bytes {message : RMMessage}
    (hfits : message.bytes.length < maxLength) : sendoutControlMessage message = message.bytes := by
  have hholds := message.writes_rmToNetwork.holds_of_new hfits
  rw [sendoutControlMessage, hholds.length_eq]
  exact hholds.take_eq

theorem length_receivedNet (datagram : List UInt8) :
    (receivedNet datagram).length = min maxLength datagram.length :=
  List.length_take

theorem take_buffer_receivedNet (datagram : List UInt8) :
    (receivedNet datagram).buffer.take (receivedNet datagram).length = datagram.take maxLength :=
  MessageNet.take_store_zero _ (datagram.take maxLength)

theorem seek_receivedNet (datagram : List UInt8) :
    (receivedNet datagram).seek 0 = receivedNet datagram := rfl

/-- What is decoded from a datagram with a complete header. -/
theorem networkToRm_receivedNet (message : RMMessage) {datagram : List UInt8}
    (hheader : headerLength ≤ datagram.length) :
    (message.networkToRm (receivedNet datagram)).1 =
      RMMessage.decoded message.payload (datagram.take maxLength) := by
  have hlength := length_receivedNet datagram
  unfold maxLength at hlength
  have hle : (receivedNet datagram).length ≤ (receivedNet datagram).buffer.length := by
    have htake := congrArg List.length (take_buffer_receivedNet datagram)
    rw [List.length_take, List.length_take] at htake
    unfold maxLength at htake
    omega
  unfold headerLength at hheader
  rw [← seek_receivedNet, message.networkToRm_of_header _ hle _, take_buffer_receivedNet]
  · unfold headerLength
    omega
  · omega

/-- Assumes: the header is complete and the payload fits into the payload array. -/
theorem receiveControlMessage_of_header (message : RMMessage) {datagram : List UInt8}
    (hheader : headerLength ≤ datagram.length)
    (hpayload : datagram.length ≤ headerLength + maxPayload) :
    receiveControlMessage message datagram =
      some (RMMessage.decoded message.payload datagram) := by
  unfold headerLength maxPayload at hpayload
  have htake : datagram.take maxLength = datagram :=
    List.take_of_length_le (by unfold maxLength; omega)
  have hsize : (RMMessage.decoded message.payload datagram).payloadSize.toNat ≤ maxPayload := by
    change (datagram.length - 34) % 2 ^ 16 ≤ 1024
    omega
  rw [receiveControlMessage, networkToRm_receivedNet message hheader, htake]
  exact if_pos hsize

/-- A payload that is too long for the payload array. -/
theorem receiveControlMessage_of_long (message : RMMessage) {datagram : List UInt8}
    (hpayload : headerLength + maxPayload < datagram.length) :
    receiveControlMessage message datagram = none := by
  unfold headerLength maxPayload at hpayload
  have hheader : headerLength ≤ datagram.length := by
    unfold headerLength
    omega
  have hsize : ¬ (RMMessage.decoded message.payload
      (datagram.take maxLength)).payloadSize.toNat ≤ maxPayload := by
    change ¬ ((datagram.take 1472).length - 34) % 2 ^ 16 ≤ 1024
    rw [List.length_take]
    omega
  rw [receiveControlMessage, networkToRm_receivedNet message hheader]
  exact if_neg hsize

/-- A datagram that ends within the header is received, with what it has. -/
theorem receiveControlMessage_of_short (message : RMMessage) {datagram : List UInt8}
    (hshort : datagram.length < headerLength) :
    receiveControlMessage message datagram =
      some (message.networkToRm (receivedNet datagram)).1 := by
  have hlength := length_receivedNet datagram
  have hsize := message.payloadSize_networkToRm_le (receivedNet datagram)
  unfold headerLength at hshort
  rw [receiveControlMessage]
  apply if_pos
  unfold maxPayload
  omega

/-- Assumes: the message has the payload its size says, and it fits into the payload array. The
message at the other end has the fields of the message that is sent. -/
theorem receiveControlMessage_sendoutControlMessage (old : RMMessage) {message : RMMessage}
    (hused : message.usedPayload.length = message.payloadSize.toNat)
    (hpayload : message.payloadSize.toNat ≤ maxPayload) :
    receiveControlMessage old (sendoutControlMessage message) =
      some { message with
        timeStamp := Int.bmod message.timeStamp (256 ^ 8)
        payload := MessageNet.store old.payload 0 message.usedPayload } := by
  have hlength := message.length_bytes
  have hfits : message.bytes.length < maxLength := by
    unfold maxLength headerLength at *
    unfold maxPayload at hpayload
    omega
  rw [sendoutControlMessage_eq_bytes hfits, receiveControlMessage_of_header,
    RMMessage.decoded_bytes _ hused] <;> omega

/-! ### From a call to its receiver -/

/-- The bytes of the payload of a call. -/
def payloadBytes (command : ControlCommand) (uninitialised : List UInt8) : List UInt8 :=
  match command.payload with
  | none => []
  | some payload => (RMPayload.ofTimestamps payload.rmClientAction payload.timestampStop
    payload.timestampReconfig payload.timestampStart uninitialised).bytes

section

variable (command : ControlCommand) {uninitialised : List UInt8}
  (huninitialised : uninitialised.length = RMPayload.sizeofResourceRequest)

include huninitialised

theorem length_payloadBytes_le : (payloadBytes command uninitialised).length ≤ 136 := by
  unfold payloadBytes
  cases command.payload with
  | none => exact Nat.zero_le _
  | some payload => exact (RMPayload.length_bytes_of_request huninitialised).le

theorem holds_rmPayload :
    (command.rmPayload uninitialised).Holds (payloadBytes command uninitialised) := by
  have hlength := length_payloadBytes_le command huninitialised
  unfold payloadBytes at hlength
  unfold ControlCommand.rmPayload payloadBytes
  cases hpayload : command.payload with
  | none => exact MessageNet.holds_new
  | some payload =>
    rw [hpayload] at hlength
    exact (RMPayload.writes_serialize _).holds_of_new (hlength.trans_lt (by decide))

/-- The message of a call has the payload of the call. -/
theorem payload_rmMessageOut (now : ℤ) :
    (command.rmMessageOut uninitialised now).payloadSize.toNat =
        (payloadBytes command uninitialised).length ∧
      (command.rmMessageOut uninitialised now).usedPayload = payloadBytes command uninitialised :=
  RMMessage.payload_ofPayload _ _ _ _ _ _ _ now (holds_rmPayload command huninitialised)
    ((length_payloadBytes_le command huninitialised).trans (by decide))

/-- What a client receives of a call: the message of the call, with its payload in the payload array
of the client. -/
theorem receiveControlMessage_rmMessageOut (old : RMMessage) (now : ℤ) :
    receiveControlMessage old (sendoutControlMessage (command.rmMessageOut uninitialised now)) =
      some { command.rmMessageOut uninitialised now with
        timeStamp := Int.bmod now (256 ^ 8)
        payload := MessageNet.store old.payload 0 (payloadBytes command uninitialised) } := by
  obtain ⟨hsize, hused⟩ := payload_rmMessageOut command huninitialised now
  have hpayload : (command.rmMessageOut uninitialised now).payloadSize.toNat ≤ maxPayload :=
    hsize.trans_le ((length_payloadBytes_le command huninitialised).trans (by decide))
  rw [receiveControlMessage_sendoutControlMessage old (by rw [hused, hsize]) hpayload, hused]
  rfl

end

end RMCommunication

end Tanos
