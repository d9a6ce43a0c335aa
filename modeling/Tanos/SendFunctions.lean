import Tanos.RmCommunication

/-!
# The functions that send a control message with a payload

Thirteen functions of `RMCommunication` build a message from their arguments, by position, and send
it. `RMMessageOut` holds the messages they build, for any payload, and `SendCall` is one call of any
of them, with the arguments it is made with.

`carries_iff` follows a call to the message its receiver decodes. Twelve functions put every
argument into its field. `send_rm_message` passes the mode where the constructor takes the service
id and the service id where it takes the mode, so that its messages are right only when the two are
equal.
-/

set_option autoImplicit false
set_option relaxedAutoImplicit false

namespace Tanos

/-! ### The messages -/

namespace RMMessageOut

/-- `send_rm_message`. The mode and the service id are converted to each other's types. -/
def sendRmMessage (priority : UInt8) (sourceId : UInt32) (mode : UInt8) (serviceId : UInt64)
    (protocolId : ProtocolIDs) (messageType : MessageTypes) (payload : MessageNet) (now : ℤ) :
    RMMessage :=
  RMMessage.ofPayload messageType priority sourceId sourceId mode.toUInt64 serviceId.toUInt8
    protocolId payload now

/-- The functions without a destination: the message goes out under the id of its source. -/
def toSource (messageType : MessageTypes) (sourceId : UInt32) (serviceId : UInt64) (mode : UInt8)
    (payload : MessageNet) (now : ℤ) : RMMessage :=
  RMMessage.ofPayload messageType rmPriority sourceId sourceId serviceId mode .rmBasic payload now

/-- The functions with a destination. -/
def toDestination (messageType : MessageTypes) (sourceId destinationId : UInt32)
    (serviceId : UInt64) (mode : UInt32) (payload : MessageNet) (now : ℤ) : RMMessage :=
  RMMessage.ofPayload messageType rmPriority sourceId destinationId serviceId mode.toUInt8 .rmBasic
    payload now

/-- `send_start`. -/
def sendStart (sourceId : UInt32) (mode : UInt8) (serviceId : UInt64) :
    MessageNet → ℤ → RMMessage :=
  toSource .rmClientStart sourceId serviceId mode

/-- `send_start_sync`. -/
def sendStartSync (sourceId : UInt32) (mode : UInt8) (serviceId : UInt64) :
    MessageNet → ℤ → RMMessage :=
  toSource .rmClientSyncTimestampStart sourceId serviceId mode

/-- `send_sync_request`. -/
def sendSyncRequest (sourceId : UInt32) (mode : UInt8) (serviceId : UInt64) :
    MessageNet → ℤ → RMMessage :=
  RMCommunication.sendSyncRequest sourceId mode serviceId

/-- `send_sync_receive`. -/
def sendSyncReceive (sourceId : UInt32) (mode : UInt8) (serviceId : UInt64) :
    MessageNet → ℤ → RMMessage :=
  toSource .rmClientSyncReceive sourceId serviceId mode

/-- `send_sync_reconfigure_done`. -/
def sendSyncReconfigureDone (sourceId : UInt32) (mode : UInt8) (serviceId : UInt64) :
    MessageNet → ℤ → RMMessage :=
  toSource .rmClientSyncReconfigureDone sourceId serviceId mode

/-- `send_reconfig`. -/
def sendReconfig (sourceId destinationId : UInt32) (serviceId : UInt64) (mode : UInt32) :
    MessageNet → ℤ → RMMessage :=
  toDestination .rmClientReconfigureHw sourceId destinationId serviceId mode

/-- `send_sync_reconfig`. -/
def sendSyncReconfig (sourceId destinationId : UInt32) (serviceId : UInt64) (mode : UInt32) :
    MessageNet → ℤ → RMMessage :=
  toDestination .rmClientSyncTimestampReconfigure sourceId destinationId serviceId mode

/-- `send_sync_reconfig_type`. -/
def sendSyncReconfigType (sourceId destinationId : UInt32) (serviceId : UInt64) (mode : UInt32)
    (messageType : MessageTypes) : MessageNet → ℤ → RMMessage :=
  toDestination messageType sourceId destinationId serviceId mode

/-- `send_sync_stop`. -/
def sendSyncStop (sourceId : UInt32) (serviceId : UInt64) (mode : UInt32) :
    MessageNet → ℤ → RMMessage :=
  toSource .rmClientSyncTimestampStop sourceId serviceId mode.toUInt8

/-- `send_stop`. -/
def sendStop (sourceId : UInt32) (serviceId : UInt64) (mode : UInt32) :
    MessageNet → ℤ → RMMessage :=
  toSource .rmClientStop sourceId serviceId mode.toUInt8

/-- `send_sync_stop_exit`. -/
def sendSyncStopExit (sourceId : UInt32) (serviceId : UInt64) (mode : UInt32) :
    MessageNet → ℤ → RMMessage :=
  toSource .rmClientSyncTimestampExit sourceId serviceId mode.toUInt8

/-- `send_stop_exit`. -/
def sendStopExit (sourceId : UInt32) (serviceId : UInt64) (mode : UInt32) :
    MessageNet → ℤ → RMMessage :=
  toSource .rmClientExit sourceId serviceId mode.toUInt8

end RMMessageOut

/-! ### The calls -/

/-- A call of a `send_*` function, up to the address and the payload. -/
inductive SendCall where
  | rmMessage (priority : UInt8) (sourceId : UInt32) (mode : UInt8) (serviceId : UInt64)
    (protocolId : ProtocolIDs) (messageType : MessageTypes)
  | start (sourceId : UInt32) (mode : UInt8) (serviceId : UInt64)
  | startSync (sourceId : UInt32) (mode : UInt8) (serviceId : UInt64)
  | syncRequest (sourceId : UInt32) (mode : UInt8) (serviceId : UInt64)
  | syncReceive (sourceId : UInt32) (mode : UInt8) (serviceId : UInt64)
  | syncReconfigureDone (sourceId : UInt32) (mode : UInt8) (serviceId : UInt64)
  | reconfig (sourceId destinationId : UInt32) (serviceId : UInt64) (mode : UInt32)
  | syncReconfig (sourceId destinationId : UInt32) (serviceId : UInt64) (mode : UInt32)
  | syncReconfigType (sourceId destinationId : UInt32) (serviceId : UInt64) (mode : UInt32)
    (messageType : MessageTypes)
  | syncStop (sourceId : UInt32) (serviceId : UInt64) (mode : UInt32)
  | stop (sourceId : UInt32) (serviceId : UInt64) (mode : UInt32)
  | syncStopExit (sourceId : UInt32) (serviceId : UInt64) (mode : UInt32)
  | stopExit (sourceId : UInt32) (serviceId : UInt64) (mode : UInt32)
deriving DecidableEq, Repr

namespace SendCall

/-- `rm_message_out`. -/
def rmMessageOut : SendCall → MessageNet → ℤ → RMMessage
  | rmMessage priority sourceId mode serviceId protocolId messageType =>
    RMMessageOut.sendRmMessage priority sourceId mode serviceId protocolId messageType
  | start sourceId mode serviceId => RMMessageOut.sendStart sourceId mode serviceId
  | startSync sourceId mode serviceId => RMMessageOut.sendStartSync sourceId mode serviceId
  | syncRequest sourceId mode serviceId => RMMessageOut.sendSyncRequest sourceId mode serviceId
  | syncReceive sourceId mode serviceId => RMMessageOut.sendSyncReceive sourceId mode serviceId
  | syncReconfigureDone sourceId mode serviceId =>
    RMMessageOut.sendSyncReconfigureDone sourceId mode serviceId
  | reconfig sourceId destinationId serviceId mode =>
    RMMessageOut.sendReconfig sourceId destinationId serviceId mode
  | syncReconfig sourceId destinationId serviceId mode =>
    RMMessageOut.sendSyncReconfig sourceId destinationId serviceId mode
  | syncReconfigType sourceId destinationId serviceId mode messageType =>
    RMMessageOut.sendSyncReconfigType sourceId destinationId serviceId mode messageType
  | syncStop sourceId serviceId mode => RMMessageOut.sendSyncStop sourceId serviceId mode
  | stop sourceId serviceId mode => RMMessageOut.sendStop sourceId serviceId mode
  | syncStopExit sourceId serviceId mode => RMMessageOut.sendSyncStopExit sourceId serviceId mode
  | stopExit sourceId serviceId mode => RMMessageOut.sendStopExit sourceId serviceId mode

/-- The message type a function takes, or stands for. -/
def messageType : SendCall → MessageTypes
  | rmMessage _ _ _ _ _ messageType => messageType
  | start _ _ _ => .rmClientStart
  | startSync _ _ _ => .rmClientSyncTimestampStart
  | syncRequest _ _ _ => .rmClientSyncRequest
  | syncReceive _ _ _ => .rmClientSyncReceive
  | syncReconfigureDone _ _ _ => .rmClientSyncReconfigureDone
  | reconfig _ _ _ _ => .rmClientReconfigureHw
  | syncReconfig _ _ _ _ => .rmClientSyncTimestampReconfigure
  | syncReconfigType _ _ _ _ messageType => messageType
  | syncStop _ _ _ => .rmClientSyncTimestampStop
  | stop _ _ _ => .rmClientStop
  | syncStopExit _ _ _ => .rmClientSyncTimestampExit
  | stopExit _ _ _ => .rmClientExit

/-- The source id a function is called with. -/
def sourceId : SendCall → UInt32
  | rmMessage _ sourceId _ _ _ _ => sourceId
  | start sourceId _ _ | startSync sourceId _ _ | syncRequest sourceId _ _
  | syncReceive sourceId _ _ | syncReconfigureDone sourceId _ _ => sourceId
  | reconfig sourceId _ _ _ | syncReconfig sourceId _ _ _
  | syncReconfigType sourceId _ _ _ _ => sourceId
  | syncStop sourceId _ _ | stop sourceId _ _ | syncStopExit sourceId _ _
  | stopExit sourceId _ _ => sourceId

/-- The service id a function is called with. -/
def serviceId : SendCall → UInt64
  | rmMessage _ _ _ serviceId _ _ => serviceId
  | start _ _ serviceId | startSync _ _ serviceId | syncRequest _ _ serviceId
  | syncReceive _ _ serviceId | syncReconfigureDone _ _ serviceId => serviceId
  | reconfig _ _ serviceId _ | syncReconfig _ _ serviceId _
  | syncReconfigType _ _ serviceId _ _ => serviceId
  | syncStop _ serviceId _ | stop _ serviceId _ | syncStopExit _ serviceId _
  | stopExit _ serviceId _ => serviceId

/-- The mode a function is called with, of one byte in some and of four in the others. -/
def mode : SendCall → ℕ
  | rmMessage _ _ mode _ _ _ => mode.toNat
  | start _ mode _ | startSync _ mode _ | syncRequest _ mode _ | syncReceive _ mode _
  | syncReconfigureDone _ mode _ => mode.toNat
  | reconfig _ _ _ mode | syncReconfig _ _ _ mode | syncReconfigType _ _ _ mode _ => mode.toNat
  | syncStop _ _ mode | stop _ _ mode | syncStopExit _ _ mode | stopExit _ _ mode => mode.toNat

/-- A message with the arguments of a call in the fields of their names. -/
structure Carries (call : SendCall) (payload : MessageNet) (message : RMMessage) : Prop where
  serviceId_eq : message.serviceId = call.serviceId
  mode_eq : message.mode.toNat = call.mode
  sourceId_eq : message.sourceId = call.sourceId
  messageType_eq : message.messageType = call.messageType.code
  usedPayload_eq : message.usedPayload = payload.buffer.take payload.length

/-- The condition: only `send_rm_message` asks for a service id that is its mode. -/
def InOrder : SendCall → Prop
  | rmMessage _ _ mode serviceId _ _ => serviceId.toNat = mode.toNat
  | _ => True

/-! ### From a call to the decoded message -/

/-- What the receiver decodes from the datagram of a call, in its message object. -/
def received (call : SendCall) (payload : MessageNet) (now : ℤ) (old : RMMessage) : RMMessage :=
  (old.networkToRm (RMCommunication.receivedNet
    (RMCommunication.sendoutControlMessage (call.rmMessageOut payload now)))).1

section Payload

/-! Assumes: a payload within its buffer, of at most 1024 bytes. -/

variable (call : SendCall) {payload : MessageNet} (hbuffer : payload.length ≤ payload.buffer.length)
  (hpayload : payload.length ≤ maxPayload) (now : ℤ) (old : RMMessage)

include hbuffer hpayload

/-- Every function takes the payload over. -/
theorem payload_rmMessageOut :
    (call.rmMessageOut payload now).payloadSize.toNat = payload.length ∧
      (call.rmMessageOut payload now).usedPayload = payload.buffer.take payload.length := by
  have hlength : (payload.buffer.take payload.length).length = payload.length :=
    List.length_take_of_le hbuffer
  have hholds : (payload.seek payload.length).Holds (payload.buffer.take payload.length) := by
    refine ⟨hlength.symm, hlength.symm, ?_⟩
    rw [hlength]
    rfl
  have hofPayload := fun messageType priority sourceId destinationId serviceId mode protocolId ↦
    RMMessage.payload_ofPayload messageType priority sourceId destinationId serviceId mode
      protocolId now hholds (hlength.le.trans hpayload)
  rw [hlength] at hofPayload
  cases call <;> exact hofPayload _ _ _ _ _ _ _

/-- The decoded message has the fields of the message that is sent. -/
theorem received_eq :
    call.received payload now old =
      { call.rmMessageOut payload now with
        timeStamp := Int.bmod (call.rmMessageOut payload now).timeStamp (256 ^ 8)
        payload := MessageNet.store old.payload 0 (payload.buffer.take payload.length) } := by
  obtain ⟨hsize, hused⟩ := call.payload_rmMessageOut hbuffer hpayload now
  have hlength : (call.rmMessageOut payload now).usedPayload.length =
      (call.rmMessageOut payload now).payloadSize.toNat := by
    rw [hused, hsize]
    exact List.length_take_of_le hbuffer
  have hreceived := RMCommunication.receiveControlMessage_sendoutControlMessage old hlength
    (hsize.trans_le hpayload)
  rw [RMCommunication.receiveControlMessage] at hreceived
  split_ifs at hreceived
  rw [received, Option.some.inj hreceived, hused]

/-- The payload always arrives, so that it is the other fields that decide. -/
theorem carries_received_iff :
    Carries call payload (call.received payload now old) ↔
      (call.rmMessageOut payload now).serviceId = call.serviceId ∧
        (call.rmMessageOut payload now).mode.toNat = call.mode ∧
        (call.rmMessageOut payload now).sourceId = call.sourceId ∧
        (call.rmMessageOut payload now).messageType = call.messageType.code := by
  obtain ⟨hsize, -⟩ := call.payload_rmMessageOut hbuffer hpayload now
  rw [call.received_eq hbuffer hpayload now old]
  constructor
  · intro h
    exact ⟨h.serviceId_eq, h.mode_eq, h.sourceId_eq, h.messageType_eq⟩
  · rintro ⟨hserviceId, hmode, hsourceId, hmessageType⟩
    refine ⟨hserviceId, hmode, hsourceId, hmessageType, ?_⟩
    have hstored := MessageNet.take_store_zero old.payload (payload.buffer.take payload.length)
    rw [List.length_take_of_le hbuffer] at hstored
    change (MessageNet.store old.payload 0 (payload.buffer.take payload.length)).take
      (call.rmMessageOut payload now).payloadSize.toNat = _
    rw [hsize]
    exact hstored

/-- Assumes: a mode below 256 as well. Whatever the receiver decodes the message of a call into, it
finds all arguments in their fields precisely when the function is not `send_rm_message`, or the
service id is the mode. -/
theorem carries_iff (hmode : call.mode < 256) :
    Carries call payload (call.received payload now old) ↔ call.InOrder := by
  rw [call.carries_received_iff hbuffer hpayload now old]
  have hbyte : ∀ mode : UInt32, mode.toNat < 256 → mode.toUInt8.toNat = mode.toNat := by
    intro mode hlt
    rw [UInt32.toNat_toUInt8]
    exact Nat.mod_eq_of_lt hlt
  cases call with
  | rmMessage priority sourceId mode serviceId protocolId messageType =>
    constructor
    · rintro ⟨hserviceId, -⟩
      change mode.toUInt64 = serviceId at hserviceId
      change serviceId.toNat = mode.toNat
      rw [← hserviceId, UInt8.toNat_toUInt64]
    · intro hequal
      change serviceId.toNat = mode.toNat at hequal
      have hserviceId : mode.toUInt64 = serviceId := by
        rw [← UInt64.toNat_inj, UInt8.toNat_toUInt64, hequal]
      have hnarrow : serviceId.toUInt8.toNat = mode.toNat := by
        rw [UInt64.toNat_toUInt8, hequal]
        exact Nat.mod_eq_of_lt mode.toNat_lt
      exact ⟨hserviceId, hnarrow, rfl, rfl⟩
  | start sourceId mode serviceId => exact iff_of_true ⟨rfl, rfl, rfl, rfl⟩ trivial
  | startSync sourceId mode serviceId => exact iff_of_true ⟨rfl, rfl, rfl, rfl⟩ trivial
  | syncRequest sourceId mode serviceId => exact iff_of_true ⟨rfl, rfl, rfl, rfl⟩ trivial
  | syncReceive sourceId mode serviceId => exact iff_of_true ⟨rfl, rfl, rfl, rfl⟩ trivial
  | syncReconfigureDone sourceId mode serviceId => exact iff_of_true ⟨rfl, rfl, rfl, rfl⟩ trivial
  | _ => exact iff_of_true ⟨rfl, hbyte _ hmode, rfl, rfl⟩ trivial

end Payload

/-- A call of `send_rm_message` for a service and a mode with the same number, and with a payload of
136 bytes. -/
theorem carries_iff_sameNumber :
    let call := rmMessage 0 9 7 7 .rmBasic .rmClientStart
    let payload := RMPayload.blank.serialized
    Carries call payload (call.received payload 0 RMMessage.new) ↔ call.InOrder := by
  intro call payload
  have hbuffer : payload.length ≤ payload.buffer.length := by decide +kernel
  have hpayload : payload.length ≤ maxPayload := by decide +kernel
  exact carries_iff call hbuffer hpayload 0 RMMessage.new (by decide)

/-- A message of service 7 in mode 1 arrives as one of service 1 in mode 7. -/
theorem not_carries_serviceSeven :
    let call := rmMessage 0 9 1 7 .rmBasic .rmClientStart
    let received := call.received MessageNet.new 0 RMMessage.new
    received.serviceId = 1 ∧ received.mode = 7 ∧ ¬ Carries call MessageNet.new received := by
  intro call received
  have hbuffer : MessageNet.new.length ≤ MessageNet.new.buffer.length := Nat.zero_le _
  have hreceived := call.received_eq hbuffer (Nat.zero_le _) 0 RMMessage.new
  have hserviceId : received.serviceId = 1 := congrArg RMMessage.serviceId hreceived
  have hmode : received.mode = 7 := congrArg RMMessage.mode hreceived
  refine ⟨hserviceId, hmode, fun hcarries ↦ ?_⟩
  have hseven := hcarries.serviceId_eq
  rw [hserviceId] at hseven
  exact absurd hseven (by decide)

end SendCall

end Tanos
