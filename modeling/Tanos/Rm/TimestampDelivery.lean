import Tanos.Rm.NetLayerRM

/-!
# What a timed command delivers

The resource manager puts the three timestamps of a reconfiguration into a payload, the payload into
a message and the message into a datagram. A client unpacks them in the opposite order, and copies
the payload to a buffer of its own in between. `exists_received` follows a command to its client:
the timestamps, the type and the mode arrive, the two identifiers arrive as the command has them.
The command has them in each other's place, so that they are right precisely when they are equal
(`delivers_iff`).
-/

set_option autoImplicit false
set_option relaxedAutoImplicit false

namespace Tanos

/-- The fields of a message that a client receives are those the resource manager was given, and so
are the timestamps in its payload. -/
structure RMMessage.Delivers (received : RMMessage) (stopTime recofigTime startTime : Timespec)
    (serviceId : UInt64) (networkMode : UInt32) (messageType : MessageTypes) (mcIterator : UInt32) :
    Prop where
  messageType_eq : received.messageType = messageType.code
  serviceId_eq : received.serviceId = serviceId
  mode_eq : received.mode.toNat = networkMode.toNat
  destinationId_eq : received.destinationId = mcIterator
  timestampStop_eq : (RMPayload.received received.payloadNet).timestampStop = stopTime
  timestampReconfig_eq : (RMPayload.received received.payloadNet).timestampReconfig = recofigTime
  timestampStart_eq : (RMPayload.received received.payloadNet).timestampStart = startTime

namespace NetLayerRM

section

variable (old : RMMessage) {stopTime recofigTime startTime : Timespec}
  (targetAddress : Option UdpEndpoint) (serviceId : UInt64) (networkMode : UInt32)
  (messageType : MessageTypes) (mcIterator : UInt32) {uninitialised : List UInt8} (now : ℤ)

/-- Assumes: the timestamps have values of their type. The message a client makes of the command,
whatever its message object was before. -/
theorem exists_received (hstop : MessageNet.FitsTimespec stopTime)
    (hreconfig : MessageNet.FitsTimespec recofigTime)
    (hstart : MessageNet.FitsTimespec startTime)
    (huninitialised : uninitialised.length = RMPayload.sizeofResourceRequest) :
    ∃ received, RMCommunication.receiveControlMessage old (RMCommunication.sendoutControlMessage
        ((sendTimeTriggeredSynchronousReconfigureType stopTime recofigTime startTime targetAddress
          serviceId networkMode messageType mcIterator).rmMessageOut uninitialised now)) =
        some received ∧
      received.messageType = messageType.code ∧
      received.destinationId = serviceId.toUInt32 ∧
      received.serviceId = mcIterator.toUInt64 ∧
      received.mode = networkMode.toUInt8 ∧
      RMPayload.received received.payloadNet = RMPayload.ofTimestamps .syncTimestampReconfgure
        stopTime recofigTime startTime uninitialised := by
  have hrepresentable := RMPayload.representable_ofTimestamps .syncTimestampReconfgure hstop
    hreconfig hstart huninitialised
  set rmProtocolPayload := RMPayload.ofTimestamps .syncTimestampReconfgure stopTime recofigTime
    startTime uninitialised
  set command := sendTimeTriggeredSynchronousReconfigureType stopTime recofigTime startTime
    targetAddress serviceId networkMode messageType mcIterator
  refine ⟨_, RMCommunication.receiveControlMessage_rmMessageOut command huninitialised old now, rfl,
    rfl, rfl, rfl, RMMessage.received_payloadNet hrepresentable ?_⟩
  simp only [(RMCommunication.payload_rmMessageOut command huninitialised now).1]
  exact MessageNet.take_store_zero old.payload rmProtocolPayload.bytes

/-- Assumes: the timestamps have values of their type and the mode fits into its byte. A command
delivers what the resource manager was given precisely when the service id is the number of the mode
change. -/
theorem delivers_iff (hstop : MessageNet.FitsTimespec stopTime)
    (hreconfig : MessageNet.FitsTimespec recofigTime)
    (hstart : MessageNet.FitsTimespec startTime)
    (huninitialised : uninitialised.length = RMPayload.sizeofResourceRequest)
    (hmode : networkMode.toNat < 256) :
    (∃ received, RMCommunication.receiveControlMessage old (RMCommunication.sendoutControlMessage
        ((sendTimeTriggeredSynchronousReconfigureType stopTime recofigTime startTime targetAddress
          serviceId networkMode messageType mcIterator).rmMessageOut uninitialised now)) =
        some received ∧
      received.Delivers stopTime recofigTime startTime serviceId networkMode messageType
        mcIterator) ↔ serviceId = mcIterator.toUInt64 := by
  obtain ⟨arrived, harrived, htype, hdestination, hservice, hmodeByte, hpayload⟩ :=
    exists_received old targetAddress serviceId networkMode messageType mcIterator now hstop
      hreconfig hstart huninitialised
  constructor
  · rintro ⟨received, hreceived, hdelivers⟩
    obtain rfl := Option.some.inj (harrived.symm.trans hreceived)
    rw [← hdelivers.serviceId_eq, hservice]
  · intro hequal
    refine ⟨arrived, harrived, htype, ?_, ?_, ?_, ?_, ?_, ?_⟩
    · rw [hservice, hequal]
    · rw [hmodeByte]
      exact Nat.mod_eq_of_lt hmode
    · rw [hdestination, hequal, UInt32.toUInt32_toUInt64]
    · rw [hpayload, RMPayload.ofTimestamps]
    · rw [hpayload, RMPayload.ofTimestamps]
    · rw [hpayload, RMPayload.ofTimestamps]

end

/-- The second mode change of service 2 is delivered. -/
theorem delivers_secondModeChange :
    ∃ received, RMCommunication.receiveControlMessage RMMessage.new
        (RMCommunication.sendoutControlMessage
          ((sendTimeTriggeredSynchronousReconfigureType ⟨10, 0⟩ ⟨11, 0⟩ ⟨12, 0⟩ none 2 1
            .rmClientSyncTimestampReconfigureHw 2).rmMessageOut (List.replicate 64 0) 0)) =
        some received ∧
      received.Delivers ⟨10, 0⟩ ⟨11, 0⟩ ⟨12, 0⟩ 2 1 .rmClientSyncTimestampReconfigureHw 2 :=
  (delivers_iff RMMessage.new none 2 1 .rmClientSyncTimestampReconfigureHw 2 0 (by decide)
    (by decide) (by decide) List.length_replicate (by decide)).mpr rfl

/-- The first mode change of service 2 arrives with service id 1. -/
theorem not_delivers_firstModeChange :
    ¬ ∃ received, RMCommunication.receiveControlMessage RMMessage.new
        (RMCommunication.sendoutControlMessage
          ((sendTimeTriggeredSynchronousReconfigureType ⟨10, 0⟩ ⟨11, 0⟩ ⟨12, 0⟩ none 2 1
            .rmClientSyncTimestampReconfigureHw 1).rmMessageOut (List.replicate 64 0) 0)) =
        some received ∧
      received.Delivers ⟨10, 0⟩ ⟨11, 0⟩ ⟨12, 0⟩ 2 1 .rmClientSyncTimestampReconfigureHw 1 := by
  rintro ⟨received, hreceived, hdelivers⟩
  obtain ⟨arrived, harrived, -, -, hservice, -⟩ :=
    exists_received RMMessage.new none 2 1 .rmClientSyncTimestampReconfigureHw 1 0
      (show MessageNet.FitsTimespec ⟨10, 0⟩ by decide)
      (show MessageNet.FitsTimespec ⟨11, 0⟩ by decide)
      (show MessageNet.FitsTimespec ⟨12, 0⟩ by decide) List.length_replicate
  obtain rfl := Option.some.inj (harrived.symm.trans hreceived)
  have hwrong := hdelivers.serviceId_eq.symm.trans hservice
  exact absurd hwrong (by decide)

end NetLayerRM

end Tanos
