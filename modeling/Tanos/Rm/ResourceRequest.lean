import Tanos.Rm.SingleClient

/-!
# The resource request of a client

A client asks to be managed with a message whose payload is its resource request. On the way into
the service list the message is decoded three times: from its datagram, by `handle_message`, and
by `handle_sync_messages`. The last two decode from a buffer that nothing has been copied to, and
lose the payload (`getElem?_handleMessage`). `keepsRequest_iff` is the consequence: the resource
manager keeps a request precisely when there is nothing in it.
-/

set_option autoImplicit false
set_option relaxedAutoImplicit false

namespace Tanos

namespace NetLayerRM

/-- The resource request that `handle_sync_messages` deserializes, out of the buffer that it has
decoded the message from. -/
def rmClientResourceRequest (message : RMMessage) : RMPayload :=
  RMPayload.received (message.networkToRm MessageNet.new).2

/-- The request in a buffer of the client, which it sends and the resource manager dequeues, is
kept: the entry that is made for the service carries the payload of the client, and what is
deserialized are its values. -/
structure KeepsRequest (rm : NetLayerRM) (payload : MessageNet) (sent dequeued : RMMessage) :
    Prop where
  stored : ∃ entry, (rm.handleMessage dequeued).serviceList.entries[sent.serviceId]? = some entry ∧
    entry.payloadSize = sent.payloadSize ∧ entry.usedPayload = sent.usedPayload
  deserialized : (rmClientResourceRequest (dequeued.networkToRm MessageNet.new).1).SameValues
    (RMPayload.received payload.reset)

/-- The entry a request makes is the message without its payload. -/
theorem getElem?_handleMessage {rm : NetLayerRM} {message : RMMessage}
    (htype : message.messageType = MessageTypes.rmClientSyncRequest.code)
    (hnew : rm.serviceList.entries[message.serviceId]? = none) :
    (rm.handleMessage message).serviceList.entries[message.serviceId]? =
      some { message with payloadSize := 0 } := by
  have hofCode : MessageTypes.ofCode message.messageType = some .rmClientSyncRequest := by
    rw [htype, MessageTypes.ofCode_code]
  simp only [handleMessage, handleSyncMessages, RMMessage.networkToRm_empty, hofCode, hnew,
    ServiceList.insert]
  rw [StdMap.getElem?_insert, if_pos rfl]

section

variable (old : RMMessage) (sourceId : UInt32) (mode : UInt8) (serviceId : UInt64) (now : ℤ)
  {payload : MessageNet} {bytes : List UInt8}

theorem payload_sendSyncRequest (hpayload : payload.Holds bytes)
    (hlength : bytes.length ≤ maxPayload) :
    let sent := RMCommunication.sendSyncRequest sourceId mode serviceId payload now
    sent.payloadSize.toNat = bytes.length ∧ sent.usedPayload = bytes :=
  RMMessage.payload_ofPayload .rmClientSyncRequest rmPriority sourceId sourceId serviceId mode
    .rmBasic now hpayload hlength

/-- The message that arrives is the one the client has sent. -/
theorem exists_dequeued (hpayload : payload.Holds bytes) (hlength : bytes.length ≤ maxPayload) :
    ∃ dequeued, RMCommunication.receiveControlMessage old (RMCommunication.sendoutControlMessage
        (RMCommunication.sendSyncRequest sourceId mode serviceId payload now)) = some dequeued ∧
      dequeued.messageType = MessageTypes.rmClientSyncRequest.code ∧
      dequeued.serviceId = serviceId := by
  obtain ⟨hsize, hused⟩ := payload_sendSyncRequest sourceId mode serviceId now hpayload hlength
  refine ⟨_, RMCommunication.receiveControlMessage_sendoutControlMessage old ?_ ?_, rfl, rfl⟩
  · rw [hused, hsize]
  · rw [hsize]
    exact hlength

variable {rm : NetLayerRM}

/-- A request that is kept has no payload: the entry has none. -/
theorem eq_nil_of_keepsRequest (hnew : rm.serviceList.entries[serviceId]? = none)
    (hpayload : payload.Holds bytes) (hlength : bytes.length ≤ maxPayload) {dequeued : RMMessage}
    (hdequeued : RMCommunication.receiveControlMessage old (RMCommunication.sendoutControlMessage
      (RMCommunication.sendSyncRequest sourceId mode serviceId payload now)) = some dequeued)
    (hkept : rm.KeepsRequest payload
      (RMCommunication.sendSyncRequest sourceId mode serviceId payload now) dequeued) :
    bytes = [] := by
  obtain ⟨arrived, harrived, htype, hserviceId⟩ :=
    exists_dequeued old sourceId mode serviceId now hpayload hlength
  obtain rfl := Option.some.inj (harrived.symm.trans hdequeued)
  have hentry := getElem?_handleMessage htype (hserviceId ▸ hnew)
  rw [hserviceId] at hentry
  obtain ⟨entry, hsome, hentrySize, -⟩ := hkept.stored
  obtain rfl := Option.some.inj (hentry.symm.trans hsome)
  have hsize := (payload_sendSyncRequest sourceId mode serviceId now hpayload hlength).1
  rw [← hentrySize] at hsize
  exact List.length_eq_zero_iff.mp hsize.symm

/-- Without a payload there is nothing to lose. -/
theorem exists_keepsRequest_of_eq_nil (hnew : rm.serviceList.entries[serviceId]? = none)
    (hpayload : payload.Holds []) :
    let sent := RMCommunication.sendSyncRequest sourceId mode serviceId payload now
    ∃ dequeued, RMCommunication.receiveControlMessage old
        (RMCommunication.sendoutControlMessage sent) = some dequeued ∧
      rm.KeepsRequest payload sent dequeued := by
  intro sent
  have hlength : ([] : List UInt8).length ≤ maxPayload := Nat.zero_le _
  obtain ⟨hsize, hused⟩ := payload_sendSyncRequest sourceId mode serviceId now hpayload hlength
  obtain ⟨arrived, harrived, htype, hserviceId⟩ :=
    exists_dequeued old sourceId mode serviceId now hpayload hlength
  have hentry := getElem?_handleMessage htype (hserviceId ▸ hnew)
  rw [hserviceId] at hentry
  refine ⟨arrived, harrived, ⟨_, hentry, ?_, ?_⟩, ?_⟩
  · apply UInt16.toNat.inj
    exact hsize.symm
  · exact hused.symm
  · have hreceived : RMPayload.received payload.reset = RMPayload.blank :=
      congrArg Prod.fst (RMPayload.blank.deserialize_of_empty hpayload.length_eq)
    rw [hreceived]
    rfl

/-- Assumes: the client asks for a service that is not in the list yet, with a payload that fits
into a message. The resource manager keeps the request precisely when the payload is empty. -/
theorem keepsRequest_iff (hnew : rm.serviceList.entries[serviceId]? = none)
    (hpayload : payload.Holds bytes) (hlength : bytes.length ≤ maxPayload) :
    let sent := RMCommunication.sendSyncRequest sourceId mode serviceId payload now
    (∃ dequeued, RMCommunication.receiveControlMessage old
        (RMCommunication.sendoutControlMessage sent) = some dequeued ∧
      rm.KeepsRequest payload sent dequeued) ↔ bytes = [] := by
  intro sent
  constructor
  · rintro ⟨dequeued, hdequeued, hkept⟩
    exact eq_nil_of_keepsRequest old sourceId mode serviceId now hnew hpayload hlength hdequeued
      hkept
  · rintro rfl
    exact exists_keepsRequest_of_eq_nil old sourceId mode serviceId now hnew hpayload

end

/-- The manager of the single client keeps a request without a payload for another service. -/
theorem keepsRequest_withoutPayload :
    let rm := singleClient (singleParameter 1000 100 100 100) 0 ⟨0, 0⟩
    let sent := RMCommunication.sendSyncRequest 2 0 2 MessageNet.new 0
    ∃ dequeued, RMCommunication.receiveControlMessage RMMessage.new
        (RMCommunication.sendoutControlMessage sent) = some dequeued ∧
      rm.KeepsRequest MessageNet.new sent dequeued :=
  (keepsRequest_iff RMMessage.new 2 0 2 0 rfl MessageNet.holds_new (Nat.zero_le _)).mpr rfl

/-- The request an end node sends when it starts, with the resources of a mode 0 all zero. -/
def endnodeRequest : RMPayload :=
  { RMPayload.blank with objectSize := 2000, objectDeadline := 100000000 }

/-- The manager of the single client does not keep the request of an endnode for another
service. -/
theorem not_keepsRequest_endnodeRequest :
    let rm := singleClient (singleParameter 1000 100 100 100) 0 ⟨0, 0⟩
    let payload := (endnodeRequest.serialize MessageNet.new).2
    let sent := RMCommunication.sendSyncRequest 2 0 2 payload 0
    ¬ ∃ dequeued, RMCommunication.receiveControlMessage RMMessage.new
        (RMCommunication.sendoutControlMessage sent) = some dequeued ∧
      rm.KeepsRequest payload sent dequeued := by
  rintro rm payload sent ⟨dequeued, hdequeued, hkept⟩
  have hlength : endnodeRequest.bytes.length = 136 := by rfl
  have hholds : payload.Holds endnodeRequest.bytes :=
    endnodeRequest.writes_serialize.holds_of_new (by rw [hlength]; decide)
  have hnil := eq_nil_of_keepsRequest RMMessage.new 2 0 2 0 rfl hholds
    (by rw [hlength]; decide) hdequeued hkept
  rw [hnil] at hlength
  simp at hlength

end NetLayerRM

end Tanos
