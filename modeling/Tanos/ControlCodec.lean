import Tanos.RmCommunication

/-!
# The codec of control messages

`rm_to_network` and `network_to_rm` as a pair, for messages whose payload fits into the payload
array. The length of a message on the wire is that of its header and its payload. The decoder
recovers a message up to the unused rest of its payload array (`content_networkToRm`), and the
encoder reproduces the datagram a message has been decoded from (`sendoutControlMessage_decoded`).
-/

set_option autoImplicit false
set_option relaxedAutoImplicit false

namespace Tanos

open Library

/-- The buffer carries the datagram, with the cursor at its beginning. -/
structure MessageNet.Carries (net : MessageNet) (datagram : List UInt8) : Prop where
  pos_eq : net.pos = 0
  length_eq : net.length = datagram.length
  take_eq : net.buffer.take datagram.length = datagram

/-- The buffer a datagram is received into carries it. -/
theorem RMCommunication.carries_receivedNet {datagram : List UInt8}
    (hlength : datagram.length ≤ maxLength) : (receivedNet datagram).Carries datagram := by
  have htake : datagram.take maxLength = datagram := List.take_of_length_le hlength
  have hnet : (receivedNet datagram).length = datagram.length := by
    rw [length_receivedNet, min_eq_right hlength]
  refine ⟨rfl, hnet, ?_⟩
  rw [← hnet, take_buffer_receivedNet, htake]

/-- A buffer that has been written carries what it holds, once it is reset. -/
theorem MessageNet.Holds.carries_reset {net : MessageNet} {bytes : List UInt8}
    (hholds : net.Holds bytes) : net.reset.Carries bytes :=
  ⟨rfl, hholds.length_eq, hholds.take_eq⟩

namespace RMMessage

/-- The fields have values of their types. -/
structure Representable (message : RMMessage) : Prop where
  timeStamp : MessageNet.FitsInt64 message.timeStamp
  payload : message.payload.length = maxPayload

/-- Two messages with the same header fields and the same payload bytes in use. -/
structure SameContent (first second : RMMessage) : Prop where
  messageType_eq : first.messageType = second.messageType
  priority_eq : first.priority = second.priority
  sourceId_eq : first.sourceId = second.sourceId
  destinationId_eq : first.destinationId = second.destinationId
  serviceId_eq : first.serviceId = second.serviceId
  mode_eq : first.mode = second.mode
  timeStamp_eq : first.timeStamp = second.timeStamp
  protocolId_eq : first.protocolId = second.protocolId
  payloadSize_eq : first.payloadSize = second.payloadSize
  usedPayload_eq : first.usedPayload = second.usedPayload

/-- What is decoded from a buffer that carries a datagram with a complete header. -/
theorem networkToRm_of_carries (old : RMMessage) {net : MessageNet} {datagram : List UInt8}
    (hcarries : net.Carries datagram) (hheader : headerLength ≤ datagram.length)
    (hlength : datagram.length < 2 ^ 16) :
    (old.networkToRm net).1 = decoded old.payload datagram := by
  have hbuffer : datagram.length ≤ net.buffer.length := by
    have htake := congrArg List.length hcarries.take_eq
    rw [List.length_take] at htake
    omega
  have hseek : net.seek 0 = net := by
    rw [MessageNet.seek, ← hcarries.pos_eq]
  have hdecoded := old.networkToRm_of_header (hcarries.length_eq ▸ hheader)
    (hcarries.length_eq ▸ hbuffer) (hcarries.length_eq ▸ hlength)
  rw [hseek, hcarries.length_eq, hcarries.take_eq] at hdecoded
  exact hdecoded

/-! ### From the message to the datagram and back -/

section

variable {message : RMMessage} (hmessage : message.Representable)
  (hsize : message.payloadSize.toNat ≤ maxPayload)

include hmessage hsize

theorem length_usedPayload : message.usedPayload.length = message.payloadSize.toNat :=
  List.length_take_of_le (hmessage.payload ▸ hsize)

theorem length_bytes_of_representable :
    message.bytes.length = headerLength + message.payloadSize.toNat := by
  rw [message.length_bytes, length_usedPayload hmessage hsize]

theorem sendoutControlMessage_of_representable :
    RMCommunication.sendoutControlMessage message = message.bytes := by
  apply RMCommunication.sendoutControlMessage_eq_bytes
  rw [length_bytes_of_representable hmessage hsize]
  unfold maxPayload at hsize
  unfold headerLength maxLength
  omega

/-- The buffer the message is written to carries its datagram. -/
theorem carries_rmToNetwork :
    (message.rmToNetwork MessageNet.new).2.reset.Carries
      (RMCommunication.sendoutControlMessage message) := by
  rw [sendoutControlMessage_of_representable hmessage hsize]
  have hroom : message.bytes.length < MessageNet.new.maxSize := by
    rw [length_bytes_of_representable hmessage hsize]
    change 34 + _ < 1472
    unfold maxPayload at hsize
    omega
  exact (message.writes_rmToNetwork.holds_of_new hroom).carries_reset

/-- Assumes: a message whose payload fits into the payload array. Whatever message it is decoded
into, the content is recovered. -/
theorem content_networkToRm (old : RMMessage) {net : MessageNet}
    (hcarries : net.Carries message.bytes) : SameContent (old.networkToRm net).1 message := by
  have hlength := length_bytes_of_representable hmessage hsize
  have hused := length_usedPayload hmessage hsize
  have hdecoded : (old.networkToRm net).1 = decoded old.payload message.bytes := by
    refine old.networkToRm_of_carries hcarries ?_ ?_
    · omega
    · unfold headerLength at hlength
      unfold maxPayload at hsize
      omega
  rw [decoded_bytes old.payload hused] at hdecoded
  rw [hdecoded]
  refine ⟨rfl, rfl, rfl, rfl, rfl, rfl, ?_, rfl, rfl, ?_⟩
  · have hstamp := LittleEndian.decodeSigned_encodeSigned 8 message.timeStamp
    rw [MessageNet.decodeSigned_encodeSigned_of_fitsInt64 hmessage.timeStamp] at hstamp
    exact hstamp.symm
  · have hstored := MessageNet.take_store_zero old.payload message.usedPayload
    rw [hused] at hstored
    exact hstored

end

/-! ### From the datagram to the message and back -/

section

variable {datagram : List UInt8}

/-- A field of a datagram and what is behind it. -/
theorem take_append_drop_add (pos size : ℕ) :
    (datagram.drop pos).take size ++ datagram.drop (pos + size) = datagram.drop pos := by
  rw [← List.drop_drop, List.take_append_drop]

theorem length_field {pos size : ℕ} (hfits : pos + size ≤ datagram.length) :
    ((datagram.drop pos).take size).length = size := by
  apply List.length_take_of_le
  rw [List.length_drop]
  omega

/-- An unsigned field that is decoded, into a type with so many values, and encoded again. -/
theorem encode_decode_field {pos size values : ℕ} (hvalues : values = 256 ^ size)
    (hfits : pos + size ≤ datagram.length) :
    LittleEndian.encode size (LittleEndian.decode ((datagram.drop pos).take size) % values) =
      (datagram.drop pos).take size := by
  have hencoded := LittleEndian.encode_decode ((datagram.drop pos).take size)
  have hlt := LittleEndian.decode_lt ((datagram.drop pos).take size)
  rw [length_field hfits] at hencoded hlt
  rw [hvalues, Nat.mod_eq_of_lt hlt, hencoded]

/-- A signed field that is decoded and encoded again. -/
theorem encodeSigned_decodeSigned_field {pos size : ℕ} (hfits : pos + size ≤ datagram.length) :
    LittleEndian.encodeSigned size (LittleEndian.decodeSigned ((datagram.drop pos).take size)) =
      (datagram.drop pos).take size := by
  have hencoded := LittleEndian.encodeSigned_decodeSigned ((datagram.drop pos).take size)
  rwa [length_field hfits] at hencoded

/-- The bytes of a decoded message are the datagram. -/
theorem bytes_decoded (payload : List UInt8) (hheader : headerLength ≤ datagram.length)
    (hlength : datagram.length ≤ headerLength + maxPayload) :
    (decoded payload datagram).bytes = datagram := by
  have hused := usedPayload_decoded payload hlength
  unfold headerLength at hheader
  have hfield32 : ∀ pos, pos + 4 ≤ 34 → LittleEndian.encode 4
      (UInt32.ofNat (LittleEndian.decode ((datagram.drop pos).take 4))).toNat =
        (datagram.drop pos).take 4 := by
    intro pos hpos
    rw [UInt32.toNat_ofNat', encode_decode_field (by norm_num) (hpos.trans hheader)]
  have hfield8 : ∀ pos, pos + 1 ≤ 34 → LittleEndian.encode 1
      (UInt8.ofNat (LittleEndian.decode ((datagram.drop pos).take 1))).toNat =
        (datagram.drop pos).take 1 := by
    intro pos hpos
    rw [UInt8.toNat_ofNat', encode_decode_field (by norm_num) (hpos.trans hheader)]
  have hserviceId : LittleEndian.encode 8
      (UInt64.ofNat (LittleEndian.decode ((datagram.drop 13).take 8))).toNat =
        (datagram.drop 13).take 8 := by
    rw [UInt64.toNat_ofNat', encode_decode_field (by norm_num) (by omega)]
  have htimeStamp : LittleEndian.encodeSigned 8
      (LittleEndian.decodeSigned ((datagram.drop 22).take 8)) = (datagram.drop 22).take 8 :=
    encodeSigned_decodeSigned_field (by omega)
  have hmessageType := hfield32 0 (by omega)
  rw [List.drop_zero] at hmessageType
  rw [bytes, hused]
  unfold decoded headerLength
  simp only
  rw [hmessageType, hfield8 4 (by omega), hfield32 5 (by omega), hfield32 9 (by omega), hserviceId,
    hfield8 21 (by omega), htimeStamp, hfield32 30 (by omega), List.append_nil,
    take_append_drop_add 30 4, take_append_drop_add 22 8, take_append_drop_add 21 1,
    take_append_drop_add 13 8, take_append_drop_add 9 4, take_append_drop_add 5 4,
    take_append_drop_add 4 1, List.take_append_drop]

/-- Assumes: a datagram with a complete header and a payload that fits into the payload array. The
message that is decoded from it is sent as the same datagram. -/
theorem sendoutControlMessage_decoded (payload : List UInt8)
    (hheader : headerLength ≤ datagram.length)
    (hlength : datagram.length ≤ headerLength + maxPayload) :
    RMCommunication.sendoutControlMessage (decoded payload datagram) = datagram := by
  have hbytes := bytes_decoded payload hheader hlength
  rw [RMCommunication.sendoutControlMessage_eq_bytes, hbytes]
  rw [hbytes]
  unfold headerLength maxPayload at hlength
  unfold maxLength
  omega

end

/-! ### Both directions -/

/-- Every message whose payload fits into the payload array is encoded to a datagram with its
header and its payload, and is recovered from any buffer that carries this datagram. Every datagram
that a message with a complete header can have is the one its message is encoded to. -/
theorem codec_exact :
    (∀ message : RMMessage, message.Representable → message.payloadSize.toNat ≤ maxPayload →
      let datagram := RMCommunication.sendoutControlMessage message
      datagram.length = headerLength + message.payloadSize.toNat ∧
        (message.rmToNetwork MessageNet.new).2.reset.Carries datagram ∧
        ∀ (old : RMMessage) (net : MessageNet), net.Carries datagram →
          SameContent (old.networkToRm net).1 message) ∧
    ∀ datagram : List UInt8, headerLength ≤ datagram.length →
      datagram.length ≤ headerLength + maxPayload →
        ∀ (old : RMMessage) (net : MessageNet), net.Carries datagram →
          RMCommunication.sendoutControlMessage (old.networkToRm net).1 = datagram := by
  constructor
  · intro message hmessage hsize datagram
    have hbytes : datagram = message.bytes :=
      sendoutControlMessage_of_representable hmessage hsize
    refine ⟨?_, carries_rmToNetwork hmessage hsize, fun old net hcarries ↦ ?_⟩
    · rw [hbytes, length_bytes_of_representable hmessage hsize]
    · exact content_networkToRm hmessage hsize old (hbytes ▸ hcarries)
  · intro datagram hheader hlength old net hcarries
    have hshort : datagram.length < 2 ^ 16 := by
      unfold headerLength maxPayload at hlength
      omega
    rw [old.networkToRm_of_carries hcarries hheader hshort]
    exact sendoutControlMessage_decoded old.payload hheader hlength

/-- A datagram of a header and one byte of payload. -/
theorem codec_exact_single :
    RMCommunication.sendoutControlMessage (RMMessage.new.networkToRm
      (RMCommunication.receivedNet (List.replicate 35 7))).1 = List.replicate 35 7 ∧
    (RMCommunication.sendoutControlMessage RMMessage.new).length = 34 := by
  have hcarries := RMCommunication.carries_receivedNet
    (show (List.replicate 35 (7 : UInt8)).length ≤ maxLength by decide)
  have hnew : RMMessage.new.Representable := ⟨by decide, List.length_replicate⟩
  exact ⟨codec_exact.2 _ (by decide) (by decide) RMMessage.new _ hcarries,
    (codec_exact.1 RMMessage.new hnew (by decide)).1⟩

end RMMessage

end Tanos
