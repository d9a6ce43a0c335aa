import Tanos.DataSharing.MessageNet

/-!
# Data messages

`DataMessage` is the packet of sensor data that the traffic generators send. `dataToNet` writes it
to a datagram field by field and `netToData` reads one, at offsets that are the sums of the field
sizes before. Two other sums are the `length` a constructed message is sent with, which leaves the
second time stamp out, and the `headerLength` a default-constructed message is received with, which
does not. The receiver therefore takes every payload to be eight bytes shorter than it is
(`payloadLength_of_netToData`), and no message survives the way (`not_roundTrip`).

The payload constructors and `set_payload` copy the payload from their argument to their argument,
which has the name of the member. The payload of a constructed message is all zeros.
-/

set_option autoImplicit false
set_option relaxedAutoImplicit false

namespace Tanos

open Library

/-- `MAX_PROTOCOL_MESSAGE_LENGTH`, the payload of a full packet. -/
def maxProtocolMessageLength : ℕ := 1427

/-- `class DataMessage`. The payload is the whole payload array of the source. -/
structure DataMessage where
  priority : UInt8
  sourceId : UInt32
  serviceId : UInt64
  objectNumber : UInt32
  fragmentNumber : UInt32
  totalFragments : UInt32
  timestamp : Timespec
  timeStamp : ℤ
  payloadLength : UInt32
  headerLength : UInt32
  length : UInt32
  payload : List UInt8
deriving DecidableEq, Repr

namespace DataMessage

/-- `rscmng::max_length - 21`, the size of the payload array. -/
def payloadCapacity : ℕ := maxLength - 21

/-- `DataMessage()`, which leaves the object number uninitialised. -/
def new (uninitialised : UInt32) : DataMessage where
  priority := 0xFF
  sourceId := 0
  serviceId := 0xFFFFFFFFFFFFFFFF
  objectNumber := uninitialised
  fragmentNumber := 0xFFFFFFFF
  totalFragments := 0xFFFFFFFF
  timestamp := ⟨0, 0⟩
  timeStamp := 0
  payloadLength := 0
  headerLength := 49
  length := 49
  payload := List.replicate payloadCapacity 0

/-- The payload constructor with a time stamp, for a reading of the clock. In the source
`memcpy(payload, payload, payload_size)` copies the argument to itself. -/
def ofPayloadAt (priority : UInt8) (clientId : UInt32) (serviceId : UInt64)
    (objectNumber fragmentNumber totalNumber : UInt32) (_payload : List UInt8) (payloadSize : ℕ)
    (timestamp : Timespec) (now : ℤ) : DataMessage where
  priority := priority
  sourceId := clientId
  serviceId := serviceId
  objectNumber := objectNumber
  fragmentNumber := fragmentNumber
  totalFragments := totalNumber
  timestamp := timestamp
  timeStamp := now
  payloadLength := UInt32.ofNat payloadSize
  headerLength := 41
  length := 41 + UInt32.ofNat payloadSize
  payload := List.replicate payloadCapacity 0

/-- The payload constructor without a time stamp. -/
def ofPayload (priority : UInt8) (clientId : UInt32) (serviceId : UInt64)
    (objectNumber fragmentNumber totalNumber : UInt32) (payload : List UInt8) (payloadSize : ℕ)
    (now : ℤ) : DataMessage :=
  ofPayloadAt priority clientId serviceId objectNumber fragmentNumber totalNumber payload
    payloadSize ⟨0, 0⟩ now

/-- `set_timestamp`. -/
def setTimestamp (message : DataMessage) (newTimestamp : Timespec) : DataMessage :=
  { message with timestamp := newTimestamp }

/-- `set_packet_number`. -/
def setPacketNumber (message : DataMessage) (packetNumber : UInt32) : DataMessage :=
  { message with fragmentNumber := packetNumber }

/-- `set_payload_size`. -/
def setPayloadSize (message : DataMessage) (payloadSize : ℕ) : DataMessage :=
  { message with payloadLength := UInt32.ofNat payloadSize }

/-- `set_payload` without a time stamp. The object number and the fragment number are assigned to
the arguments, which have the names of the members, and the payload is copied to itself. -/
def setPayload (message : DataMessage) (_objectNumber _fragmentNumber totalNumber : UInt32)
    (_payload : List UInt8) (size : ℕ) : DataMessage :=
  { message with
    payloadLength := UInt32.ofNat size
    length := 25 + UInt32.ofNat size
    totalFragments := totalNumber }

/-- `set_payload` with a time stamp, which is assigned to the argument as well. -/
def setPayloadAt (message : DataMessage) (objectNumber fragmentNumber totalNumber : UInt32)
    (payload : List UInt8) (size : ℕ) (_timestamp : Timespec) : DataMessage :=
  message.setPayload objectNumber fragmentNumber totalNumber payload size

/-- `clear`. -/
def clear (message : DataMessage) : DataMessage :=
  { message with
    priority := 0xFF
    sourceId := 0xFFFF
    serviceId := 0xFFFFFFFFFFFFFFFF
    objectNumber := 0xFFFFFFFF
    fragmentNumber := 0xFFFFFFFF
    totalFragments := 0xFFFFFFFF
    payload := message.payload.set 0 0
    payloadLength := 0
    length := message.headerLength }

/-- `size`. -/
def size (message : DataMessage) : UInt32 := message.length

/-- `dataToNet`. -/
def dataToNet (message : DataMessage) : List UInt8 :=
  LittleEndian.encode 1 message.priority.toNat ++
    LittleEndian.encode 4 message.sourceId.toNat ++
    LittleEndian.encode 8 message.serviceId.toNat ++
    LittleEndian.encode 4 message.objectNumber.toNat ++
    LittleEndian.encode 4 message.fragmentNumber.toNat ++
    LittleEndian.encode 4 message.totalFragments.toNat ++
    MessageNet.timespecBytes message.timestamp ++
    LittleEndian.encodeSigned 8 message.timeStamp ++
    message.payload.take message.payloadLength.toNat

/-- `memcpy` out of a datagram, none where it reads beyond the end. -/
def copyFrom (message : List UInt8) (offset size : ℕ) : Option (List UInt8) :=
  if offset + size ≤ message.length then some ((message.drop offset).take size) else none

/-- `netToData`, none where it reads beyond the end of the datagram or writes beyond the end of the
payload array. -/
def netToData (data : DataMessage) (message : List UInt8) (size : ℕ) : Option DataMessage := do
  let length := UInt32.ofNat size
  let payloadLength := length - data.headerLength
  let priority ← copyFrom message 0 1
  let sourceId ← copyFrom message 1 4
  let serviceId ← copyFrom message 5 8
  let objectNumber ← copyFrom message 13 4
  let fragmentNumber ← copyFrom message 17 4
  let totalFragments ← copyFrom message 21 4
  let timestamp ← copyFrom message 25 16
  let timeStamp ← copyFrom message 41 8
  let payload ← copyFrom message 49 payloadLength.toNat
  if payloadLength.toNat ≤ payloadCapacity then
    some {
      priority := UInt8.ofNat (LittleEndian.decode priority)
      sourceId := UInt32.ofNat (LittleEndian.decode sourceId)
      serviceId := UInt64.ofNat (LittleEndian.decode serviceId)
      objectNumber := UInt32.ofNat (LittleEndian.decode objectNumber)
      fragmentNumber := UInt32.ofNat (LittleEndian.decode fragmentNumber)
      totalFragments := UInt32.ofNat (LittleEndian.decode totalFragments)
      timestamp := ⟨LittleEndian.decodeSigned (timestamp.take 8),
        LittleEndian.decodeSigned (timestamp.drop 8)⟩
      timeStamp := LittleEndian.decodeSigned timeStamp
      payloadLength := payloadLength
      headerLength := data.headerLength
      length := length
      payload := MessageNet.store data.payload 0 payload }
  else none

/-- What a message with the header length of a default-constructed one becomes by reading a
datagram. -/
def decoded (data : DataMessage) (message : List UInt8) : DataMessage where
  priority := UInt8.ofNat (LittleEndian.decode (message.take 1))
  sourceId := UInt32.ofNat (LittleEndian.decode ((message.drop 1).take 4))
  serviceId := UInt64.ofNat (LittleEndian.decode ((message.drop 5).take 8))
  objectNumber := UInt32.ofNat (LittleEndian.decode ((message.drop 13).take 4))
  fragmentNumber := UInt32.ofNat (LittleEndian.decode ((message.drop 17).take 4))
  totalFragments := UInt32.ofNat (LittleEndian.decode ((message.drop 21).take 4))
  timestamp := ⟨LittleEndian.decodeSigned (((message.drop 25).take 16).take 8),
    LittleEndian.decodeSigned (((message.drop 25).take 16).drop 8)⟩
  timeStamp := LittleEndian.decodeSigned ((message.drop 41).take 8)
  payloadLength := UInt32.ofNat message.length - data.headerLength
  headerLength := data.headerLength
  length := UInt32.ofNat message.length
  payload := MessageNet.store data.payload 0 (message.drop 49)

theorem copyFrom_of_le {message : List UInt8} {offset size : ℕ}
    (hfits : offset + size ≤ message.length) :
    copyFrom message offset size = some ((message.drop offset).take size) :=
  if_pos hfits

/-- A default-constructed message takes the rest of the datagram behind the header as payload. -/
theorem toNat_length_sub_header {length : ℕ} (hheader : 49 ≤ length) (hlt : length < 2 ^ 32) :
    (UInt32.ofNat length - 49).toNat = length - 49 := by
  have hlength : (UInt32.ofNat length).toNat = length := UInt32.toNat_ofNat_of_lt' hlt
  have hle : (49 : UInt32) ≤ UInt32.ofNat length := by
    rw [UInt32.le_iff_toNat_le, hlength]
    exact hheader
  rw [UInt32.toNat_sub_of_le _ _ hle, hlength]
  rfl

/-- Assumes: the header length of a default-constructed message, and a datagram that holds at least
the header and at most the payload array behind it. -/
theorem netToData_eq_decoded {data : DataMessage} {message : List UInt8}
    (hdata : data.headerLength = 49) (hheader : 49 ≤ message.length)
    (hcapacity : message.length ≤ 49 + payloadCapacity) :
    data.netToData message message.length = some (data.decoded message) := by
  have hlt : message.length < 2 ^ 32 := lt_of_le_of_lt hcapacity (by decide)
  have hpayload : (UInt32.ofNat message.length - data.headerLength).toNat =
      message.length - 49 := by
    rw [hdata]
    exact toNat_length_sub_header hheader hlt
  have hrest : (message.drop 49).take (message.length - 49) = message.drop 49 := by
    rw [← List.length_drop]
    exact List.take_length
  simp only [netToData, hpayload, Option.bind_eq_bind]
  rw [copyFrom_of_le (by omega), copyFrom_of_le (by omega), copyFrom_of_le (by omega),
    copyFrom_of_le (by omega), copyFrom_of_le (by omega), copyFrom_of_le (by omega),
    copyFrom_of_le (by omega), copyFrom_of_le (by omega), copyFrom_of_le (by omega), hrest]
  have hfits : message.length - 49 ≤ payloadCapacity := by omega
  simp only [Option.bind_some, if_pos hfits]
  rfl

/-- The received message has the header of the sent one, and the payload it was constructed from. -/
structure Restores (received sent : DataMessage) (payload : List UInt8) : Prop where
  priority_eq : received.priority = sent.priority
  sourceId_eq : received.sourceId = sent.sourceId
  serviceId_eq : received.serviceId = sent.serviceId
  objectNumber_eq : received.objectNumber = sent.objectNumber
  fragmentNumber_eq : received.fragmentNumber = sent.fragmentNumber
  totalFragments_eq : received.totalFragments = sent.totalFragments
  timestamp_eq : received.timestamp = sent.timestamp
  timeStamp_eq : received.timeStamp = sent.timeStamp
  payloadLength_eq : received.payloadLength.toNat = payload.length
  payload_eq : received.payload.take payload.length = payload

/-- A default-constructed message that reads the datagram of a message becomes that message. -/
def RoundTrip (uninitialised : UInt32) (sent : DataMessage) (payload : List UInt8) : Prop :=
  ∃ received, (new uninitialised).netToData
      (sent.dataToNet.take sent.length.toNat) sent.length.toNat = some received ∧
    received.Restores sent payload

/-- The receiver finds the payload length by the header length of its own message. -/
theorem payloadLength_of_netToData {data received : DataMessage} {message : List UInt8} {size : ℕ}
    (hreceived : data.netToData message size = some received) :
    received.payloadLength = UInt32.ofNat size - data.headerLength := by
  simp only [netToData, Option.bind_eq_bind, Option.bind_eq_some_iff] at hreceived
  obtain ⟨_, -, _, -, _, -, _, -, _, -, _, -, _, -, _, -, _, -, hfits⟩ := hreceived
  split_ifs at hfits
  rw [← Option.some.inj hfits]

/-- A message that is sent with a length of 41 bytes and its payload is received with another
payload length. -/
theorem not_restores_of_length {uninitialised : UInt32} {sent received : DataMessage}
    {payload : List UInt8} (hlength : sent.length = 41 + UInt32.ofNat payload.length)
    (hreceived : (new uninitialised).netToData
      (sent.dataToNet.take sent.length.toNat) sent.length.toNat = some received) :
    ¬ received.Restores sent payload := by
  intro hrestores
  have hshorter := payloadLength_of_netToData hreceived
  rw [UInt32.ofNat_toNat, hlength] at hshorter
  have hsame : received.payloadLength = UInt32.ofNat payload.length := by
    rw [← hrestores.payloadLength_eq, UInt32.ofNat_toNat]
  rw [hsame] at hshorter
  change UInt32.ofNat payload.length = 41 + UInt32.ofNat payload.length - 49 at hshorter
  have hnat := congrArg UInt32.toNat hshorter
  rw [UInt32.toNat_sub, UInt32.toNat_add] at hnat
  have hlt := (UInt32.ofNat payload.length).toNat_lt
  change _ = (2 ^ 32 - 49 + (41 + _) % 2 ^ 32) % 2 ^ 32 at hnat
  omega

/-- Whatever a message is constructed from, it does not survive the way to a default-constructed
message. -/
theorem not_roundTrip (uninitialised : UInt32) (priority : UInt8) (clientId : UInt32)
    (serviceId : UInt64) (objectNumber fragmentNumber totalNumber : UInt32) (payload : List UInt8)
    (timestamp : Timespec) (now : ℤ) :
    ¬ RoundTrip uninitialised (ofPayload priority clientId serviceId objectNumber fragmentNumber
        totalNumber payload payload.length now) payload ∧
      ¬ RoundTrip uninitialised (ofPayloadAt priority clientId serviceId objectNumber
        fragmentNumber totalNumber payload payload.length timestamp now) payload := by
  constructor
  · rintro ⟨received, hreceived, hrestores⟩
    exact not_restores_of_length rfl hreceived hrestores
  · rintro ⟨received, hreceived, hrestores⟩
    exact not_restores_of_length rfl hreceived hrestores

/-- A packet of eight bytes arrives without any. -/
theorem not_roundTrip_eightBytes :
    ¬ RoundTrip 0 (ofPayload 1 2 3 1 0 1 (List.replicate 8 65) 8 0) (List.replicate 8 65) := by
  rintro ⟨received, hreceived, hrestores⟩
  exact not_restores_of_length rfl hreceived hrestores

end DataMessage

end Tanos
