import Tanos.DataMessage
import Tanos.Library.Runs

/-!
# The length of a data message

`length` is kept by hand. Every operation of `DataMessage` that sets the payload length sums up the
header fields anew, or leaves the length as it is, and `dataToNet` writes 49 bytes and the payload
whatever the length says. The default constructor, `netToData` and `clear` agree with `dataToNet`.
The payload constructors leave eight bytes out, both `set_payload` leave out 24, and
`set_payload_size` does not look at the length. `always_hasWrittenSize_iff` says for which sequences
of operations the length is that of the datagram.
-/

set_option autoImplicit false
set_option relaxedAutoImplicit false

namespace Tanos

open Library Library.Runs

namespace DataMessage

/-- The number of bytes that `dataToNet` writes. -/
def writtenBytes (message : DataMessage) : ℕ := 49 + message.payloadLength.toNat

theorem length_dataToNet {message : DataMessage}
    (hpayload : message.payloadLength.toNat ≤ message.payload.length) :
    message.dataToNet.length = message.writtenBytes := by
  simp only [dataToNet, List.length_append, LittleEndian.length_encode,
    LittleEndian.length_encodeSigned, MessageNet.length_timespecBytes, List.length_take,
    min_eq_left hpayload, writtenBytes]

/-- The size of the message is the number of bytes that `dataToNet` writes. -/
def HasWrittenSize (message : DataMessage) : Prop := message.size.toNat = message.writtenBytes

instance (message : DataMessage) : Decidable message.HasWrittenSize :=
  inferInstanceAs (Decidable (_ = _))

/-- The arguments of a payload constructor or of a `set_payload`, but for the time stamp. -/
structure PayloadArguments where
  objectNumber : UInt32
  fragmentNumber : UInt32
  totalNumber : UInt32
  payload : List UInt8
  size : ℕ

/-- The constructors, with what they leave uninitialised or read from the clock. -/
inductive Constructor where
  | default (uninitialised : UInt32)
  | payload (priority : UInt8) (clientId : UInt32) (serviceId : UInt64)
    (arguments : PayloadArguments) (now : ℤ)
  | payloadAt (priority : UInt8) (clientId : UInt32) (serviceId : UInt64)
    (arguments : PayloadArguments) (timestamp : Timespec) (now : ℤ)

/-- The constructed message. -/
def Constructor.message : Constructor → DataMessage
  | default uninitialised => new uninitialised
  | payload priority clientId serviceId arguments now =>
    ofPayload priority clientId serviceId arguments.objectNumber arguments.fragmentNumber
      arguments.totalNumber arguments.payload arguments.size now
  | payloadAt priority clientId serviceId arguments timestamp now =>
    ofPayloadAt priority clientId serviceId arguments.objectNumber arguments.fragmentNumber
      arguments.totalNumber arguments.payload arguments.size timestamp now

/-- A datagram that holds at least the header and at most the payload array behind it. -/
structure Datagram where
  bytes : List UInt8
  header_le : 49 ≤ bytes.length
  le_capacity : bytes.length ≤ 49 + payloadCapacity

/-- The operations on a message. -/
inductive Operation where
  | setPayload (arguments : PayloadArguments)
  | setPayloadAt (arguments : PayloadArguments) (timestamp : Timespec)
  | setPayloadSize (size : ℕ)
  | setPacketNumber (packetNumber : UInt32)
  | setTimestamp (timestamp : Timespec)
  | netToData (datagram : Datagram)
  | clear

/-- The message after an operation, none where it reads or writes beyond the end of an array. -/
def apply (message : DataMessage) : Operation → Option DataMessage
  | .setPayload arguments =>
    some (message.setPayload arguments.objectNumber arguments.fragmentNumber arguments.totalNumber
      arguments.payload arguments.size)
  | .setPayloadAt arguments timestamp =>
    some (message.setPayloadAt arguments.objectNumber arguments.fragmentNumber
      arguments.totalNumber arguments.payload arguments.size timestamp)
  | .setPayloadSize size => some (message.setPayloadSize size)
  | .setPacketNumber packetNumber => some (message.setPacketNumber packetNumber)
  | .setTimestamp timestamp => some (message.setTimestamp timestamp)
  | .netToData datagram => message.netToData datagram.bytes datagram.bytes.length
  | .clear => some message.clear

/-- One operation of a sequence. -/
def step (message : Option DataMessage) (operation : Operation) :
    Option DataMessage × List Unit :=
  (message.bind (apply · operation), [])

/-- There is a message, and its size is the number of bytes that `dataToNet` writes. -/
def SizeIsWritten (message : Option DataMessage) : Prop :=
  ∃ current, message = some current ∧ current.HasWrittenSize

/-- The operation leaves the size in agreement with the payload length: it is no `set_payload`, and
a `set_payload_size` sets the payload length that the message has. -/
def KeepsSize (message : Option DataMessage) : Operation → Prop
  | .setPayload _ => False
  | .setPayloadAt _ _ => False
  | .setPayloadSize size => ∀ current, message = some current →
      UInt32.ofNat size = current.payloadLength
  | .setPacketNumber _ => True
  | .setTimestamp _ => True
  | .netToData _ => True
  | .clear => True

/-- There is a message with the header length of a default-constructed one. -/
def HasFullHeader (message : Option DataMessage) : Prop :=
  ∃ current, message = some current ∧ current.headerLength = 49

/-- A sum of field sizes that falls short of the header is not the size of the datagram. -/
theorem toNat_short_add_ne {short : UInt32} (hshort : short < 49) (payloadLength : UInt32) :
    (short + payloadLength).toNat ≠ 49 + payloadLength.toNat := by
  have hlt : short.toNat < 49 := UInt32.lt_iff_toNat_lt.mp hshort
  have hpayload := payloadLength.toNat_lt
  rw [UInt32.toNat_add]
  omega

theorem not_hasWrittenSize_setPayload (message : DataMessage)
    (objectNumber fragmentNumber totalNumber : UInt32) (payload : List UInt8) (size : ℕ) :
    ¬ (message.setPayload objectNumber fragmentNumber totalNumber payload size).HasWrittenSize :=
  toNat_short_add_ne (by decide) (UInt32.ofNat size)

theorem not_hasWrittenSize_ofPayloadAt (priority : UInt8) (clientId : UInt32) (serviceId : UInt64)
    (objectNumber fragmentNumber totalNumber : UInt32) (payload : List UInt8) (size : ℕ)
    (timestamp : Timespec) (now : ℤ) :
    ¬ (ofPayloadAt priority clientId serviceId objectNumber fragmentNumber totalNumber payload size
      timestamp now).HasWrittenSize :=
  toNat_short_add_ne (by decide) (UInt32.ofNat size)

/-- Of the constructors, only the default one starts with the size of the datagram. -/
theorem hasWrittenSize_message_iff (constructor : Constructor) :
    constructor.message.HasWrittenSize ↔
      ∃ uninitialised, constructor = .default uninitialised := by
  cases constructor with
  | default uninitialised => exact iff_of_true rfl ⟨uninitialised, rfl⟩
  | payload priority clientId serviceId arguments now =>
    refine iff_of_false (not_hasWrittenSize_ofPayloadAt _ _ _ _ _ _ arguments.payload _ _ _) ?_
    rintro ⟨_, hdefault⟩
    cases hdefault
  | payloadAt priority clientId serviceId arguments timestamp now =>
    refine iff_of_false (not_hasWrittenSize_ofPayloadAt _ _ _ _ _ _ arguments.payload _ _ _) ?_
    rintro ⟨_, hdefault⟩
    cases hdefault

/-- `set_payload_size` keeps the agreement only by setting the payload length that is there. -/
theorem hasWrittenSize_setPayloadSize_iff {message : DataMessage}
    (hmessage : message.HasWrittenSize) (size : ℕ) :
    (message.setPayloadSize size).HasWrittenSize ↔ UInt32.ofNat size = message.payloadLength := by
  change message.length.toNat = 49 + (UInt32.ofNat size).toNat ↔ _
  change message.length.toNat = 49 + message.payloadLength.toNat at hmessage
  rw [hmessage, ← UInt32.toNat_inj]
  omega

theorem hasWrittenSize_decoded {message : DataMessage} (hheader : message.headerLength = 49)
    (datagram : Datagram) : (message.decoded datagram.bytes).HasWrittenSize := by
  have hlt : datagram.bytes.length < 2 ^ 32 :=
    lt_of_le_of_lt datagram.le_capacity (by decide)
  change (UInt32.ofNat datagram.bytes.length).toNat =
    49 + (UInt32.ofNat datagram.bytes.length - message.headerLength).toNat
  rw [hheader, toNat_length_sub_header datagram.header_le hlt, UInt32.toNat_ofNat_of_lt' hlt]
  have hle := datagram.header_le
  omega

/-- No operation on a message with the full header fails, and none touches the header length. -/
theorem hasFullHeader_step (message : Option DataMessage) (operation : Operation)
    (hheader : HasFullHeader message) : HasFullHeader (step message operation).1 := by
  obtain ⟨current, rfl, hcurrent⟩ := hheader
  cases operation with
  | setPayload arguments => exact ⟨_, rfl, hcurrent⟩
  | setPayloadAt arguments timestamp => exact ⟨_, rfl, hcurrent⟩
  | setPayloadSize size => exact ⟨_, rfl, hcurrent⟩
  | setPacketNumber packetNumber => exact ⟨_, rfl, hcurrent⟩
  | setTimestamp timestamp => exact ⟨_, rfl, hcurrent⟩
  | netToData datagram =>
    have hdecoded := netToData_eq_decoded hcurrent datagram.header_le datagram.le_capacity
    exact ⟨_, hdecoded, hcurrent⟩
  | clear => exact ⟨_, rfl, hcurrent⟩

theorem sizeIsWritten_some (message : DataMessage) :
    SizeIsWritten (some message) ↔ message.HasWrittenSize := by
  simp [SizeIsWritten]

/-- What one operation does to the agreement of size and payload length. -/
theorem sizeIsWritten_step_iff (message : Option DataMessage) (operation : Operation)
    (hheader : HasFullHeader message) (hsize : SizeIsWritten message) :
    SizeIsWritten (step message operation).1 ↔ KeepsSize message operation := by
  obtain ⟨current, rfl, hcurrent⟩ := hheader
  have hwritten : current.HasWrittenSize := (sizeIsWritten_some current).mp hsize
  cases operation with
  | setPayload arguments =>
    refine iff_of_false ?_ id
    exact fun h ↦ not_hasWrittenSize_setPayload current _ _ _ _ _ ((sizeIsWritten_some _).mp h)
  | setPayloadAt arguments timestamp =>
    refine iff_of_false ?_ id
    exact fun h ↦ not_hasWrittenSize_setPayload current _ _ _ _ _ ((sizeIsWritten_some _).mp h)
  | setPayloadSize size =>
    have hiff := hasWrittenSize_setPayloadSize_iff hwritten size
    calc SizeIsWritten (some (current.setPayloadSize size))
        ↔ UInt32.ofNat size = current.payloadLength := (sizeIsWritten_some _).trans hiff
      _ ↔ KeepsSize (some current) (.setPayloadSize size) := by simp [KeepsSize]
  | setPacketNumber packetNumber => exact iff_of_true ⟨_, rfl, hwritten⟩ trivial
  | setTimestamp timestamp => exact iff_of_true ⟨_, rfl, hwritten⟩ trivial
  | netToData datagram =>
    have hdecoded := netToData_eq_decoded hcurrent datagram.header_le datagram.le_capacity
    exact iff_of_true ⟨_, hdecoded, hasWrittenSize_decoded hcurrent datagram⟩ trivial
  | clear =>
    refine iff_of_true ⟨_, rfl, ?_⟩ trivial
    change current.headerLength.toNat = 49 + 0
    rw [hcurrent]
    rfl

/-- A message that is default-constructed starts with the size of the datagram. -/
theorem always_hasWrittenSize_new_iff (uninitialised : UInt32) (operations : List Operation) :
    Always step SizeIsWritten (some (new uninitialised)) operations ↔
      EveryStep step KeepsSize (some (new uninitialised)) operations := by
  have hheader : HasFullHeader (some (new uninitialised)) := ⟨_, rfl, rfl⟩
  have hstart : SizeIsWritten (some (new uninitialised)) := ⟨_, rfl, rfl⟩
  exact always_iff_everyStep_of_invariant hasFullHeader_step sizeIsWritten_step_iff hheader hstart
    operations

/-- The size of a message is always that of the datagram `dataToNet` writes precisely when the
message is default-constructed, its payload is never set, and its payload size is only set to what
it is. -/
theorem always_hasWrittenSize_iff (constructor : Constructor) (operations : List Operation) :
    Always step SizeIsWritten (some constructor.message) operations ↔
      (∃ uninitialised, constructor = .default uninitialised) ∧
        EveryStep step KeepsSize (some constructor.message) operations := by
  constructor
  · intro halways
    have hstart := halways [] List.nil_prefix
    obtain ⟨uninitialised, rfl⟩ :=
      (hasWrittenSize_message_iff constructor).mp ((sizeIsWritten_some _).mp hstart)
    have hkeeps := (always_hasWrittenSize_new_iff uninitialised operations).mp halways
    exact ⟨⟨uninitialised, rfl⟩, hkeeps⟩
  · rintro ⟨⟨uninitialised, rfl⟩, hoperations⟩
    exact (always_hasWrittenSize_new_iff uninitialised operations).mpr hoperations

/-- A message of eight bytes of payload has the size 49 where `dataToNet` writes 57 bytes. -/
theorem not_always_hasWrittenSize_eightBytes :
    ¬ Always step SizeIsWritten
      (some (Constructor.payload 1 2 3 ⟨1, 0, 1, List.replicate 8 65, 8⟩ 0).message) [] := by
  rw [always_nil, sizeIsWritten_some]
  decide

end DataMessage

end Tanos
