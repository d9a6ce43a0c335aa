import Tanos.Protocols.NetworkResourceRequest

/-!
# The payload of control messages

`RMPayload` is the record a control message carries. The control loops of the clients use its three
timestamps. The resource request is copied as the raw bytes of its object representation, and is
this list of bytes here.

`deserialize` reads the fields in order. Each field that does not fit into the rest of the message
keeps its value, and so do the fields after it unless a shorter one fits. Out of a whole message a
client gets the payload that was sent (`received_serialized`).
-/

set_option autoImplicit false
set_option relaxedAutoImplicit false

namespace Tanos

open Library

/-- `enum RMCommand`, with its values. -/
inductive RMCommand where
  | idle
  | start
  | stop
  | pause
  | reconfigure
  | syncTimestampStart
  | syncTimestampStop
  | syncTimestampPaused
  | syncTimestampReconfgure
  | syncTimestampReconfgureSoft
deriving DecidableEq, Repr

/-- The value of an enumerator. -/
def RMCommand.value : RMCommand → UInt32
  | idle => 0
  | start => 1
  | stop => 2
  | pause => 3
  | reconfigure => 4
  | syncTimestampStart => 5
  | syncTimestampStop => 6
  | syncTimestampPaused => 7
  | syncTimestampReconfgure => 8
  | syncTimestampReconfgureSoft => 9

/-- `class RMPayload`, with the fields of its base class first. -/
structure RMPayload where
  objectSize : UInt32
  objectDeadline : ℤ
  dataConnectionPriority : UInt32
  measurementId : UInt32
  rmClientAction : UInt32
  timestampStop : Timespec
  timestampReconfig : Timespec
  timestampStart : Timespec
  resourceRequestStruct : List UInt8
deriving DecidableEq, Repr

namespace RMPayload

/-- `sizeof(network_resource_request)`. -/
def sizeofResourceRequest : ℕ := NetworkResourceRequest.size

/-- `RMPayload()`. The data path of its request has one element, whose place in the memory is not
specified, so that the object of the request is a parameter. -/
def new (object : RequestObject) : RMPayload :=
  ⟨0, 0, 0, 0, RMCommand.idle.value, ⟨0, 0⟩, ⟨0, 0⟩, ⟨0, 0⟩,
    NetworkResourceRequest.objectBytes ⟨0, 0, 0, 0, 0, [0], false⟩ object⟩

/-- `RMPayload(rm_client_action, timestamp_stop, timestamp_reconfig, timestamp_start)`. The
constructor leaves the resource request uninitialised, so that its bytes are a parameter. -/
def ofTimestamps (action : RMCommand) (timestampStop timestampReconfig timestampStart : Timespec)
    (uninitialised : List UInt8) : RMPayload :=
  ⟨0, 0, 0, 0, action.value, timestampStop, timestampReconfig, timestampStart, uninitialised⟩

/-- `serialize`. -/
def serialize (payload : RMPayload) : StateM MessageNet Unit := do
  let _ ← MessageNet.add (LittleEndian.encode 4 payload.objectSize.toNat)
  let _ ← MessageNet.add (LittleEndian.encodeSigned 8 payload.objectDeadline)
  let _ ← MessageNet.add (LittleEndian.encode 4 payload.dataConnectionPriority.toNat)
  let _ ← MessageNet.add (LittleEndian.encode 4 payload.measurementId.toNat)
  let _ ← MessageNet.add (LittleEndian.encode 4 payload.rmClientAction.toNat)
  let _ ← MessageNet.add (MessageNet.timespecBytes payload.timestampStop)
  let _ ← MessageNet.add (MessageNet.timespecBytes payload.timestampReconfig)
  let _ ← MessageNet.add (MessageNet.timespecBytes payload.timestampStart)
  let _ ← MessageNet.add payload.resourceRequestStruct

/-- `deserialize`. -/
def deserialize (payload : RMPayload) : StateM MessageNet RMPayload := do
  let objectSize ← MessageNet.readUInt32 payload.objectSize
  let objectDeadline ← MessageNet.readCount payload.objectDeadline
  let dataConnectionPriority ← MessageNet.readUInt32 payload.dataConnectionPriority
  let measurementId ← MessageNet.readUInt32 payload.measurementId
  let rmClientAction ← MessageNet.readUInt32 payload.rmClientAction
  let timestampStop ← MessageNet.readTimespec payload.timestampStop
  let timestampReconfig ← MessageNet.readTimespec payload.timestampReconfig
  let timestampStart ← MessageNet.readTimespec payload.timestampStart
  let resourceRequestStruct ←
    MessageNet.readInto sizeofResourceRequest id payload.resourceRequestStruct
  return ⟨objectSize, objectDeadline, dataConnectionPriority, measurementId, rmClientAction,
    timestampStop, timestampReconfig, timestampStart, resourceRequestStruct⟩

/-- The buffer a payload is serialized to, at its beginning. -/
def serialized (payload : RMPayload) : MessageNet := (payload.serialize MessageNet.new).2.reset

/-- A new payload, with its data path at one of the addresses it may get. -/
def blank : RMPayload := new (RequestObject.ofStart 4096)

/-- The payload a client decodes from the buffer it has copied a message's payload to. Which address
the data path has had matters to the request only (`sameValues_deserialize`). -/
def received (payload : MessageNet) : RMPayload := (blank.deserialize payload).1

/-- The two payloads agree in their scalar fields and timestamps. -/
def SameValues (payload other : RMPayload) : Prop :=
  { payload with resourceRequestStruct := [] } = { other with resourceRequestStruct := [] }

theorem sameValues_bind {α : Type} (read : StateM MessageNet α)
    {next other : α → StateM MessageNet RMPayload}
    (h : ∀ value net, (next value net).1.SameValues (other value net).1) (net : MessageNet) :
    ((read >>= next) net).1.SameValues ((read >>= other) net).1 := h _ _

/-- What is decoded into two payloads that differ in their requests only does as well. -/
theorem sameValues_deserialize {payload other : RMPayload} (h : payload.SameValues other) :
    ∀ net, (payload.deserialize net).1.SameValues (other.deserialize net).1 := by
  obtain ⟨objectSize, objectDeadline, dataConnectionPriority, measurementId, rmClientAction,
    timestampStop, timestampReconfig, timestampStart, resourceRequestStruct⟩ := payload
  obtain ⟨rfl, rfl, rfl, rfl, rfl, rfl, rfl, rfl, -⟩ := RMPayload.mk.inj h
  unfold deserialize
  refine sameValues_bind _ fun _ ↦ sameValues_bind _ fun _ ↦ sameValues_bind _ fun _ ↦ ?_
  refine sameValues_bind _ fun _ ↦ sameValues_bind _ fun _ ↦ sameValues_bind _ fun _ ↦ ?_
  exact sameValues_bind _ fun _ ↦ sameValues_bind _ fun _ _ ↦ rfl

/-- The data path of a new payload has the element 0. -/
theorem dataPath_new {object : RequestObject} {memory : Memory}
    (hholds : memory.Holds object.start [0]) :
    (NetworkResourceRequest.ofBytes memory (new object).resourceRequestStruct).map
      NetworkResourceRequest.dataPath = some [0] := by
  have hrepresentable : NetworkResourceRequest.Representable ⟨0, 0, 0, 0, 0, [0], false⟩ :=
    ⟨by decide, by decide⟩
  rw [new, NetworkResourceRequest.ofBytes_objectBytes hrepresentable object hholds]
  rfl

/-! ### From the sender to the receiver -/

/-- The object representations of the fields, in the order of the wire. -/
def bytes (payload : RMPayload) : List UInt8 :=
  LittleEndian.encode 4 payload.objectSize.toNat ++
    (LittleEndian.encodeSigned 8 payload.objectDeadline ++
    (LittleEndian.encode 4 payload.dataConnectionPriority.toNat ++
    (LittleEndian.encode 4 payload.measurementId.toNat ++
    (LittleEndian.encode 4 payload.rmClientAction.toNat ++
    (MessageNet.timespecBytes payload.timestampStop ++
    (MessageNet.timespecBytes payload.timestampReconfig ++
    (MessageNet.timespecBytes payload.timestampStart ++
    (payload.resourceRequestStruct ++ []))))))))

/-- The fields have values of their types. -/
structure Representable (payload : RMPayload) : Prop where
  objectDeadline : MessageNet.FitsInt64 payload.objectDeadline
  timestampStop : MessageNet.FitsTimespec payload.timestampStop
  timestampReconfig : MessageNet.FitsTimespec payload.timestampReconfig
  timestampStart : MessageNet.FitsTimespec payload.timestampStart
  resourceRequestStruct : payload.resourceRequestStruct.length = sizeofResourceRequest

theorem writes_serialize (payload : RMPayload) :
    MessageNet.Writes payload.serialize payload.bytes := by
  unfold serialize bytes
  refine (MessageNet.writes_add _).bind fun _ ↦ ?_
  refine (MessageNet.writes_add _).bind fun _ ↦ ?_
  refine (MessageNet.writes_add _).bind fun _ ↦ ?_
  refine (MessageNet.writes_add _).bind fun _ ↦ ?_
  refine (MessageNet.writes_add _).bind fun _ ↦ ?_
  refine (MessageNet.writes_add _).bind fun _ ↦ ?_
  refine (MessageNet.writes_add _).bind fun _ ↦ ?_
  refine (MessageNet.writes_add _).bind fun _ ↦ ?_
  exact (MessageNet.writes_add _).bind fun _ ↦ MessageNet.writes_pure _

/-- Whatever payload the values are read into, it becomes the payload that was written. -/
theorem reads_deserialize (old : RMPayload) {payload : RMPayload} (h : payload.Representable) :
    MessageNet.Reads old.deserialize payload.bytes payload := by
  have hrequest : payload.resourceRequestStruct ≠ [] :=
    List.ne_nil_of_length_pos (h.resourceRequestStruct ▸ by decide)
  unfold deserialize bytes
  refine (MessageNet.reads_readUInt32 _ _).bind ?_
  refine (MessageNet.reads_readCount _ h.objectDeadline).bind ?_
  refine (MessageNet.reads_readUInt32 _ _).bind ?_
  refine (MessageNet.reads_readUInt32 _ _).bind ?_
  refine (MessageNet.reads_readUInt32 _ _).bind ?_
  refine (MessageNet.reads_readTimespec _ h.timestampStop).bind ?_
  refine (MessageNet.reads_readTimespec _ h.timestampReconfig).bind ?_
  refine (MessageNet.reads_readTimespec _ h.timestampStart).bind ?_
  refine (MessageNet.reads_readInto _ h.resourceRequestStruct hrequest).bind ?_
  exact MessageNet.reads_pure _

theorem received_of_unread {payload : RMPayload} (h : payload.Representable) {net : MessageNet}
    (hunread : net.unread = payload.bytes) : received net = payload := by
  rw [← List.append_nil payload.bytes] at hunread
  exact (reads_deserialize _ h net [] hunread).1

/-- Nothing is read from an empty buffer. -/
theorem deserialize_of_empty (payload : RMPayload) {net : MessageNet} (hempty : net.length = 0) :
    payload.deserialize (net.seek 0) = (payload, net.seek 0) := by
  have hshort : ∀ size, 0 < size → net.length < 0 + size := by omega
  unfold deserialize MessageNet.readUInt32 MessageNet.readCount MessageNet.readTimespec
  rw [MessageNet.readInto_bind_of_lt _ _ _ (hshort _ (by decide)),
    MessageNet.readInto_bind_of_lt _ _ _ (hshort _ (by decide)),
    MessageNet.readInto_bind_of_lt _ _ _ (hshort _ (by decide)),
    MessageNet.readInto_bind_of_lt _ _ _ (hshort _ (by decide)),
    MessageNet.readInto_bind_of_lt _ _ _ (hshort _ (by decide)),
    MessageNet.readInto_bind_of_lt _ _ _ (hshort _ (by decide)),
    MessageNet.readInto_bind_of_lt _ _ _ (hshort _ (by decide)),
    MessageNet.readInto_bind_of_lt _ _ _ (hshort _ (by decide)),
    MessageNet.readInto_bind_of_lt _ _ _ (hshort _ (by decide))]
  rfl

theorem length_bytes_of_request {payload : RMPayload}
    (h : payload.resourceRequestStruct.length = sizeofResourceRequest) :
    payload.bytes.length = 136 := by
  simp [bytes, h, sizeofResourceRequest, NetworkResourceRequest.size]

theorem length_bytes {payload : RMPayload} (h : payload.Representable) :
    payload.bytes.length = 136 :=
  length_bytes_of_request h.resourceRequestStruct

theorem unread_serialized {payload : RMPayload} (h : payload.Representable) :
    payload.serialized.unread = payload.bytes := by
  have hroom : payload.bytes.length < MessageNet.new.maxSize := by
    rw [length_bytes h]
    decide
  exact MessageNet.unread_reset ((writes_serialize payload).holds_of_new hroom)

/-- A client decodes the payload that was serialized. -/
theorem received_serialized {payload : RMPayload} (h : payload.Representable) :
    received payload.serialized = payload :=
  received_of_unread h (unread_serialized h)

theorem representable_ofTimestamps (action : RMCommand)
    {timestampStop timestampReconfig timestampStart : Timespec} {uninitialised : List UInt8}
    (hstop : MessageNet.FitsTimespec timestampStop)
    (hreconfig : MessageNet.FitsTimespec timestampReconfig)
    (hstart : MessageNet.FitsTimespec timestampStart)
    (hrequest : uninitialised.length = sizeofResourceRequest) :
    (ofTimestamps action timestampStop timestampReconfig timestampStart
      uninitialised).Representable := by
  have hdeadline : MessageNet.FitsInt64 0 := by decide
  exact ⟨hdeadline, hstop, hreconfig, hstart, hrequest⟩

/-- A payload with three timestamps, and a resource request of zeros. -/
def commanded (action : RMCommand) (timestampStop timestampReconfig timestampStart : Timespec) :
    RMPayload :=
  ofTimestamps action timestampStop timestampReconfig timestampStart
    (List.replicate sizeofResourceRequest 0)

theorem representable_commanded (action : RMCommand)
    {timestampStop timestampReconfig timestampStart : Timespec}
    (hstop : MessageNet.FitsTimespec timestampStop)
    (hreconfig : MessageNet.FitsTimespec timestampReconfig)
    (hstart : MessageNet.FitsTimespec timestampStart) :
    (commanded action timestampStop timestampReconfig timestampStart).Representable :=
  representable_ofTimestamps action hstop hreconfig hstart List.length_replicate

end RMPayload

end Tanos
