import Tanos.Sender.MessageBuffer
import Tanos.System.Safety
import Tanos.TrafficSink

/-!
# The packets and the sinks

A `Testbed` is a deployment with the traffic sinks that the resource manager starts beside it. What
the end nodes send to the sinks may be lost, reordered and duplicated as well, and a sink writes a
record for every datagram that arrives.

A packet goes through the buffer of its sender and through that of the sink. What both buffers held
before does not reach the fields that a sink writes (`describes_decoded`). Every record therefore
documents a packet that an end node has sent on a call of the resource manager
(`documents_of_run`).
-/

set_option autoImplicit false
set_option relaxedAutoImplicit false

namespace Tanos

open Library Library.Runs Library.Network

/-! ### The header of a datagram -/

/-- What `dataToNet` writes in front of the second time stamp. -/
def DataMessage.headerBytes (message : DataMessage) : List UInt8 :=
  LittleEndian.encode 1 message.priority.toNat ++
    LittleEndian.encode 4 message.sourceId.toNat ++
    LittleEndian.encode 8 message.serviceId.toNat ++
    LittleEndian.encode 4 message.objectNumber.toNat ++
    LittleEndian.encode 4 message.fragmentNumber.toNat ++
    LittleEndian.encode 4 message.totalFragments.toNat ++
    MessageNet.timespecBytes message.timestamp

theorem DataMessage.length_headerBytes (message : DataMessage) :
    message.headerBytes.length = 41 := by
  simp [headerBytes]

theorem DataMessage.take_dataToNet (message : DataMessage) :
    message.dataToNet.take 41 = message.headerBytes := by
  have hsplit : message.dataToNet = message.headerBytes ++
      (LittleEndian.encodeSigned 8 message.timeStamp ++
        message.payload.take message.payloadLength.toNat) := by
    simp [dataToNet, headerBytes]
  rw [hsplit, List.take_left' message.length_headerBytes]

/-- The fields are those of the message. A time stamp is read back when it fits its type. -/
structure Logged.Describes (logged : Logged) (message : DataMessage) : Prop where
  serviceId_eq : logged.serviceId = message.serviceId
  objectNumber_eq : logged.objectNumber = message.objectNumber
  fragmentNumber_eq : logged.fragmentNumber = message.fragmentNumber
  timestamp_eq : MessageNet.FitsTimespec message.timestamp → logged.timestamp = message.timestamp

/-- Assumes: a buffer begins with the header of a message. Whatever it is decoded into, what is
written of it is what the message says. -/
theorem describes_decoded {message : DataMessage} {buffer : List UInt8} (data : DataMessage)
    (hheader : buffer.take 41 = message.headerBytes) :
    (data.decoded buffer).logged.Describes message := by
  have hfield : ∀ offset size, offset + size ≤ 41 →
      (buffer.drop offset).take size = (message.headerBytes.drop offset).take size := by
    intro offset size hle
    rw [← hheader, List.drop_take, List.take_take, min_eq_left (by omega)]
  have hservice : (buffer.drop 5).take 8 = LittleEndian.encode 8 message.serviceId.toNat :=
    hfield 5 8 (by decide)
  have hobject : (buffer.drop 13).take 4 = LittleEndian.encode 4 message.objectNumber.toNat :=
    hfield 13 4 (by decide)
  have hfragment : (buffer.drop 17).take 4 = LittleEndian.encode 4 message.fragmentNumber.toNat :=
    hfield 17 4 (by decide)
  have htimestamp : (buffer.drop 25).take 16 = MessageNet.timespecBytes message.timestamp :=
    hfield 25 16 (by decide)
  refine ⟨?_, ?_, ?_, fun hfits ↦ ?_⟩
  · show UInt64.ofNat (LittleEndian.decode ((buffer.drop 5).take 8)) = _
    rw [hservice, LittleEndian.decode_encode_of_lt message.serviceId.toNat_lt, UInt64.ofNat_toNat]
  · show UInt32.ofNat (LittleEndian.decode ((buffer.drop 13).take 4)) = _
    rw [hobject, LittleEndian.decode_encode_of_lt message.objectNumber.toNat_lt,
      UInt32.ofNat_toNat]
  · show UInt32.ofNat (LittleEndian.decode ((buffer.drop 17).take 4)) = _
    rw [hfragment, LittleEndian.decode_encode_of_lt message.fragmentNumber.toNat_lt,
      UInt32.ofNat_toNat]
  · show Timespec.mk (LittleEndian.decodeSigned (((buffer.drop 25).take 16).take 8))
      (LittleEndian.decodeSigned (((buffer.drop 25).take 16).drop 8)) = _
    have hsec : (MessageNet.timespecBytes message.timestamp).take 8 =
        LittleEndian.encodeSigned 8 message.timestamp.tvSec := rfl
    have hnsec : (MessageNet.timespecBytes message.timestamp).drop 8 =
        LittleEndian.encodeSigned 8 message.timestamp.tvNsec := rfl
    rw [htimestamp, hsec, hnsec, MessageNet.decodeSigned_encodeSigned_of_fitsInt64 hfits.1,
      MessageNet.decodeSigned_encodeSigned_of_fitsInt64 hfits.2]

/-- Assumes: the length of the message covers its header. The datagram begins with the header,
whatever the buffer of the sender held before. -/
theorem Transmission.take_datagram {transmission : Transmission} {datagram : List UInt8}
    (hdatagram : transmission.datagram = some datagram)
    (hlength : 41 ≤ transmission.message.length.toNat) :
    41 ≤ datagram.length ∧ datagram.take 41 = transmission.message.headerBytes := by
  rw [Transmission.datagram, DataMessage.copyFrom] at hdatagram
  split_ifs at hdatagram with hwithin
  rw [← Option.some.inj hdatagram, List.drop_zero, List.length_take, List.take_take,
    min_eq_left hlength, Transmission.written]
  have hheader : 41 ≤ transmission.message.dataToNet.length := by
    have htake := congrArg List.length transmission.message.take_dataToNet
    rw [List.length_take, DataMessage.length_headerBytes] at htake
    omega
  constructor
  · rw [Transmission.written] at hwithin
    omega
  · rw [← DataMessage.take_dataToNet, MessageNet.store, List.take_zero, List.nil_append,
      List.take_append_of_le_length hheader]

namespace TrafficSink

/-- Assumes: the datagram begins with the header of a message. So does the buffer behind it. -/
theorem Ready.take_receiveFrom {sink : TrafficSink} (h : sink.Ready) {datagram : List UInt8}
    (hlength : 41 ≤ datagram.length) :
    (receiveFrom sink.dataMessageBuffer datagram).take 41 = datagram.take 41 := by
  have hbuffer : sink.dataMessageBuffer.length = 1427 := h.length_eq
  have htake := @take_drop_receiveFrom sink.dataMessageBuffer datagram 0 41 (by omega) (by omega)
  rwa [List.drop_zero, List.drop_zero] at htake

/-- One round of `handle_message`, with what it writes to the files. -/
def record (sink : TrafficSink) (datagram : List UInt8) : Option (TrafficSink × Logged) := do
  let message ← sink.receive datagram
  let next ← sink.handleMessage datagram
  return (next, message.logged)

/-- Assumes: the length of a message covers its header. A sink that is ready writes what the message
says, and is ready again. -/
theorem Ready.record {sink : TrafficSink} (h : sink.Ready) {transmission : Transmission}
    {datagram : List UInt8} (hdatagram : transmission.datagram = some datagram)
    (hlength : 41 ≤ transmission.message.length.toNat) :
    ∃ next logged, sink.record datagram = some (next, logged) ∧ next.Ready ∧
      logged.Describes transmission.message := by
  obtain ⟨next, hnext, hready⟩ := h.handleMessage datagram
  obtain ⟨hcovered, hheader⟩ := Transmission.take_datagram hdatagram hlength
  refine ⟨next, _, ?_, hready, describes_decoded sink.dataMessage
    ((h.take_receiveFrom hcovered).trans hheader)⟩
  rw [TrafficSink.record, h.receive_eq, hnext]
  rfl

/-- The threads that the constructor starts, by their local endpoints. -/
def threads (localIpAddress : String) (clientLocalPort : List UInt32) : List TrafficEndpoint :=
  if localIpAddress = "" ∨ clientLocalPort = [] then []
  else clientLocalPort.map fun port ↦ ⟨localIpAddress, port⟩

end TrafficSink

/-! ### The testbed -/

/-- A deployment with its sinks. Which local endpoints a target leads to is up to the resolver of
the senders and to the network. -/
structure Testbed (κ ς : Type) where
  deployment : Deployment κ
  sinkEndpoint : ς → TrafficEndpoint
  leadsTo : TrafficEndpoint → TrafficEndpoint → Bool
  uninitialised : ς → UInt32

namespace Testbed

variable {κ ς : Type} (testbed : Testbed κ ς)

/-- The processes on the control channel, and the sinks. A sink is none when it has read or written
beyond the end of a buffer. -/
structure State where
  processes : Configuration testbed.deployment.controlPlane
  sinks : ς → Option TrafficSink

/-- A step of the processes, or the arrival of a packet at a sink. The sender has written the packet
into a buffer that holds what it may. -/
inductive Event where
  | process (event : Network.Event testbed.deployment.controlPlane)
  | arrive (sink : ς) (packet : SentPacket) (buffer : List UInt8) (timeReceived : Timespec)

/-- The two lines that a sink writes of a datagram, apart from its own address. -/
structure Record where
  logged : Logged
  timeReceived : Timespec

/-- Nothing has been sent, and all sinks wait for the first datagram. -/
def start : testbed.State where
  processes := testbed.deployment.start
  sinks sink := some (TrafficSink.start (testbed.uninitialised sink))

variable {testbed} [DecidableEq κ] [DecidableEq ς]

/-- The arrival of a datagram. -/
def arrive (state : testbed.State) (sink : ς) (datagram : List UInt8) (timeReceived : Timespec) :
    testbed.State × List (ς × Record) :=
  match state.sinks sink with
  | none => (state, [])
  | some trafficSink =>
    match trafficSink.record datagram with
    | none => ({ state with sinks := Function.update state.sinks sink none }, [])
    | some (next, logged) =>
      ({ state with sinks := Function.update state.sinks sink (some next) },
        [(sink, ⟨logged, timeReceived⟩)])

/-- A step. A packet that has not been sent, or that does not lead to the sink, does not arrive. -/
def step (state : testbed.State) : testbed.Event → testbed.State × List (ς × Record)
  | .process event => ({ state with processes := (state.processes.step event).1 }, [])
  | .arrive sink packet buffer timeReceived =>
    if .packet packet ∈ state.processes.sent.map Prod.snd ∧
        testbed.leadsTo packet.endpoint (testbed.sinkEndpoint sink) = true then
      match Transmission.datagram ⟨packet.message, buffer⟩ with
      | some datagram => arrive state sink datagram timeReceived
      | none => (state, [])
    else (state, [])

/-! ### What the records say -/

variable (testbed) in
/-- The record is that of a packet that an end node has sent to the sink. The end node had been
called for the service it has asked for, in the mode whose header the packet has. -/
def Documents (sent : List (Party κ × Outgoing)) (entry : ς × Record) : Prop :=
  ∃ past client packet future settings,
    sent = past ++ (.client client, .packet packet) :: future ∧
    testbed.leadsTo packet.endpoint (testbed.sinkEndpoint entry.1) = true ∧
    entry.2.logged.Describes packet.message ∧
    packet.message.StartedIn (testbed.deployment.client client).clientConfiguration.clientId
      settings ∧
    testbed.deployment.SendsAsCalled past client settings

omit [DecidableEq κ] [DecidableEq ς] in
theorem Documents.append {sent : List (Party κ × Outgoing)} {entry : ς × Record}
    (h : testbed.Documents sent entry) (more : List (Party κ × Outgoing)) :
    testbed.Documents (sent ++ more) entry := by
  obtain ⟨past, client, packet, future, settings, rfl, hrest⟩ := h
  exact ⟨past, client, packet, future ++ more, settings, by simp, hrest⟩

/-- The invariant of the testbed, with what has been written. -/
structure Documented (state : testbed.State) (written : List (ς × Record)) : Prop where
  holds : testbed.deployment.controlSafety.Holds state.processes
  ready : ∀ sink, ∃ trafficSink, state.sinks sink = some trafficSink ∧ trafficSink.Ready
  documents : ∀ entry ∈ written, testbed.Documents state.processes.sent entry

omit [DecidableEq κ] [DecidableEq ς] in
theorem documented_start : Documented testbed.start [] where
  holds := Deployment.holds_start
  ready _ := ⟨_, rfl, TrafficSink.ready_start _⟩
  documents := List.forall_mem_nil _

omit [DecidableEq κ] in
/-- Assumes: the configurations fit together. A packet that has been sent is documented. -/
theorem Documented.arrive (hconsistent : testbed.deployment.Consistent) {state : testbed.State}
    {written : List (ς × Record)} (h : Documented state written) {sink : ς} {packet : SentPacket}
    (hsent : .packet packet ∈ state.processes.sent.map Prod.snd)
    (hleads : testbed.leadsTo packet.endpoint (testbed.sinkEndpoint sink) = true)
    {buffer datagram : List UInt8}
    (hdatagram : Transmission.datagram ⟨packet.message, buffer⟩ = some datagram)
    (timeReceived : Timespec) :
    Documented (Testbed.arrive state sink datagram timeReceived).1
      (written ++ (Testbed.arrive state sink datagram timeReceived).2) := by
  obtain ⟨⟨party, outgoing⟩, hmem, rfl⟩ := List.mem_map.mp hsent
  obtain ⟨past, future, hsplit⟩ := List.append_of_mem hmem
  obtain ⟨client, rfl, hmaySendPacket⟩ :=
    Deployment.exists_client_of_packet (h.holds.allowed hsplit)
  obtain ⟨settings, hmaySend, hstarted⟩ := hmaySendPacket.startedIn
  obtain ⟨trafficSink, hsink, hready⟩ := h.ready sink
  obtain ⟨next, logged, hrecord, hnext, hdescribes⟩ :=
    hready.record hdatagram (by rw [hstarted.length_eq]; exact Nat.le_add_right 41 _)
  simp only [Testbed.arrive, hsink, hrecord]
  refine ⟨h.holds, fun other ↦ ?_, List.forall_mem_append.mpr ⟨h.documents,
    List.forall_mem_singleton.mpr ⟨past, client, packet, future, settings, hsplit, hleads,
      hdescribes, hstarted, hconsistent.sendsAsCalled_of_maySend hmaySend⟩⟩⟩
  by_cases hother : other = sink
  · subst hother
    exact ⟨next, Function.update_self _ _ _, hnext⟩
  · obtain ⟨otherSink, hotherSink, hotherReady⟩ := h.ready other
    exact ⟨otherSink, (Function.update_of_ne hother _ _).trans hotherSink, hotherReady⟩

/-- Assumes: the configurations fit together. -/
theorem Documented.step (hconsistent : testbed.deployment.Consistent) {state : testbed.State}
    {written : List (ς × Record)} (h : Documented state written) (event : testbed.Event) :
    Documented (Testbed.step state event).1 (written ++ (Testbed.step state event).2) := by
  cases event with
  | process event =>
    obtain ⟨more, hmore⟩ := sent_step state.processes event
    refine ⟨Deployment.inductive_controlSafety.holds_step h.holds event, h.ready, ?_⟩
    intro entry hentry
    rw [Testbed.step, List.append_nil] at hentry
    show testbed.Documents (state.processes.step event).1.sent entry
    rw [hmore]
    exact (h.documents entry hentry).append more
  | arrive sink packet buffer timeReceived =>
    rw [Testbed.step]
    split_ifs with harrives
    · cases hdatagram : Transmission.datagram ⟨packet.message, buffer⟩ with
      | none =>
        rw [List.append_nil]
        exact h
      | some datagram => exact h.arrive hconsistent harrives.1 harrives.2 hdatagram timeReceived
    · rw [List.append_nil]
      exact h

/-- Assumes: the configurations fit together. Every run of the processes and the sinks keeps the
invariant. -/
theorem documented_run (hconsistent : testbed.deployment.Consistent)
    (events : List testbed.Event) :
    Documented (finalState step testbed.start events) (outputs step testbed.start events) :=
  finalState_outputs_of_everyStep Documented (fun _ _ event _ h ↦ h.step hconsistent event)
    ((everyStep_iff_forall_mem testbed.start events).mpr fun _ _ ↦ trivial) documented_start

/-- Assumes: the configurations fit together. In every run of the processes and the sinks, no sink
leaves its buffers, and every record documents a packet. -/
theorem documents_of_run (hconsistent : testbed.deployment.Consistent)
    (events : List testbed.Event) :
    (∀ sink, ((finalState step testbed.start events).sinks sink).isSome = true) ∧
      ∀ entry ∈ outputs step testbed.start events,
        testbed.Documents (finalState step testbed.start events).processes.sent entry := by
  have hrun := documented_run hconsistent events
  refine ⟨fun sink ↦ ?_, hrun.documents⟩
  obtain ⟨trafficSink, hsink, -⟩ := hrun.ready sink
  rw [hsink]
  rfl

end Testbed

/-! ### A single end node and a single sink -/

/-- The single end node, with a sink where its mode sends to. -/
def singleTestbed : Testbed Unit Unit where
  deployment := singleDeployment
  sinkEndpoint _ := ⟨"10.0.0.7", 5000⟩
  leadsTo target endpoint := target == endpoint
  uninitialised _ := 0

/-- A step of its processes. -/
def singleProcess (event : Event singleDeployment.controlPlane) : singleTestbed.Event :=
  .process event

/-- Its first packet arrives twice. -/
def singleArrivals : List singleTestbed.Event :=
  singleRun.map singleProcess ++ List.replicate 2 (.arrive () singlePacket [] ⟨0, 0⟩)

/-- Both times the sink writes a record of it. -/
theorem documents_of_run_singleArrivals :
    ∃ first second,
      Runs.outputs Testbed.step singleTestbed.start singleArrivals = [first, second] ∧
      ∀ entry ∈ [first, second], singleTestbed.Documents
        (Runs.finalState Testbed.step singleTestbed.start singleArrivals).processes.sent entry := by
  have hlength : (Runs.outputs Testbed.step singleTestbed.start singleArrivals).length = 2 := by
    decide +kernel
  obtain ⟨first, second, houtputs⟩ := List.length_eq_two.mp hlength
  refine ⟨first, second, houtputs, fun entry hentry ↦ ?_⟩
  exact (Testbed.documents_of_run consistent_singleDeployment singleArrivals).2 entry
    (houtputs ▸ hentry)

end Tanos
