import Tanos.Sender.Objects

/-!
# The traffic sink

`TrafficSink::handle_message` receives every datagram into one buffer of the length of a full
packet, and decodes the whole buffer whatever has been received. What a datagram does not reach is
left from the datagrams before, and what does not fit is lost.

The header of the decoded message is that of the datagram (`logged_decodedAfter`), and the payload
length is that of the buffer (`payloadLength_decodedAfter`). `forall_seesPacket_iff` says for which
datagrams this is what has been sent. Those of the senders are none of them
(`not_seesPacket_of_sent`).
-/

set_option autoImplicit false
set_option relaxedAutoImplicit false

namespace Tanos

open Library.Runs

/-- The variables of `TrafficSink::handle_message` that outlive a datagram. -/
structure TrafficSink where
  dataMessage : DataMessage
  dataMessageBuffer : List UInt8

namespace TrafficSink

/-- Before the first datagram. -/
def start (uninitialised : UInt32) : TrafficSink where
  dataMessage := DataMessage.new uninitialised
  dataMessageBuffer := List.replicate maxProtocolMessageLength 0

/-- `receive_from` into a buffer, which takes what fits. -/
def receiveFrom (buffer datagram : List UInt8) : List UInt8 :=
  MessageNet.store buffer 0 (datagram.take buffer.length)

/-- The message that a datagram is decoded into. -/
def receive (sink : TrafficSink) (datagram : List UInt8) : Option DataMessage :=
  let buffer := receiveFrom sink.dataMessageBuffer datagram
  sink.dataMessage.netToData buffer buffer.length

/-- One round of `handle_message`. -/
def handleMessage (sink : TrafficSink) (datagram : List UInt8) : Option TrafficSink := do
  let message ← sink.receive datagram
  return ⟨message.clear, receiveFrom sink.dataMessageBuffer datagram⟩

/-- The message decoded from a datagram that arrives after others. -/
def decodedAfter (uninitialised : UInt32) (earlier : List (List UInt8)) (datagram : List UInt8) :
    Option DataMessage := do
  let sink ← earlier.foldlM handleMessage (start uninitialised)
  sink.receive datagram

end TrafficSink

/-- What has been decoded: the fields, and the payload bytes in use. -/
def DataMessage.contents (message : DataMessage) : DataMessage :=
  { message with payload := message.payload.take message.payloadLength.toNat }

/-- What the sink writes to its files. -/
structure Logged where
  serviceId : UInt64
  objectNumber : UInt32
  fragmentNumber : UInt32
  timestamp : Timespec

/-- What the sink writes of a message. -/
def DataMessage.logged (message : DataMessage) : Logged :=
  ⟨message.serviceId, message.objectNumber, message.fragmentNumber, message.timestamp⟩

namespace TrafficSink

/-- The message decoded from a datagram has the payload of the datagram, and is the same after
every history. -/
def SeesPacket (uninitialised : UInt32) (earlier : List (List UInt8)) (datagram : List UInt8) :
    Prop :=
  ∃ decoded, decodedAfter uninitialised earlier datagram = some decoded ∧
    decoded.payloadLength.toNat = datagram.length - 49 ∧
    ∀ (other : UInt32) (history : List (List UInt8)),
      (decodedAfter other history datagram).map DataMessage.contents = some decoded.contents

/-- The message has the header length of a default-constructed one, and the buffer its length. -/
structure Ready (sink : TrafficSink) : Prop where
  headerLength_eq : sink.dataMessage.headerLength = 49
  length_eq : sink.dataMessageBuffer.length = maxProtocolMessageLength

theorem ready_start (uninitialised : UInt32) : (start uninitialised).Ready :=
  ⟨rfl, List.length_replicate⟩

theorem length_receiveFrom (buffer datagram : List UInt8) :
    (receiveFrom buffer datagram).length = buffer.length := by
  simp only [receiveFrom, MessageNet.store, List.take_zero, List.nil_append, zero_add,
    List.length_append, List.length_drop, List.length_take]
  omega

/-- A field that the datagram covers is found in the buffer. -/
theorem take_drop_receiveFrom {buffer datagram : List UInt8} {offset size : ℕ}
    (hdatagram : offset + size ≤ datagram.length) (hbuffer : offset + size ≤ buffer.length) :
    ((receiveFrom buffer datagram).drop offset).take size = (datagram.drop offset).take size := by
  have hlength : (datagram.take buffer.length).length = min buffer.length datagram.length :=
    List.length_take
  rw [receiveFrom, MessageNet.store, List.take_zero, List.nil_append,
    List.drop_append_of_le_length (by omega), List.take_append_of_le_length (by
      rw [List.length_drop]
      omega), List.drop_take, List.take_take, min_eq_left (by omega)]

/-- A datagram of the length of the buffer replaces it. -/
theorem receiveFrom_of_length_eq {buffer datagram : List UInt8}
    (hlength : datagram.length = buffer.length) : receiveFrom buffer datagram = datagram := by
  rw [receiveFrom, MessageNet.store, ← hlength, List.take_length, List.take_zero,
    List.nil_append, zero_add, hlength, List.drop_length, List.append_nil]

section Ready

variable {sink : TrafficSink} (h : sink.Ready)

include h

/-- Every datagram is decoded, from the whole buffer. -/
theorem Ready.receive_eq (datagram : List UInt8) :
    sink.receive datagram =
      some (sink.dataMessage.decoded (receiveFrom sink.dataMessageBuffer datagram)) := by
  have hlength : (receiveFrom sink.dataMessageBuffer datagram).length = 1427 := by
    rw [length_receiveFrom, h.length_eq]
    rfl
  refine DataMessage.netToData_eq_decoded h.headerLength_eq ?_ ?_
  · rw [hlength]
    decide
  · rw [hlength]
    decide

/-- The sink survives every datagram. -/
theorem Ready.handleMessage (datagram : List UInt8) :
    ∃ next, sink.handleMessage datagram = some next ∧ next.Ready := by
  refine ⟨⟨(sink.dataMessage.decoded (receiveFrom sink.dataMessageBuffer datagram)).clear,
    receiveFrom sink.dataMessageBuffer datagram⟩, ?_, h.headerLength_eq, ?_⟩
  · rw [TrafficSink.handleMessage, h.receive_eq datagram]
    rfl
  · exact (length_receiveFrom _ _).trans h.length_eq

theorem Ready.foldlM (datagrams : List (List UInt8)) :
    ∃ next, datagrams.foldlM TrafficSink.handleMessage sink = some next ∧ next.Ready := by
  induction datagrams generalizing sink with
  | nil => exact ⟨sink, rfl, h⟩
  | cons datagram rest ih =>
    obtain ⟨next, hnext, hready⟩ := h.handleMessage datagram
    rw [List.foldlM_cons, hnext]
    exact ih hready

/-- The decoded payload is as long as the buffer allows. -/
theorem Ready.payloadLength_decoded (datagram : List UInt8) :
    (sink.dataMessage.decoded (receiveFrom sink.dataMessageBuffer datagram)).payloadLength =
      1378 := by
  change UInt32.ofNat (receiveFrom sink.dataMessageBuffer datagram).length -
    sink.dataMessage.headerLength = 1378
  rw [length_receiveFrom, h.length_eq, h.headerLength_eq]
  rfl

/-- The header is that of the datagram. -/
theorem Ready.logged_decoded {datagram : List UInt8} (hheader : 49 ≤ datagram.length) :
    (sink.dataMessage.decoded (receiveFrom sink.dataMessageBuffer datagram)).logged =
      (sink.dataMessage.decoded datagram).logged := by
  have hlength : sink.dataMessageBuffer.length = 1427 := h.length_eq
  simp only [DataMessage.logged, DataMessage.decoded]
  rw [take_drop_receiveFrom (by omega) (by omega), take_drop_receiveFrom (by omega) (by omega),
    take_drop_receiveFrom (by omega) (by omega), take_drop_receiveFrom (by omega) (by omega)]

/-- A datagram of the length of the buffer leaves nothing of what was decoded before. -/
theorem Ready.contents_decoded {datagram : List UInt8} (hlength : datagram.length = 1427) :
    (sink.dataMessage.decoded (receiveFrom sink.dataMessageBuffer datagram)).contents =
      ((DataMessage.new 0).decoded datagram).contents := by
  have hbuffer : receiveFrom sink.dataMessageBuffer datagram = datagram :=
    receiveFrom_of_length_eq (hlength.trans h.length_eq.symm)
  have hpayload := h.payloadLength_decoded datagram
  rw [hbuffer] at hpayload ⊢
  have hrest : (datagram.drop 49).length = 1378 := by
    rw [List.length_drop, hlength]
  have htake (buffer : List UInt8) :
      (MessageNet.store buffer 0 (datagram.drop 49)).take 1378 = datagram.drop 49 := by
    rw [← hrest]
    exact MessageNet.take_store_zero buffer (datagram.drop 49)
  have hother : ((DataMessage.new 0).decoded datagram).payloadLength = 1378 := by
    change UInt32.ofNat datagram.length - 49 = 1378
    rw [hlength]
    rfl
  rw [DataMessage.contents, DataMessage.contents, hpayload, hother]
  change DataMessage.mk _ _ _ _ _ _ _ _ _ _ _ ((MessageNet.store _ 0 _).take 1378) =
    DataMessage.mk _ _ _ _ _ _ _ _ _ _ _ ((MessageNet.store _ 0 _).take 1378)
  rw [htake, htake]
  simp only [DataMessage.decoded, h.headerLength_eq]
  rfl

end Ready

/-- After every history the next datagram is decoded. -/
theorem exists_ready (uninitialised : UInt32) (earlier : List (List UInt8)) :
    ∃ sink : TrafficSink, sink.Ready ∧ ∀ datagram,
      decodedAfter uninitialised earlier datagram =
        some (sink.dataMessage.decoded (receiveFrom sink.dataMessageBuffer datagram)) := by
  obtain ⟨sink, hsink, hready⟩ := (ready_start uninitialised).foldlM earlier
  refine ⟨sink, hready, fun datagram ↦ ?_⟩
  rw [decodedAfter, hsink]
  exact hready.receive_eq datagram

/-- Whatever arrives, the sink takes it for a packet that fills the buffer. -/
theorem payloadLength_decodedAfter (uninitialised : UInt32) (earlier : List (List UInt8))
    (datagram : List UInt8) :
    (decodedAfter uninitialised earlier datagram).map DataMessage.payloadLength = some 1378 := by
  obtain ⟨sink, hready, hdecoded⟩ := exists_ready uninitialised earlier
  rw [hdecoded, Option.map_some, hready.payloadLength_decoded]

/-- What the sink writes to its files is what the datagram says. -/
theorem logged_decodedAfter (uninitialised : UInt32) (earlier : List (List UInt8))
    {datagram : List UInt8} (hheader : 49 ≤ datagram.length) :
    (decodedAfter uninitialised earlier datagram).map DataMessage.logged =
      some ((DataMessage.new uninitialised).decoded datagram).logged := by
  obtain ⟨sink, hready, hdecoded⟩ := exists_ready uninitialised earlier
  rw [hdecoded, Option.map_some, hready.logged_decoded hheader]
  rfl

theorem seesPacket_iff (uninitialised : UInt32) (earlier : List (List UInt8))
    {datagram : List UInt8} (hheader : 49 ≤ datagram.length) :
    SeesPacket uninitialised earlier datagram ↔ datagram.length = 1427 := by
  constructor
  · rintro ⟨decoded, hsome, hlength, -⟩
    have hpayload := payloadLength_decodedAfter uninitialised earlier datagram
    rw [hsome, Option.map_some, Option.some_inj] at hpayload
    rw [hpayload] at hlength
    change 1378 = datagram.length - 49 at hlength
    omega
  · intro hlength
    obtain ⟨sink, hready, hdecoded⟩ := exists_ready uninitialised earlier
    refine ⟨_, hdecoded datagram, ?_, ?_⟩
    · rw [hready.payloadLength_decoded datagram, hlength]
      rfl
    · intro other history
      obtain ⟨otherSink, hotherReady, hotherDecoded⟩ := exists_ready other history
      rw [hotherDecoded, Option.map_some, hready.contents_decoded hlength,
        hotherReady.contents_decoded hlength]

/-- All datagrams of a history that have a header are seen as they were sent precisely when each of
them has the length of the buffer. -/
theorem forall_seesPacket_iff (uninitialised : UInt32) (datagrams : List (List UInt8)) :
    (∀ earlier datagram later, datagrams = earlier ++ datagram :: later →
        49 ≤ datagram.length → SeesPacket uninitialised earlier datagram) ↔
      ∀ datagram ∈ datagrams, 49 ≤ datagram.length → datagram.length = 1427 := by
  constructor
  · intro hsees datagram hmem hheader
    obtain ⟨earlier, later, hsplit⟩ := List.append_of_mem hmem
    exact (seesPacket_iff uninitialised earlier hheader).mp
      (hsees earlier datagram later hsplit hheader)
  · intro hlengths earlier datagram later hsplit hheader
    refine (seesPacket_iff uninitialised earlier hheader).mpr (hlengths datagram ?_ hheader)
    rw [hsplit]
    exact List.mem_append_right earlier List.mem_cons_self

/-! ### The datagrams of the senders -/

/-- The message of the sender is not as long as the buffer of the sink. -/
def MissesBuffer (sender : Sender) : Prop :=
  sender.dataMessage.length.toNat ≠ maxProtocolMessageLength

/-- A packet would fill the buffer with a payload of 1386 bytes. The payload of a single packet is
a number of kilobytes, the others are longer. -/
theorem toNat_length_ne (settings : ServiceSettings) :
    (41 + UInt32.ofNat (min settings.objectBytes maxProtocolMessageLength)).toNat ≠
      maxProtocolMessageLength := by
  have hbytes : settings.objectBytes = settings.objectSize.toNat * 1024 % 2 ^ 32 :=
    UInt32.toNat_mul settings.objectSize 1024
  have hle : min settings.objectBytes maxProtocolMessageLength ≤ 1427 := min_le_right _ _
  have hpayload : (UInt32.ofNat (min settings.objectBytes maxProtocolMessageLength)).toNat =
      min settings.objectBytes maxProtocolMessageLength :=
    UInt32.toNat_ofNat_of_lt' (lt_of_le_of_lt hle (by decide))
  have hforty : (41 : UInt32).toNat = 41 := rfl
  rw [UInt32.toNat_add, hpayload, hforty]
  unfold maxProtocolMessageLength at hle ⊢
  omega

theorem missesBuffer_buildObject {sender : Sender} (h : MissesBuffer sender) (clock : Timespec) :
    MissesBuffer (sender.buildObject clock).1 := by
  cases hsettings : sender.currentSettings with
  | none =>
    rw [Sender.buildObject, Sender.withSettings, hsettings]
    exact h
  | some settings =>
    rw [Sender.buildObject, Sender.withSettings_of_some hsettings]
    exact toNat_length_ne settings

/-- A step of the thread leaves the message at a length that the buffer of the sink does not
have. -/
theorem missesBuffer_run (kind : SenderKind) {sender : Sender} (h : MissesBuffer sender)
    (clock : Timespec) : MissesBuffer (sender.run kind clock).1 := by
  cases hphase : sender.phase with
  | buildObject =>
    simp only [Sender.run, hphase]
    exact missesBuffer_buildObject h clock
  | changeMode place =>
    simp only [Sender.run, hphase, Sender.changeMode]
    repeat' split
    all_goals exact h
  | _ =>
    simp only [Sender.run, hphase, Sender.sendPacket, Sender.withSettings]
    repeat' split
    all_goals exact h

theorem missesBuffer_step (kind : SenderKind) {sender : Sender} (h : MissesBuffer sender)
    (event : SenderEvent) : MissesBuffer (Sender.step kind sender event).1 := by
  cases event with
  | notify notification => exact h
  | stop => exact h
  | run clock => exact missesBuffer_run kind h clock

/-- A packet on its way has the length of the message of its sender. -/
theorem length_of_mem_run {kind : SenderKind} {sender : Sender} {clock : Timespec}
    {packet : SentPacket} (hpacket : .packet packet ∈ (sender.run kind clock).2) :
    packet.message.length = sender.dataMessage.length := by
  cases hphase : sender.phase with
  | sending =>
    simp only [Sender.run, hphase] at hpacket
    cases hsettings : sender.currentSettings with
    | none => simp [Sender.sendPacket, Sender.withSettings, hsettings] at hpacket
    | some settings =>
      simp only [Sender.sendPacket, Sender.withSettings_of_some hsettings, List.mem_singleton,
        SenderOutput.packet.injEq] at hpacket
      rw [hpacket]
      rfl
  | changeMode place =>
    simp only [Sender.run, hphase, Sender.changeMode] at hpacket
    repeat' split at hpacket
    all_goals simp at hpacket
  | _ =>
    simp only [Sender.run, hphase, Sender.buildObject, Sender.withSettings] at hpacket
    repeat' split at hpacket
    all_goals simp at hpacket

theorem length_ne_of_mem_outputs (kind : SenderKind)
    (serviceSettings : StdMap UInt32 ServiceSettings) (clientId : UInt32)
    (control : TrafficSourceControl) (uninitialised : Timespec) (events : List SenderEvent) :
    ∀ output ∈ outputs (Sender.step kind)
        (Sender.start serviceSettings clientId control uninitialised) events,
      ∀ packet, output = .packet packet →
        packet.message.length.toNat ≠ maxProtocolMessageLength := by
  have hstart : MissesBuffer (Sender.start serviceSettings clientId control uninitialised) := by
    change (49 : UInt32).toNat ≠ maxProtocolMessageLength
    decide
  have hstep (current : Sender) (event : SenderEvent) (_ : event ∈ events)
      (h : MissesBuffer current) : MissesBuffer (Sender.step kind current event).1 :=
    missesBuffer_step kind h event
  refine forall_mem_outputs_of_invariant hstep ?_ hstart
  rintro current event - hmisses output houtput packet rfl
  cases event with
  | notify notification => exact absurd houtput List.not_mem_nil
  | stop => exact absurd houtput List.not_mem_nil
  | run clock =>
    rw [length_of_mem_run houtput]
    exact hmisses

/-- No datagram of a sender is seen as it was sent: in no run of a sender does the sink find the
payload of the packet. -/
theorem not_seesPacket_of_sent {kind : SenderKind} {serviceSettings : StdMap UInt32 ServiceSettings}
    {clientId : UInt32} {control : TrafficSourceControl} {uninitialised : Timespec}
    {events : List SenderEvent} {packet : SentPacket}
    (hsent : .packet packet ∈ outputs (Sender.step kind)
      (Sender.start serviceSettings clientId control uninitialised) events)
    {datagram : List UInt8} (hlength : datagram.length = packet.message.length.toNat)
    (hheader : 49 ≤ datagram.length) (object : UInt32) (earlier : List (List UInt8)) :
    ¬ SeesPacket object earlier datagram := by
  rw [seesPacket_iff object earlier hheader, hlength]
  exact length_ne_of_mem_outputs kind serviceSettings clientId control uninitialised events _
    hsent packet rfl

/-- The single packet of an object of one kilobyte is seen with other payload than it was sent
with. -/
theorem not_forall_seesPacket_oneKilobyte :
    ¬ ∀ earlier datagram later, [List.replicate 1065 (65 : UInt8)] = earlier ++ datagram :: later →
      49 ≤ datagram.length → SeesPacket 0 earlier datagram := by
  intro hsees
  have hsingle := hsees [] _ [] rfl (by rw [List.length_replicate]; decide)
  have hlength := (seesPacket_iff 0 [] (by rw [List.length_replicate]; decide)).mp hsingle
  rw [List.length_replicate] at hlength
  exact absurd hlength (by decide)

end TrafficSink

end Tanos
