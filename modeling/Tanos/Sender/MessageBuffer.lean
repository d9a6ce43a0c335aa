import Tanos.MessageLength
import Tanos.Sender.Objects

/-!
# The buffer a packet is written to

Both sending functions keep one buffer for all packets. They make it as large as the length of the
message whenever an object has been started and whenever a packet has been sent, `dataToNet` writes
the header and the payload to it without asking for its size, and the socket is handed as many bytes
as the length says. `BufferedSender` is a sender with its buffer, and a `Transmission` one packet
with the buffer it is written to.

The constructor of the message leaves eight bytes out of the length, so that the first packet of an
object is cut off by eight bytes (`not_exact_of_constructed`) and, unless an earlier object was
larger, written beyond the end of the buffer. A run is therefore free of both precisely when it
sends nothing (`forall_exact_iff`).
-/

set_option autoImplicit false
set_option relaxedAutoImplicit false

namespace Tanos

open Library Library.Runs

/-- `std::vector::resize`, where the vector is too small. -/
def resizeBuffer (buffer : List UInt8) (length : ℕ) : List UInt8 :=
  buffer ++ List.replicate (length - buffer.length) 0

/-- A packet, and `data_message_buffer` at the call of `dataToNet`. -/
structure Transmission where
  message : DataMessage
  buffer : List UInt8

namespace Transmission

/-- The buffer behind `dataToNet`. -/
def written (transmission : Transmission) : List UInt8 :=
  MessageNet.store transmission.buffer 0 transmission.message.dataToNet

/-- The bytes the socket is handed, none where they reach beyond the end of the buffer. -/
def datagram (transmission : Transmission) : Option (List UInt8) :=
  DataMessage.copyFrom transmission.written 0 transmission.message.length.toNat

/-- The buffer holds what `dataToNet` writes, and exactly that is handed to the socket. -/
structure Exact (transmission : Transmission) : Prop where
  writtenBytes_le : transmission.message.writtenBytes ≤ transmission.buffer.length
  datagram_eq : transmission.datagram = some transmission.message.dataToNet

variable {transmission : Transmission}

/-- Assumes: the payload lies within the payload array. -/
theorem exact_iff
    (hpayload : transmission.message.payloadLength.toNat ≤ transmission.message.payload.length) :
    transmission.Exact ↔ transmission.message.writtenBytes ≤ transmission.buffer.length ∧
      transmission.message.HasWrittenSize := by
  have hlength := DataMessage.length_dataToNet hpayload
  constructor
  · rintro ⟨hfits, hdatagram⟩
    refine ⟨hfits, ?_⟩
    rw [datagram, DataMessage.copyFrom] at hdatagram
    split_ifs at hdatagram with hwithin
    have hcut := congrArg List.length (Option.some.inj hdatagram)
    rw [List.length_take, List.drop_zero, hlength] at hcut
    change transmission.message.length.toNat = _
    omega
  · rintro ⟨hfits, hsize⟩
    change transmission.message.length.toNat = _ at hsize
    have hwithin : 0 + transmission.message.length.toNat ≤ transmission.written.length := by
      rw [written, MessageNet.store, List.length_append, List.length_append, hlength]
      omega
    refine ⟨hfits, ?_⟩
    rw [datagram, DataMessage.copyFrom_of_le hwithin, List.drop_zero, hsize, ← hlength]
    exact congrArg some (MessageNet.take_store_zero _ _)

end Transmission

/-! ### The buffer of a sender -/

/-- A sender and its `data_message_buffer`. -/
structure BufferedSender where
  sender : Sender
  buffer : List UInt8

namespace BufferedSender

/-- The sender at the gate of the first object, with an empty buffer. -/
def start (serviceSettings : StdMap UInt32 ServiceSettings) (clientId : UInt32)
    (control : TrafficSourceControl) (uninitialised : Timespec) : BufferedSender :=
  ⟨Sender.start serviceSettings clientId control uninitialised, []⟩

/-- What an output of the sender means for the buffer, with the message behind it: at the start of
an object and behind a packet the buffer is made as large as the length of the message. -/
def record (message : DataMessage) (buffer : List UInt8) :
    SenderOutput → List UInt8 × List Transmission
  | .started _ => (resizeBuffer buffer message.length.toNat, [])
  | .packet packet =>
    (resizeBuffer (Transmission.written ⟨packet.message, buffer⟩) message.length.toNat,
      [⟨packet.message, buffer⟩])
  | .passedGate => (buffer, [])
  | .ended _ => (buffer, [])

/-- A step of a sender with its buffer. -/
def step (kind : SenderKind) (state : BufferedSender) (event : SenderEvent) :
    BufferedSender × List Transmission :=
  let stepped := state.sender.step kind event
  let recorded := record stepped.1.dataMessage
  (⟨stepped.1, finalState recorded state.buffer stepped.2⟩, outputs recorded state.buffer stepped.2)

/-! ### The first packet of an object -/

end BufferedSender

/-- The length of the message is the one its constructor has set, for a payload of one packet. -/
structure DataMessage.Constructed (message : DataMessage) : Prop where
  length_eq : message.length = 41 + message.payloadLength
  payloadLength_le : message.payloadLength.toNat ≤ message.payload.length

/-- Such a message is not sent as it is written. -/
theorem Transmission.not_exact_of_constructed {transmission : Transmission}
    (hconstructed : transmission.message.Constructed) : ¬ transmission.Exact := by
  intro hexact
  obtain ⟨-, hsize⟩ := (exact_iff hconstructed.payloadLength_le).mp hexact
  change transmission.message.length.toNat = 49 + transmission.message.payloadLength.toNat at hsize
  rw [hconstructed.length_eq] at hsize
  exact DataMessage.toNat_short_add_ne (by decide) _ hsize

namespace Sender

/-- The place of the sender is within the inner loop. -/
def InInnerLoop (sender : Sender) : Prop :=
  sender.phase.stage = .looping ∨ sender.phase.stage = .transmitting

/-- In the inner loop the message of the object is as its constructor has made it. -/
def AtFirstPacket (sender : Sender) : Prop := sender.InInnerLoop → sender.dataMessage.Constructed

/-- The constructor of an object's message. -/
theorem constructed_ofPayloadAt (priority : UInt8) (clientId : UInt32) (serviceId : UInt64)
    (objectNumber fragmentNumber totalNumber : UInt32) (payload : List UInt8) (bytes : ℕ)
    (timestamp : Timespec) (now : ℤ) :
    (DataMessage.ofPayloadAt priority clientId serviceId objectNumber fragmentNumber totalNumber
      payload (min bytes maxProtocolMessageLength) timestamp now).Constructed := by
  refine ⟨rfl, ?_⟩
  change (UInt32.ofNat (min bytes 1427)).toNat ≤ (List.replicate 1451 (0 : UInt8)).length
  rw [UInt32.toNat_ofNat', List.length_replicate]
  exact (Nat.mod_le _ _).trans (by omega)

/-- Only the start of an object and the sending of a packet touch the message, and only the start of
an object leads into the inner loop. -/
theorem run_quiet (kind : SenderKind) {sender : Sender} (clock : Timespec)
    (hbuild : sender.phase ≠ .buildObject) (hsending : sender.phase ≠ .sending) :
    (sender.run kind clock).1.dataMessage = sender.dataMessage ∧
      ((sender.run kind clock).1.InInnerLoop → sender.InInnerLoop) ∧
      ∀ packet, SenderOutput.packet packet ∉ (sender.run kind clock).2 := by
  cases hphase : sender.phase with
  | buildObject => exact absurd hphase hbuild
  | sending => exact absurd hphase hsending
  | changeMode place =>
    simp only [run, hphase, changeMode]
    cases sender.serviceSettingsStruct[sender.generator.modeGlobal]? with
    | none => cases place <;> simp [InInnerLoop, hphase, SenderPhase.stage]
    | some settings => cases place <;> simp [InInnerLoop, hphase, SenderPhase.stage]
  | checkMode place =>
    simp only [run, hphase]
    split <;> cases place <;> simp [InInnerLoop, hphase, SenderPhase.stage, Place.next]
  | checkUpdate place =>
    simp only [run, hphase]
    split <;> cases place <;> simp [InInnerLoop, hphase, SenderPhase.stage, Place.next]
  | adoptTimestamp place =>
    simp only [run, hphase]
    cases place <;> simp [InInnerLoop, hphase, SenderPhase.stage]
  | clearUpdate place =>
    simp only [run, hphase]
    cases place <;> simp [InInnerLoop, hphase, SenderPhase.stage, Place.next]
  | _ =>
    simp only [run, hphase, withSettings]
    repeat' split
    all_goals simp [InInnerLoop, hphase, SenderPhase.stage]

/-- A step of the thread at the first packet of an object stays there, or sends it as its
constructor has made it. -/
theorem atFirstPacket_run (kind : SenderKind) {sender : Sender} (h : sender.AtFirstPacket)
    (clock : Timespec) :
    ((sender.run kind clock).1.AtFirstPacket ∧
        ∀ packet, SenderOutput.packet packet ∉ (sender.run kind clock).2) ∨
      ∃ packet, (sender.run kind clock).2 = [.packet packet] ∧ packet.message.Constructed := by
  by_cases hsending : sender.phase = .sending
  · simp only [run, hsending, sendPacket, withSettings]
    cases sender.currentSettings with
    | none => exact Or.inl ⟨fun hloop ↦ by simp [InInnerLoop, SenderPhase.stage] at hloop, by simp⟩
    | some settings =>
      have hmessage := h (Or.inr (by rw [hsending]; rfl))
      exact Or.inr ⟨_, rfl, hmessage.length_eq, hmessage.payloadLength_le⟩
  · left
    by_cases hbuild : sender.phase = .buildObject
    · simp only [run, hbuild, buildObject]
      cases hsettings : sender.currentSettings with
      | none =>
        simp only [withSettings, hsettings]
        exact ⟨fun hloop ↦ by simp [InInnerLoop, SenderPhase.stage] at hloop, by simp⟩
      | some settings =>
        rw [withSettings_of_some hsettings]
        refine ⟨fun _ ↦ ?_, by simp⟩
        exact constructed_ofPayloadAt _ _ _ _ _ _ (List.replicate maxProtocolMessageLength 65) _ _ _
    · obtain ⟨hmessage, hloop, hpackets⟩ := run_quiet kind clock hbuild hsending
      refine ⟨fun hnext ↦ ?_, hpackets⟩
      rw [hmessage]
      exact h (hloop hnext)

theorem atFirstPacket_step (kind : SenderKind) {sender : Sender} (h : sender.AtFirstPacket)
    (event : SenderEvent) :
    ((sender.step kind event).1.AtFirstPacket ∧
        ∀ packet, SenderOutput.packet packet ∉ (sender.step kind event).2) ∨
      ∃ packet, (sender.step kind event).2 = [.packet packet] ∧ packet.message.Constructed := by
  cases event with
  | notify notification => exact Or.inl ⟨h, fun _ ↦ List.not_mem_nil⟩
  | stop => exact Or.inl ⟨h, fun _ ↦ List.not_mem_nil⟩
  | run clock => exact atFirstPacket_run kind h clock

end Sender

namespace BufferedSender

/-! ### Whole runs -/

variable {kind : SenderKind}

/-- Without a packet nothing is transmitted. -/
theorem outputs_record_of_no_packet (message : DataMessage) (buffer : List UInt8)
    {events : List SenderOutput} (h : ∀ packet, SenderOutput.packet packet ∉ events) :
    outputs (record message) buffer events = [] := by
  induction events generalizing buffer with
  | nil => rfl
  | cons event rest ih =>
    have hrest := ih (record message buffer event).1
      fun packet hpacket ↦ h packet (List.mem_cons_of_mem event hpacket)
    rw [outputs_cons, hrest, List.append_nil]
    cases event with
    | packet packet => exact absurd List.mem_cons_self (h packet)
    | _ => rfl

/-- From the first packet of an object on, a run sends every packet as it is written precisely when
it sends none. -/
theorem forall_exact_iff_of_atFirstPacket {state : BufferedSender}
    (hstate : state.sender.AtFirstPacket) (events : List SenderEvent) :
    (∀ transmission ∈ outputs (step kind) state events, transmission.Exact) ↔
      ∀ packet, SenderOutput.packet packet ∉ outputs (Sender.step kind) state.sender events := by
  induction events generalizing state with
  | nil => simp
  | cons event rest ih =>
    rw [outputs_cons, outputs_cons]
    rcases Sender.atFirstPacket_step kind hstate event with
      ⟨hnext, hquiet⟩ | ⟨packet, hpacket, hconstructed⟩
    · have hnone : (step kind state event).2 = [] := outputs_record_of_no_packet _ _ hquiet
      have hrest : (∀ transmission ∈ outputs (step kind) (step kind state event).1 rest,
          transmission.Exact) ↔ _ := ih hnext
      rw [hnone, List.nil_append, hrest]
      simp only [List.mem_append, hquiet, false_or]
      rfl
    · have hsent : (step kind state event).2 = [⟨packet.message, state.buffer⟩] := by
        simp only [step, hpacket]
        rfl
      rw [hsent, hpacket]
      constructor
      · intro hexact
        exact absurd (hexact _ List.mem_cons_self)
          (Transmission.not_exact_of_constructed hconstructed)
      · intro hnone
        exact absurd List.mem_cons_self (hnone packet)

/-- Whatever happens to a sender of either kind, in any configuration, the buffer holds every packet
and the socket is handed exactly its bytes precisely when no packet is sent. -/
theorem forall_exact_iff (kind : SenderKind) (serviceSettings : StdMap UInt32 ServiceSettings)
    (clientId : UInt32) (control : TrafficSourceControl) (uninitialised : Timespec)
    (events : List SenderEvent) :
    (∀ transmission ∈ outputs (step kind)
        (start serviceSettings clientId control uninitialised) events, transmission.Exact) ↔
      ∀ packet, SenderOutput.packet packet ∉ outputs (Sender.step kind)
        (Sender.start serviceSettings clientId control uninitialised) events := by
  refine forall_exact_iff_of_atFirstPacket ?_ events
  intro hloop
  rcases hloop with hstage | hstage <;> cases hstage

/-- The first packet of a sender of one kilobyte: 1073 bytes are written to a buffer of 1065. -/
theorem not_forall_exact_kilobyte :
    let state := start ((∅ : StdMap UInt32 ServiceSettings).insert 1
      { (default : ServiceSettings) with objectSize := 1 }) 9 .threadPaused ⟨0, 0⟩
    let events := .notify (.modeChange .threadTransmission 1) :: List.replicate 8 (.run ⟨0, 0⟩)
    ∃ transmission ∈ outputs (step .synchronous) state events,
      transmission.buffer.length = 1065 ∧ transmission.message.writtenBytes = 1073 ∧
        ¬ transmission.Exact := by
  intro state events
  have hsent : (outputs (step .synchronous) state events).map (fun transmission ↦
      (transmission.buffer.length, transmission.message.writtenBytes)) = [(1065, 1073)] := by
    decide +kernel
  obtain ⟨transmission, htransmission, hsizes⟩ := List.map_eq_singleton_iff.mp hsent
  obtain ⟨hbuffer, hwritten⟩ := Prod.mk.inj hsizes
  refine ⟨transmission, ?_, hbuffer, hwritten, fun hexact ↦ ?_⟩
  · rw [htransmission]
    exact List.mem_singleton_self transmission
  · have hfits := hexact.writtenBytes_le
    rw [hbuffer, hwritten] at hfits
    exact absurd hfits (by decide)

end BufferedSender

end Tanos
