import Tanos.Library.Runs
import Tanos.RmCommunication

/-!
# The payload size of a control message

Three operations set the payload size of a message: the constructor for messages with a payload,
`network_to_rm` and `clear`. The first two take the size from the length of a buffer that is larger
than the payload array, and the second one from what the fields it could read have left of a
datagram (`payloadSize_networkToRm`). `always_isSourceSize_iff` says for which sequences of these
operations the size stays that of the source payload, within the payload array.
-/

set_option autoImplicit false
set_option relaxedAutoImplicit false

namespace Tanos

open Library

namespace RMMessage

/-- The sizes of the header fields, in the order of the wire. -/
def fieldSizes : List ℕ := [4, 1, 4, 4, 8, 1, 8, 4]

/-- The cursor behind a field of a buffer with a written length. A field that does not fit is
skipped. -/
def advance (length pos size : ℕ) : ℕ := if pos + size ≤ length then pos + size else pos

/-- The bytes of a datagram of a length that are read as header fields. -/
def fieldsRead (length : ℕ) : ℕ := fieldSizes.foldl (advance length) 0

/-- Behind a field the cursor is advanced, whatever the value is. -/
theorem exists_readInto_bind_eq {α β : Type} (size pos : ℕ) (decode : List UInt8 → α) (value : α)
    (next : α → StateM MessageNet β) (net : MessageNet) :
    ∃ read, (MessageNet.readInto size decode value >>= next) (net.seek pos) =
      next read (net.seek (advance net.length pos size)) := by
  unfold advance
  by_cases hfits : pos + size ≤ net.length
  · rw [if_pos hfits]
    exact ⟨_, MessageNet.readInto_bind_of_le decode value next hfits⟩
  · rw [if_neg hfits]
    exact ⟨_, MessageNet.readInto_bind_of_lt decode value next (not_le.mp hfits)⟩

/-- The payload size is what the header fields leave of the written length. -/
theorem payloadSize_networkToRm (message : RMMessage) (net : MessageNet) :
    (message.networkToRm (net.seek 0)).1.payloadSize =
      UInt16.ofNat (net.length - fieldsRead net.length) := by
  unfold networkToRm MessageNet.readUInt8 MessageNet.readUInt32 MessageNet.readUInt64
    MessageNet.readCount
  obtain ⟨messageType, hmessageType⟩ := exists_readInto_bind_eq 4 0 _ message.messageType _ net
  rw [hmessageType]
  obtain ⟨priority, hpriority⟩ := exists_readInto_bind_eq 1 _ _ message.priority _ net
  rw [hpriority]
  obtain ⟨sourceId, hsourceId⟩ := exists_readInto_bind_eq 4 _ _ message.sourceId _ net
  rw [hsourceId]
  obtain ⟨destinationId, hdestinationId⟩ :=
    exists_readInto_bind_eq 4 _ _ message.destinationId _ net
  rw [hdestinationId]
  obtain ⟨serviceId, hserviceId⟩ := exists_readInto_bind_eq 8 _ _ message.serviceId _ net
  rw [hserviceId]
  obtain ⟨mode, hmode⟩ := exists_readInto_bind_eq 1 _ _ message.mode _ net
  rw [hmode]
  obtain ⟨timeStamp, htimeStamp⟩ := exists_readInto_bind_eq 8 _ _ message.timeStamp _ net
  rw [htimeStamp]
  obtain ⟨protocolId, hprotocolId⟩ := exists_readInto_bind_eq 4 _ _ message.protocolId _ net
  rw [hprotocolId, MessageNet.get_bind]
  rfl

theorem foldl_advance_of_le {length : ℕ} (sizes : List ℕ) {pos : ℕ}
    (hfits : pos + sizes.sum ≤ length) :
    sizes.foldl (advance length) pos = pos + sizes.sum := by
  induction sizes generalizing pos with
  | nil => rfl
  | cons size rest ih =>
    rw [List.sum_cons, ← Nat.add_assoc] at hfits
    have hnext : advance length pos size = pos + size := if_pos (by omega)
    rw [List.foldl_cons, hnext, ih hfits, List.sum_cons, Nat.add_assoc]

theorem foldl_advance_le {length : ℕ} (sizes : List ℕ) {pos : ℕ} (hpos : pos ≤ length) :
    sizes.foldl (advance length) pos ≤ length := by
  induction sizes generalizing pos with
  | nil => exact hpos
  | cons size rest ih =>
    rw [List.foldl_cons]
    apply ih
    unfold advance
    split_ifs with hfits
    · exact hfits
    · exact hpos

/-- A complete header is read as a whole. -/
theorem fieldsRead_of_header {length : ℕ} (hheader : headerLength ≤ length) :
    fieldsRead length = headerLength :=
  foldl_advance_of_le fieldSizes hheader

/-- No more is read than there is. -/
theorem fieldsRead_le (length : ℕ) : fieldsRead length ≤ length :=
  foldl_advance_le fieldSizes (Nat.zero_le length)

end RMMessage

/-! ### Sequences of operations -/

/-- The operations that set the payload size of a message. -/
inductive PayloadEvent where
  | construct (messageType : MessageTypes) (priority : UInt8) (sourceId destinationId : UInt32)
    (serviceId : UInt64) (mode : UInt8) (protocolId : ProtocolIDs) (rmPayloadMessage : MessageNet)
    (now : ℤ)
  | networkToRm (datagram : List UInt8)
  | clear
deriving DecidableEq, Repr

/-- A message, and the number of bytes its payload had at its source. -/
structure PayloadState where
  message : RMMessage
  sourceSize : ℕ
deriving DecidableEq, Repr

namespace PayloadState

/-- A message without a payload. -/
def start : PayloadState := ⟨RMMessage.new, 0⟩

/-- An operation on a message. The payload of a datagram is what is behind its header. -/
def step (state : PayloadState) : PayloadEvent → PayloadState × List Empty
  | .construct messageType priority sourceId destinationId serviceId mode protocolId
      rmPayloadMessage now =>
    (⟨RMMessage.ofPayload messageType priority sourceId destinationId serviceId mode protocolId
      rmPayloadMessage now, rmPayloadMessage.length⟩, [])
  | .networkToRm datagram =>
    (⟨(state.message.networkToRm (RMCommunication.receivedNet datagram)).1,
      (datagram.drop headerLength).length⟩, [])
  | .clear => (⟨RMMessage.clear, 0⟩, [])

/-- The payload size is that of the source payload, and the payload array holds it. -/
def IsSourceSize (state : PayloadState) : Prop :=
  state.message.payloadSize.toNat ≤ maxPayload ∧
    state.message.payloadSize.toNat = state.sourceSize

end PayloadState

/-- The condition: the buffer of a constructor holds at most 1024 bytes. A datagram has at most
1058, and if it ends within the header, no byte of it is left over when the fields are read. -/
def PayloadEvent.Fits : PayloadEvent → Prop
  | .construct _ _ _ _ _ _ _ rmPayloadMessage _ => rmPayloadMessage.length ≤ maxPayload
  | .networkToRm datagram => datagram.length ≤ headerLength + maxPayload ∧
    (datagram.length < headerLength → RMMessage.fieldsRead datagram.length = datagram.length)
  | .clear => True

namespace PayloadState

open RMMessage

/-- The payload size a datagram leaves behind. -/
theorem payloadSize_receivedNet (message : RMMessage) (datagram : List UInt8) :
    (message.networkToRm (RMCommunication.receivedNet datagram)).1.payloadSize.toNat =
      min maxLength datagram.length - fieldsRead (min maxLength datagram.length) := by
  have hlimit : min maxLength datagram.length ≤ maxLength := Nat.min_le_left _ _
  unfold maxLength at hlimit
  rw [← RMCommunication.seek_receivedNet, payloadSize_networkToRm,
    RMCommunication.length_receivedNet, UInt16.toNat_ofNat']
  exact Nat.mod_eq_of_lt (by unfold maxLength; omega)

/-- A datagram sets the size of its payload precisely when it fits. -/
theorem isSourceSize_networkToRm_iff (state : PayloadState) (datagram : List UInt8) :
    (state.step (.networkToRm datagram)).1.IsSourceSize ↔
      (PayloadEvent.networkToRm datagram).Fits := by
  have hread := fieldsRead_le (min maxLength datagram.length)
  simp only [IsSourceSize, step, PayloadEvent.Fits]
  rw [payloadSize_receivedNet, List.length_drop]
  by_cases hheader : headerLength ≤ min maxLength datagram.length
  · rw [fieldsRead_of_header hheader]
    unfold headerLength maxPayload maxLength at *
    omega
  · unfold headerLength maxPayload maxLength at *
    have hmin : min 1472 datagram.length = datagram.length := by omega
    rw [hmin] at hread ⊢
    omega

/-- An operation sets the size of its source payload precisely when it fits. -/
theorem isSourceSize_step_iff (state : PayloadState) (event : PayloadEvent) :
    (state.step event).1.IsSourceSize ↔ event.Fits := by
  cases event with
  | construct messageType priority sourceId destinationId serviceId mode protocolId
      rmPayloadMessage now =>
    change rmPayloadMessage.length % 2 ^ 16 ≤ 1024 ∧
      rmPayloadMessage.length % 2 ^ 16 = rmPayloadMessage.length ↔ rmPayloadMessage.length ≤ 1024
    omega
  | networkToRm datagram => exact isSourceSize_networkToRm_iff state datagram
  | clear => exact ⟨fun _ ↦ trivial, fun _ ↦ ⟨Nat.zero_le _, rfl⟩⟩

/-- Along a sequence of operations the payload size is always that of the source payload, within the
payload array, precisely when every operation fits. -/
theorem always_isSourceSize_iff (events : List PayloadEvent) :
    Runs.Always step IsSourceSize start events ↔ ∀ event ∈ events, event.Fits := by
  have hstart : start.IsSourceSize := ⟨Nat.zero_le _, rfl⟩
  rw [Runs.always_iff_everyStep (fun state event _ ↦ isSourceSize_step_iff state event) hstart,
    Runs.everyStep_iff_forall_mem]

/-- A datagram that a buffer holds, with one byte of payload too many. -/
theorem not_isSourceSize_longDatagram :
    ∃ datagram : List UInt8, datagram.length ≤ maxLength ∧
      ¬ Runs.Always step IsSourceSize start [.networkToRm datagram] := by
  refine ⟨List.replicate 1059 0, ?_, fun halways ↦ ?_⟩
  · rw [List.length_replicate]
    decide
  · obtain ⟨-, hnext⟩ := (Runs.always_cons _ _ _).mp halways
    obtain ⟨hlength, -⟩ :=
      (isSourceSize_step_iff start _).mp ((Runs.always_nil _).mp hnext)
    rw [List.length_replicate] at hlength
    exact absurd hlength (by decide)

end PayloadState

end Tanos
