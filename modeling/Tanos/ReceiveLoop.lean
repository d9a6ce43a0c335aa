import Tanos.RmCommunication

/-!
# The receive loops

`NetLayerRM::receive_message` and `RMAbstraction::rm_handler` receive one datagram after the other,
decode all of them into the same message object and enqueue a copy of it each time.

A datagram with a complete header leaves nothing of the earlier ones in what is enqueued
(`sameMessage_of_header`). One that is cut off within the header leaves at least the first field it
does not reach as it was (`contents_ne_of_short`), and one with more payload than the payload array
holds is no datagram the loop survives (`enqueuedMessage_of_long`). `forall_sameMessage_iff` puts
these together for pairs of histories.
-/

set_option autoImplicit false
set_option relaxedAutoImplicit false

namespace Tanos

open RMCommunication

/-- What is enqueued of a message: its fields, and the payload bytes in use. -/
def RMMessage.contents (message : RMMessage) : RMMessage :=
  { message with payload := message.usedPayload }

/-- The message object of a receive loop after some datagrams. -/
def receiveLoop (message : RMMessage) (datagrams : List (List UInt8)) : Option RMMessage :=
  datagrams.foldlM receiveControlMessage message

/-- The message enqueued for a datagram that arrives after others. -/
def enqueuedMessage (earlier : List (List UInt8)) (datagram : List UInt8) : Option RMMessage :=
  receiveLoop RMMessage.new (earlier ++ [datagram])

/-- After two histories the same message is enqueued for a datagram. -/
def SameMessage (earlier other : List (List UInt8)) (datagram : List UInt8) : Prop :=
  ∃ message otherMessage, enqueuedMessage earlier datagram = some message ∧
    enqueuedMessage other datagram = some otherMessage ∧
    message.contents = otherMessage.contents

theorem enqueuedMessage_eq (earlier : List (List UInt8)) (datagram : List UInt8) :
    enqueuedMessage earlier datagram =
      (receiveLoop RMMessage.new earlier).bind (receiveControlMessage · datagram) := by
  rw [enqueuedMessage, receiveLoop, List.foldlM_append]
  simp only [List.foldlM_cons, List.foldlM_nil, bind_pure]
  rfl

/-! ### Single datagrams -/

/-- A complete header and a payload that fits: nothing is left of the message object. -/
theorem contents_decoded {datagram : List UInt8} (payload : List UInt8)
    (hpayload : datagram.length ≤ headerLength + maxPayload) :
    (RMMessage.decoded payload datagram).contents =
      { RMMessage.decoded [] datagram with payload := datagram.drop headerLength } := by
  rw [RMMessage.contents, RMMessage.usedPayload_decoded payload hpayload]
  rfl

/-- The messages differ in every field of the header. -/
structure RMMessage.Differs (message other : RMMessage) : Prop where
  messageType : message.messageType ≠ other.messageType
  priority : message.priority ≠ other.priority
  sourceId : message.sourceId ≠ other.sourceId
  destinationId : message.destinationId ≠ other.destinationId
  serviceId : message.serviceId ≠ other.serviceId
  mode : message.mode ≠ other.mode
  timeStamp : message.timeStamp ≠ other.timeStamp
  protocolId : message.protocolId ≠ other.protocolId

/-- A field is decoded into two messages in which it differs. The decoded messages differ if the
field is not reached, since both keep it, and else if they differ further on. -/
theorem contents_ne_of_readInto {α : Type} {size pos : ℕ} {decode : List UInt8 → α}
    {next : RMMessage → α → StateM MessageNet RMMessage} {net : MessageNet}
    {message other : RMMessage} (field : RMMessage → α) (hne : field message ≠ field other)
    (hkept : ∀ old value, MessageNet.Yields (next old value) fun decoded ↦
      field decoded.contents = value)
    (hreached : pos + size ≤ net.length → ∀ value,
      (next message value (net.seek (pos + size))).1.contents ≠
        (next other value (net.seek (pos + size))).1.contents) :
    ((MessageNet.readInto size decode (field message) >>= next message)
        (net.seek pos)).1.contents ≠
      ((MessageNet.readInto size decode (field other) >>= next other)
        (net.seek pos)).1.contents := by
  by_cases hfits : pos + size ≤ net.length
  · rw [MessageNet.readInto_bind_of_le decode _ (next message) hfits,
      MessageNet.readInto_bind_of_le decode _ (next other) hfits]
    exact hreached hfits _
  · rw [MessageNet.readInto_bind_of_lt decode _ (next message) (not_le.mp hfits),
      MessageNet.readInto_bind_of_lt decode _ (next other) (not_le.mp hfits)]
    intro hsame
    apply hne
    rw [← hkept message (field message) (net.seek pos), hsame,
      hkept other (field other) (net.seek pos)]

/-- Assumes: the header is cut off, and the messages differ in all its fields. They still differ
after decoding, in the first field that is not reached. -/
theorem contents_ne_of_short {net : MessageNet} (hshort : net.length < headerLength)
    {message other : RMMessage} (hdiffers : message.Differs other) :
    (message.networkToRm (net.seek 0)).1.contents ≠
      (other.networkToRm (net.seek 0)).1.contents := by
  unfold headerLength at hshort
  unfold RMMessage.networkToRm MessageNet.readUInt8 MessageNet.readUInt32 MessageNet.readUInt64
    MessageNet.readCount
  apply contents_ne_of_readInto RMMessage.messageType hdiffers.messageType
  · intro old value
    repeat refine MessageNet.Yields.bind fun _ ↦ ?_
    exact MessageNet.yields_pure rfl
  intro _ _
  apply contents_ne_of_readInto RMMessage.priority hdiffers.priority
  · intro old value
    repeat refine MessageNet.Yields.bind fun _ ↦ ?_
    exact MessageNet.yields_pure rfl
  intro _ _
  apply contents_ne_of_readInto RMMessage.sourceId hdiffers.sourceId
  · intro old value
    repeat refine MessageNet.Yields.bind fun _ ↦ ?_
    exact MessageNet.yields_pure rfl
  intro _ _
  apply contents_ne_of_readInto RMMessage.destinationId hdiffers.destinationId
  · intro old value
    repeat refine MessageNet.Yields.bind fun _ ↦ ?_
    exact MessageNet.yields_pure rfl
  intro _ _
  apply contents_ne_of_readInto RMMessage.serviceId hdiffers.serviceId
  · intro old value
    repeat refine MessageNet.Yields.bind fun _ ↦ ?_
    exact MessageNet.yields_pure rfl
  intro _ _
  apply contents_ne_of_readInto RMMessage.mode hdiffers.mode
  · intro old value
    repeat refine MessageNet.Yields.bind fun _ ↦ ?_
    exact MessageNet.yields_pure rfl
  intro _ _
  apply contents_ne_of_readInto RMMessage.timeStamp hdiffers.timeStamp
  · intro old value
    repeat refine MessageNet.Yields.bind fun _ ↦ ?_
    exact MessageNet.yields_pure rfl
  intro _ _
  apply contents_ne_of_readInto RMMessage.protocolId hdiffers.protocolId
  · intro old value
    repeat refine MessageNet.Yields.bind fun _ ↦ ?_
    exact MessageNet.yields_pure rfl
  intro hreached _
  exact absurd hreached (by omega)

/-! ### Histories -/

/-- The message object survives every datagram whose payload fits. -/
theorem exists_receiveControlMessage (message : RMMessage) {datagram : List UInt8}
    (hpayload : datagram.length ≤ headerLength + maxPayload) :
    ∃ received, receiveControlMessage message datagram = some received := by
  by_cases hheader : headerLength ≤ datagram.length
  · exact ⟨_, receiveControlMessage_of_header message hheader hpayload⟩
  · exact ⟨_, receiveControlMessage_of_short message (not_le.mp hheader)⟩

theorem exists_receiveLoop (message : RMMessage) {datagrams : List (List UInt8)}
    (hpayload : ∀ datagram ∈ datagrams, datagram.length ≤ headerLength + maxPayload) :
    ∃ received, receiveLoop message datagrams = some received := by
  induction datagrams generalizing message with
  | nil => exact ⟨message, rfl⟩
  | cons datagram datagrams ih =>
    obtain ⟨hnow, hlater⟩ := List.forall_mem_cons.mp hpayload
    obtain ⟨received, hreceived⟩ := exists_receiveControlMessage message hnow
    rw [receiveLoop, List.foldlM_cons, hreceived]
    exact ih received hlater

/-- After a history of complete datagrams that are all the same, the message object has their
fields. -/
theorem receiveLoop_replicate (message : RMMessage) {datagram : List UInt8} (count : ℕ)
    (hheader : headerLength ≤ datagram.length)
    (hpayload : datagram.length ≤ headerLength + maxPayload) :
    ∃ payload, receiveLoop message (List.replicate (count + 1) datagram) =
      some (RMMessage.decoded payload datagram) := by
  induction count generalizing message with
  | zero =>
    refine ⟨message.payload, ?_⟩
    rw [zero_add, List.replicate_one, receiveLoop, List.foldlM_cons,
      receiveControlMessage_of_header message hheader hpayload]
    simp only [Option.bind_eq_bind, Option.bind_some, List.foldlM_nil, Option.pure_def]
  | succ count ih =>
    rw [List.replicate_succ, receiveLoop, List.foldlM_cons,
      receiveControlMessage_of_header message hheader hpayload, Option.bind_eq_bind,
      Option.bind_some]
    exact ih (RMMessage.decoded message.payload datagram)

/-- A datagram of a complete header and nothing else, all of its bytes the same. -/
def uniformHeader (byte : UInt8) : List UInt8 := List.replicate headerLength byte

theorem differs_uniformHeader (payload other : List UInt8) :
    (RMMessage.decoded payload (uniformHeader 0)).Differs
      (RMMessage.decoded other (uniformHeader 255)) where
  messageType := by simp only [RMMessage.decoded]; decide
  priority := by simp only [RMMessage.decoded]; decide
  sourceId := by simp only [RMMessage.decoded]; decide
  destinationId := by simp only [RMMessage.decoded]; decide
  serviceId := by simp only [RMMessage.decoded]; decide
  mode := by simp only [RMMessage.decoded]; decide
  timeStamp := by simp only [RMMessage.decoded]; decide
  protocolId := by simp only [RMMessage.decoded]; decide

/-- Two histories, of any length but none, after which a datagram that ends within the header is
not enqueued as the same message. -/
theorem not_sameMessage_uniformHeader (count : ℕ) {datagram : List UInt8}
    (hshort : datagram.length < headerLength) :
    ¬ SameMessage (List.replicate (count + 1) (uniformHeader 0))
      (List.replicate (count + 1) (uniformHeader 255)) datagram := by
  have hheader : ∀ byte, (uniformHeader byte).length = headerLength :=
    fun _ ↦ List.length_replicate
  have hloop := fun byte ↦ receiveLoop_replicate RMMessage.new count (hheader byte).ge
    ((hheader byte).trans_le (Nat.le_add_right _ maxPayload))
  obtain ⟨payload, hreceived⟩ := hloop 0
  obtain ⟨otherPayload, hotherReceived⟩ := hloop 255
  rintro ⟨message, other, hmessage, hother, hsame⟩
  rw [enqueuedMessage_eq, hreceived, Option.bind_some,
    receiveControlMessage_of_short _ hshort] at hmessage
  rw [enqueuedMessage_eq, hotherReceived, Option.bind_some,
    receiveControlMessage_of_short _ hshort] at hother
  have hstart : receivedNet datagram = (receivedNet datagram).seek 0 := rfl
  have hcut : (receivedNet datagram).length < headerLength := by
    rw [length_receivedNet]
    exact (min_le_right _ _).trans_lt hshort
  rw [← Option.some.inj hmessage, ← Option.some.inj hother, hstart] at hsame
  exact contents_ne_of_short hcut (differs_uniformHeader payload otherPayload) hsame

/-- Assumes: the payloads of all datagrams fit into the payload array, and the header of the last
one is complete. The histories leave nothing in the last message. -/
theorem sameMessage_of_header {earlier other : List (List UInt8)} {datagram : List UInt8}
    (hpast : ∀ past ∈ earlier ++ other, past.length ≤ headerLength + maxPayload)
    (hheader : headerLength ≤ datagram.length)
    (hpayload : datagram.length ≤ headerLength + maxPayload) :
    SameMessage earlier other datagram := by
  obtain ⟨hearlier, hother⟩ := List.forall_mem_append.mp hpast
  obtain ⟨message, hmessage⟩ := exists_receiveLoop RMMessage.new hearlier
  obtain ⟨otherMessage, hotherMessage⟩ := exists_receiveLoop RMMessage.new hother
  refine ⟨RMMessage.decoded message.payload datagram,
    RMMessage.decoded otherMessage.payload datagram, ?_, ?_, ?_⟩
  · rw [enqueuedMessage_eq, hmessage, Option.bind_some]
    exact receiveControlMessage_of_header message hheader hpayload
  · rw [enqueuedMessage_eq, hotherMessage, Option.bind_some]
    exact receiveControlMessage_of_header otherMessage hheader hpayload
  · rw [contents_decoded _ hpayload, contents_decoded _ hpayload]

/-- After a datagram that is too long nothing is enqueued any more. -/
theorem enqueuedMessage_of_long {first : List UInt8} (later : List (List UInt8))
    (datagram : List UInt8) (hlong : headerLength + maxPayload < first.length) :
    enqueuedMessage (first :: later) datagram = none := by
  rw [enqueuedMessage_eq, receiveLoop, List.foldlM_cons,
    receiveControlMessage_of_long RMMessage.new hlong, Option.bind_eq_bind, Option.bind_none,
    Option.bind_none]

/-- For every number of earlier datagrams and every bound on their payloads: the message that is
enqueued for a datagram is the same after any two such histories precisely when the payload of the
datagram fits into the payload array and, unless there are no earlier datagrams, so do theirs and
the header of the datagram is complete. -/
theorem forall_sameMessage_iff (count bound : ℕ) (datagram : List UInt8) :
    (∀ earlier other : List (List UInt8), earlier.length = count → other.length = count →
      (∀ past ∈ earlier ++ other, past.length ≤ headerLength + bound) →
      SameMessage earlier other datagram) ↔
    datagram.length ≤ headerLength + maxPayload ∧
      (count = 0 ∨ bound ≤ maxPayload ∧ headerLength ≤ datagram.length) := by
  constructor
  · intro hsame
    have huniform : ∀ first second : List UInt8, first.length ≤ headerLength + bound →
        second.length ≤ headerLength + bound →
        SameMessage (List.replicate count first) (List.replicate count second) datagram := by
      intro first second hfirst hsecond
      refine hsame _ _ List.length_replicate List.length_replicate fun past hpast ↦ ?_
      rcases List.mem_append.mp hpast with hmem | hmem
      · rw [List.eq_of_mem_replicate hmem]
        exact hfirst
      · rw [List.eq_of_mem_replicate hmem]
        exact hsecond
    constructor
    · by_contra hlong
      obtain ⟨message, -, hmessage, -⟩ := huniform [] [] (Nat.zero_le _) (Nat.zero_le _)
      rw [enqueuedMessage_eq] at hmessage
      obtain ⟨old, -, hreceived⟩ := Option.bind_eq_some_iff.mp hmessage
      rw [receiveControlMessage_of_long old (not_le.mp hlong)] at hreceived
      exact absurd hreceived.symm (Option.some_ne_none _)
    · cases count with
      | zero => exact Or.inl rfl
      | succ count =>
        refine Or.inr ⟨?_, ?_⟩
        · by_contra hlong
          have hlength : (List.replicate (headerLength + bound) (0 : UInt8)).length =
              headerLength + bound := List.length_replicate
          obtain ⟨message, -, hmessage, -⟩ := huniform _ _ hlength.le hlength.le
          rw [List.replicate_succ, enqueuedMessage_of_long _ _ (by omega)] at hmessage
          exact absurd hmessage.symm (Option.some_ne_none _)
        · by_contra hshort
          have hlength : ∀ byte, (uniformHeader byte).length ≤ headerLength + bound :=
            fun _ ↦ List.length_replicate.trans_le (Nat.le_add_right _ _)
          exact not_sameMessage_uniformHeader count (not_le.mp hshort)
            (huniform _ _ (hlength 0) (hlength 255))
  · rintro ⟨hpayload, rfl | ⟨hbound, hheader⟩⟩ earlier other hearlier hother hpast
    · rw [List.length_eq_zero_iff.mp hearlier, List.length_eq_zero_iff.mp hother]
      obtain ⟨message, hmessage⟩ := exists_receiveControlMessage RMMessage.new hpayload
      have henqueued : enqueuedMessage [] datagram = some message := by
        rw [enqueuedMessage_eq, receiveLoop, List.foldlM_nil, Option.pure_def, Option.bind_some]
        exact hmessage
      exact ⟨message, message, henqueued, henqueued, rfl⟩
    · exact sameMessage_of_header
        (fun past hmem ↦ (hpast past hmem).trans (Nat.add_le_add_left hbound _)) hheader hpayload

/-- An empty datagram after one of two others. -/
theorem not_sameMessage_emptyDatagram :
    ¬ SameMessage [uniformHeader 0] [uniformHeader 255] [] :=
  not_sameMessage_uniformHeader 0 (by decide)

end Tanos
