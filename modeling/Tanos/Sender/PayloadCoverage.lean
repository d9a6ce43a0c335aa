import Mathlib.Algebra.BigOperators.Group.List.Basic
import Mathlib.Data.Nat.GCD.Basic
import Tanos.Sender.SynchronousSender

/-!
# The payload of an object

The sender sets the payload size of the next packet to what remained before the packet it has just
sent, so that the second packet takes as many bytes as the first one, and every later packet what
the packet ahead of it should have taken. An object of two or more packets is therefore sent in full
packets only (`payloadLengths_eq_replicate`), and its payload covers it exactly when it fills them
(`coversExactly_iff`).
-/

set_option autoImplicit false
set_option relaxedAutoImplicit false

namespace Tanos

open Library.Runs

namespace SentObject

/-- The payload lengths of the packets. -/
def payloadLengths (object : SentObject) : List ℕ :=
  object.packets.map fun packet ↦ packet.message.payloadLength.toNat

/-- The payload lengths sum up to the size of the object, all packets but the last one are full, and
the last one is not empty. -/
structure CoversExactly (object : SentObject) : Prop where
  sum_eq : object.payloadLengths.sum = object.settings.objectSize.toNat * 1024
  full : ∀ length ∈ object.payloadLengths.dropLast, length = maxProtocolMessageLength
  last : ∀ length ∈ object.payloadLengths.getLast?, 1 ≤ length ∧ length ≤ maxProtocolMessageLength

/-- Exact coverage is a matter of the payload lengths. -/
theorem coversExactly_of_payloadLengths {object : SentObject} {lengths : List ℕ}
    (hlengths : object.payloadLengths = lengths)
    (hsum : lengths.sum = object.settings.objectSize.toNat * 1024)
    (hfull : ∀ length ∈ lengths.dropLast, length = maxProtocolMessageLength)
    (hlast : ∀ length ∈ lengths.getLast?, 1 ≤ length ∧ length ≤ maxProtocolMessageLength) :
    object.CoversExactly := by
  subst hlengths
  exact ⟨hsum, hfull, hlast⟩

end SentObject

/-- In an object of two or more packets every packet is full. -/
theorem payloadLengthAt_eq {bytes fragment : ℕ} (htwo : 2 ≤ packetCount bytes)
    (hfragment : fragment < packetCount bytes) :
    payloadLengthAt bytes fragment = maxProtocolMessageLength := by
  have hcount : packetCount bytes = (bytes + 1427 - 1) / 1427 := Nat.ceilDiv_eq_add_pred_div _ _
  have hle : 1427 ≤ bytes - 1427 * (fragment - 1) := by omega
  exact min_eq_right hle

theorem packetCount_mul_eq_iff (bytes : ℕ) :
    packetCount bytes * maxProtocolMessageLength = bytes ↔ maxProtocolMessageLength ∣ bytes := by
  have hcount : packetCount bytes = (bytes + 1427 - 1) / 1427 := Nat.ceilDiv_eq_add_pred_div _ _
  rw [hcount, maxProtocolMessageLength]
  omega

/-- An object has two or more packets from two kilobytes on. -/
theorem two_le_packetCount_iff (size : ℕ) : 2 ≤ packetCount (size * 1024) ↔ 2 ≤ size := by
  have hcount : packetCount (size * 1024) = (size * 1024 + 1427 - 1) / 1427 :=
    Nat.ceilDiv_eq_add_pred_div _ _
  omega

/-- A number of kilobytes is made of full packets exactly when the length of a packet divides it. -/
theorem dvd_mul_kilobyte_iff (size : ℕ) :
    maxProtocolMessageLength ∣ size * 1024 ↔ maxProtocolMessageLength ∣ size :=
  Nat.Coprime.dvd_mul_right (by decide)

namespace SentObject

section Uninterrupted

/-! Assumes: the object has been sent without a stop, and its size does not wrap around in the
arithmetic of `uint32_t`. -/

variable {object : SentObject} {number : ℕ} (hnumbered : object.Numbered number)
  (hlength : object.packets.length = object.settings.numberPackets.toNat)
  (hsize : object.settings.objectSize.toNat * 1024 + 1426 < 2 ^ 32)

include hnumbered hlength hsize

theorem payloadLengths_eq :
    object.payloadLengths =
      (List.range (packetCount (object.settings.objectSize.toNat * 1024))).map
        (payloadLengthAt (object.settings.objectSize.toNat * 1024)) := by
  have hlengths := hnumbered.map_packets fun _ _ h ↦ h.payloadLength_eq
  rw [payloadLengths, hlengths, hlength, toNat_numberPackets hsize, objectBytes_eq hsize]

theorem payloadLengths_eq_replicate (htwo : 2 ≤ object.settings.objectSize.toNat) :
    object.payloadLengths =
      List.replicate (packetCount (object.settings.objectSize.toNat * 1024))
        maxProtocolMessageLength := by
  rw [payloadLengths_eq hnumbered hlength hsize, List.eq_replicate_iff]
  constructor
  · rw [List.length_map, List.length_range]
  · intro length hmem
    obtain ⟨fragment, hfragment, rfl⟩ := List.mem_map.mp hmem
    exact payloadLengthAt_eq ((two_le_packetCount_iff _).mpr htwo) (List.mem_range.mp hfragment)

/-- The payload of an object covers it exactly when it is a single packet or fills its packets. -/
theorem coversExactly_iff_of_numbered :
    object.CoversExactly ↔ object.settings.objectSize.toNat ≤ 1 ∨
      maxProtocolMessageLength ∣ object.settings.objectSize.toNat := by
  by_cases htwo : 2 ≤ object.settings.objectSize.toNat
  · have hlengths := payloadLengths_eq_replicate hnumbered hlength hsize htwo
    have hsum : object.payloadLengths.sum =
        packetCount (object.settings.objectSize.toNat * 1024) * maxProtocolMessageLength := by
      rw [hlengths, List.sum_replicate, smul_eq_mul]
    constructor
    · intro hcovers
      right
      have heq := hsum.symm.trans hcovers.sum_eq
      exact (dvd_mul_kilobyte_iff _).mp ((packetCount_mul_eq_iff _).mp heq)
    · intro hdvd
      have hfills := hdvd.resolve_left (by omega)
      refine coversExactly_of_payloadLengths hlengths ?_ ?_ ?_
      · rw [← hlengths, hsum, packetCount_mul_eq_iff, dvd_mul_kilobyte_iff]
        exact hfills
      · intro length hmem
        exact List.eq_of_mem_replicate (List.mem_of_mem_dropLast hmem)
      · intro length hmem
        rw [List.eq_of_mem_replicate (List.mem_of_getLast? hmem)]
        decide
  · have hlengths := payloadLengths_eq hnumbered hlength hsize
    have hsmall : object.settings.objectSize.toNat ≤ 1 := by omega
    refine iff_of_true ?_ (Or.inl hsmall)
    obtain hzero | hone : object.settings.objectSize.toNat = 0 ∨
        object.settings.objectSize.toNat = 1 := by omega
    · rw [hzero] at hlengths
      refine coversExactly_of_payloadLengths hlengths ?_ (by decide) (by decide)
      rw [hzero]
      rfl
    · rw [hone] at hlengths
      refine coversExactly_of_payloadLengths hlengths ?_ (by decide) (by decide)
      rw [hone]
      rfl

end Uninterrupted

end SentObject

namespace Sender

/-- Whatever happens to a sender, an object that it sends without a stop is covered by its payload
exactly when it is a single packet or fills its packets. Assumes: its size does not wrap around in
the arithmetic of `uint32_t`. -/
theorem coversExactly_iff (serviceSettings : StdMap UInt32 ServiceSettings) (clientId : UInt32)
    (control : TrafficSourceControl) (uninitialised : Timespec) (events : List SenderEvent) :
    let sender := start serviceSettings clientId control uninitialised
    ∀ object ∈ (History.ofRun .synchronous sender events).ended, object.stopped = false →
      object.settings.objectSize.toNat * 1024 + 1426 < 2 ^ 32 →
        (object.CoversExactly ↔ object.settings.objectSize.toNat ≤ 1 ∨
          maxProtocolMessageLength ∣ object.settings.objectSize.toNat) := by
  intro sender object hobject hstopped hsize
  have hconsistent := consistent_ofRun .synchronous
    (consistent_start serviceSettings clientId control uninitialised) events
  have hended := ended_ofRun serviceSettings clientId control uninitialised events object hobject
  obtain ⟨index, hindex⟩ := List.mem_iff_getElem?.mp hobject
  exact SentObject.coversExactly_iff_of_numbered (hconsistent.ended index object hindex)
    (hended.2 hstopped) hsize

/-- What a sender with one mode has sent when nothing interrupts its first object. -/
def uninterruptedHistory (settings : ServiceSettings) : History :=
  History.ofRun .synchronous
    (start ((∅ : StdMap UInt32 ServiceSettings).insert 1 settings) 9 .threadPaused ⟨0, 0⟩)
    (.notify (.modeChange .threadTransmission 1) :: List.replicate 14 (.run ⟨0, 0⟩))

theorem coversExactly_onePacket :
    ∃ object ∈ (uninterruptedHistory { twoPackets with objectSize := 1 }).ended,
      object.CoversExactly := by
  have hhistory : (uninterruptedHistory { twoPackets with objectSize := 1 }).ended.map
      (fun object ↦ (object.stopped, object.settings.objectSize)) = [(false, 1)] := by
    decide
  obtain ⟨object, hended, hobject⟩ := List.map_eq_singleton_iff.mp hhistory
  obtain ⟨hstopped, hsize⟩ := Prod.mk.inj hobject
  have hmem : object ∈ (uninterruptedHistory { twoPackets with objectSize := 1 }).ended := by
    rw [hended]
    exact List.mem_singleton_self object
  refine ⟨object, hmem, (coversExactly_iff _ _ _ _ _ object hmem hstopped ?_).mpr ?_⟩
  · rw [hsize]
    decide
  · rw [hsize]
    decide

/-- Two packets of 1427 bytes for 2048 bytes. -/
theorem not_coversExactly_twoPackets :
    ∃ object ∈ (uninterruptedHistory twoPackets).ended, object.stopped = false ∧
      object.settings.objectSize.toNat * 1024 + 1426 < 2 ^ 32 ∧ ¬ object.CoversExactly := by
  have hhistory : (uninterruptedHistory twoPackets).ended.map
      (fun object ↦ (object.stopped, object.settings.objectSize, object.payloadLengths)) =
        [(false, 2, [1427, 1427])] := by
    decide
  obtain ⟨object, hended, hobject⟩ := List.map_eq_singleton_iff.mp hhistory
  obtain ⟨hstopped, hrest⟩ := Prod.mk.inj hobject
  obtain ⟨hsize, hlengths⟩ := Prod.mk.inj hrest
  refine ⟨object, ?_, hstopped, ?_, fun hcovers ↦ ?_⟩
  · rw [hended]
    exact List.mem_singleton_self object
  · rw [hsize]
    decide
  · have hsum := hcovers.sum_eq
    rw [hlengths, hsize] at hsum
    exact absurd hsum (by decide)

end Sender

end Tanos
