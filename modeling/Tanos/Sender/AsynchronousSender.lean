import Tanos.Sender.ModeInForce

/-!
# The headers of the asynchronous sender

The asynchronous sender looks for a new mode before each packet. The header of the packets and the
bound of the inner loop's counter are those of the mode the object was started in, the endpoint and
the bound itself those of the mode in force. As long as each mode that is adopted within an object
has the same header fields as the one before, all packets agree with the mode they are sent to, and
no fragment is left out (`headersAgree_of_adopts`). A change to any other mode shows in the very
next packet (`not_headersAgree_modeChange`).
-/

set_option autoImplicit false
set_option relaxedAutoImplicit false

namespace Tanos

open Library.Runs

instance : DecidablePred SentPacket.HeaderAgrees := fun packet ↦
  decidable_of_iff (packet.endpoint = packet.settings.endpoint ∧
      packet.message.serviceId = packet.settings.serviceId ∧
      packet.message.priority = packet.settings.servicePriority.toUInt8 ∧
      packet.message.totalFragments = packet.settings.numberPackets ∧
      packet.message.fragmentNumber < packet.message.totalFragments)
    ⟨fun h ↦ ⟨h.1, h.2.1, h.2.2.1, h.2.2.2.1, h.2.2.2.2⟩,
      fun h ↦ ⟨h.endpoint_eq, h.serviceId_eq, h.priority_eq, h.totalFragments_eq,
        h.fragmentNumber_lt⟩⟩

/-- The packets of the object are all fragments of its headers, in order. -/
structure SentObject.AllFragments (object : SentObject) : Prop where
  fragmentNumber_eq : object.packets.map (fun packet ↦ packet.message.fragmentNumber.toNat) =
    List.range object.settings.numberPackets.toNat
  totalFragments_eq : ∀ packet ∈ object.packets,
    packet.message.totalFragments = object.settings.numberPackets

/-- What the history of an asynchronous sender should look like. -/
structure History.HeadersAgree (history : History)
    (serviceSettings : StdMap UInt32 ServiceSettings) : Prop where
  packets : ∀ packet ∈ history.packets, packet.HeaderAgrees ∧
    ∃ mode : UInt32, serviceSettings[mode]? = some packet.settings
  ended : ∀ object ∈ history.ended, object.stopped = false → object.AllFragments

namespace Sender

/-- An object with all packets of its mode has all fragments. -/
theorem allFragments_of_numbered {object : SentObject} {number : ℕ}
    (hnumbered : object.Numbered number)
    (hlength : object.packets.length = object.settings.numberPackets.toNat) :
    object.AllFragments := by
  constructor
  · have hfragments := hnumbered.map_packets fun _ _ h ↦ h.fragmentNumber_eq
    rw [hfragments, List.map_id', hlength]
  · intro packet hpacket
    obtain ⟨fragment, hfragment⟩ := List.mem_iff_getElem?.mp hpacket
    exact (hnumbered fragment packet hfragment).totalFragments_eq

/-- As long as every mode that is adopted within an object is configured and has the same header
fields as the mode before, all packets agree with the mode they are sent to, and every object that
ends without a stop has all its fragments. -/
theorem headersAgree_of_adopts (serviceSettings : StdMap UInt32 ServiceSettings)
    (clientId : UInt32) (control : TrafficSourceControl) (uninitialised : Timespec)
    {events : List SenderEvent}
    (hadopts : EveryStep sendObjectsDynamicChangeAsynchron (Adopts ServiceSettings.SameHeader)
      (start serviceSettings clientId control uninitialised) events) :
    (History.ofRun .asynchronous (start serviceSettings clientId control uninitialised)
      events).HeadersAgree serviceSettings := by
  obtain ⟨last, hagreeing⟩ := agreeing_ofRun compatibility_sameHeader clientId control
    uninitialised fun past event hpast _ ↦ hadopts past event hpast
  have hconsistent := consistent_ofRun .asynchronous
    (consistent_start serviceSettings clientId control uninitialised) events
  refine ⟨hagreeing.packets, fun object hobject hstopped ↦ ?_⟩
  obtain ⟨index, hindex⟩ := List.mem_iff_getElem?.mp hobject
  exact allFragments_of_numbered (hconsistent.ended index object hindex)
    ((hagreeing.ended object hobject).2.2 hstopped)

/-- A sender with two modes, and a change from the first to the second one behind the first packet
of an object. -/
def modeChangeEvents : List SenderEvent :=
  .notify (.modeChange .threadTransmission 1) :: List.replicate 9 (.run ⟨0, 0⟩) ++
    .notify (.modeChange .threadTransmission 2) :: List.replicate 9 (.run ⟨0, 0⟩)

def twoModes (other : ServiceSettings) : StdMap UInt32 ServiceSettings :=
  ((∅ : StdMap UInt32 ServiceSettings).insert 1 twoPackets).insert 2 other

/-- Another endpoint is no other header. -/
theorem headersAgree_of_adopts_otherEndpoint :
    let serviceSettings := twoModes { twoPackets with ipAddress := "10.0.0.8" }
    (History.ofRun .asynchronous (start serviceSettings 9 .threadPaused ⟨0, 0⟩)
      modeChangeEvents).HeadersAgree serviceSettings := by
  intro serviceSettings
  have hadopts : EveryStep sendObjectsDynamicChangeAsynchron (Adopts ServiceSettings.SameHeader)
      (start serviceSettings 9 .threadPaused ⟨0, 0⟩) modeChangeEvents := by
    decide
  exact headersAgree_of_adopts serviceSettings 9 .threadPaused ⟨0, 0⟩ hadopts

/-- The packet behind a change to the mode of another service has the header of the old mode. -/
theorem not_headersAgree_modeChange :
    let serviceSettings := twoModes { twoPackets with serviceId := 8, ipAddress := "10.0.0.8" }
    ¬ (History.ofRun .asynchronous (start serviceSettings 9 .threadPaused ⟨0, 0⟩)
      modeChangeEvents).HeadersAgree serviceSettings := by
  intro serviceSettings h
  have hpacket : ∃ packet ∈ (History.ofRun .asynchronous
      (start serviceSettings 9 .threadPaused ⟨0, 0⟩) modeChangeEvents).packets,
        ¬ packet.HeaderAgrees := by
    decide
  obtain ⟨packet, hmem, hnot⟩ := hpacket
  exact hnot (h.packets packet hmem).1

end Sender

end Tanos
