import Mathlib.Algebra.Order.Floor.Div
import Mathlib.Tactic.Linarith
import Tanos.Sender.ModeInForce

/-!
# Complete objects of the synchronous sender

The synchronous sender looks for a new mode between objects only, so that every packet of an object
is sent in the mode the object was started in: its histories agree with the modes in force up to
equality. Unless it is stopped, its objects are therefore complete, and numbered one after the other
(`complete_of_undisturbed`).
-/

set_option autoImplicit false
set_option relaxedAutoImplicit false

namespace Tanos

open Library.Runs

/-- The mode a notification sets. -/
def Notification.mode : Notification → Option UInt32
  | .generator _ => none
  | .modeChange _ mode => some mode
  | .timestamp _ _ mode _ => some mode

/-- The event does not stop the sender, and notifies a mode of one byte if any. -/
def SenderEvent.Undisturbed : SenderEvent → Prop
  | .notify notification => ∀ mode ∈ notification.mode, mode.toNat ≤ 255
  | .stop => False
  | .run _ => True

/-- The number of packets for a number of bytes. -/
def packetCount (bytes : ℕ) : ℕ := bytes ⌈/⌉ maxProtocolMessageLength

section Size

/-! Assumes: the size does not wrap around in the arithmetic of `uint32_t`. -/

variable {settings : ServiceSettings}
  (hsize : settings.objectSize.toNat * 1024 + 1426 < 2 ^ 32)

include hsize

theorem objectBytes_eq : settings.objectBytes = settings.objectSize.toNat * 1024 := by
  have hkilo : (1024 : UInt32).toNat = 1024 := rfl
  rw [ServiceSettings.objectBytes, UInt32.toNat_mul, hkilo, Nat.mod_eq_of_lt]
  exact (Nat.le_add_right _ 1426).trans_lt hsize

theorem toNat_numberPackets :
    settings.numberPackets.toNat = packetCount (settings.objectSize.toNat * 1024) := by
  have hlength : (1427 : UInt32).toNat = 1427 := rfl
  have hone : (1 : UInt32).toNat = 1 := rfl
  have hbytes : (settings.objectSize * 1024).toNat = settings.objectSize.toNat * 1024 :=
    objectBytes_eq hsize
  have hlt : settings.objectSize.toNat * 1024 + 1427 < 2 ^ 32 := by
    have hle : settings.objectSize.toNat + 2 ≤ 2 ^ 22 := by linarith
    linarith
  have hadd : (settings.objectSize * 1024 + 1427).toNat =
      settings.objectSize.toNat * 1024 + 1427 := by
    rw [UInt32.toNat_add, hbytes, hlength, Nat.mod_eq_of_lt hlt]
  have hle : 1 ≤ settings.objectSize * 1024 + 1427 := by
    rw [UInt32.le_iff_toNat_le, hadd, hone]
    exact Nat.le_add_left 1 _
  rw [ServiceSettings.numberPackets, UInt32.toNat_div, UInt32.toNat_sub_of_le _ _ hle, hadd,
    hlength, hone]
  exact (Nat.ceilDiv_eq_add_pred_div _ _).symm

end Size

/-- All fragments of an object, in the mode in force at its start and under its number. -/
structure SentObject.Complete (serviceSettings : StdMap UInt32 ServiceSettings)
    (object : SentObject) (number : ℕ) : Prop where
  configured : ∃ mode : UInt32, serviceSettings[mode]? = some object.settings
  ofMode : ∀ packet ∈ object.packets, packet.settings = object.settings ∧ packet.HeaderAgrees
  fragmentNumber_eq : object.packets.map (fun packet ↦ packet.message.fragmentNumber.toNat) =
    List.range (packetCount (object.settings.objectSize.toNat * 1024))
  totalFragments_eq : ∀ packet ∈ object.packets, packet.message.totalFragments.toNat =
    packetCount (object.settings.objectSize.toNat * 1024)
  objectNumber_eq : ∀ packet ∈ object.packets, packet.message.objectNumber.toNat = number

/-- An object with all packets of its mode is complete. -/
theorem SentObject.complete_of_agrees {serviceSettings : StdMap UInt32 ServiceSettings}
    {object : SentObject} {number : ℕ}
    (hsize : object.settings.objectSize.toNat * 1024 + 1426 < 2 ^ 32) (hnumber : number ≤ 5000)
    (hnumbered : object.Numbered number) (hagrees : object.Agrees Eq serviceSettings)
    (hlength : object.packets.length = object.settings.numberPackets.toNat) :
    object.Complete serviceSettings number := by
  have hcount := toNat_numberPackets hsize
  have hdescribes : ∀ packet ∈ object.packets, ∃ fragment,
      packet.message.Describes object.settings number fragment := by
    intro packet hpacket
    obtain ⟨fragment, hfragment⟩ := List.mem_iff_getElem?.mp hpacket
    exact ⟨fragment, hnumbered fragment packet hfragment⟩
  refine ⟨hagrees.configured, ?_, ?_, ?_, ?_⟩
  · intro packet hpacket
    exact ⟨(hagrees.compatible_of_mem packet hpacket).symm, hagrees.headerAgrees packet hpacket⟩
  · have hfragments := hnumbered.map_packets fun _ _ h ↦ h.fragmentNumber_eq
    rw [hfragments, List.map_id', hlength, hcount]
  · intro packet hpacket
    obtain ⟨fragment, hmessage⟩ := hdescribes packet hpacket
    rw [hmessage.totalFragments_eq, hcount]
  · intro packet hpacket
    obtain ⟨fragment, hmessage⟩ := hdescribes packet hpacket
    rw [hmessage.objectNumber_eq]
    exact Nat.mod_eq_of_lt (by omega)

namespace Sender

variable {serviceSettings : StdMap UInt32 ServiceSettings} {sender : Sender} {history : History}

/-- The mode to adopt has one byte, and the sender is not stopped. -/
def Undisturbed (sender : Sender) : Prop :=
  sender.generator.modeGlobal.toNat ≤ 255 ∧ sender.stopThread = false

theorem undisturbed_step {kind : SenderKind} (h : sender.Undisturbed) {event : SenderEvent}
    (hevent : event.Undisturbed) : (sender.step kind event).1.Undisturbed := by
  cases event with
  | notify notification =>
    refine ⟨?_, h.2⟩
    cases notification with
    | generator state => exact h.1
    | modeChange state mode => exact hevent mode rfl
    | timestamp state time mode updatePeriod => exact hevent mode rfl
  | stop => exact hevent.elim
  | run clock =>
    obtain ⟨hstop, hmode, -⟩ := sender.run_frame kind clock
    refine ⟨?_, hstop.trans h.2⟩
    show (sender.run kind clock).1.generator.modeGlobal.toNat ≤ 255
    rw [hmode]
    exact h.1

/-- A mode of one byte is not the value that stands for no mode. -/
theorem Undisturbed.modeGlobal_ne (h : sender.Undisturbed) :
    sender.generator.modeGlobal ≠ 0xFFFFFFFF := by
  intro heq
  have hmode := h.1
  rw [heq] at hmode
  exact absurd hmode (by decide)

/-- Whatever happens to a sender, the modes of its objects agree up to equality, and an object that
is not stopped has all packets of its mode. -/
theorem ended_ofRun (serviceSettings : StdMap UInt32 ServiceSettings) (clientId : UInt32)
    (control : TrafficSourceControl) (uninitialised : Timespec) (events : List SenderEvent) :
    let history := History.ofRun .synchronous
      (start serviceSettings clientId control uninitialised) events
    ∀ object ∈ history.ended, object.Agrees Eq serviceSettings ∧
      (object.stopped = false →
        object.packets.length = object.settings.numberPackets.toNat) := by
  have hadopts : EveryStep (step .synchronous)
      (fun current event ↦ SenderKind.synchronous = .asynchronous → Adopts Eq current event)
      (start serviceSettings clientId control uninitialised) events := by
    intro past event _ hkind
    exact absurd hkind (by decide)
  obtain ⟨last, hagreeing⟩ := agreeing_ofRun compatibility_eq clientId control uninitialised hadopts
  intro history object hobject
  exact ⟨(hagreeing.ended object hobject).1, (hagreeing.ended object hobject).2.2⟩

/-- Every run without a stop ends in a state and a history that fit, and whose modes agree up to
equality. -/
theorem agreeing_of_undisturbed (serviceSettings : StdMap UInt32 ServiceSettings)
    (clientId : UInt32) (control : TrafficSourceControl) (uninitialised : Timespec)
    {events : List SenderEvent}
    (hevents : ∀ event ∈ events, event.Undisturbed) :
    let sender := start serviceSettings clientId control uninitialised
    let last := finalState (step .synchronous) sender events
    let history := History.ofRun .synchronous sender events
    Consistent last history ∧ Agreeing .synchronous Eq serviceSettings last history ∧
      last.Undisturbed := by
  intro sender
  have hevery : EveryStep (step .synchronous) (fun _ event ↦ event.Undisturbed) sender events := by
    intro past event hpast
    exact hevents event (hpast.subset (by simp))
  refine relation_ofRun
    (fun current past ↦ Consistent current past ∧
      Agreeing .synchronous Eq serviceSettings current past ∧ current.Undisturbed) ?_ hevery ?_
  · intro current past event _ hevent ⟨hconsistent, hagreeing, hcurrent⟩
    exact ⟨consistent_step _ hconsistent event,
      agreeing_step compatibility_eq hconsistent hagreeing
        (fun _ _ ↦ hcurrent.modeGlobal_ne) (fun hkind ↦ absurd hkind (by decide)),
      undisturbed_step hcurrent hevent⟩
  · exact ⟨consistent_start serviceSettings clientId control uninitialised,
      agreeing_start clientId control uninitialised, Nat.zero_le _, rfl⟩

/-- Whatever is notified to a sender that is not stopped, the objects it finishes are complete and
numbered from one on. -/
theorem complete_of_undisturbed {serviceSettings : StdMap UInt32 ServiceSettings}
    (hsize : ∀ (mode : UInt32) (settings : ServiceSettings),
      serviceSettings[mode]? = some settings →
        settings.objectSize.toNat * 1024 + 1426 < 2 ^ 32)
    (clientId : UInt32) (control : TrafficSourceControl) (uninitialised : Timespec)
    {events : List SenderEvent} (hevents : ∀ event ∈ events, event.Undisturbed) :
    let sender := start serviceSettings clientId control uninitialised
    (finalState sendObjectsDynamicChange sender events).phase ≠ .crashed ∧
      ∀ (index : ℕ) (object : SentObject),
        (History.ofRun .synchronous sender events).ended[index]? = some object →
          object.Complete serviceSettings (index + 1) := by
  intro sender
  obtain ⟨hconsistent, hagreeing, hlast⟩ :=
    agreeing_of_undisturbed serviceSettings clientId control uninitialised hevents
  constructor
  · intro hcrashed
    have hatPhase := hagreeing.atPhase
    change (finalState (step .synchronous) sender events).phase = .crashed at hcrashed
    rw [hcrashed] at hatPhase
    exact hatPhase
  · intro index object hobject
    obtain ⟨hagrees, hstopped, hlength⟩ :=
      hagreeing.ended object (List.mem_of_getElem? hobject)
    have hindex := (List.getElem?_eq_some_iff.mp hobject).1
    have hunstopped : object.stopped = false := by
      by_contra hstop
      have hthread := hstopped (Bool.eq_true_of_not_eq_false hstop)
      exact absurd (hlast.2.symm.trans hthread) (by decide)
    obtain ⟨mode, hmode⟩ := hagrees.configured
    apply SentObject.complete_of_agrees (hsize mode object.settings hmode) ?_
      (hconsistent.ended index object hobject) hagrees (hlength hunstopped)
    exact (Nat.succ_le_of_lt hindex).trans hconsistent.length_le

/-- One object, interrupted by a pause and a notification of another mode. -/
def pausedEvents : List SenderEvent :=
  .notify (.modeChange .threadTransmission 1) :: List.replicate 9 (.run ⟨0, 0⟩) ++
    .notify (.generator .threadPaused) :: List.replicate 3 (.run ⟨0, 0⟩) ++
    .notify (.modeChange .threadTransmission 2) :: List.replicate 4 (.run ⟨0, 0⟩)

theorem complete_of_undisturbed_paused :
    let serviceSettings := (∅ : StdMap UInt32 ServiceSettings).insert 1 twoPackets
    let sender := start serviceSettings 9 .threadPaused ⟨0, 0⟩
    ∃ object, (History.ofRun .synchronous sender pausedEvents).ended[0]? = some object ∧
      object.Complete serviceSettings 1 := by
  intro serviceSettings sender
  have hsize : ∀ (mode : UInt32) (settings : ServiceSettings),
      serviceSettings[mode]? = some settings →
        settings.objectSize.toNat * 1024 + 1426 < 2 ^ 32 := by
    intro mode settings hmode
    rw [StdMap.getElem?_insert] at hmode
    split_ifs at hmode with hone
    · rw [← Option.some.inj hmode]
      decide
    · simp at hmode
  have hended : 0 < (History.ofRun .synchronous sender pausedEvents).ended.length := by decide
  have hobject := List.getElem?_eq_getElem hended
  have hevents : ∀ event ∈ pausedEvents, event.Undisturbed := by
    simp [pausedEvents, SenderEvent.Undisturbed, Notification.mode]
  have hcomplete := complete_of_undisturbed hsize 9 .threadPaused ⟨0, 0⟩ hevents
  exact ⟨_, hobject, hcomplete.2 0 _ hobject⟩

end Sender

end Tanos
