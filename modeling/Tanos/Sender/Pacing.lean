import Tanos.Sender.ModeInForce

/-!
# What an object is sent with

An object takes its parameters from several places: from the settings of the mode in force, from the
endpoint that is rebuilt with the mode, from the message that is built at its start, and from a
traffic pattern that `main` fills once, before the generator is started, with the settings of mode
zero. `PacedSender` follows the synchronous sender and tags each use of a parameter with the mode
that was in force when the object was started.

All of them are those of this mode (`usesMode_iff`), with the exception of the pause behind each
packet, which comes from the traffic pattern. `everyStep_usesMode_iff` is the exact condition.
-/

set_option autoImplicit false
set_option relaxedAutoImplicit false

namespace Tanos

open Library.Runs

/-- What `main` sets of `traffic_generator_parameter`. Gaps are in microseconds, the period is in
milliseconds. -/
structure TrafficGeneratorParameter where
  infoFlag : Bool
  objectSizeKb : UInt32
  interObjectGap : ℕ
  interPacketGap : ℕ
  period : ℕ
deriving DecidableEq, Repr

/-- The traffic pattern that `main` fills, and the modes afterwards: a mode zero that is not
configured is created. -/
def trafficPattern (serviceConfiguration : StdMap UInt32 ServiceConfiguration) :
    TrafficGeneratorParameter × StdMap UInt32 ServiceConfiguration :=
  let modeZero := serviceConfiguration.subscript 0
  ({ infoFlag := false
     objectSizeKb := modeZero.1.objectSize
     interObjectGap := modeZero.1.interObjectGap
     interPacketGap := modeZero.1.interPacketGap
     period := modeZero.1.deadline.toNat }, modeZero.2)

/-- What the senders read of the modes, apart from the gaps. -/
def serviceSettings (serviceConfiguration : StdMap UInt32 ServiceConfiguration) :
    StdMap UInt32 ServiceSettings :=
  serviceConfiguration.map fun _ configuration ↦ configuration.toServiceSettings

/-- A use of parameters: the number of packets the inner loop compares with, a packet that is sent,
the pause behind it in microseconds, or the deadline that leads to the release of the next
object. -/
inductive Use where
  | packetCount (count : UInt32)
  | packet (packet : SentPacket)
  | pause (gap : ℕ)
  | deadline (deadline : UInt32)
deriving DecidableEq, Repr

/-- A use on behalf of an object, with the mode in force when the object was started. -/
structure ObjectUse where
  startedMode : UInt32
  use : Use
deriving DecidableEq, Repr

/-- The parameters used are those of the mode. -/
def Use.IsOf (configuration : ServiceConfiguration) : Use → Prop
  | .packetCount count => count = configuration.numberPackets
  | .packet sent =>
    sent.endpoint = configuration.endpoint ∧
      sent.message.priority = configuration.servicePriority.toUInt8 ∧
      sent.message.totalFragments = configuration.numberPackets ∧
      sent.message.payloadLength.toNat =
        payloadLengthAt configuration.objectBytes sent.message.fragmentNumber.toNat
  | .pause gap => gap = configuration.interPacketGap
  | .deadline milliseconds => milliseconds = configuration.deadline

instance (configuration : ServiceConfiguration) : DecidablePred (Use.IsOf configuration)
  | .packetCount count => inferInstanceAs (Decidable (count = configuration.numberPackets))
  | .packet sent => inferInstanceAs (Decidable (sent.endpoint = configuration.endpoint ∧
      sent.message.priority = configuration.servicePriority.toUInt8 ∧
      sent.message.totalFragments = configuration.numberPackets ∧
      sent.message.payloadLength.toNat =
        payloadLengthAt configuration.objectBytes sent.message.fragmentNumber.toNat))
  | .pause gap => inferInstanceAs (Decidable (gap = configuration.interPacketGap))
  | .deadline milliseconds => inferInstanceAs (Decidable (milliseconds = configuration.deadline))

/-- The mode is configured, with the parameters used. -/
def Use.IsConfigured (serviceConfiguration : StdMap UInt32 ServiceConfiguration) (mode : UInt32)
    (use : Use) : Prop :=
  ∃ configuration ∈ (trafficPattern serviceConfiguration).2[mode]?, use.IsOf configuration

instance (serviceConfiguration : StdMap UInt32 ServiceConfiguration) (mode : UInt32) (use : Use) :
    Decidable (use.IsConfigured serviceConfiguration mode) :=
  inferInstanceAs (Decidable (∃ configuration ∈ (trafficPattern serviceConfiguration).2[mode]?,
    use.IsOf configuration))

/-- The synchronous sender, with the mode in force when its last object was started. -/
structure PacedSender where
  sender : Sender
  startedMode : UInt32

namespace PacedSender

/-- The thread that is created for the configured modes. -/
def start (serviceConfiguration : StdMap UInt32 ServiceConfiguration) (clientId : UInt32)
    (control : TrafficSourceControl) (uninitialised : Timespec) : PacedSender where
  sender := Sender.start (serviceSettings (trafficPattern serviceConfiguration).2) clientId control
    uninitialised
  startedMode := 0

/-- The packets among the outputs of a step. -/
def packets (outputs : List SenderOutput) : List Use :=
  outputs.filterMap fun output ↦
    match output with
    | .packet packet => some (.packet packet)
    | _ => none

/-- `precise_wait_us(traffic_pattern.inter_packet_gap.count())`, behind the test of
`stop_thread`. -/
def pause (pattern : TrafficGeneratorParameter) (sender : Sender) : SenderEvent → List Use
  | .run _ =>
    if sender.phase = .stopCheck ∧ sender.stopThread = false then [.pause pattern.interPacketGap]
    else []
  | _ => []

/-- What is used of `current_settings_ptr->`: `number_packets` in the condition of the inner loop,
and `deadline` in the release time of the next object. -/
def ofSettings (sender : Sender) : SenderEvent → List Use
  | .run _ =>
    if sender.phase = .packetLoop then
      sender.currentSettings.toList.map fun settings ↦ .packetCount settings.numberPackets
    else if sender.phase = .afterObject ∧ sender.stopThread = false then
      sender.currentSettings.toList.map fun settings ↦ .deadline settings.deadline
    else []
  | _ => []

/-- A step of the sender, with what it uses. -/
def step (pattern : TrafficGeneratorParameter) (paced : PacedSender) (event : SenderEvent) :
    PacedSender × List ObjectUse :=
  let next := Sender.sendObjectsDynamicChange paced.sender event
  ({ sender := next.1
     startedMode :=
      if paced.sender.phase = .buildObject then paced.sender.currentMode else paced.startedMode },
    (packets next.2 ++ pause pattern paced.sender event ++ ofSettings paced.sender event).map
      fun use ↦ ⟨paced.startedMode, use⟩)

/-- Whatever the step uses is what is configured for the mode in which the object was started. -/
def UsesMode (serviceConfiguration : StdMap UInt32 ServiceConfiguration) (paced : PacedSender)
    (event : SenderEvent) : Prop :=
  ∀ objectUse ∈ (step (trafficPattern serviceConfiguration).1 paced event).2,
    objectUse.use.IsConfigured serviceConfiguration objectUse.startedMode

instance (serviceConfiguration : StdMap UInt32 ServiceConfiguration) (paced : PacedSender) :
    DecidablePred (UsesMode serviceConfiguration paced) := fun event ↦
  inferInstanceAs (Decidable
    (∀ objectUse ∈ (step (trafficPattern serviceConfiguration).1 paced event).2,
      objectUse.use.IsConfigured serviceConfiguration objectUse.startedMode))

/-- Where the thread pauses behind a packet, the mode in force has the gap of mode zero. -/
def PausesAsConfigured (serviceConfiguration : StdMap UInt32 ServiceConfiguration)
    (paced : PacedSender) : SenderEvent → Prop
  | .run _ => paced.sender.phase = .stopCheck → paced.sender.stopThread = false →
    ∀ configuration ∈ (trafficPattern serviceConfiguration).2[paced.sender.currentMode]?,
      configuration.interPacketGap = (serviceConfiguration.subscript 0).1.interPacketGap
  | _ => True

/-! ### The mode of the object -/

/-- The thread works on an object it has started, or on the release of the next one. -/
def InObject : SenderPhase → Bool
  | .packetLoop | .packetGate | .sending | .stopCheck | .objectEnd | .afterObject => true
  | _ => false

theorem ne_buildObject_of_inObject {phase : SenderPhase} (hobject : InObject phase = true) :
    phase ≠ .buildObject := by
  rintro rfl
  exact absurd hobject (by decide)

/-- The thread looks for a new mode within an object. -/
def AtPacketPlace : SenderPhase → Bool
  | .checkMode .packet | .changeMode .packet | .checkUpdate .packet | .adoptTimestamp .packet
  | .clearUpdate .packet => true
  | _ => false

/-- Assumes: the thread does not look for a new mode within an object. It comes to an object, or
stays at it, in the mode it is in. -/
theorem currentMode_run_of_inObject {sender : Sender} (clock : Timespec)
    (hplace : AtPacketPlace sender.phase = false)
    (hnext : InObject (sender.run .synchronous clock).1.phase = true) :
    (sender.phase = .buildObject ∨ InObject sender.phase = true) ∧
      (sender.run .synchronous clock).1.currentMode = sender.currentMode := by
  cases hphase : sender.phase with
  | checkMode place | changeMode place | checkUpdate place | adoptTimestamp place
  | clearUpdate place =>
    cases place with
    | object =>
      simp only [Sender.run, hphase, Sender.changeMode] at hnext
      repeat' split at hnext
      all_goals simp only [InObject, Place.next, Bool.false_eq_true] at hnext
    | packet =>
      rw [hphase] at hplace
      simp [AtPacketPlace] at hplace
  | startGate | waiting | pollClock | closed | crashed =>
    simp only [Sender.run, hphase] at hnext
    repeat' split at hnext
    all_goals simp only [hphase, InObject, Bool.false_eq_true] at hnext
  | buildObject | packetLoop | packetGate | sending | stopCheck | objectEnd | afterObject =>
    refine ⟨by simp [InObject], ?_⟩
    simp only [Sender.run, hphase, Sender.buildObject, Sender.sendPacket, Sender.withSettings]
    repeat' split
    all_goals rfl

variable {serviceConfiguration : StdMap UInt32 ServiceConfiguration} {paced : PacedSender}

/-- Some history agrees with the modes that were in force, unless the sender follows a null pointer,
and an object is in the mode it was started in. -/
structure Invariant (serviceConfiguration : StdMap UInt32 ServiceConfiguration)
    (paced : PacedSender) (history : History) : Prop where
  consistent : Consistent paced.sender history
  agreeing : Agreeing .synchronous Eq (serviceSettings (trafficPattern serviceConfiguration).2)
    paced.sender history ∨ Doomed paced.sender
  startedMode_eq : InObject paced.sender.phase = true →
    paced.startedMode = paced.sender.currentMode

/-- The synchronous sender only looks for a new mode between objects. -/
theorem Invariant.not_atPacketPlace {history : History}
    (h : Invariant serviceConfiguration paced history) :
    AtPacketPlace paced.sender.phase = false := by
  rcases h.agreeing with hagreeing | ⟨-, hphase | hphase⟩
  · have hatPhase := hagreeing.atPhase
    cases hphase : paced.sender.phase with
    | checkMode place | changeMode place | checkUpdate place | adoptTimestamp place
    | clearUpdate place =>
      rw [hphase] at hatPhase
      cases place with
      | object => rfl
      | packet => exact absurd hatPhase.1 (by decide)
    | _ => rfl
  · rw [hphase]
    rfl
  · rw [hphase]
    rfl

theorem invariant_start (serviceConfiguration : StdMap UInt32 ServiceConfiguration)
    (clientId : UInt32) (control : TrafficSourceControl) (uninitialised : Timespec) :
    Invariant serviceConfiguration (start serviceConfiguration clientId control uninitialised)
      History.empty where
  consistent := Sender.consistent_start _ clientId control uninitialised
  agreeing := Or.inl (Sender.agreeing_start clientId control uninitialised)
  startedMode_eq := nofun

/-- The synchronous sender stays in agreement with the modes, or comes to follow a null pointer. -/
theorem agreeing_or_doomed_step {serviceSettings : StdMap UInt32 ServiceSettings} {sender : Sender}
    {history : History} (hconsistent : Consistent sender history)
    (h : Agreeing .synchronous Eq serviceSettings sender history ∨ Doomed sender)
    (event : SenderEvent) :
    Agreeing .synchronous Eq serviceSettings (sender.step .synchronous event).1
        ((sender.step .synchronous event).2.foldl History.record history) ∨
      Doomed (sender.step .synchronous event).1 := by
  rcases h with hagreeing | hdoomed
  · by_cases hknows : KnowsMode sender
    · left
      exact Sender.agreeing_step compatibility_eq hconsistent hagreeing hknows
        fun hkind ↦ absurd hkind (by decide)
    · cases event with
      | notify notification => exact Or.inl (Sender.agreeing_shared hagreeing _ id)
      | stop => exact Or.inl (Sender.agreeing_shared hagreeing _ fun _ ↦ rfl)
      | run clock => exact Or.inr (Sender.doomed_of_not_knowsMode hagreeing hknows clock).1
  · exact Or.inr (Sender.doomed_step .synchronous hdoomed event).1

theorem invariant_step {history : History} (h : Invariant serviceConfiguration paced history)
    (event : SenderEvent) :
    Invariant serviceConfiguration
      (step (trafficPattern serviceConfiguration).1 paced event).1
      ((paced.sender.step .synchronous event).2.foldl History.record history) := by
  refine ⟨Sender.consistent_step .synchronous h.consistent event,
    agreeing_or_doomed_step h.consistent h.agreeing event, ?_⟩
  intro hnext
  cases event with
  | notify notification =>
    change InObject paced.sender.phase = true at hnext
    simp only [step, if_neg (ne_buildObject_of_inObject hnext)]
    exact h.startedMode_eq hnext
  | stop =>
    change InObject paced.sender.phase = true at hnext
    simp only [step, if_neg (ne_buildObject_of_inObject hnext)]
    exact h.startedMode_eq hnext
  | run clock =>
    obtain ⟨hphase, hmode⟩ := currentMode_run_of_inObject clock h.not_atPacketPlace hnext
    show (if paced.sender.phase = .buildObject then paced.sender.currentMode
      else paced.startedMode) = (paced.sender.run .synchronous clock).1.currentMode
    rw [hmode]
    split_ifs with hbuild
    · rfl
    · exact h.startedMode_eq (hphase.resolve_left hbuild)

/-! ### What is used -/

/-- The settings in force are those of a configured mode. -/
theorem configured_of_inForce {sender : Sender} {settings : ServiceSettings}
    {modes : StdMap UInt32 ServiceConfiguration}
    (hmodes : sender.serviceSettingsStruct = serviceSettings modes)
    (hinForce : InForce sender settings) :
    ∃ configuration, modes[sender.currentMode]? = some configuration ∧
      configuration.toServiceSettings = settings := by
  have hsettings := hinForce.2.2
  rw [hmodes, serviceSettings, Std.ExtTreeMap.getElem?_map] at hsettings
  exact Option.map_eq_some_iff.mp hsettings

/-- Only the phase `sending` sends a packet. -/
theorem packets_run {sender : Sender} (hphase : sender.phase ≠ .sending) (kind : SenderKind)
    (clock : Timespec) : packets (sender.run kind clock).2 = [] := by
  cases hcase : sender.phase with
  | sending => exact absurd hcase hphase
  | changeMode place =>
    simp only [Sender.run, hcase, Sender.changeMode]
    repeat' split
    all_goals rfl
  | _ =>
    simp only [Sender.run, hcase, Sender.buildObject, Sender.withSettings]
    repeat' split
    all_goals rfl

/-- A sender that works on an object does not follow a null pointer. -/
theorem Invariant.agreeing_of_inObject {history : History}
    (h : Invariant serviceConfiguration paced history)
    (hobject : InObject paced.sender.phase = true) :
    Agreeing .synchronous Eq (serviceSettings (trafficPattern serviceConfiguration).2)
      paced.sender history := by
  refine h.agreeing.resolve_right fun hdoomed ↦ ?_
  rcases hdoomed with ⟨-, hphase | hphase⟩
  · rw [hphase] at hobject
    exact absurd hobject (by decide)
  · rw [hphase] at hobject
    exact absurd hobject (by decide)

/-- Assumes: the sender is in a phase of the work on an object. -/
theorem Invariant.agreesAt {history : History} (h : Invariant serviceConfiguration paced history)
    {phase : SenderPhase} (hphase : paced.sender.phase = phase) (hobject : InObject phase = true) :
    AgreesAt .synchronous Eq paced.sender history phase := by
  rw [← hphase] at hobject ⊢
  exact (h.agreeing_of_inObject hobject).atPhase

/-- The mode in which the object was started is configured with the settings in force. -/
theorem Invariant.exists_configuration {history : History}
    (h : Invariant serviceConfiguration paced history)
    {phase : SenderPhase} (hphase : paced.sender.phase = phase) (hobject : InObject phase = true)
    {settings : ServiceSettings} (hinForce : InForce paced.sender settings) :
    ∃ configuration,
      (trafficPattern serviceConfiguration).2[paced.startedMode]? = some configuration ∧
        configuration.toServiceSettings = settings := by
  rw [← hphase] at hobject
  rw [h.startedMode_eq hobject]
  exact configured_of_inForce (h.agreeing_of_inObject hobject).serviceSettingsStruct_eq hinForce

/-- A packet is sent with the parameters of the mode in which its object was started. -/
theorem isConfigured_of_mem_packets {history : History}
    (h : Invariant serviceConfiguration paced history) (clock : Timespec) :
    ∀ use ∈ packets (paced.sender.run .synchronous clock).2,
      use.IsConfigured serviceConfiguration paced.startedMode := by
  intro use huse
  by_cases hphase : paced.sender.phase = .sending
  · obtain ⟨settings, hinForce, hcurrent, -, -⟩ := h.agreesAt hphase rfl
    have hatStage := h.consistent.atStage
    rw [hphase] at hatStage
    obtain ⟨configuration, hconfiguration, hsettings⟩ :=
      h.exists_configuration hphase rfl hinForce
    have hdescribes : paced.sender.dataMessage.Describes history.current.settings
        paced.sender.numberObject paced.sender.numberPacket.toNat := hatStage.1.describes
    rw [hcurrent, ← hsettings] at hdescribes
    have hsent : use = .packet ⟨paced.sender.trafficEndpointTarget, settings,
        paced.sender.dataMessage.setTimestamp clock⟩ := by
      simpa [Sender.run, hphase, Sender.sendPacket, Sender.withSettings_of_some hinForce.1,
        packets] using huse
    rw [hsent]
    refine ⟨configuration, hconfiguration, ?_, hdescribes.priority_eq,
      hdescribes.totalFragments_eq, ?_⟩
    · rw [hsettings]
      exact hinForce.2.1
    · show paced.sender.dataMessage.payloadLength.toNat = payloadLengthAt
        configuration.objectBytes paced.sender.dataMessage.fragmentNumber.toNat
      rw [hdescribes.fragmentNumber_eq]
      exact hdescribes.payloadLength_eq
  · rw [packets_run hphase] at huse
    exact absurd huse List.not_mem_nil

/-- The settings in force are those of the mode in which the object was started. -/
theorem isConfigured_of_mem_ofSettings {history : History}
    (h : Invariant serviceConfiguration paced history) (event : SenderEvent) :
    ∀ use ∈ ofSettings paced.sender event,
      use.IsConfigured serviceConfiguration paced.startedMode := by
  intro use huse
  cases event with
  | notify notification => exact absurd huse List.not_mem_nil
  | stop => exact absurd huse List.not_mem_nil
  | run clock =>
    simp only [ofSettings] at huse
    split_ifs at huse with hloop hafter
    · obtain ⟨settings, hinForce, -, -, -⟩ := h.agreesAt hloop rfl
      obtain ⟨configuration, hconfiguration, hsettings⟩ :=
        h.exists_configuration hloop rfl hinForce
      have hcount : use = .packetCount settings.numberPackets := by
        simpa [hinForce.1] using huse
      rw [hcount]
      exact ⟨configuration, hconfiguration,
        (congrArg ServiceSettings.numberPackets hsettings).symm⟩
    · obtain ⟨settings, hinForce⟩ := h.agreesAt hafter.1 rfl
      obtain ⟨configuration, hconfiguration, hsettings⟩ :=
        h.exists_configuration hafter.1 rfl hinForce
      have hdeadline : use = .deadline settings.deadline := by
        simpa [hinForce.1] using huse
      rw [hdeadline]
      exact ⟨configuration, hconfiguration, (congrArg ServiceSettings.deadline hsettings).symm⟩
    · exact absurd huse List.not_mem_nil

/-- The pause behind a packet is the one of the mode in which the object was started, precisely when
this mode has the gap of mode zero. -/
theorem isConfigured_pause_iff {history : History}
    (h : Invariant serviceConfiguration paced history) (event : SenderEvent) :
    (∀ use ∈ pause (trafficPattern serviceConfiguration).1 paced.sender event,
      use.IsConfigured serviceConfiguration paced.startedMode) ↔
        PausesAsConfigured serviceConfiguration paced event := by
  cases event with
  | notify notification => exact iff_of_true (List.forall_mem_nil _) trivial
  | stop => exact iff_of_true (List.forall_mem_nil _) trivial
  | run clock =>
    simp only [pause, PausesAsConfigured]
    split_ifs with hcheck
    · obtain ⟨settings, hinForce, -, -, -⟩ := h.agreesAt hcheck.1 rfl
      obtain ⟨configuration, hconfiguration, -⟩ := h.exists_configuration hcheck.1 rfl hinForce
      have hobject : InObject paced.sender.phase = true := by
        rw [hcheck.1]
        rfl
      rw [List.forall_mem_singleton, ← h.startedMode_eq hobject, Use.IsConfigured, hconfiguration]
      constructor
      · rintro ⟨other, hother, hgap⟩ - - _ hconfigured
        rw [← Option.some.inj hconfigured, Option.some.inj hother]
        exact hgap.symm
      · intro hgap
        exact ⟨configuration, rfl, (hgap hcheck.1 hcheck.2 configuration rfl).symm⟩
    · refine iff_of_true (List.forall_mem_nil _) fun hphase hstop ↦ ?_
      exact absurd ⟨hphase, hstop⟩ hcheck

/-- A step uses the mode of the object in everything but the pause. -/
theorem usesMode_iff {history : History} (h : Invariant serviceConfiguration paced history)
    (event : SenderEvent) :
    UsesMode serviceConfiguration paced event ↔
      PausesAsConfigured serviceConfiguration paced event := by
  have hpackets : ∀ use ∈ packets (Sender.sendObjectsDynamicChange paced.sender event).2,
      use.IsConfigured serviceConfiguration paced.startedMode := by
    cases event with
    | notify notification => exact List.forall_mem_nil _
    | stop => exact List.forall_mem_nil _
    | run clock => exact isConfigured_of_mem_packets h clock
  rw [← isConfigured_pause_iff h event, UsesMode]
  simp only [step, List.forall_mem_map, List.forall_mem_append]
  constructor
  · rintro ⟨⟨-, hpause⟩, -⟩
    exact hpause
  · intro hpause
    exact ⟨⟨hpackets, hpause⟩, isConfigured_of_mem_ofSettings h event⟩

/-- The sender has come to its state by way of some history. -/
def HasHistory (serviceConfiguration : StdMap UInt32 ServiceConfiguration) (paced : PacedSender) :
    Prop :=
  ∃ history, Invariant serviceConfiguration paced history

/-- Everything an object is sent with is configured for the mode in which it was started, precisely
when no pause is made in a mode whose gap differs from that of mode zero. -/
theorem everyStep_usesMode_iff (serviceConfiguration : StdMap UInt32 ServiceConfiguration)
    (clientId : UInt32) (control : TrafficSourceControl) (uninitialised : Timespec)
    (events : List SenderEvent) :
    EveryStep (step (trafficPattern serviceConfiguration).1) (UsesMode serviceConfiguration)
        (start serviceConfiguration clientId control uninitialised) events ↔
      EveryStep (step (trafficPattern serviceConfiguration).1)
        (PausesAsConfigured serviceConfiguration)
        (start serviceConfiguration clientId control uninitialised) events := by
  have hstart : HasHistory serviceConfiguration
      (start serviceConfiguration clientId control uninitialised) :=
    ⟨_, invariant_start serviceConfiguration clientId control uninitialised⟩
  refine everyStep_iff_everyStep ?_ ?_ hstart events
  · rintro current event ⟨history, hcurrent⟩
    exact usesMode_iff hcurrent event
  · rintro current event ⟨history, hcurrent⟩ -
    exact ⟨_, invariant_step hcurrent event⟩

/-- Objects of one packet every ten milliseconds, with a gap in microseconds. -/
def gapSettings (gap : ℕ) : ServiceConfiguration :=
  ⟨⟨7, "10.0.0.7", 5000, 1, 10, 3, 0, 0⟩, [], gap, 0⟩

/-- An object of a mode with a gap of 50 microseconds, which is followed by the 20 microseconds of
mode zero. -/
theorem not_everyStep_usesMode_otherGap :
    let serviceConfiguration := ((∅ : StdMap UInt32 ServiceConfiguration).insert 0
      (gapSettings 20)).insert 1 (gapSettings 50)
    ¬ EveryStep (step (trafficPattern serviceConfiguration).1) (UsesMode serviceConfiguration)
      (start serviceConfiguration 9 .threadPaused ⟨0, 0⟩)
      (.notify (.modeChange .threadTransmission 1) :: List.replicate 10 (.run ⟨0, 0⟩)) := by
  decide

end PacedSender

end Tanos
