import Tanos.Sender.Objects

/-!
# The mode in force

The header of a packet is that of the mode its object was started in, while the packet goes to the
endpoint of the mode in force. `Agreeing` relates a sender to its history by how far the mode in
force may have moved away from the one at the start of the object, up to a relation `compatible` on
settings. A step keeps it (`agreeing_step`) as long as a new mode is compatible with the old one
when it is adopted within an object, which is the condition `Adopts`. Only the asynchronous sender
adopts modes there.

A sender that takes the value of no mode for a mode follows a null pointer to its end. It has not
sent anything by then (`doomed_step`), so that every history agrees (`agreeing_ofRun`).
-/

set_option autoImplicit false
set_option relaxedAutoImplicit false

namespace Tanos

open Library.Runs

/-- The modes have the same header fields. -/
structure ServiceSettings.SameHeader (settings other : ServiceSettings) : Prop where
  serviceId_eq : settings.serviceId = other.serviceId
  priority_eq : settings.servicePriority.toUInt8 = other.servicePriority.toUInt8
  numberPackets_eq : settings.numberPackets = other.numberPackets

instance : DecidableRel ServiceSettings.SameHeader := fun settings other ↦
  decidable_of_iff (settings.serviceId = other.serviceId ∧
      settings.servicePriority.toUInt8 = other.servicePriority.toUInt8 ∧
      settings.numberPackets = other.numberPackets)
    ⟨fun h ↦ ⟨h.1, h.2.1, h.2.2⟩, fun h ↦ ⟨h.serviceId_eq, h.priority_eq, h.numberPackets_eq⟩⟩

/-- The packet goes to the endpoint of the mode in force, and its header is that of this mode. -/
structure SentPacket.HeaderAgrees (packet : SentPacket) : Prop where
  endpoint_eq : packet.endpoint = packet.settings.endpoint
  serviceId_eq : packet.message.serviceId = packet.settings.serviceId
  priority_eq : packet.message.priority = packet.settings.servicePriority.toUInt8
  totalFragments_eq : packet.message.totalFragments = packet.settings.numberPackets
  fragmentNumber_lt : packet.message.fragmentNumber < packet.message.totalFragments

/-- A relation that lets the mode in force change without a change of the header. -/
structure Compatibility (compatible : ServiceSettings → ServiceSettings → Prop) : Prop where
  refl : ∀ settings, compatible settings settings
  trans : ∀ {first second third}, compatible first second → compatible second third →
    compatible first third
  sameHeader : ∀ {first second}, compatible first second → first.SameHeader second

theorem compatibility_eq : Compatibility Eq where
  refl _ := rfl
  trans := Eq.trans
  sameHeader := by
    rintro settings _ rfl
    exact ⟨rfl, rfl, rfl⟩

theorem compatibility_sameHeader : Compatibility ServiceSettings.SameHeader where
  refl _ := ⟨rfl, rfl, rfl⟩
  trans h other := ⟨h.serviceId_eq.trans other.serviceId_eq, h.priority_eq.trans other.priority_eq,
    h.numberPackets_eq.trans other.numberPackets_eq⟩
  sameHeader h := h

/-- The settings are those of the configured mode in force. -/
def InForce (sender : Sender) (settings : ServiceSettings) : Prop :=
  sender.currentSettings = some settings ∧
    sender.trafficEndpointTarget = settings.endpoint ∧
    sender.serviceSettingsStruct[sender.currentMode]? = some settings

/-- Some mode is in force, or none has been yet. -/
def Ready (sender : Sender) : Prop :=
  sender.currentSettings = none ∧ sender.currentMode = 0xFFFFFFFF ∨
    ∃ settings, InForce sender settings

/-- All packets of the object were sent in modes compatible with the one it was started in. -/
structure SentObject.Agrees (compatible : ServiceSettings → ServiceSettings → Prop)
    (serviceSettings : StdMap UInt32 ServiceSettings) (object : SentObject) : Prop where
  configured : ∃ mode : UInt32, serviceSettings[mode]? = some object.settings
  compatible_of_mem : ∀ packet ∈ object.packets, compatible object.settings packet.settings
  headerAgrees : ∀ packet ∈ object.packets, packet.HeaderAgrees

/-- In the inner loop, with at least so many packets to send. -/
def Transmits (compatible : ServiceSettings → ServiceSettings → Prop) (sender : Sender)
    (history : History) (remaining : ℕ) : Prop :=
  ∃ settings, InForce sender settings ∧ compatible history.current.settings settings ∧
    history.current.Agrees compatible sender.serviceSettingsStruct ∧
    sender.numberPacket.toNat + remaining ≤ settings.numberPackets.toNat

/-- In the phase the thread may add to the history or adopt a mode. -/
def SenderPhase.Records : SenderPhase → Prop
  | .changeMode _ | .buildObject | .packetLoop | .sending | .stopCheck => True
  | _ => False

/-- What holds in a phase. -/
def AgreesAt (kind : SenderKind) (compatible : ServiceSettings → ServiceSettings → Prop)
    (sender : Sender) (history : History) : SenderPhase → Prop
  | .startGate | .checkMode .object | .changeMode .object => Ready sender
  | .checkUpdate .object | .adoptTimestamp .object | .clearUpdate .object | .buildObject
  | .objectEnd | .afterObject | .waiting | .pollClock => ∃ settings, InForce sender settings
  | .packetLoop | .stopCheck => Transmits compatible sender history 0
  | .packetGate | .sending => Transmits compatible sender history 1
  | .checkMode .packet | .changeMode .packet | .checkUpdate .packet | .adoptTimestamp .packet
  | .clearUpdate .packet => kind = .asynchronous ∧ Transmits compatible sender history 1
  | .closed => True
  | .crashed => False

/-- The history agrees with the modes in force along the run. -/
structure Agreeing (kind : SenderKind) (compatible : ServiceSettings → ServiceSettings → Prop)
    (serviceSettings : StdMap UInt32 ServiceSettings) (sender : Sender) (history : History) :
    Prop where
  serviceSettingsStruct_eq : sender.serviceSettingsStruct = serviceSettings
  ended : ∀ object ∈ history.ended, object.Agrees compatible serviceSettings ∧
    (object.stopped = true → sender.stopThread = true) ∧
    (object.stopped = false → object.packets.length = object.settings.numberPackets.toNat)
  packets : ∀ packet ∈ history.packets, packet.HeaderAgrees ∧
    ∃ mode : UInt32, serviceSettings[mode]? = some packet.settings
  atPhase : AgreesAt kind compatible sender history sender.phase

/-- The step does not adopt a mode within an object that is not configured or not compatible with
the one in force. -/
def Adopts (compatible : ServiceSettings → ServiceSettings → Prop) (sender : Sender) :
    SenderEvent → Prop
  | .run _ => sender.phase = .changeMode .packet →
    ∃ settings ∈ sender.serviceSettingsStruct[sender.generator.modeGlobal]?,
      ∀ current ∈ sender.currentSettings, compatible current settings
  | _ => True

instance (compatible : ServiceSettings → ServiceSettings → Prop) [DecidableRel compatible]
    (sender : Sender) : DecidablePred (Adopts compatible sender)
  | .run _ => inferInstanceAs (Decidable (sender.phase = .changeMode .packet →
    ∃ settings ∈ sender.serviceSettingsStruct[sender.generator.modeGlobal]?,
      ∀ current ∈ sender.currentSettings, compatible current settings))
  | .notify _ => instDecidableTrue
  | .stop => instDecidableTrue

/-- The value that stands for no mode is not about to be taken for a mode. -/
def KnowsMode (sender : Sender) : Prop :=
  sender.phase = .checkMode .object → sender.currentSettings = none →
    sender.generator.modeGlobal ≠ 0xFFFFFFFF

/-- The value that stands for no mode has been taken for a mode. -/
def Doomed (sender : Sender) : Prop :=
  sender.currentSettings = none ∧ (sender.phase = .buildObject ∨ sender.phase = .crashed)

namespace Sender

variable {kind : SenderKind} {compatible : ServiceSettings → ServiceSettings → Prop}
  {serviceSettings : StdMap UInt32 ServiceSettings} {sender : Sender} {history : History}

theorem agreeing_start (clientId : UInt32) (control : TrafficSourceControl)
    (uninitialised : Timespec) :
    Agreeing kind compatible serviceSettings
      (start serviceSettings clientId control uninitialised) History.empty :=
  ⟨rfl, by simp [History.empty], by simp [History.empty], Or.inl ⟨rfl, rfl⟩⟩

/-- The end of the inner loop. Assumes: it is stopped, or all packets have been sent. -/
theorem agreeing_leave {next : Sender} (stopped : Bool)
    (h : Agreeing kind compatible serviceSettings sender history)
    (htransmits : Transmits compatible sender history 0)
    (hstopped : stopped = true → sender.stopThread = true)
    (hcomplete : stopped = false →
      history.current.packets.length = history.current.settings.numberPackets.toNat)
    (hnext : next = { sender with phase := .objectEnd }) :
    Agreeing kind compatible serviceSettings next (history.record (.ended stopped)) := by
  obtain ⟨settings, hinForce, -, hagrees, -⟩ := htransmits
  rw [hnext]
  rw [h.serviceSettingsStruct_eq] at hagrees
  refine ⟨h.serviceSettingsStruct_eq, ?_, h.packets, settings, hinForce⟩
  refine List.forall_mem_append.mpr ⟨h.ended, List.forall_mem_singleton.mpr ?_⟩
  refine ⟨?_, hstopped, hcomplete⟩
  exact ⟨hagrees.configured, hagrees.compatible_of_mem, hagrees.headerAgrees⟩

theorem agreeing_buildObject (hcompatible : Compatibility compatible)
    (h : Agreeing kind compatible serviceSettings sender history)
    (hphase : sender.phase = .buildObject) (clock : Timespec) :
    Agreeing kind compatible serviceSettings (sender.buildObject clock).1
      ((sender.buildObject clock).2.foldl History.record history) := by
  have hatPhase := h.atPhase
  rw [hphase] at hatPhase
  obtain ⟨settings, hinForce⟩ := hatPhase
  rw [buildObject, withSettings_of_some hinForce.1]
  refine ⟨h.serviceSettingsStruct_eq, h.ended, h.packets, settings, hinForce,
    hcompatible.refl settings, ⟨⟨sender.currentMode, hinForce.2.2⟩, ?_, ?_⟩, Nat.zero_le _⟩
  · exact List.forall_mem_nil _
  · exact List.forall_mem_nil _

/-- The packet that is sent agrees with the mode in force. -/
theorem agreeing_sendPacket (hcompatible : Compatibility compatible)
    (hconsistent : Consistent sender history)
    (h : Agreeing kind compatible serviceSettings sender history)
    (hphase : sender.phase = .sending) (clock : Timespec) :
    Agreeing kind compatible serviceSettings (sender.sendPacket clock).1
      ((sender.sendPacket clock).2.foldl History.record history) := by
  have hatPhase := h.atPhase
  have hatStage := hconsistent.atStage
  rw [hphase] at hatPhase hatStage
  obtain ⟨settings, hinForce, hcurrent, hagrees, hremaining⟩ := hatPhase
  obtain ⟨hloop, hlt⟩ := hatStage
  have hsame := hcompatible.sameHeader hcurrent
  have hdescribes : sender.dataMessage.Describes history.current.settings sender.numberObject
      sender.numberPacket.toNat := hloop.describes
  have hpacket : SentPacket.HeaderAgrees
      ⟨sender.trafficEndpointTarget, settings, sender.dataMessage.setTimestamp clock⟩ := by
    have htotal : sender.dataMessage.totalFragments = settings.numberPackets :=
      hdescribes.totalFragments_eq.trans hsame.numberPackets_eq
    refine ⟨hinForce.2.1, hdescribes.serviceId_eq.trans hsame.serviceId_eq,
      hdescribes.priority_eq.trans hsame.priority_eq, htotal, ?_⟩
    show sender.dataMessage.fragmentNumber < sender.dataMessage.totalFragments
    rw [UInt32.lt_iff_toNat_lt, hdescribes.fragmentNumber_eq, htotal]
    exact hremaining
  rw [sendPacket, withSettings_of_some hinForce.1]
  refine ⟨h.serviceSettingsStruct_eq, h.ended, ?_, settings, hinForce, hcurrent,
    ⟨hagrees.configured, ?_, ?_⟩, ?_⟩
  · refine List.forall_mem_append.mpr ⟨h.packets, List.forall_mem_singleton.mpr ?_⟩
    refine ⟨hpacket, sender.currentMode, ?_⟩
    rw [← h.serviceSettingsStruct_eq]
    exact hinForce.2.2
  · exact List.forall_mem_append.mpr
      ⟨hagrees.compatible_of_mem, List.forall_mem_singleton.mpr hcurrent⟩
  · exact List.forall_mem_append.mpr
      ⟨hagrees.headerAgrees, List.forall_mem_singleton.mpr hpacket⟩
  · show (sender.numberPacket + 1).toNat ≤ settings.numberPackets.toNat
    have hsucc : (sender.numberPacket + 1).toNat = sender.numberPacket.toNat + 1 := toNat_succ hlt
    rw [hsucc]
    exact hremaining

/-- Assumes: a mode that is adopted within an object is compatible with the one in force. -/
theorem agreeing_changeMode (hcompatible : Compatibility compatible)
    (h : Agreeing kind compatible serviceSettings sender history) {place : Place}
    (hphase : sender.phase = .changeMode place) {clock : Timespec}
    (hadopts : kind = .asynchronous → Adopts compatible sender (.run clock)) :
    Agreeing kind compatible serviceSettings (sender.changeMode place).1
      ((sender.changeMode place).2.foldl History.record history) := by
  have hatPhase := h.atPhase
  rw [hphase] at hatPhase
  cases place with
  | object =>
    cases hsettings : sender.serviceSettingsStruct[sender.generator.modeGlobal]? with
    | some settings =>
      simp only [changeMode, hsettings]
      exact ⟨h.serviceSettingsStruct_eq, h.ended, h.packets, settings, rfl, rfl, hsettings⟩
    | none =>
      simp only [changeMode, hsettings]
      exact ⟨h.serviceSettingsStruct_eq, h.ended, h.packets, trivial⟩
  | packet =>
    obtain ⟨hkind, current, hinForce, hcurrent, hagrees, hremaining⟩ := hatPhase
    obtain ⟨settings, hsettings, hnew⟩ := hadopts hkind hphase
    rw [Option.mem_def] at hsettings
    have hchange := hnew current hinForce.1
    have hnumber := (hcompatible.sameHeader hchange).numberPackets_eq
    simp only [changeMode, hsettings]
    exact ⟨h.serviceSettingsStruct_eq, h.ended, h.packets, hkind, settings, ⟨rfl, rfl, hsettings⟩,
      hcompatible.trans hcurrent hchange, hagrees, hnumber ▸ hremaining⟩

/-- The loop over the packets goes on, or ends with all packets sent. -/
theorem agreeing_packetLoop (hcompatible : Compatibility compatible)
    (hconsistent : Consistent sender history)
    (h : Agreeing kind compatible serviceSettings sender history)
    (hphase : sender.phase = .packetLoop) (clock : Timespec) :
    Agreeing kind compatible serviceSettings (sender.run kind clock).1
      ((sender.run kind clock).2.foldl History.record history) := by
  have hatPhase := h.atPhase
  have hatStage := hconsistent.atStage
  rw [hphase] at hatPhase hatStage
  have htransmits : Transmits compatible sender history 0 := hatPhase
  obtain ⟨settings, hinForce, hcurrent, hagrees, hremaining⟩ := htransmits
  simp only [run, hphase]
  rw [withSettings_of_some hinForce.1]
  split_ifs with hmore
  · have hleft := UInt32.lt_iff_toNat_lt.mp hmore
    have hnext : Transmits compatible sender history 1 :=
      ⟨settings, hinForce, hcurrent, hagrees, hleft⟩
    cases kind with
    | synchronous => exact ⟨h.serviceSettingsStruct_eq, h.ended, h.packets, hnext⟩
    | asynchronous => exact ⟨h.serviceSettingsStruct_eq, h.ended, h.packets, rfl, hnext⟩
  · refine agreeing_leave false h hatPhase (fun hstopped ↦ absurd hstopped (by decide)) ?_ rfl
    intro _
    have hall := UInt32.not_lt.mp hmore
    have hnumber := (hcompatible.sameHeader hcurrent).numberPackets_eq
    have hlength : history.current.packets.length = sender.numberPacket.toNat :=
      hatStage.length_eq
    rw [hlength, hnumber]
    exact le_antisymm hremaining (UInt32.le_iff_toNat_le.mp hall)

/-- Behind a packet the loop is left when the thread is to stop. -/
theorem agreeing_stopCheck (h : Agreeing kind compatible serviceSettings sender history)
    (hphase : sender.phase = .stopCheck) (clock : Timespec) :
    Agreeing kind compatible serviceSettings (sender.run kind clock).1
      ((sender.run kind clock).2.foldl History.record history) := by
  have hatPhase := h.atPhase
  rw [hphase] at hatPhase
  simp only [run, hphase]
  split_ifs with hstop
  · exact agreeing_leave true h hatPhase (fun _ ↦ hstop)
      (fun hcomplete ↦ absurd hcomplete (by decide)) rfl
  · exact ⟨h.serviceSettingsStruct_eq, h.ended, h.packets, hatPhase⟩

/-- In the other phases the thread only moves on. -/
theorem record_run_of_not_records (hquiet : ¬ sender.phase.Records) (clock : Timespec) :
    (sender.run kind clock).2.foldl History.record history = history := by
  cases hphase : sender.phase with
  | changeMode _ | buildObject | packetLoop | sending | stopCheck =>
    rw [hphase] at hquiet
    exact absurd trivial hquiet
  | adoptTimestamp _ | clearUpdate _ | closed | crashed =>
    simp only [run, hphase]
    rfl
  | startGate | checkMode _ | checkUpdate _ | packetGate | objectEnd | waiting | pollClock =>
    simp only [run, hphase]
    split_ifs <;> rfl
  | afterObject =>
    simp only [run, hphase, withSettings]
    split_ifs
    · rfl
    · split <;> rfl

/-- What holds in a phase in which the thread only moves on holds in the next one. -/
theorem agreesAt_run_of_not_records (hquiet : ¬ sender.phase.Records)
    (hatPhase : AgreesAt kind compatible sender history sender.phase) (hknows : KnowsMode sender)
    (clock : Timespec) :
    AgreesAt kind compatible (sender.run kind clock).1 history
      (sender.run kind clock).1.phase := by
  cases hphase : sender.phase with
  | changeMode _ | buildObject | packetLoop | sending | stopCheck =>
    rw [hphase] at hquiet
    exact absurd trivial hquiet
  | startGate =>
    simp only [run, hphase]
    rw [hphase] at hatPhase
    split_ifs with hcontrol
    · exact hatPhase
    · rw [hphase]
      exact hatPhase
  | checkMode place =>
    simp only [run, hphase]
    rw [hphase] at hatPhase
    split_ifs with hmode
    · cases place with
      | object => exact hatPhase
      | packet => exact hatPhase
    · cases place with
      | object =>
        rcases hatPhase with ⟨hnone, hinitial⟩ | hinForce
        · -- The value of no mode has not been taken for a mode.
          exact absurd (hinitial.symm.trans (not_not.mp hmode)).symm (hknows hphase hnone)
        · exact hinForce
      | packet => exact hatPhase.2
  | checkUpdate place =>
    simp only [run, hphase]
    rw [hphase] at hatPhase
    split_ifs with hupdate
    · cases place with
      | object => exact hatPhase
      | packet => exact hatPhase
    · cases place with
      | object => exact hatPhase
      | packet => exact hatPhase.2
  | adoptTimestamp place =>
    simp only [run, hphase]
    rw [hphase] at hatPhase
    cases place with
    | object => exact hatPhase
    | packet => exact hatPhase
  | clearUpdate place =>
    simp only [run, hphase]
    rw [hphase] at hatPhase
    cases place with
    | object => exact hatPhase
    | packet => exact hatPhase.2
  | packetGate =>
    simp only [run, hphase]
    rw [hphase] at hatPhase
    split_ifs with hcontrol
    · exact hatPhase
    · rw [hphase]
      exact hatPhase
  | objectEnd =>
    simp only [run, hphase]
    rw [hphase] at hatPhase
    split_ifs with hlast
    · trivial
    · exact hatPhase
  | afterObject =>
    simp only [run, hphase]
    rw [hphase] at hatPhase
    obtain ⟨settings, hinForce⟩ := hatPhase
    split_ifs with hstop
    · trivial
    · rw [withSettings_of_some hinForce.1]
      exact ⟨settings, hinForce⟩
  | waiting | pollClock =>
    simp only [run, hphase]
    rw [hphase] at hatPhase
    split_ifs with hcontrol
    · exact Or.inr hatPhase
    · exact hatPhase
  | closed =>
    simp only [run, hphase]
    trivial
  | crashed =>
    rw [hphase] at hatPhase
    exact hatPhase.elim

/-- A step of the thread keeps the history in agreement with the modes in force. -/
theorem agreeing_run (hcompatible : Compatibility compatible)
    (hconsistent : Consistent sender history)
    (h : Agreeing kind compatible serviceSettings sender history) (hknows : KnowsMode sender)
    {clock : Timespec} (hadopts : kind = .asynchronous → Adopts compatible sender (.run clock)) :
    Agreeing kind compatible serviceSettings (sender.run kind clock).1
      ((sender.run kind clock).2.foldl History.record history) := by
  by_cases hrecords : sender.phase.Records
  · cases hphase : sender.phase with
    | changeMode place =>
      simp only [run, hphase]
      exact agreeing_changeMode hcompatible h hphase hadopts
    | buildObject =>
      simp only [run, hphase]
      exact agreeing_buildObject hcompatible h hphase clock
    | packetLoop => exact agreeing_packetLoop hcompatible hconsistent h hphase clock
    | sending =>
      simp only [run, hphase]
      exact agreeing_sendPacket hcompatible hconsistent h hphase clock
    | stopCheck => exact agreeing_stopCheck h hphase clock
    | _ =>
      rw [hphase] at hrecords
      exact hrecords.elim
  · obtain ⟨hstop, -, -, hstruct⟩ := run_frame kind sender clock
    rw [record_run_of_not_records hrecords clock]
    refine ⟨hstruct.trans h.serviceSettingsStruct_eq, ?_, h.packets, ?_⟩
    · rw [hstop]
      exact h.ended
    · exact agreesAt_run_of_not_records hrecords h.atPhase hknows clock

/-- What is notified does not change the agreement. -/
theorem agreeing_shared (h : Agreeing kind compatible serviceSettings sender history)
    (generator : TrafficGenerator) {stopThread : Bool}
    (hstop : sender.stopThread = true → stopThread = true) :
    Agreeing kind compatible serviceSettings
      { sender with generator := generator, stopThread := stopThread } history := by
  refine ⟨h.serviceSettingsStruct_eq, fun object hobject ↦ ?_, h.packets, ?_⟩
  · obtain ⟨hagrees, hstopped, hcomplete⟩ := h.ended object hobject
    exact ⟨hagrees, fun hobjectStopped ↦ hstop (hstopped hobjectStopped), hcomplete⟩
  · exact (Iff.rfl : AgreesAt kind compatible sender history sender.phase ↔ _).mp h.atPhase

/-- Assumes: the value that stands for no mode is not taken for a mode. -/
theorem agreeing_step (hcompatible : Compatibility compatible)
    (hconsistent : Consistent sender history)
    (h : Agreeing kind compatible serviceSettings sender history) (hknows : KnowsMode sender)
    {event : SenderEvent} (hadopts : kind = .asynchronous → Adopts compatible sender event) :
    Agreeing kind compatible serviceSettings (sender.step kind event).1
      ((sender.step kind event).2.foldl History.record history) := by
  cases event with
  | notify notification => exact agreeing_shared h _ id
  | stop => exact agreeing_shared h _ fun _ ↦ rfl
  | run clock => exact agreeing_run hcompatible hconsistent h hknows hadopts

/-- A doomed sender sends nothing. -/
theorem doomed_step (kind : SenderKind) (h : Doomed sender) (event : SenderEvent) :
    Doomed (sender.step kind event).1 ∧ (sender.step kind event).2 = [] := by
  obtain ⟨hsettings, hphase⟩ := h
  cases event with
  | notify notification => exact ⟨⟨hsettings, hphase⟩, rfl⟩
  | stop => exact ⟨⟨hsettings, hphase⟩, rfl⟩
  | run clock =>
    rcases hphase with hbuild | hcrashed
    · simp only [step, run, hbuild, buildObject, withSettings, hsettings]
      exact ⟨⟨rfl, Or.inr rfl⟩, trivial⟩
    · simp only [step, run, hcrashed]
      exact ⟨⟨hsettings, Or.inr hcrashed⟩, trivial⟩

/-- A sender that takes the value of no mode for a mode is doomed. -/
theorem doomed_of_not_knowsMode (h : Agreeing kind compatible serviceSettings sender history)
    (hknows : ¬ KnowsMode sender) (clock : Timespec) :
    Doomed (sender.run kind clock).1 ∧ (sender.run kind clock).2 = [] := by
  simp only [KnowsMode, not_forall, not_not] at hknows
  obtain ⟨hphase, hsettings, hmode⟩ := hknows
  have hready := h.atPhase
  rw [hphase] at hready
  rcases hready with ⟨-, hinitial⟩ | ⟨settings, hinForce⟩
  · have hsame : ¬ sender.currentMode ≠ sender.generator.modeGlobal :=
      not_not.mpr (hinitial.trans hmode.symm)
    simp only [run, hphase]
    rw [if_neg hsame]
    exact ⟨⟨hsettings, Or.inl rfl⟩, rfl⟩
  · exact absurd (hinForce.1.symm.trans hsettings) (Option.some_ne_none settings)

/-- The run lemma: the history of every run all of whose steps meet the condition agrees with the
modes that were in force, up to the last state in which the sender was not doomed. -/
theorem agreeing_ofRun (hcompatible : Compatibility compatible) (clientId : UInt32)
    (control : TrafficSourceControl) (uninitialised : Timespec) {events : List SenderEvent}
    (hadopts : EveryStep (step kind)
      (fun current event ↦ kind = .asynchronous → Adopts compatible current event)
      (start serviceSettings clientId control uninitialised) events) :
    ∃ last, Agreeing kind compatible serviceSettings last
      (History.ofRun kind (start serviceSettings clientId control uninitialised) events) := by
  have hrun := relation_ofRun
    (fun current past ↦ Consistent current past ∧
      (Agreeing kind compatible serviceSettings current past ∨
        Doomed current ∧ ∃ last, Agreeing kind compatible serviceSettings last past))
    ?_ hadopts ⟨consistent_start serviceSettings clientId control uninitialised,
      Or.inl (agreeing_start clientId control uninitialised)⟩
  · rcases hrun with ⟨-, hagreeing | ⟨-, hagreeing⟩⟩
    · exact ⟨_, hagreeing⟩
    · exact hagreeing
  · intro current past event _ hadopt ⟨hconsistent, hcurrent⟩
    refine ⟨consistent_step kind hconsistent event, ?_⟩
    rcases hcurrent with hagreeing | ⟨hdoomed, hearlier⟩
    · cases event with
      | notify notification => exact Or.inl (agreeing_shared hagreeing _ id)
      | stop => exact Or.inl (agreeing_shared hagreeing _ fun _ ↦ rfl)
      | run clock =>
        by_cases hknows : KnowsMode current
        · exact Or.inl (agreeing_run hcompatible hconsistent hagreeing hknows hadopt)
        · obtain ⟨hnext, hnothing⟩ := doomed_of_not_knowsMode hagreeing hknows clock
          right
          rw [step, hnothing]
          exact ⟨hnext, current, hagreeing⟩
    · obtain ⟨hnext, hnothing⟩ := doomed_step kind hdoomed event
      right
      rw [hnothing]
      exact ⟨hnext, hearlier⟩

end Sender

end Tanos
