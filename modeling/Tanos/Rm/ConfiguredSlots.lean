import Tanos.Rm.CommandedMode

/-!
# The slots of the schedule

The synchronous start of the traffic and the experiments with synchronous objects derive start
timestamps from the slot offsets of the configuration. They look the settings up with `operator[]`,
under the lower 32 bits of the service id, and create settings with slot offset 0 where there are
none. `usesConfiguredSlots_iff` is about single steps: only configured slots are used, and the
settings stay as they are, precisely when all clients that are addressed are configured.
`everyStep_usesConfiguredSlots_iff` puts the steps of a run together.
-/

set_option autoImplicit false
set_option relaxedAutoImplicit false

namespace Tanos

open Library

namespace NetLayerRM

/-- The settings the configuration has for exactly a service id and a mode. -/
def configuredSettings (configuration : ServiceMap) (service : UInt64) (mode : UInt32) :
    Option ServiceSettings :=
  if service.toNat < 2 ^ 32 then configuration.find service.toUInt32 mode else none

/-- What the resource manager does with synchronous objects: it handles a message, starts the
traffic, or makes a round of an experiment. -/
inductive ScheduleEvent where
  | message (message : RMMessage)
  | start (currentTime : Timespec)
  | round (objects : SynchronousObjects) (iterator : UInt8) (networkMode : UInt32)
    (currentTime : Timespec)
deriving DecidableEq, Repr

/-- The step for an event. -/
def scheduleStep (rm : NetLayerRM) : ScheduleEvent → NetLayerRM × List ServiceCommand
  | .message message => (rm.handleMessage message, [])
  | .start currentTime => rm.startNetworkTrafficSynchronous currentTime
  | .round objects iterator networkMode currentTime =>
    synchronousObjectsRound objects rm iterator networkMode currentTime

/-- The time from which the slots of a step are counted. -/
def scheduleBase (rm : NetLayerRM) : ScheduleEvent → Timespec
  | .message _ => rm.rmActiveTimestampLast
  | .start currentTime => rm.targetTimeClientStart currentTime
  | .round _ _ _ currentTime => rm.targetHyperperiod currentTime

/-- The clients that are addressed in a step. -/
def scheduleClients (rm : NetLayerRM) : ScheduleEvent → List AddressedClient
  | .message _ => []
  | .start _ =>
    rm.addressed rm.experimentParameterStruct.startupModeMap
      rm.experimentParameterStruct.startupMode
  | .round _ _ networkMode _ =>
    rm.addressed rm.experimentParameterStruct.reconfigurationMap networkMode

/-- The start timestamp of a command is that of the slot configured for its service and mode. -/
def UsesSlot (configuration : ServiceMap) (base : Timespec) (command : ServiceCommand) : Prop :=
  ∃ settings, configuredSettings configuration command.service command.mode = some settings ∧
    command.timestampStart = some (prepareTimestampAdd base settings.slotOffset.toNat)

/-- A step uses configured slots only, and leaves the settings as they are. -/
structure UsesConfiguredSlots (configuration : ServiceMap) (rm : NetLayerRM)
    (event : ScheduleEvent) : Prop where
  rmClientServiceMap_eq : (scheduleStep rm event).1.rmClientServiceMap = configuration
  usesSlot : ∀ command ∈ (scheduleStep rm event).2,
    UsesSlot configuration (scheduleBase rm event) command

/-- The condition: every client that is addressed is configured under its id and its mode. -/
def AddressesConfigured (configuration : ServiceMap) (rm : NetLayerRM) (event : ScheduleEvent) :
    Prop :=
  ∀ client ∈ scheduleClients rm event,
    ∃ settings, configuredSettings configuration client.service client.mode = some settings

variable {rm : NetLayerRM} {modes : ModeMap} {networkMode : UInt32} {body : ClientBody}

theorem find_of_configuredSettings {configuration : ServiceMap} {service : UInt64} {mode : UInt32}
    {settings : ServiceSettings}
    (h : configuredSettings configuration service mode = some settings) :
    configuration.find service.toUInt32 mode = some settings := by
  unfold configuredSettings at h
  split_ifs at h
  exact h

/-! ### The steps -/

/-- Every start timestamp is that of the slot that is looked up. -/
theorem timestampStart_scheduleStep (rm : NetLayerRM) (event : ScheduleEvent) :
    ∀ command ∈ (scheduleStep rm event).2, command.timestampStart =
      some (prepareTimestampAdd (scheduleBase rm event)
        (rm.slotOffset command.service command.mode)) := by
  cases event with
  | message message => exact List.forall_mem_nil _
  | start currentTime => exact (startNetworkTrafficSynchronous_spec rm currentTime).2
  | round objects iterator networkMode currentTime =>
    exact (synchronousObjectsRound_spec objects rm iterator networkMode currentTime).2.2

/-- There is one call for each client that is addressed. -/
theorem forall₂_scheduleStep (rm : NetLayerRM) (event : ScheduleEvent) :
    List.Forall₂ (fun client command ↦
        command.service = client.service ∧ CarriesMode client command.toControlCommand)
      (scheduleClients rm event) (scheduleStep rm event).2 := by
  cases event with
  | message message => exact List.Forall₂.nil
  | start currentTime => exact forall₂_mode (.startSynchronous currentTime)
  | round objects iterator networkMode currentTime =>
    have hcalls : CallsIn rm rm.experimentParameterStruct.reconfigurationMap networkMode _ :=
      .round (.synchronousObjects objects) iterator networkMode currentTime
    rw [← step, step_round] at hcalls
    exact forall₂_mode hcalls

/-- Assumes: all clients that are addressed are configured, and the body leaves the settings as they
are for a configured client. So does the loop, from any state with the same clients and settings. -/
theorem rmClientServiceMap_addressClients (first : NetLayerRM)
    (hlist : first.serviceList = rm.serviceList)
    (hmap : first.rmClientServiceMap = rm.rmClientServiceMap)
    (hclients : ∀ client ∈ rm.addressed modes networkMode, ∃ settings,
      configuredSettings rm.rmClientServiceMap client.service client.mode = some settings)
    (hbody : ∀ current serviceId message mode settings, message.serviceId = serviceId →
      current.rmClientServiceMap.find serviceId.toUInt32 mode = some settings →
        (body current serviceId message mode).1.rmClientServiceMap =
          current.rmClientServiceMap) :
    (addressClients modes networkMode body first).1.rmClientServiceMap =
      rm.rmClientServiceMap := by
  have hturn : ∀ current, ∀ entry ∈ first.serviceList.entries.toList,
      current.rmClientServiceMap = rm.rmClientServiceMap →
        (addressClient modes networkMode body current entry).1.rmClientServiceMap =
          rm.rmClientServiceMap := by
    intro current entry hentry hsame
    rw [addressClient_eq]
    cases hclient : addressedClient modes networkMode entry with
    | none => exact hsame
    | some client =>
      obtain ⟨settings, hsettings⟩ :=
        hclients client (List.mem_filterMap.mpr ⟨entry, hlist ▸ hentry, hclient⟩)
      obtain ⟨mode, -, rfl⟩ := Option.map_eq_some_iff.mp hclient
      have hfound := find_of_configuredSettings hsettings
      rw [← hsame] at hfound
      exact (hbody current entry.1 entry.2 mode settings (ServiceList.serviceId_eq_of_mem hentry)
        hfound).trans hsame
  exact Runs.finalState_of_step hturn hmap

/-- Assumes: all clients that are addressed are configured. The settings stay as they are. -/
theorem rmClientServiceMap_scheduleStep {event : ScheduleEvent}
    (hconfigured : AddressesConfigured rm.rmClientServiceMap rm event) :
    (scheduleStep rm event).1.rmClientServiceMap = rm.rmClientServiceMap := by
  cases event with
  | message message =>
    rw [scheduleStep, handleMessage_eq]
  | start currentTime =>
    refine rmClientServiceMap_addressClients
      { rm with rmActiveTimestampLast := rm.targetTimeClientStart currentTime } rfl rfl
      hconfigured ?_
    intro current serviceId message mode settings _ hfound
    exact congrArg Prod.snd (ServiceMap.subscript_of_find hfound)
  | round objects iterator networkMode currentTime =>
    refine rmClientServiceMap_addressClients
      { rm with rmActiveTimestampLast := rm.targetHyperperiod currentTime } rfl rfl hconfigured ?_
    intro current serviceId message mode settings hserviceId hfound
    rw [← hserviceId] at hfound
    exact congrArg Prod.snd (ServiceMap.subscript_of_find hfound)

/-- A step uses configured slots only, and leaves the settings as they are, precisely when all
clients that are addressed are configured. -/
theorem usesConfiguredSlots_iff (rm : NetLayerRM) (event : ScheduleEvent) :
    UsesConfiguredSlots rm.rmClientServiceMap rm event ↔
      AddressesConfigured rm.rmClientServiceMap rm event := by
  have hcalls := forall₂_scheduleStep rm event
  constructor
  · intro huses client hclient
    obtain ⟨command, hcommand, hservice, hmode⟩ := exists_mem_right_of_forall₂ hcalls client hclient
    obtain ⟨settings, hsettings, -⟩ := huses.usesSlot command hcommand
    rw [hservice, hmode] at hsettings
    exact ⟨settings, hsettings⟩
  · intro hconfigured
    refine ⟨rmClientServiceMap_scheduleStep hconfigured, fun command hcommand ↦ ?_⟩
    obtain ⟨client, hclient, hservice, hmode⟩ := exists_mem_left_of_forall₂ hcalls command hcommand
    obtain ⟨settings, hsettings⟩ := hconfigured client hclient
    rw [← hservice, ← hmode] at hsettings
    have hoffset : rm.slotOffset command.service command.mode = settings.slotOffset.toNat := by
      rw [slotOffset, ServiceMap.settings_of_find (find_of_configuredSettings hsettings)]
    refine ⟨settings, hsettings, ?_⟩
    rw [timestampStart_scheduleStep rm event command hcommand, hoffset]

/-! ### Runs -/

/-- A run uses configured slots only, and leaves the settings as they are in each of its steps,
precisely when all clients that are addressed along the run are configured. -/
theorem everyStep_usesConfiguredSlots_iff (rm : NetLayerRM) (events : List ScheduleEvent) :
    Runs.EveryStep scheduleStep (UsesConfiguredSlots rm.rmClientServiceMap) rm events ↔
      Runs.EveryStep scheduleStep (AddressesConfigured rm.rmClientServiceMap) rm events := by
  have hiff : ∀ current event, current.rmClientServiceMap = rm.rmClientServiceMap →
      (UsesConfiguredSlots rm.rmClientServiceMap current event ↔
        AddressesConfigured rm.rmClientServiceMap current event) := by
    intro current event hsame
    rw [← hsame]
    exact usesConfiguredSlots_iff current event
  refine Runs.everyStep_iff_everyStep hiff ?_ rfl events
  exact fun _ _ _ huses ↦ huses.rmClientServiceMap_eq

/-- A service that is not configured gets a start timestamp, for the slot of an entry created for
it. -/
theorem not_usesConfiguredSlots_unconfigured :
    let rm := { singleClient (singleParameter 100 100 100 100) 0 ⟨0, 0⟩ with
      rmClientServiceMap := ∅ }
    ¬ Runs.EveryStep scheduleStep (UsesConfiguredSlots rm.rmClientServiceMap) rm
      [.start ⟨0, 0⟩] := by
  intro rm hevery
  obtain ⟨huses, -⟩ := (Runs.everyStep_cons _ _ _).mp hevery
  have hclient : ⟨1, singleRequest, 0⟩ ∈ scheduleClients rm (.start ⟨0, 0⟩) :=
    mem_addressed.mpr ⟨rfl, rfl⟩
  obtain ⟨settings, hsettings⟩ := (usesConfiguredSlots_iff rm _).mp huses _ hclient
  have habsent : configuredSettings rm.rmClientServiceMap 1 0 = none := rfl
  exact absurd (hsettings.symm.trans habsent) (Option.some_ne_none settings)

end NetLayerRM

end Tanos
