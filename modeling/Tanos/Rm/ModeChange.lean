import Tanos.Rm.NetLayerRM

/-!
# Starting the traffic and changing modes

The two ways to start the traffic, one round of each of the five experiments, the two ways to end
an experiment, and the step of the running resource manager.

A round of an experiment with synchronous objects moves the anchor of the schedule to the target
hyperperiod and derives the timestamps of every client from there. `synchronousObjectsRound_spec`
and `startNetworkTrafficSynchronous_spec` state what the two users of the anchor do to it and what
they send. Both insert settings into `rmClientServiceMap` while they look slot offsets up, which no
later lookup notices (`SameConfiguration`).
-/

set_option autoImplicit false
set_option relaxedAutoImplicit false

namespace Tanos

open Library

/-- The start time a command carries. -/
def ControlCommand.timestampStart (command : ControlCommand) : Option Timespec :=
  command.payload.map TimestampPayload.timestampStart

namespace NetLayerRM

/-- The slot offset the resource manager looks up for a service in a mode. -/
def slotOffset (rm : NetLayerRM) (serviceId : UInt64) (mode : UInt32) : ℕ :=
  (rm.rmClientServiceMap.settings serviceId.toUInt32 mode).slotOffset.toNat

/-- Two states with the same experiment parameters and the same settings for every service in every
mode. -/
structure SameConfiguration (first second : NetLayerRM) : Prop where
  experimentParameterStruct_eq :
    first.experimentParameterStruct = second.experimentParameterStruct
  settings_eq : first.rmClientServiceMap.settings = second.rmClientServiceMap.settings

namespace SameConfiguration

variable {first second third : NetLayerRM}

theorem refl (rm : NetLayerRM) : SameConfiguration rm rm := ⟨rfl, rfl⟩

theorem trans (h : SameConfiguration first second) (h' : SameConfiguration second third) :
    SameConfiguration first third :=
  ⟨h.experimentParameterStruct_eq.trans h'.experimentParameterStruct_eq,
    h.settings_eq.trans h'.settings_eq⟩

theorem hyperperiodDuration_eq (h : SameConfiguration first second) :
    first.hyperperiodDuration = second.hyperperiodDuration := by
  rw [first.hyperperiodDuration_eq, h.experimentParameterStruct_eq, second.hyperperiodDuration_eq]

theorem slotOffset_eq (h : SameConfiguration first second) (serviceId : UInt64) (mode : UInt32) :
    first.slotOffset serviceId mode = second.slotOffset serviceId mode := by
  rw [slotOffset, h.settings_eq, slotOffset]

end SameConfiguration

/-- Looking settings up keeps the configuration. -/
theorem sameConfiguration_subscript (rm : NetLayerRM) (service mode : UInt32) (last : Timespec) :
    SameConfiguration
      { rm with
        rmClientServiceMap := (rm.rmClientServiceMap.subscript service mode).2
        rmActiveTimestampLast := last } rm :=
  ⟨rfl, ServiceMap.settings_subscript_snd rm.rmClientServiceMap service mode⟩

theorem sameConfiguration_handleMessage (rm : NetLayerRM) (message : RMMessage) :
    SameConfiguration (rm.handleMessage message) rm := by
  rw [handleMessage_eq]
  exact ⟨rfl, rfl⟩

/-! ### Starting the traffic -/

/-- `target_time_client_start`: the next full second of the clock, and the distribution phase. -/
def targetTimeClientStart (rm : NetLayerRM) (currentTime : Timespec) : Timespec :=
  prepareTimestampAdd (getRoundTimestamp currentTime)
    rm.experimentParameterStruct.mcDistributionPhaseDuration

/-- The body of the loop in `start_network_traffic_synchronous`. -/
def startClientSynchronous (targetTimeClientStart : Timespec) : ClientBody :=
  fun rm serviceId message clientStartMode ↦
    let settings := rm.rmClientServiceMap.subscript serviceId.toUInt32 clientStartMode
    let targetTimeStartOffset :=
      prepareTimestampAdd targetTimeClientStart settings.1.slotOffset.toNat
    ({ rm with
        rmClientServiceMap := settings.2
        rmActiveTimestampLast := targetTimeStartOffset },
      [sendSynchronousStart targetTimeStartOffset (rm.getClientAddress message.sourceId) serviceId
        clientStartMode])

/-- `start_network_traffic_synchronous`. -/
def startNetworkTrafficSynchronous (rm : NetLayerRM) (currentTime : Timespec) :
    NetLayerRM × List ServiceCommand :=
  let targetTime := rm.targetTimeClientStart currentTime
  addressClients rm.experimentParameterStruct.startupModeMap
    rm.experimentParameterStruct.startupMode (startClientSynchronous targetTime)
    { rm with rmActiveTimestampLast := targetTime }

/-- `start_network_traffic_asynchronous`. -/
def startNetworkTrafficAsynchronous (rm : NetLayerRM) : NetLayerRM × List ServiceCommand :=
  addressClients rm.experimentParameterStruct.startupModeMap
    rm.experimentParameterStruct.startupMode
    (fun rm serviceId message clientStartMode ↦
      (rm, [RMCommunication.sendStart (rm.getClientAddress message.sourceId) rmId clientStartMode
        serviceId none])) rm

/-- `initial_start_handler`, up to the timer it arms. -/
def initialStartHandler (rm : NetLayerRM) (currentTime : Timespec) :
    NetLayerRM × List ServiceCommand :=
  if rm.experimentParameterStruct.synchronousStartMode then
    rm.startNetworkTrafficSynchronous currentTime
  else rm.startNetworkTrafficAsynchronous

/-- The synchronous start: the anchor it leaves is the common base, on which the offset of the last
client has been added if there was one, and every client starts at the base and its slot offset. -/
theorem startNetworkTrafficSynchronous_spec (rm : NetLayerRM) (currentTime : Timespec) :
    let base := rm.targetTimeClientStart currentTime
    let started := rm.startNetworkTrafficSynchronous currentTime
    (SameConfiguration started.1 rm ∧
      (started.1.rmActiveTimestampLast = base ∨
        ∃ offset, started.1.rmActiveTimestampLast = prepareTimestampAdd base offset)) ∧
    ∀ command ∈ started.2, command.timestampStart =
      some (prepareTimestampAdd base (rm.slotOffset command.service command.mode)) := by
  intro base started
  refine addressClients_invariant
    (fun current ↦ SameConfiguration current rm ∧
      (current.rmActiveTimestampLast = base ∨
        ∃ offset, current.rmActiveTimestampLast = prepareTimestampAdd base offset)) ?_
    ⟨⟨rfl, rfl⟩, Or.inl rfl⟩
  rintro current serviceId message mode - ⟨hsame, -⟩
  refine ⟨⟨(sameConfiguration_subscript current _ _ _).trans hsame, Or.inr ⟨_, rfl⟩⟩, ?_⟩
  intro command hcommand
  obtain rfl := List.mem_singleton.mp hcommand
  rw [← hsame.slotOffset_eq, slotOffset, ← ServiceMap.subscript_fst]
  rfl

/-! ### Experiments with asynchronous objects -/

/-- One round of `experiment_mode_change`. -/
def experimentModeChangeRound (rm : NetLayerRM) (iterator : UInt8) (networkMode : UInt32) :
    NetLayerRM × List ServiceCommand :=
  addressClients rm.experimentParameterStruct.reconfigurationMap networkMode
    (fun rm serviceId message configurationMode ↦
      (rm, [sendAsynchronousReconfigure (rm.getClientAddress message.sourceId) serviceId
        configurationMode iterator.toUInt32])) rm

/-- `target_mc_begin`: the distribution phase is added to the clock in whole seconds. -/
def targetMcBegin (rm : NetLayerRM) (currentTime : Timespec) : Timespec :=
  ⟨currentTime.tvSec + (rm.experimentParameterStruct.mcDistributionPhaseDuration / 1000 : ℕ),
    currentTime.tvNsec⟩

/-- The body of the loop in both experiments with asynchronous objects, all clients get the same
timestamps. -/
def reconfigureClientAsynchronous (targetTimeStopOffset targetTimeReconfigOffset
    targetTimeStartOffset : Timespec) (messageType : MessageTypes) (iterator : UInt8) :
    ClientBody :=
  fun rm serviceId message configurationMode ↦
    (rm, [sendTimeTriggeredSynchronousReconfigureType targetTimeStopOffset
      targetTimeReconfigOffset targetTimeStartOffset (rm.getClientAddress message.sourceId)
      serviceId configurationMode messageType iterator.toUInt32])

/-- One round of `experiment_mode_change_time_triggered_asynchonous_objects_hw`. -/
def asynchonousObjectsHwRound (rm : NetLayerRM) (iterator : UInt8) (networkMode : UInt32)
    (currentTime : Timespec) : NetLayerRM × List ServiceCommand :=
  let parameters := rm.experimentParameterStruct
  let begin := rm.targetMcBegin currentTime
  addressClients parameters.reconfigurationMap networkMode
    (reconfigureClientAsynchronous begin
      (prepareTimestampAdd begin parameters.mcClientReconfigOffset)
      (prepareTimestampAdd begin
        (parameters.mcClientStartOffset + parameters.mcClientReconfigOffset))
      .rmClientSyncTimestampReconfigureHw iterator) rm

/-- One round of `experiment_mode_change_time_triggered_asynchonous_objects_sw`. -/
def asynchonousObjectsSwRound (rm : NetLayerRM) (iterator : UInt8) (networkMode : UInt32)
    (currentTime : Timespec) : NetLayerRM × List ServiceCommand :=
  let parameters := rm.experimentParameterStruct
  let begin := rm.targetMcBegin currentTime
  addressClients parameters.reconfigurationMap networkMode
    (reconfigureClientAsynchronous ⟨0, 0⟩
      (prepareTimestampAdd begin parameters.mcClientReconfigOffset) ⟨0, 0⟩
      .rmClientSyncTimestampReconfigureSw iterator) rm

/-! ### Experiments with synchronous objects -/

/-- The two experiments with synchronous objects. -/
inductive SynchronousObjects where
  | hw
  | sw
deriving DecidableEq, Repr

/-- The type of the messages an experiment with synchronous objects sends. -/
def SynchronousObjects.messageType : SynchronousObjects → MessageTypes
  | .hw => .rmClientSyncTimestampReconfigureSyncObjectHw
  | .sw => .rmClientSyncTimestampReconfigureSyncObjectSw

/-- `time_diff.tv_sec * 1000 + time_diff.tv_nsec / 1000000`, the milliseconds between two
timestamps. -/
def timeDiffMilliseconds (currentTime last : Timespec) : ℤ :=
  let timeDiff := subtractTimespec currentTime last
  timeDiff.tvSec * 1000 + timeDiff.tvNsec.tdiv 1000000

/-- `number_hyperperiods_past`. -/
def numberHyperperiodsPast (rm : NetLayerRM) (currentTime : Timespec) : UInt32 :=
  UInt32.ofInt ((timeDiffMilliseconds currentTime rm.rmActiveTimestampLast).tdiv
    rm.hyperperiodDuration + 1)

/-- `number_hyperperiod_distribution`. -/
def numberHyperperiodDistribution (rm : NetLayerRM) : UInt32 :=
  UInt32.ofNat
    (rm.experimentParameterStruct.mcDistributionPhaseDuration / rm.hyperperiodDuration + 1)

/-- `(number_hyperperiods_past + number_hyperperiod_distribution) * 100`, the milliseconds by which
the anchor moves. The source multiplies by 100 whatever the hyperperiod is. -/
def advanceMilliseconds (rm : NetLayerRM) (currentTime : Timespec) : UInt32 :=
  (rm.numberHyperperiodsPast currentTime + rm.numberHyperperiodDistribution) * 100

/-- `target_hyperperiod`. -/
def targetHyperperiod (rm : NetLayerRM) (currentTime : Timespec) : Timespec :=
  ⟨rm.rmActiveTimestampLast.tvSec + (rm.advanceMilliseconds currentTime / 1000).toNat,
    rm.rmActiveTimestampLast.tvNsec +
      (rm.advanceMilliseconds currentTime % 1000 * 1000000).toNat⟩

/-- The body of the loop in both experiments with synchronous objects. -/
def reconfigureClientSynchronous (objects : SynchronousObjects) (targetHyperperiod : Timespec)
    (iterator : UInt8) : ClientBody :=
  fun rm serviceId message configurationMode ↦
    let settings := rm.rmClientServiceMap.subscript message.serviceId.toUInt32 configurationMode
    let targetTimeStartOffset := prepareTimestampAdd targetHyperperiod settings.1.slotOffset.toNat
    let targetTimeReconfigOffset := prepareTimestampSub targetTimeStartOffset
      rm.experimentParameterStruct.mcClientReconfigOffset
    ({ rm with rmClientServiceMap := settings.2 },
      [sendTimeTriggeredSynchronousReconfigureType ⟨0, 0⟩ targetTimeReconfigOffset
        targetTimeStartOffset (rm.getClientAddress message.sourceId) serviceId configurationMode
        objects.messageType iterator.toUInt32])

/-- The loop over the clients of a round, for any target hyperperiod. -/
def reconfigureClients (objects : SynchronousObjects) (targetHyperperiod : Timespec)
    (rm : NetLayerRM) (iterator : UInt8) (networkMode : UInt32) :
    NetLayerRM × List ServiceCommand :=
  addressClients rm.experimentParameterStruct.reconfigurationMap networkMode
    (reconfigureClientSynchronous objects targetHyperperiod iterator) rm

/-- One round of an experiment with synchronous objects. -/
def synchronousObjectsRound (objects : SynchronousObjects) (rm : NetLayerRM) (iterator : UInt8)
    (networkMode : UInt32) (currentTime : Timespec) : NetLayerRM × List ServiceCommand :=
  let target := rm.targetHyperperiod currentTime
  reconfigureClients objects target { rm with rmActiveTimestampLast := target } iterator networkMode

/-- One round of `experiment_mode_change_time_triggered_synchronous_objects_hw`. -/
def synchronousObjectsHwRound : NetLayerRM → UInt8 → UInt32 → Timespec →
    NetLayerRM × List ServiceCommand :=
  synchronousObjectsRound .hw

/-- One round of `experiment_mode_change_time_triggered_synchronous_objects_sw`. -/
def synchronousObjectsSwRound : NetLayerRM → UInt8 → UInt32 → Timespec →
    NetLayerRM × List ServiceCommand :=
  synchronousObjectsRound .sw

/-- The loop over the clients of a round: it keeps the configuration and the anchor, and every
client starts at the target hyperperiod and its slot offset. -/
theorem reconfigureClients_spec (objects : SynchronousObjects) (target : Timespec)
    (rm : NetLayerRM) (iterator : UInt8) (networkMode : UInt32) :
    let reconfigured := reconfigureClients objects target rm iterator networkMode
    (SameConfiguration reconfigured.1 rm ∧
      reconfigured.1.rmActiveTimestampLast = rm.rmActiveTimestampLast) ∧
    ∀ command ∈ reconfigured.2,
      let start := prepareTimestampAdd target (rm.slotOffset command.service command.mode)
      command.payload = some ⟨.syncTimestampReconfgure, ⟨0, 0⟩, prepareTimestampSub start
        rm.experimentParameterStruct.mcClientReconfigOffset, start⟩ := by
  refine addressClients_invariant
    (fun current ↦ SameConfiguration current rm ∧
      current.rmActiveTimestampLast = rm.rmActiveTimestampLast) ?_ ⟨SameConfiguration.refl rm, rfl⟩
  rintro current serviceId message mode hserviceId ⟨hsame, hlast⟩
  refine ⟨⟨(sameConfiguration_subscript current _ _ _).trans hsame, hlast⟩, ?_⟩
  intro command hcommand
  obtain rfl := List.mem_singleton.mp hcommand
  rw [← hsame.slotOffset_eq, ← hsame.experimentParameterStruct_eq, slotOffset,
    ← ServiceMap.subscript_fst, hserviceId]
  rfl

/-- A round of an experiment with synchronous objects: the anchor moves to the target hyperperiod,
and every client starts there and at its slot offset. -/
theorem synchronousObjectsRound_spec (objects : SynchronousObjects) (rm : NetLayerRM)
    (iterator : UInt8) (networkMode : UInt32) (currentTime : Timespec) :
    let target := rm.targetHyperperiod currentTime
    let changed := synchronousObjectsRound objects rm iterator networkMode currentTime
    SameConfiguration changed.1 rm ∧ changed.1.rmActiveTimestampLast = target ∧
    ∀ command ∈ changed.2, command.timestampStart =
      some (prepareTimestampAdd target (rm.slotOffset command.service command.mode)) := by
  intro target changed
  obtain ⟨⟨hsame, hlast⟩, hsent⟩ := reconfigureClients_spec objects target
    { rm with rmActiveTimestampLast := target } iterator networkMode
  refine ⟨hsame.trans ⟨rfl, rfl⟩, hlast, fun command hcommand ↦ ?_⟩
  rw [ControlCommand.timestampStart, hsent command hcommand]
  rfl

/-! ### Ending an experiment -/

/-- `stopping_experiment_synchronous`, up to the exit of the program. All services are addressed,
whatever the modes of their clients are. -/
def stoppingExperimentSynchronous (rm : NetLayerRM) (currentTime : Timespec) :
    List ServiceCommand :=
  let targetTimeMcBegin := rm.targetTimeClientStart currentTime
  rm.serviceList.entries.toList.map fun entry ↦
    ⟨sendSynchronousStop (prepareTimestampAdd targetTimeMcBegin 10)
      (prepareTimestampAdd targetTimeMcBegin 20) (prepareTimestampAdd targetTimeMcBegin 20)
      (rm.getClientAddress entry.2.sourceId) entry.1 10, entry.1⟩

/-- `stopping_experiment_asynchronous`. -/
def stoppingExperimentAsynchronous (rm : NetLayerRM) : List ServiceCommand :=
  rm.serviceList.entries.toList.map fun entry ↦
    ⟨sendAsynchronousStop (rm.getClientAddress entry.2.sourceId) entry.1 10, entry.1⟩

/-! ### The running resource manager -/

/-- The five experiments. -/
inductive Experiment where
  | modeChange
  | asynchonousObjectsHw
  | asynchonousObjectsSw
  | synchronousObjects (objects : SynchronousObjects)
deriving DecidableEq, Repr

/-- `experiment_selection`. -/
def experimentSelection (rm : NetLayerRM) : Option Experiment :=
  match rm.experimentParameterStruct.experimentNumber with
  | 0 => some .modeChange
  | 1 => some .asynchonousObjectsHw
  | 2 => some (.synchronousObjects .hw)
  | 3 => some .asynchonousObjectsSw
  | 4 => some (.synchronousObjects .sw)
  | 5 => some (.synchronousObjects .sw)
  | 6 => some (.synchronousObjects .sw)
  | 7 => some (.synchronousObjects .sw)
  | _ => none

/-- One round of an experiment. -/
def Experiment.round : Experiment → NetLayerRM → UInt8 → UInt32 → Timespec →
    NetLayerRM × List ServiceCommand
  | .modeChange => fun rm iterator networkMode _ ↦
    rm.experimentModeChangeRound iterator networkMode
  | .asynchonousObjectsHw => asynchonousObjectsHwRound
  | .asynchonousObjectsSw => asynchonousObjectsSwRound
  | .synchronousObjects .hw => synchronousObjectsHwRound
  | .synchronousObjects .sw => synchronousObjectsSwRound

/-- What the running resource manager reacts to: a message of a client, and the time for the next
round of its experiment. -/
inductive RmEvent where
  | message (message : RMMessage)
  | round (iterator : UInt8) (networkMode : UInt32) (currentTime : Timespec)
deriving DecidableEq, Repr

/-- The step of the resource manager while it runs an experiment. -/
def step (experiment : Experiment) (rm : NetLayerRM) :
    RmEvent → NetLayerRM × List ServiceCommand
  | .message message => (rm.handleMessage message, [])
  | .round iterator networkMode currentTime => experiment.round rm iterator networkMode currentTime

theorem step_round (objects : SynchronousObjects) (rm : NetLayerRM) (iterator : UInt8)
    (networkMode : UInt32) (currentTime : Timespec) :
    step (.synchronousObjects objects) rm (.round iterator networkMode currentTime) =
      synchronousObjectsRound objects rm iterator networkMode currentTime := by
  cases objects <;> rfl

end NetLayerRM

end Tanos
