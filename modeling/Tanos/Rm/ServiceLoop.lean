import Tanos.Library.OrderedTraversal
import Tanos.Rm.Dispatch
import Tanos.Rm.ExperimentLoop

/-!
# The loops over the services, turn by turn

The functions of the resource manager that address its clients walk the service list with an
iterator, while the thread that handles messages inserts into the same list. `ServiceLoop` is such a
loop with what its function has computed before it, and `turn` what it does for one service. The
list is in order, so that its iterator is a cursor of `Library.OrderedTraversal`.

A loop that nothing interferes with makes the turns for the entries of the service list, and is what
the functions of the resource manager are in one piece (`turns_beginStart`, `turns_beginRound`,
`turns_beginStop`). What one turn can do is said once, in `turn_spec`.
-/

set_option autoImplicit false
set_option relaxedAutoImplicit false

namespace Tanos

open Library

namespace ServiceList

/-- `service_list.begin()`. -/
def begin (list : ServiceList) : Option UInt64 := OrderedTraversal.first list.entries.toList

/-- `++list_iterator`, from the entry with a key. -/
def next (list : ServiceList) (serviceId : UInt64) : Option UInt64 :=
  OrderedTraversal.after list.entries.toList serviceId

/-- The registered services. -/
def services (list : ServiceList) : Set UInt64 := OrderedTraversal.keys list.entries.toList

/-- The entries are in the order of the service ids. -/
theorem ordered (list : ServiceList) :
    list.entries.toList.Pairwise fun first second ↦ first.1 < second.1 :=
  Std.ExtTreeMap.ordered_keys_toList.imp fun h ↦ Std.compare_eq_lt.mp h

theorem mem_services_iff {list : ServiceList} {serviceId : UInt64} :
    serviceId ∈ list.services ↔ ∃ message, list.entries[serviceId]? = some message :=
  exists_congr fun _ ↦ Std.ExtTreeMap.mem_toList_iff_getElem?_eq_some

end ServiceList

namespace NetLayerRM

/-- The loops over the services. -/
inductive ServiceLoop where
  | startSynchronous (targetTimeClientStart : Timespec)
  | startAsynchronous
  | modeChange (iterator : UInt8) (networkMode : UInt32)
  | asynchonousObjectsHw (targetMcBegin : Timespec) (iterator : UInt8) (networkMode : UInt32)
  | asynchonousObjectsSw (targetMcBegin : Timespec) (iterator : UInt8) (networkMode : UInt32)
  | synchronousObjects (objects : SynchronousObjects) (targetHyperperiod : Timespec)
    (iterator : UInt8) (networkMode : UInt32)
  | stopSynchronous (targetTimeMcBegin : Timespec)
  | stopAsynchronous
deriving DecidableEq, Repr

/-! ### What is computed before a loop -/

/-- `initial_start_handler`, up to its loop. -/
def beginStart (rm : NetLayerRM) (currentTime : Timespec) : NetLayerRM × ServiceLoop :=
  if rm.experimentParameterStruct.synchronousStartMode then
    let targetTime := rm.targetTimeClientStart currentTime
    ({ rm with rmActiveTimestampLast := targetTime }, .startSynchronous targetTime)
  else (rm, .startAsynchronous)

/-- A round of an experiment, up to its loop. -/
def Experiment.beginRound (experiment : Experiment) (rm : NetLayerRM) (iterator : UInt8)
    (networkMode : UInt32) (currentTime : Timespec) : NetLayerRM × ServiceLoop :=
  match experiment with
  | .modeChange => (rm, .modeChange iterator networkMode)
  | .asynchonousObjectsHw =>
    (rm, .asynchonousObjectsHw (rm.targetMcBegin currentTime) iterator networkMode)
  | .asynchonousObjectsSw =>
    (rm, .asynchonousObjectsSw (rm.targetMcBegin currentTime) iterator networkMode)
  | .synchronousObjects objects =>
    let target := rm.targetHyperperiod currentTime
    ({ rm with rmActiveTimestampLast := target },
      .synchronousObjects objects target iterator networkMode)

/-- The end of an experiment, up to its loop. -/
def StoppingTimer.beginStop (timer : StoppingTimer) (rm : NetLayerRM) (currentTime : Timespec) :
    ServiceLoop :=
  match timer with
  | .stoppingExperimentSynchronous => .stopSynchronous (rm.targetTimeClientStart currentTime)
  | .stoppingExperimentAsynchronous => .stopAsynchronous

namespace ServiceLoop

/-! ### One turn -/

/-- The map and the network mode in which the mode of a client is looked up. The loops that end an
experiment look nothing up. -/
def modes (loop : ServiceLoop) (parameters : ExperimentParameter) : Option (ModeMap × UInt32) :=
  match loop with
  | startSynchronous _ | startAsynchronous =>
    some (parameters.startupModeMap, parameters.startupMode)
  | modeChange _ networkMode | asynchonousObjectsHw _ _ networkMode
  | asynchonousObjectsSw _ _ networkMode | synchronousObjects _ _ _ networkMode =>
    some (parameters.reconfigurationMap, networkMode)
  | stopSynchronous _ | stopAsynchronous => none

/-- What is done for a service whose client has a mode. -/
def body (loop : ServiceLoop) : ClientBody :=
  match loop with
  | startSynchronous target => startClientSynchronous target
  | startAsynchronous => fun rm serviceId message mode ↦
    (rm, [RMCommunication.sendStart (rm.getClientAddress message.sourceId) rmId mode serviceId
      none])
  | modeChange iterator _ => fun rm serviceId message mode ↦
    (rm, [sendAsynchronousReconfigure (rm.getClientAddress message.sourceId) serviceId mode
      iterator.toUInt32])
  | asynchonousObjectsHw begin iterator _ => fun rm ↦
    let parameters := rm.experimentParameterStruct
    reconfigureClientAsynchronous begin
      (prepareTimestampAdd begin parameters.mcClientReconfigOffset)
      (prepareTimestampAdd begin
        (parameters.mcClientStartOffset + parameters.mcClientReconfigOffset))
      .rmClientSyncTimestampReconfigureHw iterator rm
  | asynchonousObjectsSw begin iterator _ => fun rm ↦
    reconfigureClientAsynchronous ⟨0, 0⟩
      (prepareTimestampAdd begin rm.experimentParameterStruct.mcClientReconfigOffset) ⟨0, 0⟩
      .rmClientSyncTimestampReconfigureSw iterator rm
  | synchronousObjects objects target iterator _ =>
    reconfigureClientSynchronous objects target iterator
  | stopSynchronous begin => fun rm serviceId message networkMode ↦
    (rm, [sendSynchronousStop (prepareTimestampAdd begin 10) (prepareTimestampAdd begin 20)
      (prepareTimestampAdd begin 20) (rm.getClientAddress message.sourceId) serviceId networkMode])
  | stopAsynchronous => fun rm serviceId message networkMode ↦
    (rm, [sendAsynchronousStop (rm.getClientAddress message.sourceId) serviceId networkMode])

/-- One turn of a loop, for an entry of the service list. The loops that end an experiment address
every service, with network mode 10. -/
def turn (loop : ServiceLoop) (rm : NetLayerRM) (entry : UInt64 × RMMessage) :
    NetLayerRM × List ServiceCommand :=
  match loop.modes rm.experimentParameterStruct with
  | some (modes, networkMode) => addressClient modes networkMode loop.body rm entry
  | none =>
    let addressed := loop.body rm entry.1 entry.2 10
    (addressed.1, addressed.2.map fun command ↦ ⟨command, entry.1⟩)

/-- The turns of a loop for the whole service list, with nothing in between. -/
def turns (loop : ServiceLoop) (rm : NetLayerRM) : NetLayerRM × List ServiceCommand :=
  (Runs.finalState loop.turn rm rm.serviceList.entries.toList,
    Runs.outputs loop.turn rm rm.serviceList.entries.toList)

/-- The mode a client is addressed with. -/
def modeFor (loop : ServiceLoop) (parameters : ExperimentParameter) (client : UInt32) :
    Option UInt32 :=
  match loop.modes parameters with
  | some (modes, networkMode) => clientMode modes networkMode client
  | none => some 10

end ServiceLoop

/-- The resource managers know the same services and clients, and make the same experiment. -/
structure SameClients (first second : NetLayerRM) : Prop where
  serviceList_eq : first.serviceList = second.serviceList
  experimentParameterStruct_eq :
    first.experimentParameterStruct = second.experimentParameterStruct
  rmClientConfigMap_eq : first.rmClientConfigMap = second.rmClientConfigMap

namespace SameClients

variable {first second third : NetLayerRM}

theorem refl (rm : NetLayerRM) : SameClients rm rm := ⟨rfl, rfl, rfl⟩

/-- The anchor of the schedule does not matter. -/
theorem of_anchor (rm : NetLayerRM) (anchor : Timespec) :
    SameClients { rm with rmActiveTimestampLast := anchor } rm := ⟨rfl, rfl, rfl⟩

theorem trans (h : SameClients first second) (h' : SameClients second third) :
    SameClients first third :=
  ⟨h.serviceList_eq.trans h'.serviceList_eq,
    h.experimentParameterStruct_eq.trans h'.experimentParameterStruct_eq,
    h.rmClientConfigMap_eq.trans h'.rmClientConfigMap_eq⟩

theorem getClientAddress_eq (h : SameClients first second) (client : UInt32) :
    first.getClientAddress client = second.getClientAddress client := by
  rw [getClientAddress, h.rmClientConfigMap_eq, getClientAddress]

end SameClients

namespace ServiceLoop

/-- The type of the messages a loop sends. -/
def messageType : ServiceLoop → MessageTypes
  | startSynchronous _ => .rmClientSyncTimestampStart
  | startAsynchronous => .rmClientStart
  | modeChange _ _ => .rmClientReconfigureHw
  | asynchonousObjectsHw _ _ _ => .rmClientSyncTimestampReconfigureHw
  | asynchonousObjectsSw _ _ _ => .rmClientSyncTimestampReconfigureSw
  | synchronousObjects objects _ _ _ => objects.messageType
  | stopSynchronous _ => .rmClientSyncTimestampExit
  | stopAsynchronous => .rmClientExit

/-- The call a loop makes for an entry of the service list and the mode of its client. -/
structure Call (loop : ServiceLoop) (rm : NetLayerRM) (entry : UInt64 × RMMessage) (mode : UInt32)
    (command : ServiceCommand) : Prop where
  service_eq : command.service = entry.1
  messageType_eq : command.messageType = loop.messageType
  mode_eq : command.mode = mode
  targetAddress_eq : command.targetAddress = rm.getClientAddress entry.2.sourceId

variable (loop : ServiceLoop) {rm : NetLayerRM} {entry : UInt64 × RMMessage}

/-- The body of a loop makes one call, to the address of its client and with the mode it is
given. -/
theorem body_spec (rm : NetLayerRM) (entry : UInt64 × RMMessage) (mode : UInt32) :
    SameClients (loop.body rm entry.1 entry.2 mode).1 rm ∧
      ∃ command, (loop.body rm entry.1 entry.2 mode).2 = [command] ∧
        loop.Call rm entry mode ⟨command, entry.1⟩ := by
  cases loop <;> exact ⟨⟨rfl, rfl, rfl⟩, _, rfl, rfl, rfl, rfl, rfl⟩

theorem turn_of_modeFor_none
    (hmode : loop.modeFor rm.experimentParameterStruct entry.2.sourceId = none) :
    loop.turn rm entry = (rm, []) := by
  rw [modeFor] at hmode
  rw [turn]
  cases hmodes : loop.modes rm.experimentParameterStruct with
  | none =>
    rw [hmodes] at hmode
    exact absurd hmode (Option.some_ne_none _)
  | some networkModes =>
    rw [hmodes] at hmode
    have hnone : clientMode networkModes.1 networkModes.2 entry.2.sourceId = none := hmode
    have hclient : addressedClient networkModes.1 networkModes.2 entry = none := by
      rw [addressedClient, hnone, Option.map_none]
    simp only [addressClient_eq, hclient]

theorem turn_of_modeFor_some {mode : UInt32}
    (hmode : loop.modeFor rm.experimentParameterStruct entry.2.sourceId = some mode) :
    loop.turn rm entry = ((loop.body rm entry.1 entry.2 mode).1,
      (loop.body rm entry.1 entry.2 mode).2.map fun command ↦ ⟨command, entry.1⟩) := by
  rw [modeFor] at hmode
  rw [turn]
  cases hmodes : loop.modes rm.experimentParameterStruct with
  | none =>
    rw [hmodes] at hmode
    rw [← Option.some.inj hmode]
  | some networkModes =>
    rw [hmodes] at hmode
    have hsome : clientMode networkModes.1 networkModes.2 entry.2.sourceId = some mode := hmode
    have hclient : addressedClient networkModes.1 networkModes.2 entry =
        some ⟨entry.1, entry.2, mode⟩ := by
      rw [addressedClient, hsome, Option.map_some]
    simp only [addressClient_eq, hclient]

/-- A turn makes one call if the client of its entry has a mode, and none otherwise. -/
theorem turn_spec (rm : NetLayerRM) (entry : UInt64 × RMMessage) :
    SameClients (loop.turn rm entry).1 rm ∧
      List.Forall₂ (loop.Call rm entry)
        (loop.modeFor rm.experimentParameterStruct entry.2.sourceId).toList
        (loop.turn rm entry).2 := by
  cases hmode : loop.modeFor rm.experimentParameterStruct entry.2.sourceId with
  | none =>
    rw [turn_of_modeFor_none loop hmode]
    exact ⟨SameClients.refl rm, List.Forall₂.nil⟩
  | some mode =>
    obtain ⟨hsame, command, hcommand, hcall⟩ := loop.body_spec rm entry mode
    rw [turn_of_modeFor_some loop hmode, hcommand]
    exact ⟨hsame, List.Forall₂.cons hcall List.Forall₂.nil⟩

end ServiceLoop

/-! ### Loops in one piece -/

section

variable {modes : ModeMap} {networkMode : UInt32} {loop : ServiceLoop} {first : NetLayerRM}

/-- Assumes: the clients' modes are looked up in the map and the network mode, and the bodies are
the same as long as the clients and the experiment are. The turns are those of the loop over the
clients. -/
theorem turns_eq_addressClients (rm : NetLayerRM) {body : ClientBody}
    (hmodes : loop.modes rm.experimentParameterStruct = some (modes, networkMode))
    (hbody : ∀ current, SameClients current rm → loop.body current = body current)
    (hfirst : SameClients first rm) :
    loop.turns first = addressClients modes networkMode body first := by
  have hkeep : ∀ current, ∀ entry ∈ first.serviceList.entries.toList, SameClients current rm →
      SameClients (loop.turn current entry).1 rm := fun current entry _ hcurrent ↦
    (loop.turn_spec current entry).1.trans hcurrent
  have hturn : ∀ current, ∀ entry ∈ first.serviceList.entries.toList, SameClients current rm →
      loop.turn current entry = addressClient modes networkMode body current entry := by
    intro current entry _ hcurrent
    rw [ServiceLoop.turn, hcurrent.experimentParameterStruct_eq, hmodes]
    show addressClient modes networkMode loop.body current entry = _
    rw [addressClient_eq, addressClient_eq, hbody current hcurrent]
  obtain ⟨hfinal, houtputs⟩ := Runs.run_congr hkeep hturn hfirst
  rw [ServiceLoop.turns, hfinal, houtputs, addressClients]

/-- The start of the traffic, turn by turn. -/
theorem turns_beginStart (rm : NetLayerRM) (currentTime : Timespec) :
    (rm.beginStart currentTime).2.turns (rm.beginStart currentTime).1 =
      rm.initialStartHandler currentTime := by
  unfold beginStart initialStartHandler
  split_ifs
  · exact turns_eq_addressClients rm rfl (fun _ _ ↦ rfl) (.of_anchor rm _)
  · exact turns_eq_addressClients rm rfl (fun _ _ ↦ rfl) (SameClients.refl rm)

/-- A round of an experiment, turn by turn. -/
theorem turns_beginRound (experiment : Experiment) (rm : NetLayerRM) (iterator : UInt8)
    (networkMode : UInt32) (currentTime : Timespec) :
    (experiment.beginRound rm iterator networkMode currentTime).2.turns
        (experiment.beginRound rm iterator networkMode currentTime).1 =
      experiment.round rm iterator networkMode currentTime := by
  cases experiment with
  | modeChange =>
    exact turns_eq_addressClients rm rfl (fun _ _ ↦ rfl) (SameClients.refl rm)
  | asynchonousObjectsHw =>
    refine turns_eq_addressClients rm rfl (fun current hcurrent ↦ ?_) (SameClients.refl rm)
    simp only [Experiment.beginRound, ServiceLoop.body, hcurrent.experimentParameterStruct_eq]
  | asynchonousObjectsSw =>
    refine turns_eq_addressClients rm rfl (fun current hcurrent ↦ ?_) (SameClients.refl rm)
    simp only [Experiment.beginRound, ServiceLoop.body, hcurrent.experimentParameterStruct_eq]
  | synchronousObjects objects =>
    rw [← step, step_round]
    exact turns_eq_addressClients rm rfl (fun _ _ ↦ rfl) (.of_anchor rm _)

/-- Assumes: every turn of a loop makes one call and changes nothing. -/
theorem turns_eq_map {rm : NetLayerRM} {call : UInt64 × RMMessage → ServiceCommand}
    (hturn : ∀ entry, loop.turn rm entry = (rm, [call entry])) :
    loop.turns rm = (rm, rm.serviceList.entries.toList.map call) := by
  rw [ServiceLoop.turns]
  generalize rm.serviceList.entries.toList = entries
  induction entries with
  | nil => rfl
  | cons entry rest ih =>
    obtain ⟨hfinal, houtputs⟩ := Prod.mk.inj ih
    rw [Runs.finalState_cons, Runs.outputs_cons, hturn, hfinal, houtputs]
    rfl

/-- The end of an experiment, turn by turn. -/
theorem turns_beginStop (rm : NetLayerRM) (currentTime : Timespec) :
    (StoppingTimer.stoppingExperimentSynchronous.beginStop rm currentTime).turns rm =
        (rm, rm.stoppingExperimentSynchronous currentTime) ∧
      (StoppingTimer.stoppingExperimentAsynchronous.beginStop rm currentTime).turns rm =
        (rm, rm.stoppingExperimentAsynchronous) :=
  ⟨turns_eq_map fun _ ↦ rfl, turns_eq_map fun _ ↦ rfl⟩

end

end NetLayerRM

end Tanos
