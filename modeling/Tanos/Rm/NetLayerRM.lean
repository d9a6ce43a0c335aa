import Tanos.Library.Runs
import Tanos.RmCommunication
import Tanos.Rm.Timestamps
import Tanos.Utils.ConfigReader

/-!
# The resource manager

`NetLayerRM` is the state of the resource manager: its configuration, the services that have asked
to be managed and the anchor of the schedule, `rmActiveTimestampLast`. What the source reads from
the clock is an argument here, and what it sends is a list of `ServiceCommand`s.

Every function that addresses clients walks the service list in the order of the service ids and
skips the services whose client has no entry for the network mode. `addressClient` is one turn of
that loop and `addressClients` the whole loop, a run in the sense of `Library.Runs` whose events are
the entries of the service list. `addressClients_invariant` is its rule: what the body of the loop
keeps and promises, the loop keeps and promises.

The five experiments differ in what they compute before that loop and in its body. The two
experiments with synchronous objects differ in the type of their messages only, and share
`synchronousObjectsRound`.
-/

set_option autoImplicit false
set_option relaxedAutoImplicit false

namespace Tanos

open Library

/-! ### State -/

/-- `service_list`. Every message is kept under its own service id. -/
structure ServiceList where
  entries : StdMap UInt64 RMMessage
  serviceId_eq : ∀ (serviceId : UInt64) (message : RMMessage),
    entries[serviceId]? = some message → message.serviceId = serviceId

namespace ServiceList

/-- The list before any client has asked for a service. -/
def empty : ServiceList := ⟨∅, by simp⟩

/-- `service_list.insert(std::make_pair(message.service_id, message))`, for an id that is not in the
list yet. -/
def insert (list : ServiceList) (message : RMMessage) : ServiceList where
  entries := list.entries.insert message.serviceId message
  serviceId_eq := by
    intro serviceId other hother
    rw [StdMap.getElem?_insert] at hother
    split_ifs at hother with heq
    · rw [← Option.some.inj hother, heq]
    · exact list.serviceId_eq serviceId other hother

/-- The loop over the list sees every message under its own service id. -/
theorem serviceId_eq_of_mem {list : ServiceList} {entry : UInt64 × RMMessage}
    (hentry : entry ∈ list.entries.toList) : entry.2.serviceId = entry.1 :=
  list.serviceId_eq entry.1 entry.2 (Std.ExtTreeMap.mem_toList_iff_getElem?_eq_some.mp hentry)

end ServiceList

/-- `class NetLayerRM`. The constructor takes the hyperperiod from the experiment parameters. -/
structure NetLayerRM where
  experimentParameterStruct : ExperimentParameter
  hyperperiodDuration : ℕ
  hyperperiodDuration_eq : hyperperiodDuration = experimentParameterStruct.hyperperiodDuration
  serviceList : ServiceList
  rmClientConfigMap : StdMap UInt32 UnitSettings
  rmClientServiceMap : ServiceMap
  rmActiveTimestampLast : Timespec

namespace NetLayerRM

/-- The constructor, which leaves the anchor of the schedule uninitialised. -/
def new (experimentParameter : ExperimentParameter)
    (endnodeConfigurationMap : StdMap UInt32 UnitSettings) (serviceConfigurationMap : ServiceMap)
    (uninitialised : Timespec) : NetLayerRM where
  experimentParameterStruct := experimentParameter
  hyperperiodDuration := experimentParameter.hyperperiodDuration
  hyperperiodDuration_eq := rfl
  serviceList := ServiceList.empty
  rmClientConfigMap := endnodeConfigurationMap
  rmClientServiceMap := serviceConfigurationMap
  rmActiveTimestampLast := uninitialised

/-! ### Registration -/

/-- `handle_sync_messages`. The message is decoded once more, from an empty buffer. -/
def handleSyncMessages (rm : NetLayerRM) (message : RMMessage) : NetLayerRM :=
  let message := (message.networkToRm MessageNet.new).1
  match rm.serviceList.entries[message.serviceId]? with
  | some _ => rm
  | none => { rm with serviceList := rm.serviceList.insert message }

/-- `handle_message`, which decodes the message it has dequeued from an empty buffer too. Messages
other than requests only leave a line in the log. -/
def handleMessage (rm : NetLayerRM) (dequeuedMessage : RMMessage) : NetLayerRM :=
  let message := (dequeuedMessage.networkToRm MessageNet.new).1
  match MessageTypes.ofCode message.messageType with
  | some .rmClientSyncRequest => rm.handleSyncMessages message
  | _ => rm

/-- Handling a message changes the service list at most. -/
theorem handleMessage_eq (rm : NetLayerRM) (message : RMMessage) :
    rm.handleMessage message =
      { rm with serviceList := (rm.handleMessage message).serviceList } := by
  simp only [handleMessage, handleSyncMessages]
  split
  · split <;> rfl
  · rfl

/-! ### Sending -/

/-- `get_client_address`, with the text of the address, which has still to be read. -/
def getClientAddress (rm : NetLayerRM) (endnodeId : UInt32) : Option UdpEndpoint :=
  match rm.rmClientConfigMap[endnodeId]? with
  | some unit => unit.rmControlLocalIp.head?.map fun ip ↦ ⟨ip, unit.rmControlLocalPort.toUInt16⟩
  | none => some ⟨"127.0.0.1", 25525⟩

/-- `send_synchronous_start`. -/
def sendSynchronousStart (targetTime : Timespec) (targetAddress : Option UdpEndpoint)
    (serviceId : UInt64) (networkMode : UInt32) : ControlCommand :=
  RMCommunication.sendStartSync targetAddress rmId networkMode serviceId
    (some ⟨.syncTimestampStart, ⟨0, 0⟩, ⟨0, 0⟩, targetTime⟩)

/-- `send_time_triggered_synchronous_reconfigure_type`. The service id goes to the destination of
the message, and the number of the mode change to its service id. -/
def sendTimeTriggeredSynchronousReconfigureType (stopTime recofigTime startTime : Timespec)
    (targetAddress : Option UdpEndpoint) (serviceId : UInt64) (networkMode : UInt32)
    (messageType : MessageTypes) (mcIterator : UInt32) : ControlCommand :=
  RMCommunication.sendSyncReconfigType targetAddress rmId serviceId.toUInt32 mcIterator.toUInt64
    networkMode messageType (some ⟨.syncTimestampReconfgure, stopTime, recofigTime, startTime⟩)

/-- `send_asynchronous_reconfigure`, with the same order of arguments. -/
def sendAsynchronousReconfigure (targetAddress : Option UdpEndpoint) (serviceId : UInt64)
    (networkMode mcIterator : UInt32) : ControlCommand :=
  RMCommunication.sendReconfig targetAddress rmId serviceId.toUInt32 mcIterator.toUInt64
    networkMode none

/-- `send_synchronous_stop`. -/
def sendSynchronousStop (stopTime recofigTime startTime : Timespec)
    (targetAddress : Option UdpEndpoint) (serviceId : UInt64) (networkMode : UInt32) :
    ControlCommand :=
  RMCommunication.sendSyncStopExit targetAddress rmId serviceId networkMode
    (some ⟨.syncTimestampReconfgure, stopTime, recofigTime, startTime⟩)

/-- `send_asynchronous_stop`. -/
def sendAsynchronousStop (targetAddress : Option UdpEndpoint) (serviceId : UInt64)
    (networkMode : UInt32) : ControlCommand :=
  RMCommunication.sendStopExit targetAddress rmId serviceId networkMode none

/-! ### The loop over the clients -/

/-- The body of a loop over the clients: what is done for the service with an id, the message it was
requested with and the mode of its client. -/
abbrev ClientBody : Type :=
  NetLayerRM → UInt64 → RMMessage → UInt32 → NetLayerRM × List ControlCommand

/-- One turn of the loop, which looks up the mode of the client in the network mode. -/
def addressClient (modes : ModeMap) (networkMode : UInt32) (body : ClientBody) (rm : NetLayerRM)
    (entry : UInt64 × RMMessage) : NetLayerRM × List ServiceCommand :=
  match modes[networkMode]? with
  | none => (rm, [])
  | some clientModes =>
    match clientModes[entry.2.sourceId]? with
    | none => (rm, [])
    | some mode =>
      let addressed := body rm entry.1 entry.2 mode
      (addressed.1, addressed.2.map fun command ↦ ⟨command, entry.1⟩)

/-- The loop over the clients. -/
def addressClients (modes : ModeMap) (networkMode : UInt32) (body : ClientBody) (rm : NetLayerRM) :
    NetLayerRM × List ServiceCommand :=
  (Runs.finalState (addressClient modes networkMode body) rm rm.serviceList.entries.toList,
    Runs.outputs (addressClient modes networkMode body) rm rm.serviceList.entries.toList)

/-- Assumes: the body keeps an invariant, and whatever it sends has a property, when it is run for a
message under its own service id. The loop keeps the invariant, and whatever it sends has the
property. -/
theorem addressClients_invariant {modes : ModeMap} {networkMode : UInt32} {body : ClientBody}
    (invariant : NetLayerRM → Prop) {good : ServiceCommand → Prop}
    (hbody : ∀ rm serviceId message mode, message.serviceId = serviceId → invariant rm →
      invariant (body rm serviceId message mode).1 ∧
        ∀ command ∈ (body rm serviceId message mode).2, good ⟨command, serviceId⟩)
    {rm : NetLayerRM} (hrm : invariant rm) :
    invariant (addressClients modes networkMode body rm).1 ∧
      ∀ command ∈ (addressClients modes networkMode body rm).2, good command := by
  have hturn : ∀ current, ∀ entry ∈ rm.serviceList.entries.toList, invariant current →
      invariant (addressClient modes networkMode body current entry).1 ∧
        ∀ command ∈ (addressClient modes networkMode body current entry).2, good command := by
    intro current entry hentry hcurrent
    unfold addressClient
    cases modes[networkMode]? with
    | none => exact ⟨hcurrent, by simp⟩
    | some clientModes =>
      simp only
      cases clientModes[entry.2.sourceId]? with
      | none => exact ⟨hcurrent, by simp⟩
      | some mode =>
        obtain ⟨hkept, hgood⟩ := hbody current entry.1 entry.2 mode
          (ServiceList.serviceId_eq_of_mem hentry) hcurrent
        refine ⟨hkept, fun command hcommand ↦ ?_⟩
        obtain ⟨sent, hsent, rfl⟩ := List.mem_map.mp hcommand
        exact hgood sent hsent
  constructor
  · exact Runs.finalState_of_step
      (fun current entry hentry h ↦ (hturn current entry hentry h).1) hrm
  · exact Runs.forall_mem_outputs_of_invariant
      (fun current entry hentry h ↦ (hturn current entry hentry h).1)
      (fun current entry hentry h ↦ (hturn current entry hentry h).2) hrm

end NetLayerRM

end Tanos
