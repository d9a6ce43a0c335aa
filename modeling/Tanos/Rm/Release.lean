import Tanos.Rm.Dispatch

/-!
# Services that are given back

A client that ends releases its service with `RM_CLIENT_RELEASE`. The handler of the resource
manager knows requests only, and nothing ever takes an entry out of the service list
(`getElem?_handleMessages`). The resource manager therefore goes on making calls for a service that
has been released: `not_forgotten_of_releases` shows the entry and the calls that end an experiment,
for every registered service, every release of it and whatever is handled afterwards.
-/

set_option autoImplicit false
set_option relaxedAutoImplicit false

namespace Tanos

open Library

namespace NetLayerRM

/-- The handler thread, for the messages it takes out of its queue one after the other. -/
def handleMessages (rm : NetLayerRM) (messages : List RMMessage) : NetLayerRM :=
  messages.foldl handleMessage rm

/-- The calls the resource manager can make: to start the traffic, to change modes and to end an
experiment. -/
inductive MaySend (rm : NetLayerRM) (command : ServiceCommand) : Prop where
  | startSynchronous (currentTime : Timespec)
    (h : command ∈ (rm.startNetworkTrafficSynchronous currentTime).2)
  | startAsynchronous (h : command ∈ rm.startNetworkTrafficAsynchronous.2)
  | round (experiment : Experiment) (iterator : UInt8) (networkMode : UInt32)
    (currentTime : Timespec)
    (h : command ∈ (experiment.round rm iterator networkMode currentTime).2)
  | stopSynchronous (currentTime : Timespec)
    (h : command ∈ rm.stoppingExperimentSynchronous currentTime)
  | stopAsynchronous (h : command ∈ rm.stoppingExperimentAsynchronous)

/-- The resource manager has no entry for the service and makes no call for it. -/
structure Forgotten (rm : NetLayerRM) (service : UInt64) : Prop where
  entry_eq : rm.serviceList.entries[service]? = none
  service_ne : ∀ command, rm.MaySend command → command.service ≠ service

/-- The message releases the service of the client. -/
structure IsRelease (message : RMMessage) (service : UInt64) (client : UInt32) : Prop where
  messageType_eq : message.messageType = MessageTypes.rmClientRelease.code
  serviceId_eq : message.serviceId = service
  sourceId_eq : message.sourceId = client

/-- The message asks for the service. -/
def IsRequest (message : RMMessage) (service : UInt64) : Prop :=
  message.messageType = MessageTypes.rmClientSyncRequest.code ∧ message.serviceId = service

/-- Among the messages is a release of the service by the client that has registered it, and no
request of the service after it. -/
def Releases (rm : NetLayerRM) (messages : List RMMessage) (service : UInt64) : Prop :=
  ∃ past release future entry, messages = past ++ release :: future ∧
    (rm.handleMessages past).serviceList.entries[service]? = some entry ∧
    IsRelease release service entry.sourceId ∧ ∀ message ∈ future, ¬ IsRequest message service

/-! ### Calls are for registered services -/

/-- A loop over the clients only makes calls for registered services. -/
theorem exists_entry_of_addressClients (rm : NetLayerRM) {modes : ModeMap} {networkMode : UInt32}
    {body : ClientBody} :
    ∀ command ∈ (addressClients modes networkMode body rm).2,
      ∃ message, rm.serviceList.entries[command.service]? = some message := by
  refine Runs.forall_mem_outputs_of_invariant (fun _ _ _ (h : True) ↦ h) ?_ trivial
  intro current entry hentry _ command hcommand
  rw [addressClient_eq] at hcommand
  cases hclient : addressedClient modes networkMode entry with
  | none =>
    rw [hclient] at hcommand
    exact absurd hcommand List.not_mem_nil
  | some client =>
    rw [hclient] at hcommand
    obtain ⟨sent, -, rfl⟩ := List.mem_map.mp hcommand
    exact ⟨entry.2, Std.ExtTreeMap.mem_toList_iff_getElem?_eq_some.mp hentry⟩

/-- A round of an experiment is a loop over the clients. -/
theorem exists_addressClients_round (experiment : Experiment) (rm : NetLayerRM) (iterator : UInt8)
    (networkMode : UInt32) (currentTime : Timespec) :
    ∃ body first, first.serviceList = rm.serviceList ∧
      experiment.round rm iterator networkMode currentTime =
        addressClients rm.experimentParameterStruct.reconfigurationMap networkMode body first := by
  cases experiment with
  | modeChange => exact ⟨_, rm, rfl, rfl⟩
  | asynchonousObjectsHw => exact ⟨_, rm, rfl, rfl⟩
  | asynchonousObjectsSw => exact ⟨_, rm, rfl, rfl⟩
  | synchronousObjects objects =>
    rw [← step, step_round]
    exact ⟨_, { rm with rmActiveTimestampLast := rm.targetHyperperiod currentTime }, rfl, rfl⟩

theorem exists_entry_of_maySend {rm : NetLayerRM} {command : ServiceCommand}
    (h : rm.MaySend command) :
    ∃ message, rm.serviceList.entries[command.service]? = some message := by
  cases h with
  | startSynchronous currentTime h =>
    exact exists_entry_of_addressClients
      { rm with rmActiveTimestampLast := rm.targetTimeClientStart currentTime } command h
  | startAsynchronous h => exact exists_entry_of_addressClients rm command h
  | round experiment iterator networkMode currentTime h =>
    obtain ⟨body, first, hlist, hround⟩ :=
      exists_addressClients_round experiment rm iterator networkMode currentTime
    rw [hround] at h
    rw [← hlist]
    exact exists_entry_of_addressClients first command h
  | stopSynchronous currentTime h =>
    obtain ⟨entry, hentry, rfl⟩ := List.mem_map.mp h
    exact ⟨entry.2, Std.ExtTreeMap.mem_toList_iff_getElem?_eq_some.mp hentry⟩
  | stopAsynchronous h =>
    obtain ⟨entry, hentry, rfl⟩ := List.mem_map.mp h
    exact ⟨entry.2, Std.ExtTreeMap.mem_toList_iff_getElem?_eq_some.mp hentry⟩

/-- A service without an entry is forgotten: no call is made for it either. -/
theorem forgotten_of_getElem? {rm : NetLayerRM} {service : UInt64}
    (h : rm.serviceList.entries[service]? = none) : rm.Forgotten service := by
  refine ⟨h, fun command hcommand heq ↦ ?_⟩
  obtain ⟨message, hmessage⟩ := exists_entry_of_maySend hcommand
  rw [heq] at hmessage
  exact absurd (hmessage.symm.trans h) (Option.some_ne_none message)

/-! ### Entries stay -/

variable {rm : NetLayerRM} {service : UInt64} {entry : RMMessage}

/-- Whatever message is handled, an entry stays as it is. -/
theorem getElem?_handleMessage_of_some (h : rm.serviceList.entries[service]? = some entry)
    (message : RMMessage) :
    (rm.handleMessage message).serviceList.entries[service]? = some entry := by
  simp only [handleMessage, handleSyncMessages]
  split
  · split
    · exact h
    · next hnew =>
      simp only [ServiceList.insert]
      rw [StdMap.getElem?_insert]
      split_ifs with heq
      · rw [heq, h] at hnew
        exact absurd hnew (Option.some_ne_none entry)
      · exact h
  · exact h

theorem getElem?_handleMessages (h : rm.serviceList.entries[service]? = some entry)
    (messages : List RMMessage) :
    (rm.handleMessages messages).serviceList.entries[service]? = some entry := by
  induction messages generalizing rm with
  | nil => exact h
  | cons message rest ih => exact ih (getElem?_handleMessage_of_some h message)

/-- A registered service gets the calls that end an experiment. -/
theorem exists_mem_stoppingExperiment (h : rm.serviceList.entries[service]? = some entry) :
    (∃ command ∈ rm.stoppingExperimentAsynchronous, command.service = service) ∧
      ∀ currentTime, ∃ command ∈ rm.stoppingExperimentSynchronous currentTime,
        command.service = service := by
  have hentry : (service, entry) ∈ rm.serviceList.entries.toList :=
    Std.ExtTreeMap.mem_toList_iff_getElem?_eq_some.mpr h
  exact ⟨⟨_, List.mem_map_of_mem hentry, rfl⟩, fun _ ↦ ⟨_, List.mem_map_of_mem hentry, rfl⟩⟩

/-! ### Releases -/

/-- What the resource manager dequeues of the message with which a client releases its service. -/
theorem isRelease_dequeued (old : RMMessage) (sourceId : UInt32) (serviceId : UInt64) (now : ℤ) :
    ∃ dequeued, RMCommunication.receiveControlMessage old (RMCommunication.sendoutControlMessage
        (RMCommunication.sendRelease sourceId serviceId now)) = some dequeued ∧
      IsRelease dequeued serviceId sourceId := by
  refine ⟨_, RMCommunication.receiveControlMessage_sendoutControlMessage old ?_ ?_, rfl, rfl, rfl⟩
  · rfl
  · exact Nat.zero_le _

/-- Assumes: a registered service is released by its client, and not requested again. Whatever else
is handled, the service is not forgotten: its entry stays, and it gets the calls that end an
experiment. -/
theorem not_forgotten_of_releases {messages : List RMMessage} (h : rm.Releases messages service) :
    let after := rm.handleMessages messages
    ¬ after.Forgotten service ∧
      (∃ command ∈ after.stoppingExperimentAsynchronous, command.service = service) ∧
      ∀ currentTime, ∃ command ∈ after.stoppingExperimentSynchronous currentTime,
        command.service = service := by
  intro after
  obtain ⟨past, release, future, entry, hmessages, hregistered, -, -⟩ := h
  have hentry : after.serviceList.entries[service]? = some entry := by
    have hafter : after = (rm.handleMessages past).handleMessages (release :: future) := by
      simp only [after, handleMessages, hmessages, List.foldl_append]
    rw [hafter]
    exact getElem?_handleMessages hregistered _
  refine ⟨fun hforgotten ↦ ?_, exists_mem_stoppingExperiment hentry⟩
  exact absurd (hentry.symm.trans hforgotten.entry_eq) (Option.some_ne_none entry)

/-- The single client releases its service. -/
theorem releases_singleClient {release : RMMessage} (hrelease : IsRelease release 1 1) :
    (singleClient (singleParameter 1000 100 100 100) 0 ⟨0, 0⟩).Releases [release] 1 :=
  ⟨[], release, [], singleRequest, rfl, rfl, hrelease, List.forall_mem_nil _⟩

/-- The single client sends its release, and is told to stop all the same. -/
theorem not_forgotten_singleClient :
    ∃ dequeued, RMCommunication.receiveControlMessage RMMessage.new
        (RMCommunication.sendoutControlMessage (RMCommunication.sendRelease 1 1 0)) =
          some dequeued ∧
      let after := (singleClient (singleParameter 1000 100 100 100) 0 ⟨0, 0⟩).handleMessages
        [dequeued]
      ∃ command ∈ after.stoppingExperimentAsynchronous, command.service = 1 := by
  obtain ⟨dequeued, hdequeued, hrelease⟩ := isRelease_dequeued RMMessage.new 1 1 0
  exact ⟨dequeued, hdequeued, (not_forgotten_of_releases (releases_singleClient hrelease)).2.1⟩

/-- The entry of the single client is still there. -/
theorem not_forgotten_afterRelease :
    ∃ rm messages service, Releases rm messages service ∧
      ¬ (rm.handleMessages messages).Forgotten service := by
  have hrelease : IsRelease (RMCommunication.sendRelease 1 1 0) 1 1 := ⟨rfl, rfl, rfl⟩
  refine ⟨_, _, 1, releases_singleClient hrelease, fun hforgotten ↦ ?_⟩
  have hentry : ((singleClient (singleParameter 1000 100 100 100) 0 ⟨0, 0⟩).handleMessages
      [RMCommunication.sendRelease 1 1 0]).serviceList.entries[(1 : UInt64)]? =
        some singleRequest := getElem?_handleMessages rfl _
  exact absurd (hentry.symm.trans hforgotten.entry_eq) (Option.some_ne_none _)

end NetLayerRM

end Tanos
