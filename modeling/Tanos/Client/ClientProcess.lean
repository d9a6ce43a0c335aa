import Tanos.Client.ControlQueue
import Tanos.Client.Endnode
import Tanos.Client.Switch
import Tanos.Rm.CommandedMode
import Tanos.SendFunctions
import Tanos.Sender.SendObjects
import Tanos.Startup

/-!
# The process of a client

`wired_rm_client_endnode` and `wired_rm_client_switch` have the same threads around their handlers.
The receiver decodes datagrams into one message object and enqueues a copy each time. The main
function asks the resource manager for its service and handles the messages one after the other. An
end node has a third thread, the `Sender`, which its handlers notify, and releases its service
behind its loop. A switch runs shell scripts in its handlers. `ClientProcess` is the state of all
threads, on top of the `ControlQueue` of the first two.

A handler and its acknowledgements are a list of effects, and one step of the main function performs
one of them, so that the other threads run in between. The readings of the clock that the handler
will take are part of the event with which it gets its message.

`SIGINT` is a step as well. Its handler runs on the main thread and waits for `cv_mutex`, so that it
clears the flag of the loop only where the main function does not hold this mutex. `SignalHandler`
has the places between them and what becomes of the notification.
-/

set_option autoImplicit false
set_option relaxedAutoImplicit false

namespace Tanos.Client

/-- What an end node has beside its control connection: its service, the request it makes for it,
and what its objects find in the memory they do not initialise. -/
structure EndnodeProgram where
  serviceId : UInt64
  serviceConfiguration : StdMap UInt32 ServiceSettings
  resourceRequest : NetworkResourceRequest
  requestObject : RequestObject
  uninitialisedControl : TrafficSourceControl
  uninitialisedTimestamp : Timespec

/-- The two programs. -/
inductive ClientProgram where
  | wiredRmClientEndnode (endnode : EndnodeProgram)
  | wiredRmClientSwitch

/-- What a client is started with. -/
structure ClientSetup where
  clientConfiguration : UnitConfiguration
  controlEndpoint : UdpEndpoint
  centralRmAddress : UdpEndpoint
  rmAbstraction_eq : rmAbstraction clientConfiguration = some (controlEndpoint, centralRmAddress)
  experimentParameter : ExperimentParameter
  program : ClientProgram

namespace EndnodeProgram

/-- `resource_request_payload`. -/
def resourceRequestPayload (endnode : EndnodeProgram) (clientPriority : UInt32) : RMPayload :=
  ⟨2000, 100000000, clientPriority, 0, RMCommand.idle.value, ⟨0, 0⟩, ⟨0, 0⟩, ⟨0, 0⟩,
    endnode.resourceRequest.objectBytes endnode.requestObject⟩

/-- The traffic generator of the end node with an id, at the gate of its sending thread. -/
def trafficGenerator (endnode : EndnodeProgram) (clientId : UInt32) : Sender :=
  Sender.start endnode.serviceConfiguration clientId endnode.uninitialisedControl
    endnode.uninitialisedTimestamp

end EndnodeProgram

namespace ClientSetup

variable (setup : ClientSetup)

/-- `thread_type_select`. -/
def threadTypeSelect : SenderKind :=
  if setup.experimentParameter.synchronousStartMode then .synchronous else .asynchronous

/-- The service that the client asks for. A switch has its id for one. -/
def serviceId : UInt64 :=
  match setup.program with
  | .wiredRmClientEndnode endnode => endnode.serviceId
  | .wiredRmClientSwitch => setup.clientConfiguration.clientId.toUInt64

/-- `rm_payload_sendout`, which the acknowledgements take along too. A switch leaves it empty. -/
def rmPayloadSendout : MessageNet :=
  match setup.program with
  | .wiredRmClientEndnode endnode =>
    ((endnode.resourceRequestPayload setup.clientConfiguration.clientPriority).serialize
      MessageNet.new).2
  | .wiredRmClientSwitch => MessageNet.new

/-- The dispatch of the control loop. -/
def handleControlMessage : RMMessage → List Timespec → HandlerOutcome :=
  match setup.program with
  | .wiredRmClientEndnode _ => Endnode.handleControlMessage
  | .wiredRmClientSwitch => Switch.handleControlMessage setup.experimentParameter.experimentNumber

variable (now : ℤ)

/-- `sync_request`. -/
def syncRequest : RMMessage :=
  RMMessageOut.sendSyncRequest setup.clientConfiguration.clientId 0 setup.serviceId
    setup.rmPayloadSendout now

/-- `sync_ack_receive`. -/
def syncAckReceive : RMMessage :=
  RMMessageOut.sendSyncReceive setup.clientConfiguration.clientId 0 setup.serviceId
    setup.rmPayloadSendout now

/-- `sync_ack_reconfigure_done`. -/
def syncAckReconfigureDone : RMMessage :=
  RMMessageOut.sendSyncReconfigureDone setup.clientConfiguration.clientId 0 setup.serviceId
    setup.rmPayloadSendout now

/-- `resource_release`. -/
def resourceRelease : RMMessage :=
  RMCommunication.sendRelease setup.clientConfiguration.clientId setup.serviceId now

end ClientSetup

/-- Where the main function is: before its request, in the loop, and behind the end of the
process. -/
inductive ClientPhase where
  | initialising
  | controlling
  | exited
deriving DecidableEq, Repr

/-- The state of the process. The message object of the receiver is none when its payload array has
been overrun. The effects are what the handler that has the message is still to do, and whether it
returns then. A switch has no traffic generator. -/
structure ClientProcess where
  setup : ClientSetup
  rmMessage : Option RMMessage
  control : ControlQueue RMMessage
  effects : List ClientEffect
  returns : Bool
  trafficGenerator : Option Sender
  phase : ClientPhase

/-- The notification of the receiver, a step of the main function, one of the sending thread, or
the signal `SIGINT`. -/
inductive ThreadEvent where
  | notify
  | interrupt
  | request (now : ℤ)
  | beginWait
  | spuriousWake
  | check (isMessageLeft : Bool)
  | dequeue (samples : List Timespec)
  | perform (now : ℤ)
  | handled
  | leave (now : ℤ)
  | send (clock : Timespec)
deriving DecidableEq, Repr

/-- What leaves the process: a control message to the resource manager, a packet, or the call of a
shell script. That a signal has cleared the flag of the loop is recorded like something that
leaves it. -/
inductive ClientOutput where
  | message (message : RMMessage)
  | packet (packet : SentPacket)
  | script (command : String)
  | interruption
deriving DecidableEq, Repr

namespace ClientProcess

/-- Before the request, with the threads started. -/
def start (setup : ClientSetup) : ClientProcess where
  setup := setup
  rmMessage := some RMMessage.new
  control := ControlQueue.start
  effects := []
  returns := true
  trafficGenerator :=
    match setup.program with
    | .wiredRmClientEndnode endnode =>
      some (endnode.trafficGenerator setup.clientConfiguration.clientId)
    | .wiredRmClientSwitch => none
  phase := .initialising

/-- The process is running, and has not overrun its payload array. -/
def isAlive (process : ClientProcess) : Bool :=
  process.rmMessage.isSome && process.phase != .exited

/-- `rm_handler`, for one datagram. The receiver that has not notified yet takes none. -/
def receive (process : ClientProcess) (datagram : List UInt8) : ClientProcess :=
  if process.isAlive ∧ process.control.receiver = .receiving then
    match process.rmMessage.bind
        fun message ↦ RMCommunication.receiveControlMessage message datagram with
    | none => { process with rmMessage := none }
    | some message =>
      { process with
        rmMessage := some message
        control := (process.control.step (.enqueue message)).1 }
  else process

/-- `get_next_control_message` and the call of the handler. -/
def dequeue (process : ClientProcess) (samples : List Timespec) : ClientProcess :=
  let dequeued := process.control.step .dequeue
  match dequeued.2 with
  | message :: _ =>
    let outcome := process.setup.handleControlMessage message samples
    { process with
      control := dequeued.1
      effects := outcome.effects
      returns := outcome.rest.isSome }
  | [] => process

/-- One effect of the handler. -/
def performEffect (process : ClientProcess) (now : ℤ) :
    ClientEffect → ClientProcess × List ClientOutput
  | .syncAckReceive => (process, [.message (process.setup.syncAckReceive now)])
  | .syncAckReconfigureDone => (process, [.message (process.setup.syncAckReconfigureDone now)])
  | .notify notification =>
    ({ process with
      trafficGenerator := process.trafficGenerator.map fun sender ↦
        (sender.step process.setup.threadTypeSelect (.notify notification)).1 }, [])
  | .reconfigureSwToMode _ _ _ command => (process, command.toList.map .script)
  | .deactivate => ({ process with control := { process.control with active := false } }, [])

/-- The next effect of the handler. -/
def perform (process : ClientProcess) (now : ℤ) : ClientProcess × List ClientOutput :=
  match process.effects with
  | [] => (process, [])
  | effect :: rest => { process with effects := rest }.performEffect now effect

/-- A packet that leaves the sending thread. -/
def sentPacket : SenderOutput → Option ClientOutput
  | .packet packet => some (.packet packet)
  | .passedGate | .started _ | .ended _ => none

/-- A step of the sending thread. -/
def send (process : ClientProcess) (clock : Timespec) : ClientProcess × List ClientOutput :=
  match process.trafficGenerator with
  | some sender =>
    let sent := sender.step process.setup.threadTypeSelect (.run clock)
    ({ process with trafficGenerator := some sent.1 }, sent.2.filterMap sentPacket)
  | none => (process, [])

/-- The end of the main function. Only an end node releases its service. -/
def leave (process : ClientProcess) (now : ℤ) : ClientProcess × List ClientOutput :=
  ({ process with phase := .exited },
    match process.setup.program with
    | .wiredRmClientEndnode _ => [.message (process.setup.resourceRelease now)]
    | .wiredRmClientSwitch => [])

/-- A step of the main function in its loop, that of a handler apart. -/
def stepControl (process : ClientProcess) (event : QueueEvent RMMessage) : ClientProcess :=
  { process with control := (process.control.step event).1 }

/-- `signalHandler`, with `init_done` set. In the dequeue and in a handler of messages it waits for
its own thread, so that it does nothing there. The place in front of the check is also the one
behind a handler of messages, where the main function would stop for the same reason. -/
def interrupt (process : ClientProcess) : ClientProcess × List ClientOutput :=
  match process.control.main with
  | .starting | .waiting | .checking =>
    ({ process with control := { process.control with active := false } }, [.interruption])
  | .dequeuing | .handling _ | .ended => (process, [])

/-- A step of one of the threads, the receipt of a datagram apart. The wake-up behind a signal is
one of those that may come without a notification. -/
def step (process : ClientProcess) (event : ThreadEvent) : ClientProcess × List ClientOutput :=
  if process.isAlive then
    match event, process.phase with
    | .notify, _ => (process.stepControl .notify, [])
    | .send clock, _ => process.send clock
    | .interrupt, _ => process.interrupt
    | .request now, .initialising =>
      ({ process with phase := .controlling }, [.message (process.setup.syncRequest now)])
    | .beginWait, .controlling => (process.stepControl .beginWait, [])
    | .spuriousWake, .controlling => (process.stepControl .spuriousWake, [])
    | .check isMessageLeft, .controlling => (process.stepControl (.check isMessageLeft), [])
    | .dequeue samples, .controlling => (process.dequeue samples, [])
    | .perform now, .controlling => process.perform now
    | .handled, .controlling =>
      if process.effects = [] ∧ process.returns = true then
        (process.stepControl (.handled process.control.active), [])
      else (process, [])
    | .leave now, .controlling =>
      if process.control.main = .ended then process.leave now else (process, [])
    | _, _ => (process, [])
  else (process, [])

end ClientProcess

/-! ### What a handler may do -/

/-- The command ends the client. -/
def endsClient : MessageTypes → Bool
  | .rmClientExit | .rmClientSyncTimestampExit => true
  | _ => false

namespace Endnode

/-- The command sets the mode of the generator. -/
def setsMode : MessageTypes → Bool
  | .rmClientStart | .rmClientReconfigureSw | .rmClientSyncTimestampStart
  | .rmClientSyncTimestampReconfigureSw | .rmClientSyncTimestampReconfigureSyncObjectSw => true
  | _ => false

/-- The command is a reconfiguration that an end node acknowledges twice. -/
def isReconfiguration : MessageTypes → Bool
  | .rmClientReconfigureSw | .rmClientSyncTimestampReconfigureHw
  | .rmClientSyncTimestampReconfigureSw | .rmClientSyncTimestampReconfigureSyncObjectHw
  | .rmClientSyncTimestampReconfigureSyncObjectSw => true
  | _ => false

/-- The notifications without a mode that a handler may make for a command of a type. Only one of
them opens the gates of the generator. -/
def MayNotify (type : MessageTypes) : TrafficSourceControl → Prop
  | .threadStop =>
    endsClient type = true ∨ type = .rmClientStop ∨ type = .rmClientSyncTimestampStop
  | .threadPaused | .threadTransmission => type = .rmClientSyncTimestampReconfigureHw
  | .threadTransmissionFinishObject => type = .rmClientSyncTimestampReconfigureSyncObjectSw
  | .threadStart | .threadReconfigure => False

/-- What a handler may do for a command of a type with a mode. -/
def MayCause (type : MessageTypes) (mode : UInt32) : ClientEffect → Prop
  | .syncAckReceive => isReconfiguration type = true ∨ endsClient type = true ∨
    type = .rmClientStop ∨ type = .rmClientSyncTimestampStop ∨ type = .rmClientSyncTimestampStart
  | .syncAckReconfigureDone => isReconfiguration type = true
  | .notify (.generator control) => MayNotify type control
  | .notify (.modeChange _ commanded) | .notify (.timestamp _ _ commanded _) =>
    setsMode type = true ∧ commanded = mode
  | .reconfigureSwToMode _ _ _ _ => False
  | .deactivate => endsClient type = true

end Endnode

namespace Switch

/-- The command is a reconfiguration that a switch acknowledges twice. -/
def isReconfiguration : MessageTypes → Bool
  | .rmClientReconfigureHw | .rmClientSyncTimestampReconfigureHw
  | .rmClientSyncTimestampReconfigureSyncObjectHw => true
  | _ => false

/-- The command sets the mode of the switch. -/
def setsMode : MessageTypes → Bool
  | .rmClientStart | .rmClientSyncTimestampStart => true
  | type => isReconfiguration type

/-- The shell command for a mode of an experiment. -/
def script (mode : UInt32) (experimentNumber : UInt8) : Option String :=
  (scriptMode mode).map fun suffix ↦
    "sh ./scripts/experiment_" ++ toString experimentNumber ++ suffix ++ ".sh"

/-- What a handler may do for a command of a type with a mode. -/
def MayCause (experimentNumber : UInt8) (type : MessageTypes) (mode : UInt32) :
    ClientEffect → Prop
  | .syncAckReceive =>
    isReconfiguration type = true ∨ endsClient type = true ∨ type = .rmClientSyncTimestampStart
  | .syncAckReconfigureDone => isReconfiguration type = true
  | .notify _ => False
  | .reconfigureSwToMode _ _ _ command =>
    setsMode type = true ∧ command = script mode experimentNumber
  | .deactivate => endsClient type = true

end Switch

/-- What a handler of a client may do for a command of a type with a mode. -/
def ClientSetup.MayCause (setup : ClientSetup) (type : MessageTypes) (mode : UInt32)
    (effect : ClientEffect) : Prop :=
  match setup.program with
  | .wiredRmClientEndnode _ => Endnode.MayCause type mode effect
  | .wiredRmClientSwitch =>
    Switch.MayCause setup.experimentParameter.experimentNumber.toUInt8 type mode effect

open Library.Polling

theorem effects_timedLoop_subset (target : Timespec) (action : List ClientEffect)
    (samples : List Timespec) : (timedLoop target action samples).effects ⊆ action := by
  rw [timedLoop_eq_poll]
  exact effects_poll_subset samples

theorem effects_twoStepLoop_subset (first second : Timespec)
    (firstAction secondAction : List ClientEffect) (samples : List Timespec) :
    (twoStepLoop first second firstAction secondAction false samples).effects ⊆
      firstAction ++ secondAction := by
  rw [twoStepLoop_eq_pollTwo]
  exact effects_pollTwo_subset samples

theorem effects_acknowledged_subset (handler : HandlerOutcome) :
    (acknowledged handler).effects ⊆
      .syncAckReceive :: (handler.effects ++ [.syncAckReconfigureDone]) := by
  unfold acknowledged
  by_cases hreturns : (handler.prepend [.syncAckReceive]).Returns
  · rw [Outcome.effects_followedBy_of_returns hreturns]
    exact List.Subset.refl _
  · rw [Outcome.effects_followedBy_of_not_returns hreturns]
    exact List.cons_subset_cons _ (List.subset_append_left _ _)

/-- Assumes: a property holds of both acknowledgements and of the effects that a handler has at
most. It holds of all effects of the acknowledged handler. -/
theorem forall_mem_acknowledged (property : ClientEffect → Prop)
    (hreceive : property .syncAckReceive) (hdone : property .syncAckReconfigureDone)
    {handler : HandlerOutcome} {action : List ClientEffect} (hsubset : handler.effects ⊆ action)
    (haction : ∀ effect ∈ action, property effect) :
    ∀ effect ∈ (acknowledged handler).effects, property effect := by
  intro effect heffect
  rcases List.mem_cons.mp (effects_acknowledged_subset handler heffect) with rfl | hrest
  · exact hreceive
  · rcases List.mem_append.mp hrest with hhandler | hlast
    · exact haction effect (hsubset hhandler)
    · rw [List.mem_singleton.mp hlast]
      exact hdone

/-- The same for a handler that is acknowledged before it is called. -/
theorem forall_mem_prepend (property : ClientEffect → Prop) (hreceive : property .syncAckReceive)
    {handler : HandlerOutcome} {action : List ClientEffect} (hsubset : handler.effects ⊆ action)
    (haction : ∀ effect ∈ action, property effect) :
    ∀ effect ∈ (handler.prepend [.syncAckReceive]).effects, property effect :=
  List.forall_mem_cons.mpr ⟨hreceive, fun effect heffect ↦ haction effect (hsubset heffect)⟩

/-- Every effect of an end node's handler is one that a command of the message's type may have. -/
theorem Endnode.mayCause_of_mem {message : RMMessage} {samples : List Timespec}
    {effect : ClientEffect} (heffect : effect ∈ (handleControlMessage message samples).effects) :
    ∃ type, MessageTypes.ofCode message.messageType = some type ∧
      MayCause type message.handlerMode effect := by
  cases htype : MessageTypes.ofCode message.messageType with
  | none =>
    simp only [handleControlMessage, htype] at heffect
    exact absurd heffect List.not_mem_nil
  | some type =>
    refine ⟨type, rfl, ?_⟩
    have hacknowledged := @forall_mem_acknowledged (MayCause type message.handlerMode)
    have hprepend := @forall_mem_prepend (MayCause type message.handlerMode)
    simp only [handleControlMessage, htype] at heffect
    cases type with
    | rmClientStart =>
      cases samples with
      | nil => exact absurd heffect List.not_mem_nil
      | cons now rest =>
        rw [List.mem_singleton.mp heffect]
        exact ⟨rfl, rfl⟩
    | rmClientStop =>
      exact hprepend (by simp [MayCause]) (List.Subset.refl _)
        (List.forall_mem_singleton.mpr (by simp [MayCause, MayNotify])) _ heffect
    | rmClientReconfigureSw =>
      exact hacknowledged (Or.inl rfl) rfl (List.Subset.refl _)
        (List.forall_mem_singleton.mpr ⟨rfl, rfl⟩) _ heffect
    | rmClientSyncTimestampStart =>
      exact hprepend (by simp [MayCause]) (effects_timedLoop_subset _ _ _)
        (by simp [MayCause, setsMode, RMMessage.handlerMode]) _ heffect
    | rmClientSyncTimestampStop =>
      exact hprepend (by simp [MayCause]) (effects_timedLoop_subset _ _ _)
        (List.forall_mem_singleton.mpr (by simp [MayCause, MayNotify])) _ heffect
    | rmClientSyncTimestampReconfigureHw =>
      exact hacknowledged (Or.inl rfl) rfl (effects_twoStepLoop_subset _ _ _ _ _)
        (by simp [MayCause, MayNotify]) _ heffect
    | rmClientSyncTimestampReconfigureSw =>
      exact hacknowledged (Or.inl rfl) rfl (effects_timedLoop_subset _ _ _)
        (by simp [MayCause, setsMode, RMMessage.handlerMode]) _ heffect
    | rmClientSyncTimestampReconfigureSyncObjectHw =>
      exact hacknowledged (Or.inl rfl) rfl (List.Subset.refl _) (List.forall_mem_nil _) _
        heffect
    | rmClientSyncTimestampReconfigureSyncObjectSw =>
      exact hacknowledged (Or.inl rfl) rfl (effects_twoStepLoop_subset _ _ _ _ _)
        (by simp [MayCause, MayNotify, setsMode, RMMessage.handlerMode]) _ heffect
    | rmClientSyncTimestampExit =>
      exact hprepend (Or.inr (Or.inl rfl)) (effects_timedLoop_subset _ _ _)
        (by simp [MayCause, MayNotify, endsClient]) _ heffect
    | rmClientExit =>
      exact hprepend (Or.inr (Or.inl rfl)) (List.Subset.refl _)
        (by simp [handleExitMessage, MayCause, MayNotify, endsClient]) _ heffect
    | _ => exact absurd heffect List.not_mem_nil

/-- Every effect of a switch's handler is one that a command of the message's type may have. -/
theorem Switch.mayCause_of_mem {configuredExperiment : UInt32} {message : RMMessage}
    {samples : List Timespec} {effect : ClientEffect}
    (heffect : effect ∈ (handleControlMessage configuredExperiment message samples).effects) :
    ∃ type, MessageTypes.ofCode message.messageType = some type ∧
      MayCause configuredExperiment.toUInt8 type message.handlerMode effect := by
  cases htype : MessageTypes.ofCode message.messageType with
  | none =>
    simp only [handleControlMessage, htype] at heffect
    exact absurd heffect List.not_mem_nil
  | some type =>
    refine ⟨type, rfl, ?_⟩
    have hacknowledged := @forall_mem_acknowledged
      (MayCause configuredExperiment.toUInt8 type message.handlerMode)
    have hprepend := @forall_mem_prepend
      (MayCause configuredExperiment.toUInt8 type message.handlerMode)
    simp only [handleControlMessage, htype] at heffect
    cases type with
    | rmClientStart =>
      rw [List.mem_singleton.mp heffect]
      exact ⟨rfl, rfl⟩
    | rmClientReconfigureHw =>
      exact hacknowledged (Or.inl rfl) rfl (List.Subset.refl _)
        (List.forall_mem_singleton.mpr ⟨rfl, rfl⟩) _ heffect
    | rmClientSyncTimestampStart =>
      exact hprepend (Or.inr (Or.inr rfl)) (effects_timedLoop_subset _ _ _)
        (by simp [MayCause, setsMode, isReconfiguration, reconfigureSwToMode, script,
          RMMessage.handlerMode]) _ heffect
    | rmClientSyncTimestampReconfigureHw =>
      exact hacknowledged (Or.inl rfl) rfl (effects_timedLoop_subset _ _ _)
        (by simp [MayCause, setsMode, isReconfiguration, reconfigureSwToMode, script,
          RMMessage.handlerMode]) _ heffect
    | rmClientSyncTimestampReconfigureSyncObjectHw =>
      exact hacknowledged (Or.inl rfl) rfl (effects_timedLoop_subset _ _ _)
        (by simp [MayCause, setsMode, isReconfiguration, reconfigureSwToMode, script,
          RMMessage.handlerMode]) _ heffect
    | rmClientSyncTimestampExit =>
      exact hprepend (Or.inr (Or.inl rfl)) (effects_timedLoop_subset _ _ _)
        (by simp [MayCause, endsClient]) _ heffect
    | rmClientExit =>
      exact hprepend (Or.inr (Or.inl rfl)) (List.Subset.refl _)
        (by simp [handleExitMessage, MayCause, endsClient]) _ heffect
    | _ => exact absurd heffect List.not_mem_nil

/-- Every effect of a client's handler is one that a command of the message's type may have. -/
theorem ClientSetup.mayCause_of_mem {setup : ClientSetup} {message : RMMessage}
    {samples : List Timespec} {effect : ClientEffect}
    (heffect : effect ∈ (setup.handleControlMessage message samples).effects) :
    ∃ type, MessageTypes.ofCode message.messageType = some type ∧
      setup.MayCause type message.handlerMode effect := by
  unfold handleControlMessage at heffect
  unfold MayCause
  cases hprogram : setup.program with
  | wiredRmClientEndnode endnode =>
    rw [hprogram] at heffect
    exact Endnode.mayCause_of_mem heffect
  | wiredRmClientSwitch =>
    rw [hprogram] at heffect
    exact Switch.mayCause_of_mem heffect

end Tanos.Client
