import Tanos.Client.ClientProcess
import Tanos.Library.Network
import Tanos.Rm.Process

/-!
# The resource manager and its clients on a network

A `Deployment` is one resource manager and any number of clients, end nodes and switches, each with
its own configuration. `controlPlane` puts their processes on a network in the sense of
`Library.Network`, which carries the datagrams of the control channel and may lose, reorder and
duplicate them. The packets of the end nodes and the scripts of the switches leave the system. The
signals that end a client are recorded beside what is sent, and reach nobody.

Nothing says that the configurations fit together: several clients may have the same id, ask for the
same service or listen at the same endpoint, and the resource manager may know other endpoints than
those at which they listen.
-/

set_option autoImplicit false
set_option relaxedAutoImplicit false

namespace Tanos

open Library Library.Network

/-- The bytes of a resource request that the constructor of a payload leaves uninitialised. -/
structure UninitialisedRequest where
  bytes : List UInt8
  length_eq : bytes.length = RMPayload.sizeofResourceRequest

/-- The resource manager and its clients, before they are started. All clients the resource manager
knows have a control address. -/
structure Deployment (κ : Type) where
  rmEndpoint : UdpEndpoint
  experimentParameter : ExperimentParameter
  endnodeConfigurationMap : StdMap UInt32 UnitSettings
  serviceConfigurationMap : ServiceMap
  uninitialised : Timespec
  client : κ → Client.ClientSetup
  hasControlAddresses : (NetLayerRM.new experimentParameter endnodeConfigurationMap
    serviceConfigurationMap uninitialised).HasControlAddresses

/-- The processes of a deployment. -/
inductive Party (κ : Type) where
  | resourceManager
  | client (client : κ)
deriving DecidableEq, Repr

/-- What leaves a process: a datagram on the control channel, a packet, or the call of a script. A
signal at a client is recorded as well. -/
inductive Outgoing where
  | datagram (target : UdpEndpoint) (bytes : List UInt8)
  | packet (packet : SentPacket)
  | script (command : String)
  | interruption
deriving DecidableEq, Repr

/-- The events of the resource manager, the receipt of a datagram apart. Its messages take the time
and the bytes that are not initialised from the event. -/
inductive ResourceManagerEvent where
  | handle
  | timer (currentTime : Timespec) (now : ℤ) (uninitialised : UninitialisedRequest)

/-- The datagram of a call. -/
def ServiceCommand.outgoing (command : ServiceCommand) (uninitialised : UninitialisedRequest)
    (now : ℤ) : Option Outgoing :=
  command.targetAddress.map fun target ↦ .datagram target
    (RMCommunication.sendoutControlMessage (command.rmMessageOut uninitialised.bytes now))

/-- What a client puts on the network, or into a shell. -/
def Client.ClientSetup.outgoing (setup : Client.ClientSetup) :
    Client.ClientOutput → Outgoing
  | .message message =>
    .datagram setup.centralRmAddress (RMCommunication.sendoutControlMessage message)
  | .packet packet => .packet packet
  | .script command => .script command
  | .interruption => .interruption

namespace Deployment

variable {κ : Type} (deployment : Deployment κ)

/-- The resource manager after its constructor. -/
def rm : NetLayerRM :=
  NetLayerRM.new deployment.experimentParameter deployment.endnodeConfigurationMap
    deployment.serviceConfigurationMap deployment.uninitialised

/-- The endpoint at which a process listens. -/
def endpoint : Party κ → UdpEndpoint
  | .resourceManager => deployment.rmEndpoint
  | .client client => (deployment.client client).controlEndpoint

/-- The state of a process. -/
def ProcessState : Party κ → Type
  | .resourceManager => NetLayerRM.RmProcess
  | .client _ => Client.ClientProcess

/-- The events of a process. -/
def ProcessEvent : Party κ → Type
  | .resourceManager => ResourceManagerEvent
  | .client _ => Client.ThreadEvent

/-- A process gets the datagrams for its endpoint. -/
def receives (party : Party κ) : Outgoing → Bool
  | .datagram target _ => target == deployment.endpoint party
  | .packet _ | .script _ | .interruption => false

/-- What a process does with a datagram. -/
def receive : (party : Party κ) → ProcessState party → Outgoing →
    ProcessState party × List Outgoing
  | .resourceManager, process, .datagram _ bytes =>
    ((NetLayerRM.RmProcess.step process (.receive bytes)).1, [])
  | .client _, process, .datagram _ bytes => (Client.ClientProcess.receive process bytes, [])
  | _, process, .packet _ | _, process, .script _ | _, process, .interruption => (process, [])

/-- A step of the resource manager. -/
def actResourceManager (process : NetLayerRM.RmProcess) :
    ResourceManagerEvent → NetLayerRM.RmProcess × List Outgoing
  | .handle => ((process.step .handle).1, [])
  | .timer currentTime now uninitialised =>
    let stepped := process.step (.timer currentTime)
    (stepped.1, stepped.2.filterMap fun command ↦ command.outgoing uninitialised now)

/-- A step of a process. -/
def act : (party : Party κ) → ProcessState party → ProcessEvent party →
    ProcessState party × List Outgoing
  | .resourceManager, process, event => actResourceManager process event
  | .client _, process, event =>
    let stepped := Client.ClientProcess.step process event
    (stepped.1, stepped.2.map process.setup.outgoing)

/-- The processes on the network. -/
def controlPlane : Protocol (Party κ) Outgoing where
  State := ProcessState
  Event := ProcessEvent
  receives := deployment.receives
  receive := receive
  act := act

/-- All processes have been started, and nothing has been sent. -/
def start : Configuration deployment.controlPlane where
  parties
    | .resourceManager => NetLayerRM.RmProcess.start deployment.rm
    | .client client => Client.ClientProcess.start (deployment.client client)
  sent := []

end Deployment

end Tanos
