import Tanos.Sender.PacketHeader
import Tanos.System.Deployment

/-!
# Safety of the control channel

What the resource manager and its clients do on a network that loses, reorders and duplicates their
datagrams. `controlSafety` is the invariant, in the form of `Library.Network.Safety`: every message
in a queue stands for one that has been sent, every service in the service list has been requested
by a client with the id of its owner, every call is one for such a service, and a client does
nothing that it has not been commanded to do.
-/

set_option autoImplicit false
set_option relaxedAutoImplicit false

namespace Tanos

open Library Library.Network RMCommunication

/-! ### Messages on their way -/

/-- The message has the payload its size says, and fits into the payload array of its receiver. -/
structure RMMessage.Sendable (message : RMMessage) : Prop where
  length_usedPayload : message.usedPayload.length = message.payloadSize.toNat
  payloadSize_le : message.payloadSize.toNat ≤ maxPayload

/-- A message that can be sent is received, whatever has been received before. -/
theorem RMMessage.Sendable.receiveControlMessage_eq {message : RMMessage} (h : message.Sendable)
    (old : RMMessage) : ∃ timeStamp payload,
      receiveControlMessage old (sendoutControlMessage message) =
        some { message with timeStamp := timeStamp, payload := payload } :=
  ⟨_, _, receiveControlMessage_sendoutControlMessage old h.length_usedPayload h.payloadSize_le⟩

theorem RMMessage.sendable_ofPayload (messageType : MessageTypes) (priority : UInt8)
    (sourceId destinationId : UInt32) (serviceId : UInt64) (mode : UInt8)
    (protocolId : ProtocolIDs) {payload : MessageNet} {bytes : List UInt8} (now : ℤ)
    (hholds : payload.Holds bytes) (hlength : bytes.length ≤ maxPayload) :
    (ofPayload messageType priority sourceId destinationId serviceId mode protocolId payload
      now).Sendable := by
  obtain ⟨hsize, hused⟩ := payload_ofPayload messageType priority sourceId destinationId serviceId
    mode protocolId now hholds hlength
  exact ⟨by rw [hused, hsize], hsize.trans_le hlength⟩

theorem ServiceCommand.sendable (command : ServiceCommand) (uninitialised : UninitialisedRequest)
    (now : ℤ) : (command.rmMessageOut uninitialised.bytes now).Sendable :=
  RMMessage.sendable_ofPayload _ _ _ _ _ _ _ now
    (holds_rmPayload command.toControlCommand uninitialised.length_eq)
    ((length_payloadBytes_le command.toControlCommand uninitialised.length_eq).trans (by decide))

namespace Client.ClientSetup

variable (setup : ClientSetup)

/-- The payload that a client sends. -/
theorem exists_holds_rmPayloadSendout :
    ∃ bytes, setup.rmPayloadSendout.Holds bytes ∧ bytes.length ≤ maxPayload := by
  unfold rmPayloadSendout
  cases setup.program with
  | wiredRmClientEndnode endnode =>
    have hlength : (endnode.resourceRequestPayload
        setup.clientConfiguration.clientPriority).bytes.length = 136 :=
      RMPayload.length_bytes_of_request
        (endnode.resourceRequest.length_objectBytes endnode.requestObject)
    exact ⟨_, (RMPayload.writes_serialize _).holds_of_new (hlength.trans_lt (by decide)),
      hlength.trans_le (by decide)⟩
  | wiredRmClientSwitch => exact ⟨[], MessageNet.holds_new, Nat.zero_le _⟩

theorem sendable_toSource (messageType : MessageTypes) (now : ℤ) :
    (RMMessageOut.toSource messageType setup.clientConfiguration.clientId setup.serviceId 0
      setup.rmPayloadSendout now).Sendable := by
  obtain ⟨bytes, hholds, hlength⟩ := setup.exists_holds_rmPayloadSendout
  exact RMMessage.sendable_ofPayload _ _ _ _ _ _ _ now hholds hlength

theorem sendable_resourceRelease (now : ℤ) : (setup.resourceRelease now).Sendable :=
  ⟨rfl, Nat.zero_le _⟩

end Client.ClientSetup

namespace Deployment

variable {κ : Type} (deployment : Deployment κ)

/-! ### Who has asked for what -/

/-- The client has asked for its service. -/
def Requested (sent : List (Party κ × Outgoing)) (client : κ) : Prop :=
  ∃ now, (.client client, .datagram (deployment.client client).centralRmAddress
    (sendoutControlMessage ((deployment.client client).syncRequest now))) ∈ sent

/-- The service and its owner are those of a client that has asked for it. -/
structure RequestedBy (sent : List (Party κ × Outgoing)) (client : κ) (service : UInt64)
    (owner : UInt32) : Prop where
  requested : deployment.Requested sent client
  service_eq : service = (deployment.client client).serviceId
  owner_eq : owner = (deployment.client client).clientConfiguration.clientId

/-- A call for a service that a client has asked for: it goes to the address of the client's id, and
its type and its mode are those of a loop of the resource manager. -/
structure JustifiedBy (sent : List (Party κ × Outgoing)) (owner : κ)
    (loop : NetLayerRM.ServiceLoop) (command : ServiceCommand) : Prop where
  requested : deployment.Requested sent owner
  service_eq : command.service = (deployment.client owner).serviceId
  targetAddress_eq : command.targetAddress =
    deployment.rm.getClientAddress (deployment.client owner).clientConfiguration.clientId
  messageType_eq : command.messageType = loop.messageType
  mode_mem : command.mode ∈ loop.modeFor deployment.experimentParameter
    (deployment.client owner).clientConfiguration.clientId

/-- A call for some service that somebody has asked for. -/
def Justified (sent : List (Party κ × Outgoing)) (command : ServiceCommand) : Prop :=
  ∃ owner loop, deployment.JustifiedBy sent owner loop command

/-- The resource manager has made the call, to the endpoint at which the client listens. -/
structure Commanded (sent : List (Party κ × Outgoing)) (client : κ) (command : ServiceCommand) :
    Prop where
  justified : deployment.Justified sent command
  targetAddress_eq : command.targetAddress = some (deployment.client client).controlEndpoint
  sent : ∃ (uninitialised : UninitialisedRequest) (now : ℤ),
    (.resourceManager, .datagram (deployment.client client).controlEndpoint
      (sendoutControlMessage (command.rmMessageOut uninitialised.bytes now))) ∈ sent

/-! ### What a process may send -/

/-- What ends a client: a call that has been made to it, or a signal. -/
inductive Ended (sent : List (Party κ × Outgoing)) (client : κ) : Prop where
  | called (command : ServiceCommand) (hcommand : deployment.Commanded sent client command)
    (hends : Client.endsClient command.messageType = true)
  | interrupted (hmem : (.client client, .interruption) ∈ sent)

/-- A message of a client: its request, an acknowledgement that the handler of a call may make, or
the release of an end node that has been ended. -/
inductive ClientMessage (sent : List (Party κ × Outgoing)) (client : κ) : RMMessage → Prop where
  | request (now : ℤ) : ClientMessage sent client ((deployment.client client).syncRequest now)
  | acknowledgement (now : ℤ) (command : ServiceCommand)
    (hcommand : deployment.Commanded sent client command)
    (hcause : (deployment.client client).MayCause command.messageType command.arrivingMode
      .syncAckReceive) :
    ClientMessage sent client ((deployment.client client).syncAckReceive now)
  | reconfigureDone (now : ℤ) (command : ServiceCommand)
    (hcommand : deployment.Commanded sent client command)
    (hcause : (deployment.client client).MayCause command.messageType command.arrivingMode
      .syncAckReconfigureDone) :
    ClientMessage sent client ((deployment.client client).syncAckReconfigureDone now)
  | release (now : ℤ) (hended : deployment.Ended sent client) (endnode : Client.EndnodeProgram)
    (hprogram : (deployment.client client).program = .wiredRmClientEndnode endnode) :
    ClientMessage sent client ((deployment.client client).resourceRelease now)

/-- The end node may send in a mode: it has been commanded to, or it has been told to go on and the
mode is the one it was constructed with. That mode is also the one in which it sends when the memory
of its generator happens to hold the value that opens the gate. -/
inductive MayUse (sent : List (Party κ × Outgoing)) (client : κ)
    (endnode : Client.EndnodeProgram) : UInt32 → Prop where
  | commanded (command : ServiceCommand) (hcommand : deployment.Commanded sent client command)
    (hsets : Client.Endnode.setsMode command.messageType = true) :
    MayUse sent client endnode command.arrivingMode
  | resumed (command : ServiceCommand) (hcommand : deployment.Commanded sent client command)
    (htype : command.messageType = .rmClientSyncTimestampReconfigureHw) :
    MayUse sent client endnode 0
  | uninitialised (hopen : endnode.uninitialisedControl = .threadTransmission) :
    MayUse sent client endnode 0

/-- The client is an end node, and the settings are those of a mode that it may send in. -/
def MaySend (sent : List (Party κ × Outgoing)) (client : κ) (settings : ServiceSettings) : Prop :=
  ∃ endnode mode, (deployment.client client).program = .wiredRmClientEndnode endnode ∧
    deployment.MayUse sent client endnode mode ∧
    endnode.serviceConfiguration[mode]? = some settings

/-- The packet is sent in a mode that the end node may send in, and has the header of such a
mode. -/
structure MaySendPacket (sent : List (Party κ × Outgoing)) (client : κ) (packet : SentPacket) :
    Prop where
  settings : deployment.MaySend sent client packet.settings
  startedIn : ∃ settings, deployment.MaySend sent client settings ∧
    packet.message.StartedIn (deployment.client client).clientConfiguration.clientId settings

/-- The client is a switch, and the script is the one for a mode that it has been commanded to. -/
def MayRun (sent : List (Party κ × Outgoing)) (client : κ) (script : String) : Prop :=
  (deployment.client client).program = .wiredRmClientSwitch ∧
    ∃ command, deployment.Commanded sent client command ∧
      Client.Switch.setsMode command.messageType = true ∧
      Client.Switch.script command.arrivingMode
        (deployment.client client).experimentParameter.experimentNumber.toUInt8 = some script

/-- What a process may put on the network. -/
def Allowed (sent : List (Party κ × Outgoing)) : Party κ → Outgoing → Prop
  | .resourceManager, outgoing => ∃ command uninitialised now,
    deployment.Justified sent command ∧
      ServiceCommand.outgoing command uninitialised now = some outgoing
  | .client client, .datagram target bytes =>
    target = (deployment.client client).centralRmAddress ∧ ∃ message,
      deployment.ClientMessage sent client message ∧ bytes = sendoutControlMessage message
  | .client client, .packet packet => deployment.MaySendPacket sent client packet
  | .client client, .script command => deployment.MayRun sent client command
  | .client _, .interruption => True

/-! ### What the processes keep -/

/-- A message asks for the service of a client that has asked for it, or for nothing. -/
def AsksAsRequested (sent : List (Party κ × Outgoing)) (message : RMMessage) : Prop :=
  MessageTypes.ofCode message.messageType = some .rmClientSyncRequest →
    ∃ client, deployment.RequestedBy sent client message.serviceId message.sourceId

/-- The invariant of the resource manager. -/
structure ResourceManagerGood (sent : List (Party κ × Outgoing))
    (process : NetLayerRM.RmProcess) : Prop where
  received : process.receivedMessage.isSome = true
  queue : ∀ message ∈ process.nRMInHandleQueue, deployment.AsksAsRequested sent message
  entries : ∀ (service : UInt64) (message : RMMessage),
    process.rm.serviceList.entries[service]? = some message →
      ∃ client, deployment.RequestedBy sent client service message.sourceId
  grows : NetLayerRM.Grows deployment.rm process.rm

/-- A message that a client handles in the way of a call that has been made to it, or not at all. -/
def HandledAsCommanded (sent : List (Party κ × Outgoing)) (client : κ) (message : RMMessage) :
    Prop :=
  ∀ type, MessageTypes.ofCode message.messageType = some type → ∀ effect,
    (deployment.client client).MayCause type message.handlerMode effect → ∃ command,
      deployment.Commanded sent client command ∧ command.messageType = type ∧
        command.arrivingMode = message.handlerMode

/-- The generator of an end node uses modes that it may send in. -/
structure GeneratorGood (sent : List (Party κ × Outgoing)) (client : κ)
    (endnode : Client.EndnodeProgram) (sender : Sender) : Prop where
  serviceSettingsStruct_eq : sender.serviceSettingsStruct = endnode.serviceConfiguration
  modeGlobal : sender.generator.modeGlobal = 0 ∨
    deployment.MayUse sent client endnode sender.generator.modeGlobal
  opened : sender.generator.trafficGeneratorControl = .threadTransmission →
    deployment.MayUse sent client endnode sender.generator.modeGlobal
  pastGate : sender.phase ≠ .startGate →
    deployment.MayUse sent client endnode sender.generator.modeGlobal
  currentSettings : ∀ settings ∈ sender.currentSettings, ∃ mode,
    deployment.MayUse sent client endnode mode ∧
      endnode.serviceConfiguration[mode]? = some settings
  clientId_eq : sender.clientId = (deployment.client client).clientConfiguration.clientId
  headedBy : sender.HeadedBy (deployment.MaySend sent client)

/-- The invariant of a client. -/
structure ClientGood (sent : List (Party κ × Outgoing)) (client : κ)
    (process : Client.ClientProcess) : Prop where
  setup_eq : process.setup = deployment.client client
  received : process.rmMessage.isSome = true
  queue : ∀ message ∈ process.control.rmClientOutQueue,
    deployment.HandledAsCommanded sent client message
  effects : ∀ effect ∈ process.effects, ∃ command, deployment.Commanded sent client command ∧
    (deployment.client client).MayCause command.messageType command.arrivingMode effect
  inactive : process.control.active = false ∨ process.control.main = .ended →
    deployment.Ended sent client
  generator : ∀ sender ∈ process.trafficGenerator, ∃ endnode,
    (deployment.client client).program = .wiredRmClientEndnode endnode ∧
      deployment.GeneratorGood sent client endnode sender

/-- The safety of the control channel. -/
def controlSafety : Safety deployment.controlPlane where
  good sent
    | .resourceManager, process => deployment.ResourceManagerGood sent process
    | .client client, process => deployment.ClientGood sent client process
  allowed := deployment.Allowed

/-! ### More messages -/

variable {deployment} {sent : List (Party κ × Outgoing)} {client : κ}

theorem Requested.append (h : deployment.Requested sent client)
    (more : List (Party κ × Outgoing)) : deployment.Requested (sent ++ more) client := by
  obtain ⟨now, hmem⟩ := h
  exact ⟨now, List.mem_append_left more hmem⟩

theorem RequestedBy.append {service : UInt64} {owner : UInt32}
    (h : deployment.RequestedBy sent client service owner) (more : List (Party κ × Outgoing)) :
    deployment.RequestedBy (sent ++ more) client service owner :=
  ⟨h.requested.append more, h.service_eq, h.owner_eq⟩

theorem Justified.append {command : ServiceCommand} (h : deployment.Justified sent command)
    (more : List (Party κ × Outgoing)) : deployment.Justified (sent ++ more) command := by
  obtain ⟨owner, loop, hjustified⟩ := h
  exact ⟨owner, loop, hjustified.requested.append more, hjustified.service_eq,
    hjustified.targetAddress_eq, hjustified.messageType_eq, hjustified.mode_mem⟩

theorem Commanded.append {command : ServiceCommand}
    (h : deployment.Commanded sent client command) (more : List (Party κ × Outgoing)) :
    deployment.Commanded (sent ++ more) client command := by
  obtain ⟨uninitialised, now, hmem⟩ := h.sent
  exact ⟨h.justified.append more, h.targetAddress_eq, uninitialised, now,
    List.mem_append_left more hmem⟩

theorem Ended.append (h : deployment.Ended sent client) (more : List (Party κ × Outgoing)) :
    deployment.Ended (sent ++ more) client := by
  cases h with
  | called command hcommand hends => exact .called command (hcommand.append more) hends
  | interrupted hmem => exact .interrupted (List.mem_append_left more hmem)

theorem ClientMessage.append {message : RMMessage}
    (h : deployment.ClientMessage sent client message) (more : List (Party κ × Outgoing)) :
    deployment.ClientMessage (sent ++ more) client message := by
  cases h with
  | request now => exact .request now
  | acknowledgement now command hcommand hcause =>
    exact .acknowledgement now command (hcommand.append more) hcause
  | reconfigureDone now command hcommand hcause =>
    exact .reconfigureDone now command (hcommand.append more) hcause
  | release now hended endnode hprogram => exact .release now (hended.append more) endnode hprogram

theorem MayUse.append {endnode : Client.EndnodeProgram} {mode : UInt32}
    (h : deployment.MayUse sent client endnode mode) (more : List (Party κ × Outgoing)) :
    deployment.MayUse (sent ++ more) client endnode mode := by
  cases h with
  | commanded command hcommand hsets => exact .commanded command (hcommand.append more) hsets
  | resumed command hcommand htype => exact .resumed command (hcommand.append more) htype
  | uninitialised hopen => exact .uninitialised hopen

theorem MaySend.append {settings : ServiceSettings} (h : deployment.MaySend sent client settings)
    (more : List (Party κ × Outgoing)) : deployment.MaySend (sent ++ more) client settings := by
  obtain ⟨endnode, mode, hprogram, hmode, hsettings⟩ := h
  exact ⟨endnode, mode, hprogram, hmode.append more, hsettings⟩

theorem MaySendPacket.append {packet : SentPacket}
    (h : deployment.MaySendPacket sent client packet) (more : List (Party κ × Outgoing)) :
    deployment.MaySendPacket (sent ++ more) client packet := by
  obtain ⟨settings, hsettings, hstarted⟩ := h.startedIn
  exact ⟨h.settings.append more, settings, hsettings.append more, hstarted⟩

theorem MayRun.append {script : String} (h : deployment.MayRun sent client script)
    (more : List (Party κ × Outgoing)) : deployment.MayRun (sent ++ more) client script := by
  obtain ⟨hprogram, command, hcommand, hscript⟩ := h
  exact ⟨hprogram, command, hcommand.append more, hscript⟩

theorem Allowed.append {sender : Party κ} {outgoing : Outgoing}
    (h : deployment.Allowed sent sender outgoing) (more : List (Party κ × Outgoing)) :
    deployment.Allowed (sent ++ more) sender outgoing := by
  cases sender with
  | resourceManager =>
    obtain ⟨command, uninitialised, now, hjustified, houtgoing⟩ := h
    exact ⟨command, uninitialised, now, hjustified.append more, houtgoing⟩
  | client client =>
    cases outgoing with
    | datagram target bytes =>
      obtain ⟨htarget, message, hmessage, hbytes⟩ := h
      exact ⟨htarget, message, hmessage.append more, hbytes⟩
    | packet packet => exact MaySendPacket.append h more
    | script command => exact MayRun.append h more
    | interruption => trivial

theorem ResourceManagerGood.append {process : NetLayerRM.RmProcess}
    (h : deployment.ResourceManagerGood sent process) (more : List (Party κ × Outgoing)) :
    deployment.ResourceManagerGood (sent ++ more) process := by
  refine ⟨h.received, fun message hmessage htype ↦ ?_, fun service message hentry ↦ ?_, h.grows⟩
  · obtain ⟨client, hclient⟩ := h.queue message hmessage htype
    exact ⟨client, hclient.append more⟩
  · obtain ⟨client, hclient⟩ := h.entries service message hentry
    exact ⟨client, hclient.append more⟩

theorem GeneratorGood.append {endnode : Client.EndnodeProgram} {sender : Sender}
    (h : deployment.GeneratorGood sent client endnode sender)
    (more : List (Party κ × Outgoing)) :
    deployment.GeneratorGood (sent ++ more) client endnode sender := by
  refine ⟨h.serviceSettingsStruct_eq, h.modeGlobal.imp_right fun hmode ↦ hmode.append more,
    fun hopen ↦ (h.opened hopen).append more, fun hpast ↦ (h.pastGate hpast).append more,
    fun settings hsettings ↦ ?_, h.clientId_eq, h.headedBy.mono fun _ hsettings ↦
      hsettings.append more⟩
  obtain ⟨mode, hmode, hconfigured⟩ := h.currentSettings settings hsettings
  exact ⟨mode, hmode.append more, hconfigured⟩

theorem ClientGood.append {process : Client.ClientProcess}
    (h : deployment.ClientGood sent client process) (more : List (Party κ × Outgoing)) :
    deployment.ClientGood (sent ++ more) client process := by
  refine ⟨h.setup_eq, h.received, fun message hmessage type htype effect heffect ↦ ?_,
    fun effect heffect ↦ ?_, fun hinactive ↦ (h.inactive hinactive).append more,
    fun sender hsender ↦ ?_⟩
  · obtain ⟨command, hcommand, hsame⟩ := h.queue message hmessage type htype effect heffect
    exact ⟨command, hcommand.append more, hsame⟩
  · obtain ⟨command, hcommand, hcause⟩ := h.effects effect heffect
    exact ⟨command, hcommand.append more, hcause⟩
  · obtain ⟨endnode, hprogram, hgood⟩ := h.generator sender hsender
    exact ⟨endnode, hprogram, hgood.append more⟩

/-! ### Messages that arrive -/

/-- Where a message that arrives at an endpoint comes from. -/
inductive Origin (deployment : Deployment κ) (sent : List (Party κ × Outgoing))
    (target : UdpEndpoint) : RMMessage → Prop where
  | request (owner : κ) (now : ℤ) (h : deployment.Requested sent owner) :
    Origin deployment sent target ((deployment.client owner).syncRequest now)
  | answer (type : MessageTypes) (message : RMMessage) (hcode : message.messageType = type.code)
    (htype : type ∈ [.rmClientSyncReceive, .rmClientSyncReconfigureDone, .rmClientRelease]) :
    Origin deployment sent target message
  | call (command : ServiceCommand) (uninitialised : UninitialisedRequest) (now : ℤ)
    (hjustified : deployment.Justified sent command)
    (htarget : command.targetAddress = some target)
    (hmem : (.resourceManager, .datagram target
      (sendoutControlMessage (command.rmMessageOut uninitialised.bytes now))) ∈ sent) :
    Origin deployment sent target (command.rmMessageOut uninitialised.bytes now)

/-- A datagram on the network is that of a message that can be sent. -/
theorem exists_origin {sender : Party κ} {target : UdpEndpoint} {bytes : List UInt8}
    (hmem : (sender, .datagram target bytes) ∈ sent)
    (hallowed : deployment.Allowed sent sender (.datagram target bytes)) :
    ∃ message, Origin deployment sent target message ∧ message.Sendable ∧
      bytes = sendoutControlMessage message := by
  cases sender with
  | resourceManager =>
    obtain ⟨command, uninitialised, now, hjustified, houtgoing⟩ := hallowed
    obtain ⟨address, haddress, heq⟩ := Option.map_eq_some_iff.mp houtgoing
    obtain ⟨rfl, rfl⟩ := Outgoing.datagram.inj heq
    exact ⟨_, .call command uninitialised now hjustified haddress hmem,
      command.sendable uninitialised now, rfl⟩
  | client owner =>
    obtain ⟨rfl, message, hmessage, rfl⟩ := hallowed
    cases hmessage with
    | request now =>
      exact ⟨_, .request owner now ⟨now, hmem⟩,
        (deployment.client owner).sendable_toSource .rmClientSyncRequest now, rfl⟩
    | acknowledgement now command _ _ =>
      exact ⟨_, .answer .rmClientSyncReceive _ rfl (by decide),
        (deployment.client owner).sendable_toSource .rmClientSyncReceive now, rfl⟩
    | reconfigureDone now command _ _ =>
      exact ⟨_, .answer .rmClientSyncReconfigureDone _ rfl (by decide),
        (deployment.client owner).sendable_toSource .rmClientSyncReconfigureDone now, rfl⟩
    | release now _ _ _ =>
      exact ⟨_, .answer .rmClientRelease _ rfl (by decide),
        (deployment.client owner).sendable_resourceRelease now, rfl⟩

/-- The types of the calls. -/
theorem Justified.messageType_ne {command : ServiceCommand}
    (h : deployment.Justified sent command) : command.messageType ≠ .rmClientSyncRequest := by
  obtain ⟨owner, loop, hjustified⟩ := h
  rw [hjustified.messageType_eq]
  cases loop with
  | synchronousObjects objects _ _ _ => cases objects <;> exact nofun
  | _ => exact nofun

/-- What arrives asks for services as they have been requested. -/
theorem Origin.asksAsRequested {target : UdpEndpoint} {message : RMMessage}
    (h : Origin deployment sent target message) (timeStamp : ℤ) (payload : List UInt8) :
    deployment.AsksAsRequested sent
      { message with timeStamp := timeStamp, payload := payload } := by
  intro hrequest
  cases h with
  | request owner now hrequested => exact ⟨owner, hrequested, rfl, rfl⟩
  | answer type _ hcode htype =>
    have htype' : MessageTypes.ofCode message.messageType = some type := by
      rw [hcode, MessageTypes.ofCode_code]
    rw [htype'] at hrequest
    obtain rfl := Option.some.inj hrequest
    exact absurd htype (by decide)
  | call command uninitialised now hjustified _ _ =>
    have htype : MessageTypes.ofCode command.messageType.code = some .rmClientSyncRequest :=
      hrequest
    rw [MessageTypes.ofCode_code] at htype
    exact absurd (Option.some.inj htype) hjustified.messageType_ne

/-! ### The resource manager -/

variable {process : NetLayerRM.RmProcess}

theorem ResourceManagerGood.receive (h : deployment.ResourceManagerGood sent process)
    {target : UdpEndpoint} {message : RMMessage} (horigin : Origin deployment sent target message)
    (hsendable : message.Sendable) :
    deployment.ResourceManagerGood sent
      (process.step (.receive (sendoutControlMessage message))).1 := by
  unfold NetLayerRM.RmProcess.step
  split_ifs
  · obtain ⟨old, hold⟩ := Option.isSome_iff_exists.mp h.received
    obtain ⟨timeStamp, payload, hreceived⟩ := hsendable.receiveControlMessage_eq old
    simp only [NetLayerRM.RmProcess.receiveMessage, hold, Option.bind_some, hreceived]
    refine ⟨rfl, ?_, h.entries, h.grows⟩
    refine List.forall_mem_append.mpr ⟨h.queue, List.forall_mem_singleton.mpr ?_⟩
    exact horigin.asksAsRequested timeStamp payload
  · exact h

theorem ResourceManagerGood.handle (h : deployment.ResourceManagerGood sent process) :
    deployment.ResourceManagerGood sent (process.step .handle).1 := by
  have hgrows := h.grows.trans (process.grows_step .handle)
  revert hgrows
  unfold NetLayerRM.RmProcess.step
  split_ifs
  · simp only [NetLayerRM.RmProcess.handleMessage]
    cases hqueue : process.nRMInHandleQueue with
    | nil => exact fun _ ↦ h
    | cons message rest =>
      intro hgrows
      have hmessages := h.queue
      rw [hqueue] at hmessages
      obtain ⟨hmessage, hrest⟩ := List.forall_mem_cons.mp hmessages
      refine ⟨h.received, hrest, fun service entry hentry ↦ ?_, hgrows⟩
      rcases NetLayerRM.entry_handleMessage hentry with hbefore | ⟨htype, hservice, hsource⟩
      · exact h.entries service entry hbefore
      · rw [hservice, hsource]
        exact hmessage htype
  · exact fun _ ↦ h

/-- The calls of the thread of the timers are justified. -/
theorem ResourceManagerGood.justified (h : deployment.ResourceManagerGood sent process)
    {currentTime : Timespec} {command : ServiceCommand}
    (hcommand : command ∈ (process.step (.timer currentTime)).2) :
    deployment.Justified sent command := by
  unfold NetLayerRM.RmProcess.step at hcommand
  split_ifs at hcommand
  · obtain ⟨loop, message, hmessage, mode, hmode, hcall⟩ := process.call_of_mem_stepTimer hcommand
    obtain ⟨owner, hrequested⟩ := h.entries _ _ hmessage
    refine ⟨owner, loop, hrequested.requested, hrequested.service_eq, ?_, hcall.messageType_eq, ?_⟩
    · rw [hcall.targetAddress_eq, h.grows.getClientAddress_eq, ← hrequested.owner_eq]
    · rw [hcall.mode_eq, ← hrequested.owner_eq]
      rw [h.grows.experimentParameterStruct_eq] at hmode
      exact hmode
  · exact absurd hcommand List.not_mem_nil

theorem ResourceManagerGood.timer (h : deployment.ResourceManagerGood sent process)
    (currentTime : Timespec) :
    deployment.ResourceManagerGood sent (process.step (.timer currentTime)).1 := by
  have hgrows := h.grows.trans (process.grows_step (.timer currentTime))
  by_cases halive : process.isAlive = true
  · have hstep : process.step (.timer currentTime) = process.stepTimer currentTime :=
      if_pos halive
    rw [hstep] at hgrows ⊢
    obtain ⟨hreceived, hqueue⟩ := process.stepTimer_frame currentTime
    refine ⟨hreceived ▸ h.received, hqueue ▸ h.queue, ?_, hgrows⟩
    rw [(process.sameClients_stepTimer currentTime).serviceList_eq]
    exact h.entries
  · have hstep : process.step (.timer currentTime) = (process, []) := if_neg halive
    rw [hstep]
    exact h

end Deployment

end Tanos
