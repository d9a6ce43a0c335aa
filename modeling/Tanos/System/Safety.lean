import Tanos.Client.Quiescence
import Tanos.System.ClientSafety

/-!
# Safety of the system

`controlSafety` is inductive, so that it holds throughout every run of a deployment
(`always_controlSafety`). What it says about the processes and the messages of a run is read off
here. Nothing is assumed about the network. The configurations have to fit together only where a
call is traced back to the client that it commands (`Consistent`).
-/

set_option autoImplicit false
set_option relaxedAutoImplicit false

namespace Tanos

open Library Library.Network RMCommunication

namespace Deployment

variable {κ : Type} {deployment : Deployment κ}

/-! ### The invariant -/

theorem resourceManagerGood_start :
    deployment.ResourceManagerGood [] (NetLayerRM.RmProcess.start deployment.rm) := by
  refine ⟨rfl, List.forall_mem_nil _, fun service message hentry ↦ ?_, .refl _⟩
  have hempty : (∅ : StdMap UInt64 RMMessage)[service]? = some message := hentry
  rw [Std.ExtTreeMap.getElem?_empty] at hempty
  exact absurd hempty.symm (Option.some_ne_none message)

theorem clientGood_start (client : κ) :
    deployment.ClientGood [] client (Client.ClientProcess.start (deployment.client client)) := by
  refine ⟨rfl, rfl, List.forall_mem_nil _, List.forall_mem_nil _, nofun, fun sender hsender ↦ ?_⟩
  unfold Client.ClientProcess.start at hsender
  cases hprogram : (deployment.client client).program with
  | wiredRmClientEndnode endnode =>
    simp only [hprogram] at hsender
    obtain rfl := Option.some.inj hsender
    exact ⟨endnode, rfl, rfl, Or.inl rfl, fun hopen ↦ .uninitialised hopen,
      fun hpast ↦ absurd rfl hpast, fun _ hnone ↦ absurd hnone (Option.not_mem_none _), rfl,
      Sender.headedBy_start _ _ _ _⟩
  | wiredRmClientSwitch =>
    simp only [hprogram] at hsender
    exact absurd hsender (Option.not_mem_none sender)

/-- An action keeps the invariant when it does so relative to what had been sent before. -/
theorem keeps_of_before {sent : List (Party κ × Outgoing)} {party : Party κ}
    {result : ProcessState party × List Outgoing}
    (hgood : deployment.controlSafety.good sent party result.1)
    (hallowed : ∀ outgoing ∈ result.2, deployment.Allowed sent party outgoing) :
    deployment.controlSafety.Keeps sent party result := by
  constructor
  · cases party with
    | resourceManager => exact ResourceManagerGood.append hgood _
    | client client => exact ClientGood.append hgood _
  · exact hallowed

/-- Every process keeps the invariant, whatever it receives and does. -/
theorem inductive_controlSafety : deployment.controlSafety.Inductive where
  good_append := by
    intro sent party state more hgood
    cases party with
    | resourceManager => exact ResourceManagerGood.append hgood more
    | client client => exact ClientGood.append hgood more
  allowed_append more hallowed := Allowed.append hallowed more
  keeps_receive := by
    intro sent party state sender outgoing hmem hreceives hallowed hgood
    cases outgoing with
    | packet packet => exact absurd hreceives Bool.false_ne_true
    | script command => exact absurd hreceives Bool.false_ne_true
    | interruption => exact absurd hreceives Bool.false_ne_true
    | datagram target bytes =>
      obtain rfl : target = deployment.endpoint party := beq_iff_eq.mp hreceives
      obtain ⟨message, horigin, hsendable, rfl⟩ := exists_origin hmem hallowed
      cases party with
      | resourceManager =>
        exact keeps_of_before (ResourceManagerGood.receive hgood horigin hsendable)
          (List.forall_mem_nil _)
      | client client =>
        exact keeps_of_before (ClientGood.receive hgood horigin hsendable)
          (List.forall_mem_nil _)
  keeps_act := by
    intro sent party state event hgood
    cases party with
    | resourceManager =>
      cases event with
      | handle =>
        exact keeps_of_before (ResourceManagerGood.handle hgood) (List.forall_mem_nil _)
      | timer currentTime now uninitialised =>
        refine keeps_of_before (ResourceManagerGood.timer hgood currentTime) ?_
        intro outgoing hmem
        obtain ⟨command, hcommand, houtgoing⟩ := List.mem_filterMap.mp hmem
        exact ⟨command, uninitialised, now, ResourceManagerGood.justified hgood hcommand,
          houtgoing⟩
    | client client =>
      obtain ⟨hgood', hallowed⟩ := ClientGood.step hgood event
      rw [← ClientGood.setup_eq hgood] at hgood' hallowed
      exact ⟨hgood', List.forall_mem_map.mpr hallowed⟩

/-- The invariant holds before anything has been sent. -/
theorem holds_start : deployment.controlSafety.Holds deployment.start := by
  refine Safety.holds_of_parties fun party ↦ ?_
  cases party with
  | resourceManager => exact resourceManagerGood_start
  | client client => exact clientGood_start client

variable [DecidableEq κ]

/-- The configuration that a run leads to. -/
def after (deployment : Deployment κ) (events : List (Event deployment.controlPlane)) :
    Configuration deployment.controlPlane :=
  Runs.finalState Configuration.step deployment.start events

/-- The invariant holds after every run. -/
theorem holds_after (events : List (Event deployment.controlPlane)) :
    deployment.controlSafety.Holds (deployment.after events) :=
  inductive_controlSafety.always_holds holds_start events events (List.prefix_refl events)

omit [DecidableEq κ] in
/-- A packet comes from a client, which may send it. -/
theorem exists_client_of_packet {sent : List (Party κ × Outgoing)} {party : Party κ}
    {packet : SentPacket} (hallowed : deployment.Allowed sent party (.packet packet)) :
    ∃ client, party = .client client ∧ deployment.MaySendPacket sent client packet := by
  cases party with
  | resourceManager =>
    obtain ⟨command, uninitialised, now, -, houtgoing⟩ := hallowed
    obtain ⟨target, -, htarget⟩ := Option.map_eq_some_iff.mp houtgoing
    exact absurd htarget nofun
  | client client => exact ⟨client, rfl, hallowed⟩

/-! ### The processes -/

/-- The process of the resource manager. -/
def rmProcess (configuration : Configuration deployment.controlPlane) : NetLayerRM.RmProcess :=
  configuration.parties .resourceManager

/-- The process of a client. -/
def clientProcess (configuration : Configuration deployment.controlPlane) (client : κ) :
    Client.ClientProcess := configuration.parties (.client client)

omit [DecidableEq κ] in
/-- No step of the resource manager takes an entry out of the service list, or changes it. -/
theorem grows_localStep (process : NetLayerRM.RmProcess)
    (input : Outgoing ⊕ ResourceManagerEvent) :
    NetLayerRM.Grows process.rm
      (localStep deployment.controlPlane .resourceManager process input).1.rm := by
  cases input with
  | inl outgoing =>
    cases outgoing with
    | datagram target bytes => exact process.grows_step (.receive bytes)
    | packet packet => exact .refl _
    | script command => exact .refl _
    | interruption => exact .refl _
  | inr event =>
    cases event with
    | handle => exact process.grows_step .handle
    | timer currentTime now uninitialised => exact process.grows_step (.timer currentTime)

/-- What is registered stays registered. -/
theorem grows_after (events later : List (Event deployment.controlPlane)) :
    NetLayerRM.Grows (rmProcess (deployment.after events)).rm
      (rmProcess (deployment.after (events ++ later))).rm := by
  have hlater : deployment.after (events ++ later) =
      Runs.finalState Configuration.step (deployment.after events) later :=
    Runs.finalState_append deployment.start events later
  rw [hlater]
  exact parties_finalState_of_localStep
    (fun process input hgrows ↦ NetLayerRM.Grows.trans hgrows (grows_localStep process input))
    later (NetLayerRM.Grows.refl _)

/-- No process has overrun the payload array of its message object. -/
structure WithinPayloadArrays (configuration : Configuration deployment.controlPlane) : Prop where
  resourceManager : (rmProcess configuration).receivedMessage.isSome = true
  client : ∀ client, (clientProcess configuration client).rmMessage.isSome = true

/-- No process ever overruns the payload array of its message object, whatever arrives. -/
theorem withinPayloadArrays_after (events : List (Event deployment.controlPlane)) :
    WithinPayloadArrays (deployment.after events) := by
  have hholds := holds_after events
  constructor
  · exact ResourceManagerGood.received (hholds.good .resourceManager)
  · exact fun client ↦ ClientGood.received (hholds.good (.client client))

/-- Every service in the service list is that of a client that has asked for it, and belongs to the
id of that client. A later state has the same entry for it. -/
structure OwnedAsRequested (configuration later : Configuration deployment.controlPlane) :
    Prop where
  requested : ∀ (service : UInt64) (message : RMMessage),
    (rmProcess configuration).rm.serviceList.entries[service]? = some message →
      ∃ client, deployment.RequestedBy configuration.sent client service message.sourceId
  kept : ∀ (service : UInt64) (message : RMMessage),
    (rmProcess configuration).rm.serviceList.entries[service]? = some message →
      (rmProcess later).rm.serviceList.entries[service]? = some message

/-- A service belongs to a client that has asked for it, whoever asks for it later. -/
theorem ownedAsRequested_after (events later : List (Event deployment.controlPlane)) :
    OwnedAsRequested (deployment.after events) (deployment.after (events ++ later)) :=
  ⟨ResourceManagerGood.entries ((holds_after events).good .resourceManager),
    (grows_after events later).entries⟩

/-! ### The messages -/

/-- Every call is a call for a service that somebody has asked for before. -/
def CallsJustified (configuration : Configuration deployment.controlPlane) : Prop :=
  ∀ past target bytes future,
    configuration.sent = past ++ (.resourceManager, .datagram target bytes) :: future →
      ∃ command uninitialised now, deployment.Justified past command ∧
        ServiceCommand.outgoing command uninitialised now = some (.datagram target bytes)

/-- The resource manager makes no call without a request. -/
theorem callsJustified_after (events : List (Event deployment.controlPlane)) :
    CallsJustified (deployment.after events) := by
  intro past target bytes future hsent
  exact (holds_after events).allowed hsent

/-- Every message of a client is its request, an answer to a call that has been made to it before,
or its release behind a signal. -/
def MessagesCommanded (configuration : Configuration deployment.controlPlane) : Prop :=
  ∀ past client target bytes future,
    configuration.sent = past ++ (.client client, .datagram target bytes) :: future →
      target = (deployment.client client).centralRmAddress ∧
        ∃ message, deployment.ClientMessage past client message ∧
          bytes = sendoutControlMessage message

/-- A client acknowledges nothing without a call that has it do so, and does not give up its
service without such a call or a signal. -/
theorem messagesCommanded_after (events : List (Event deployment.controlPlane)) :
    MessagesCommanded (deployment.after events) := by
  intro past client target bytes future hsent
  exact (holds_after events).allowed hsent

/-- Every packet is sent with the settings of a mode that its end node may send in by then. -/
def PacketsCommanded (configuration : Configuration deployment.controlPlane) : Prop :=
  ∀ past client packet future,
    configuration.sent = past ++ (.client client, .packet packet) :: future →
      deployment.MaySend past client packet.settings

/-- No traffic without a command. -/
theorem packetsCommanded_after (events : List (Event deployment.controlPlane)) :
    PacketsCommanded (deployment.after events) := by
  intro past client packet future hsent
  have hallowed : deployment.MaySendPacket past client packet := (holds_after events).allowed hsent
  exact hallowed.settings

/-- Every script is run by a switch that has been commanded to the mode of the script by then. -/
def ScriptsCommanded (configuration : Configuration deployment.controlPlane) : Prop :=
  ∀ past client script future,
    configuration.sent = past ++ (.client client, .script script) :: future →
      deployment.MayRun past client script

/-- No reconfiguration of a switch without a command. -/
theorem scriptsCommanded_after (events : List (Event deployment.controlPlane)) :
    ScriptsCommanded (deployment.after events) := by
  intro past client script future hsent
  exact (holds_after events).allowed hsent

/-! ### Configurations that fit together -/

/-- The resource manager knows the endpoints of all clients, which are different, and the memory of
no generator happens to hold the value that opens its gate. -/
structure Consistent (deployment : Deployment κ) : Prop where
  getClientAddress_eq : ∀ client, deployment.rm.getClientAddress
    (deployment.client client).clientConfiguration.clientId =
      some (deployment.client client).controlEndpoint
  injective : Function.Injective fun client ↦ (deployment.client client).controlEndpoint
  closed : ∀ client endnode, (deployment.client client).program = .wiredRmClientEndnode endnode →
    endnode.uninitialisedControl ≠ .threadTransmission

omit [DecidableEq κ] in
/-- A call to a client is one for the service it has asked for. -/
theorem Consistent.exists_justifiedBy (hconsistent : deployment.Consistent)
    {sent : List (Party κ × Outgoing)} {client : κ} {command : ServiceCommand}
    (hcommand : deployment.Commanded sent client command) :
    ∃ loop, deployment.JustifiedBy sent client loop command := by
  obtain ⟨owner, loop, hjustified⟩ := hcommand.justified
  have hendpoint : some (deployment.client owner).controlEndpoint =
      some (deployment.client client).controlEndpoint := by
    rw [← hconsistent.getClientAddress_eq owner, ← hjustified.targetAddress_eq,
      hcommand.targetAddress_eq]
  obtain rfl := hconsistent.injective (Option.some.inj hendpoint)
  exact ⟨loop, hjustified⟩

/-- The end node has asked for its service, and a loop of the resource manager has called it for
that service, with a mode of its own. It sends with the settings of this mode, or of the first one
if the call is to go on after a reconfiguration. -/
def SendsAsCalled (deployment : Deployment κ) (sent : List (Party κ × Outgoing)) (client : κ)
    (settings : ServiceSettings) : Prop :=
  ∃ endnode loop command,
    (deployment.client client).program = .wiredRmClientEndnode endnode ∧
    deployment.Commanded sent client command ∧
    deployment.JustifiedBy sent client loop command ∧
    (Client.Endnode.setsMode command.messageType = true ∧
        endnode.serviceConfiguration[command.arrivingMode]? = some settings ∨
      command.messageType = .rmClientSyncTimestampReconfigureHw ∧
        endnode.serviceConfiguration[(0 : UInt32)]? = some settings)

/-- The end node has asked for its service, and a loop of the resource manager has called it for
that service: in this mode, as far as the byte of the message holds it, or for a reconfiguration of
the hardware, behind which it goes on in mode 0. -/
def CalledIn (deployment : Deployment κ) (sent : List (Party κ × Outgoing)) (client : κ)
    (mode : UInt32) : Prop :=
  ∃ loop command, deployment.Commanded sent client command ∧
    deployment.JustifiedBy sent client loop command ∧
    (Client.Endnode.setsMode command.messageType = true ∧ mode = command.arrivingMode ∨
      command.messageType = .rmClientSyncTimestampReconfigureHw ∧ mode = 0)

omit [DecidableEq κ] in
/-- The settings that an end node sends with are those of a mode that it has been called in. -/
theorem SendsAsCalled.exists_calledIn {sent : List (Party κ × Outgoing)} {client : κ}
    {settings : ServiceSettings} (h : deployment.SendsAsCalled sent client settings) :
    ∃ endnode mode, (deployment.client client).program = .wiredRmClientEndnode endnode ∧
      endnode.serviceConfiguration[mode]? = some settings ∧
      deployment.CalledIn sent client mode := by
  obtain ⟨endnode, loop, command, hprogram, hcommand, hjustified, hmodes⟩ := h
  rcases hmodes with ⟨hsets, hsettings⟩ | ⟨htype, hsettings⟩
  · exact ⟨endnode, _, hprogram, hsettings, loop, command, hcommand, hjustified,
      Or.inl ⟨hsets, rfl⟩⟩
  · exact ⟨endnode, 0, hprogram, hsettings, loop, command, hcommand, hjustified,
      Or.inr ⟨htype, rfl⟩⟩

omit [DecidableEq κ] in
/-- A mode that an end node may send in is one that it has been called for. -/
theorem Consistent.sendsAsCalled_of_maySend (hconsistent : deployment.Consistent)
    {sent : List (Party κ × Outgoing)} {client : κ} {settings : ServiceSettings}
    (hmaySend : deployment.MaySend sent client settings) :
    deployment.SendsAsCalled sent client settings := by
  obtain ⟨endnode, mode, hprogram, hmode, hsettings⟩ := hmaySend
  cases hmode with
  | commanded command hcommand hsets =>
    obtain ⟨loop, hjustified⟩ := hconsistent.exists_justifiedBy hcommand
    exact ⟨endnode, loop, command, hprogram, hcommand, hjustified, Or.inl ⟨hsets, hsettings⟩⟩
  | resumed command hcommand htype =>
    obtain ⟨loop, hjustified⟩ := hconsistent.exists_justifiedBy hcommand
    exact ⟨endnode, loop, command, hprogram, hcommand, hjustified, Or.inr ⟨htype, hsettings⟩⟩
  | uninitialised hopen => exact absurd hopen (hconsistent.closed client endnode hprogram)

/-- Assumes: the configurations fit together. Every end node that sends a packet has been called for
the service that it has asked for, in the mode the experiment has for it. -/
theorem Consistent.sendsAsCalled (hconsistent : deployment.Consistent)
    (events : List (Event deployment.controlPlane)) (past : List (Party κ × Outgoing))
    (client : κ) (packet : SentPacket) (future : List (Party κ × Outgoing))
    (hsent : (deployment.after events).sent =
      past ++ (.client client, .packet packet) :: future) :
    deployment.SendsAsCalled past client packet.settings := by
  have hallowed : deployment.MaySendPacket past client packet := (holds_after events).allowed hsent
  exact hconsistent.sendsAsCalled_of_maySend hallowed.settings

end Deployment

/-! ### A single end node -/

/-- The deployment of this end node, with an asynchronous start. -/
def singleDeployment : Deployment Unit where
  rmEndpoint := ⟨"192.168.0.99", 4001⟩
  experimentParameter :=
    { NetLayerRM.singleParameter 1000 100 100 100 with synchronousStartMode := false }
  endnodeConfigurationMap :=
    (∅ : StdMap UInt32 UnitSettings).insert 1 singleUnitConfiguration.toUnitSettings
  serviceConfigurationMap := ∅
  uninitialised := ⟨0, 0⟩
  client _ := singleSetup
  hasControlAddresses := by
    intro client unit hunit
    have hunit' : ((∅ : StdMap UInt32 UnitSettings).insert 1
        singleUnitConfiguration.toUnitSettings)[client]? = some unit := hunit
    rw [StdMap.getElem?_insert] at hunit'
    split_ifs at hunit' with hclient
    · rw [← Option.some.inj hunit']
      exact List.cons_ne_nil _ _
    · rw [Std.ExtTreeMap.getElem?_empty] at hunit'
      exact absurd hunit'.symm (Option.some_ne_none unit)

/-- The bytes that are not initialised are zero. -/
def zeroRequest : UninitialisedRequest := ⟨List.replicate 64 0, rfl⟩

/-- The call that starts the end node. -/
def singleStart : ServiceCommand :=
  ⟨RMCommunication.sendStart (some ⟨"192.168.0.1", 4000⟩) rmId 0 1 none, 1⟩

/-- A step of the end node. -/
def singleAct (event : Client.ThreadEvent) : Event singleDeployment.controlPlane :=
  .act (.client ()) event

/-- The end node asks for its service, is started and sends its first packet. -/
def singleRun : List (Event singleDeployment.controlPlane) :=
  [singleAct (.request 0),
    .deliver .resourceManager (.datagram ⟨"192.168.0.99", 4001⟩
      (sendoutControlMessage (singleSetup.syncRequest 0))),
    .act .resourceManager ResourceManagerEvent.handle,
    .act .resourceManager (ResourceManagerEvent.timer ⟨0, 0⟩ 0 zeroRequest),
    .act .resourceManager (ResourceManagerEvent.timer ⟨0, 0⟩ 0 zeroRequest),
    singleAct .beginWait,
    .deliver (.client ()) (.datagram ⟨"192.168.0.1", 4000⟩
      (sendoutControlMessage (singleStart.rmMessageOut zeroRequest.bytes 0))),
    singleAct .notify, singleAct (.check false), singleAct (.dequeue [⟨0, 0⟩]),
    singleAct (.perform 0)] ++ List.replicate 10 (singleAct (.send ⟨0, 0⟩))

/-- The first packet. -/
def singlePacket : SentPacket :=
  ⟨⟨"10.0.0.7", 5000⟩, Sender.twoPackets, (DataMessage.ofPayloadAt 3 1 7 1 0 2
    (List.replicate maxProtocolMessageLength 65) maxProtocolMessageLength ⟨0, 0⟩ 0).setTimestamp
      ⟨0, 0⟩⟩

theorem consistent_singleDeployment : singleDeployment.Consistent where
  getClientAddress_eq := by
    have haddress : singleDeployment.rm.getClientAddress 1 = some singleSetup.controlEndpoint := by
      decide +kernel
    exact fun _ ↦ haddress
  injective _ _ _ := rfl
  closed _ _ hprogram := by
    obtain rfl := Client.ClientProgram.wiredRmClientEndnode.inj hprogram
    exact nofun

theorem sendsAsCalled_singleRun :
    ∃ past, singleDeployment.SendsAsCalled past () Sender.twoPackets := by
  have hlast : (singleDeployment.after singleRun).sent.getLast? =
      some (.client (), .packet singlePacket) := by decide +kernel
  obtain ⟨past, hpast⟩ := List.getLast?_eq_some_iff.mp hlast
  exact ⟨past, consistent_singleDeployment.sendsAsCalled singleRun past () singlePacket [] hpast⟩

end Tanos
