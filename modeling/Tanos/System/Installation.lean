import Tanos.System.DataPlane

/-!
# Programs started from one configuration file

An `Installation` is a configuration file with the command lines of the resource manager and of its
clients. All of them start complete in the sense of `Startup`, and what they have from the file
makes a deployment, with the sinks of the resource manager a testbed.

`WellFormed` says what the file has to look like: no two units share a client id, or the endpoint of
their control channel, and the modes of a service name the service. No program checks any of it. The
deployment is then one whose configurations fit together (`consistent_deployment`), and every record
of a sink names the service of a command line (`attributed_of_run`).
-/

set_option autoImplicit false
set_option relaxedAutoImplicit false

namespace Tanos

open Library.Network ConfigReader

/-! ### Files -/

/-- The endpoint of a unit's control channel. -/
def UnitConfiguration.controlEndpoint (unit : UnitConfiguration) : Option UdpEndpoint :=
  unit.rmControlLocalIp[0]?.map fun ip ↦ ⟨ip, unit.rmControlLocalPort.toUInt16⟩

theorem controlEndpoint_of_rmAbstraction {unit : UnitConfiguration}
    {localEndpoint rmEndpoint : UdpEndpoint}
    (hendpoints : rmAbstraction unit = some (localEndpoint, rmEndpoint)) :
    unit.controlEndpoint = some localEndpoint := by
  simp only [rmAbstraction, Option.bind_eq_bind, Option.bind_eq_some_iff, Option.pure_def,
    Option.some.injEq, Prod.mk.injEq] at hendpoints
  obtain ⟨localIp, hlocal, _, -, hendpoint, -⟩ := hendpoints
  rw [UnitConfiguration.controlEndpoint, hlocal, ← hendpoint]
  rfl

/-- The id of a unit is the one under which the resource manager keeps it. -/
theorem clientIdOf_of_parseUnit {access : TreeAccess} {entry : String × PTree}
    {unit : UnitConfiguration} (hunit : parseUnit access entry = some unit) :
    clientIdOf access entry = some unit.clientId := by
  simp only [parseUnit, parseUnitSettings, Option.bind_eq_bind, Option.bind_eq_some_iff,
    Option.pure_def, Option.some.injEq] at hunit
  obtain ⟨_, ⟨_, hclient, _, -, _, -, _, -, _, -, _, -, _, -, _, -, rfl⟩, rfl⟩ := hunit
  exact hclient

namespace AcceptedFile

variable {access : TreeAccess} (file : AcceptedFile access)

/-- No two units share a client id or the endpoint of the control channel, and every mode names the
service it belongs to. -/
structure WellFormed : Prop where
  clientIds : ∀ entry ∈ file.entries "UNIT_SETTINGS", ∀ other ∈ file.entries "UNIT_SETTINGS",
    clientIdOf access entry = clientIdOf access other → entry = other
  endpoints : ∀ entry ∈ file.entries "UNIT_SETTINGS", ∀ other ∈ file.entries "UNIT_SETTINGS",
    ∀ unit otherUnit, parseUnit access entry = some unit →
      parseUnit access other = some otherUnit →
      unit.controlEndpoint = otherUnit.controlEndpoint → entry.1 = other.1
  serviceIds : ∀ service mode parameters,
    Configures access (file.entries "SERVICE_SETTINGS") service mode parameters →
      parameters.serviceId = service.toUInt64

/-- `load_unit_settings`, for a file that is read. -/
def unit (hostName : String) : UnitConfiguration := (file.units.subscript hostName).1

/-- `load_service_settings`, for a file that is read, with what the main function of an end node
adds to it when it looks up mode 0. -/
def modes (serviceId : UInt32) : StdMap UInt32 ServiceConfiguration :=
  ((file.services.subscript serviceId).1.subscript 0).2

/-- The unit of a client that starts is in the file, and has the addresses it takes. -/
theorem exists_entry_of_clientStarts {hostName : String} (hstarts : file.ClientStarts hostName) :
    (∃ entry ∈ file.entries "UNIT_SETTINGS", entry.1 = hostName ∧
      parseUnit access entry = some (file.unit hostName)) ∧
      (rmAbstraction (file.unit hostName)).isSome = true := by
  obtain ⟨unit, hload, hfile, htaken⟩ := hstarts
  rw [file.loadUnitSettings_eq] at hload
  obtain rfl := Option.some.inj hload
  exact ⟨hfile, htaken⟩

/-- Assumes: no two units share a client id. The resource manager finds the unit of a client. -/
theorem getElem?_clients {hostName : String} (hfile : file.WellFormed)
    (hstarts : file.ClientStarts hostName) :
    file.clients[(file.unit hostName).clientId]? = some (file.unit hostName) := by
  obtain ⟨⟨entry, hentry, -, hparse⟩, -⟩ := file.exists_entry_of_clientStarts hstarts
  obtain ⟨settings, hsettings, hentries⟩ := file.exists_unitSettings
  have hclientId := clientIdOf_of_parseUnit hparse
  obtain ⟨last, hlast⟩ := exists_lastEntry_of_mem hentry hclientId
  obtain ⟨hmem, hid⟩ := mem_of_lastEntry hlast
  obtain rfl := hfile.clientIds last hmem entry hentry (hid.trans hclientId.symm)
  rw [getElem?_checkUnitSettings hsettings file.clients_eq, ← hentries, hlast, Option.bind_some,
    hparse]

/-- The modes of a service that has mode 0 are those of the file. -/
theorem modes_eq {hostName : String} {serviceId : UInt32}
    (hstarts : file.StartsComplete (.wiredRmClientEndnode hostName serviceId)) :
    file.modes serviceId = (file.services.subscript serviceId).1 := by
  obtain ⟨-, -, hmodes⟩ := hstarts
  have hmode := (file.configures_modeZero_iff serviceId).mp hmodes
  obtain ⟨settings, hsettings, hentries⟩ := file.exists_serviceSettings
  rw [hentries] at hmode
  obtain ⟨parameters, hparameters⟩ := Option.isSome_iff_exists.mp
    (isSome_configured_of_hasMode hsettings file.services_eq hmode)
  obtain ⟨found, hfound, hzero⟩ := Option.bind_eq_some_iff.mp hparameters
  rw [modes, StdMap.subscript_of_getElem? hfound, StdMap.subscript_of_getElem? hzero]

/-- What an end node finds under a mode is configured in the file. -/
theorem configures_of_getElem?_modes {hostName : String} {serviceId mode : UInt32}
    (hstarts : file.StartsComplete (.wiredRmClientEndnode hostName serviceId))
    {parameters : ServiceConfiguration} (hmode : (file.modes serviceId)[mode]? = some parameters) :
    Configures access (file.entries "SERVICE_SETTINGS") serviceId mode parameters := by
  obtain ⟨settings, hsettings, hentries⟩ := file.exists_serviceSettings
  rw [hentries]
  refine configures_of_configured hsettings file.services_eq ?_
  rw [file.modes_eq hstarts, StdMap.subscript_fst] at hmode
  cases hservice : file.services[serviceId]? with
  | none =>
    rw [hservice] at hmode
    exact absurd (Std.ExtTreeMap.getElem?_empty.symm.trans hmode) (by simp)
  | some modes =>
    rw [hservice] at hmode
    rw [ServiceConfigurationMap.configured, hservice]
    exact hmode

end AcceptedFile

/-! ### Programs -/

/-- The representation of a whole number as a `double`. -/
def doubleOf (value : UInt32) : UInt64 :=
  if value = 0 then 0
  else
    let exponent := Nat.log2 value.toNat
    UInt64.ofNat ((1023 + exponent) * 2 ^ 52 + (value.toNat - 2 ^ exponent) * 2 ^ (52 - exponent))

/-- What the objects of an end node find in the memory that they do not initialise. -/
structure EndnodeMemory where
  allocated : Bool
  requestObject : RequestObject
  trafficGeneratorControl : TrafficSourceControl
  timestamp : Timespec

/-- A client with its command line. -/
inductive ClientLaunch where
  | wiredRmClientEndnode (hostName : String) (serviceId : UInt32) (memory : EndnodeMemory)
  | wiredRmClientSwitch (hostName : String)

namespace ClientLaunch

/-- The name of the unit. -/
def hostName : ClientLaunch → String
  | .wiredRmClientEndnode hostName _ _ => hostName
  | .wiredRmClientSwitch hostName => hostName

/-- The command line. -/
def command : ClientLaunch → Command
  | .wiredRmClientEndnode hostName serviceId _ => .wiredRmClientEndnode hostName serviceId
  | .wiredRmClientSwitch hostName => .wiredRmClientSwitch hostName

variable {access : TreeAccess} {file : AcceptedFile access} {launch : ClientLaunch}

theorem clientStarts (hstarts : file.StartsComplete launch.command) :
    file.ClientStarts launch.hostName := by
  cases launch with
  | wiredRmClientEndnode hostName serviceId memory => exact hstarts.2.1
  | wiredRmClientSwitch hostName => exact hstarts

/-- `client_resources_request_mode_0`. -/
def clientResourcesRequestMode0 (unit : UnitConfiguration) (settings : ServiceConfiguration)
    (allocated : Bool) : NetworkResourceRequest where
  clientId := unit.clientId
  serviceId := settings.serviceId.toUInt32
  priority := settings.servicePriority
  bandwidth := doubleOf settings.objectSize
  deadline := settings.deadline.toNat
  dataPath := settings.dataPath
  allocated := allocated

/-- What the main function of a client has from the file. -/
def program (file : AcceptedFile access) : ClientLaunch → Client.ClientProgram
  | .wiredRmClientEndnode hostName serviceId memory =>
    .wiredRmClientEndnode {
      serviceId := serviceId.toUInt64
      serviceConfiguration :=
        (file.modes serviceId).map fun _ parameters ↦ parameters.toServiceSettings
      resourceRequest := clientResourcesRequestMode0 (file.unit hostName)
        ((file.modes serviceId).subscript 0).1 memory.allocated
      requestObject := memory.requestObject
      uninitialisedControl := memory.trafficGeneratorControl
      uninitialisedTimestamp := memory.timestamp }
  | .wiredRmClientSwitch _ => .wiredRmClientSwitch

/-- The client that the main function constructs. -/
def setup (launch : ClientLaunch) (hstarts : file.StartsComplete launch.command) :
    Client.ClientSetup :=
  let hsome := (file.exists_entry_of_clientStarts (clientStarts hstarts)).2
  { clientConfiguration := file.unit launch.hostName
    controlEndpoint := ((rmAbstraction (file.unit launch.hostName)).get hsome).1
    centralRmAddress := ((rmAbstraction (file.unit launch.hostName)).get hsome).2
    rmAbstraction_eq := (Option.some_get hsome).symm
    experimentParameter := file.experiment.toExperimentParameter
    program := launch.program file }

theorem controlEndpoint_setup (hstarts : file.StartsComplete launch.command) :
    (file.unit launch.hostName).controlEndpoint = some (launch.setup hstarts).controlEndpoint :=
  controlEndpoint_of_rmAbstraction (launch.setup hstarts).rmAbstraction_eq

end ClientLaunch

/-- A configuration file, the resource manager and its clients. The control channel of the resource
manager listens on all of its interfaces, one of which the clients send to. -/
structure Installation (κ : Type) (access : TreeAccess) where
  file : AcceptedFile access
  rmHostName : Option String
  rmIpAddress : String
  rmStarts : file.StartsComplete (.wiredRm rmHostName)
  launch : κ → ClientLaunch
  clientStarts : ∀ client, file.StartsComplete (launch client).command
  uninitialised : Timespec

namespace Installation

variable {κ : Type} {access : TreeAccess} (installation : Installation κ access)

/-- The unit of the resource manager. -/
def localRmConfiguration : UnitConfiguration :=
  installation.file.unit (installation.rmHostName.getD "SENSORFUSION")

/-- The programs with what they have from the file. -/
def deployment : Deployment κ where
  rmEndpoint :=
    ⟨installation.rmIpAddress, installation.localRmConfiguration.rmControlLocalPort.toUInt16⟩
  experimentParameter := installation.file.experiment.toExperimentParameter
  endnodeConfigurationMap := installation.file.clients.map fun _ unit ↦ unit.toUnitSettings
  serviceConfigurationMap := installation.file.services.map fun _ modes ↦
    modes.map fun _ parameters ↦ parameters.toServiceSettings
  uninitialised := installation.uninitialised
  client client := (installation.launch client).setup (installation.clientStarts client)
  hasControlAddresses := by
    intro client unit hunit hempty
    have haddress := installation.rmStarts.2 installation.uninitialised client
    have hfound : (installation.file.netLayerRM installation.uninitialised).rmClientConfigMap[
      client]? = some unit := hunit
    rw [NetLayerRM.getClientAddress, hfound] at haddress
    simp [hempty] at haddress

/-- No two clients are started on the same host, and the memory of no generator happens to hold the
value that opens its gate. -/
structure Separate : Prop where
  hosts : Function.Injective fun client ↦ (installation.launch client).hostName
  closed : ∀ client hostName serviceId memory,
    installation.launch client = .wiredRmClientEndnode hostName serviceId memory →
      memory.trafficGeneratorControl ≠ .threadTransmission

variable {installation}

/-- Assumes: the file is well formed. The resource manager knows the endpoint of a client. -/
theorem getClientAddress_deployment (hfile : installation.file.WellFormed) (client : κ) :
    installation.deployment.rm.getClientAddress
        (installation.deployment.client client).clientConfiguration.clientId =
      some (installation.deployment.client client).controlEndpoint := by
  have hstarts := installation.clientStarts client
  have hunit := installation.file.getElem?_clients hfile (ClientLaunch.clientStarts hstarts)
  have hmap : installation.deployment.rm.rmClientConfigMap[
      (installation.deployment.client client).clientConfiguration.clientId]? =
        some (installation.file.unit (installation.launch client).hostName).toUnitSettings := by
    refine Std.ExtTreeMap.getElem?_map.trans ?_
    rw [show installation.file.clients[(installation.deployment.client
      client).clientConfiguration.clientId]? = _ from hunit]
    rfl
  have hendpoint := ClientLaunch.controlEndpoint_setup hstarts
  rw [UnitConfiguration.controlEndpoint, ← List.head?_eq_getElem?] at hendpoint
  rw [NetLayerRM.getClientAddress, hmap]
  exact hendpoint

/-- Assumes: the file is well formed, and the clients are separate. The configurations of the
programs fit together. -/
theorem consistent_deployment (hfile : installation.file.WellFormed)
    (hseparate : installation.Separate) : installation.deployment.Consistent where
  getClientAddress_eq := getClientAddress_deployment hfile
  injective := by
    intro client other hsame
    obtain ⟨⟨entry, hentry, hname, hparse⟩, -⟩ := installation.file.exists_entry_of_clientStarts
      (ClientLaunch.clientStarts (installation.clientStarts client))
    obtain ⟨⟨otherEntry, hotherEntry, hotherName, hotherParse⟩, -⟩ :=
      installation.file.exists_entry_of_clientStarts
        (ClientLaunch.clientStarts (installation.clientStarts other))
    refine hseparate.hosts (hname.symm.trans ((hfile.endpoints entry hentry otherEntry hotherEntry
      _ _ hparse hotherParse ?_).trans hotherName))
    rw [ClientLaunch.controlEndpoint_setup (installation.clientStarts client),
      ClientLaunch.controlEndpoint_setup (installation.clientStarts other)]
    exact congrArg some hsame
  closed := by
    intro client endnode hprogram
    have hprogram' : (installation.launch client).program installation.file =
        .wiredRmClientEndnode endnode := hprogram
    cases hlaunch : installation.launch client with
    | wiredRmClientEndnode hostName serviceId memory =>
      rw [hlaunch] at hprogram'
      rw [← Client.ClientProgram.wiredRmClientEndnode.inj hprogram']
      exact hseparate.closed client hostName serviceId memory hlaunch
    | wiredRmClientSwitch hostName =>
      rw [hlaunch] at hprogram'
      exact absurd hprogram' (by simp [ClientLaunch.program])

/-! ### Records -/

/-- The settings that an end node sends with are those of a mode of its service in the file, and it
has been called in this mode. -/
theorem exists_configures_of_sendsAsCalled {sent : List (Party κ × Outgoing)} {client : κ}
    {settings : ServiceSettings}
    (hsends : installation.deployment.SendsAsCalled sent client settings) :
    ∃ hostName serviceId memory mode parameters,
      installation.launch client = .wiredRmClientEndnode hostName serviceId memory ∧
      Configures access (installation.file.entries "SERVICE_SETTINGS") serviceId mode
        parameters ∧ parameters.toServiceSettings = settings ∧
      installation.deployment.CalledIn sent client mode := by
  obtain ⟨endnode, mode, hprogram, hmode, hcalled⟩ := hsends.exists_calledIn
  have hprogram' : (installation.launch client).program installation.file =
      .wiredRmClientEndnode endnode := hprogram
  have hstarts := installation.clientStarts client
  cases hlaunch : installation.launch client with
  | wiredRmClientEndnode hostName serviceId memory =>
    rw [hlaunch] at hprogram' hstarts
    rw [← Client.ClientProgram.wiredRmClientEndnode.inj hprogram'] at hmode
    obtain ⟨parameters, hparameters, hsame⟩ :=
      Option.map_eq_some_iff.mp (Std.ExtTreeMap.getElem?_map.symm.trans hmode)
    exact ⟨hostName, serviceId, memory, mode, parameters, rfl,
      installation.file.configures_of_getElem?_modes hstarts hparameters, hsame, hcalled⟩
  | wiredRmClientSwitch hostName =>
    rw [hlaunch] at hprogram'
    exact absurd hprogram' (by simp [ClientLaunch.program])

variable (installation)

/-- The threads of the five sinks of the resource manager. -/
def sinkThreads : List TrafficEndpoint :=
  ((trafficSinks installation.localRmConfiguration).getD []).flatMap fun sink ↦
    TrafficSink.threads sink.1 sink.2

/-- The programs with these sinks. -/
def testbed (leadsTo : TrafficEndpoint → TrafficEndpoint → Bool)
    (uninitialised : Fin installation.sinkThreads.length → UInt32) :
    Testbed κ (Fin installation.sinkThreads.length) where
  deployment := installation.deployment
  sinkEndpoint := installation.sinkThreads.get
  leadsTo := leadsTo
  uninitialised := uninitialised

/-- A packet of an end node that the resource manager has called for the service of its command
line, with the header of a mode that the file has for this service, and in which it has been
called. -/
structure SentAsConfigured (past : List (Party κ × Outgoing)) (client : κ) (packet : SentPacket)
    (serviceId : UInt32) : Prop where
  launch : ∃ hostName memory,
    installation.launch client = .wiredRmClientEndnode hostName serviceId memory
  serviceId_eq : packet.message.serviceId = serviceId.toUInt64
  mode : ∃ mode parameters,
    Configures access (installation.file.entries "SERVICE_SETTINGS") serviceId mode
      parameters ∧
    packet.message.StartedIn
      (installation.deployment.client client).clientConfiguration.clientId
      parameters.toServiceSettings ∧
    installation.deployment.CalledIn past client mode ∧
    installation.deployment.SendsAsCalled past client parameters.toServiceSettings

variable {installation} {leadsTo : TrafficEndpoint → TrafficEndpoint → Bool}
  {uninitialised : Fin installation.sinkThreads.length → UInt32}

variable (installation leadsTo) in
/-- The record is that of a packet that has been sent as configured, to the sink. -/
def Attributed (sent : List (Party κ × Outgoing))
    (entry : Fin installation.sinkThreads.length × Testbed.Record) : Prop :=
  ∃ past client packet future serviceId,
    sent = past ++ (.client client, .packet packet) :: future ∧
    leadsTo packet.endpoint (installation.sinkThreads.get entry.1) = true ∧
    entry.2.logged.Describes packet.message ∧
    installation.SentAsConfigured past client packet serviceId

/-- Assumes: the file is well formed, and the clients are separate. In every run of the programs,
every record of a sink names the service of the command line of an end node that has been called for
it. -/
theorem attributed_of_run [DecidableEq κ] (hfile : installation.file.WellFormed)
    (hseparate : installation.Separate)
    (events : List (installation.testbed leadsTo uninitialised).Event) :
    ∀ entry ∈ Library.Runs.outputs Testbed.step
        (installation.testbed leadsTo uninitialised).start events,
      installation.Attributed leadsTo (Library.Runs.finalState Testbed.step
        (installation.testbed leadsTo uninitialised).start events).processes.sent entry := by
  intro entry hentry
  obtain ⟨past, client, packet, future, settings, hsent, hleads, hdescribes, hstarted, hsends⟩ :=
    (Testbed.documented_run (consistent_deployment hfile hseparate) events).documents entry hentry
  obtain ⟨hostName, serviceId, memory, mode, parameters, hlaunch, hconfigures, rfl, hcalled⟩ :=
    exists_configures_of_sendsAsCalled hsends
  refine ⟨past, client, packet, future, serviceId, hsent, hleads, hdescribes,
    ⟨⟨hostName, memory, hlaunch⟩, ?_,
      ⟨mode, parameters, hconfigures, hstarted, hcalled, hsends⟩⟩⟩
  exact hstarted.serviceId_eq.trans (hfile.serviceIds serviceId mode parameters hconfigures)

end Installation

/-! ### A small installation -/

/-- Trees whose translators read one digit. -/
def TreeAccess.oneDigit : TreeAccess where
  getChild := PTree.firstChild
  uint32 text := (["0", "1", "2", "3", "4", "5", "6", "7", "8", "9"].idxOf? text).map UInt32.ofNat
  uint64 text := (["0", "1", "2", "3", "4", "5", "6", "7", "8", "9"].idxOf? text).map UInt64.ofNat
  bool text := (["0", "1"].idxOf? text).map (· == 1)

/-- A unit. -/
def smallUnit (name clientId localIp port : String) : String × PTree :=
  (name, .node "" [("CLIENT_ID", .leaf clientId), ("RM_CONTROL_LOCAL_IP", .list [localIp]),
    ("RM_CONTROL_LOCAL_PORT", .leaf port), ("RM_CONTROL_RM_IP", .list ["10.0.0.1"]),
    ("RM_CONTROL_RM_PORT", .leaf "1"),
    ("SERVICE_LOCAL_IP", .list ["10.0.1.1", "10.0.1.2", "10.0.1.3", "10.0.1.4", "10.0.1.5"]),
    ("SERVICE_LOCAL_PORT", .list ["5"]), ("CLIENT_PRIORITY", .leaf "3")])

/-- The resource manager and an end node, with a service of one kilobyte every nine milliseconds. -/
def smallTree : PTree := .node "" [
  ("UNIT_SETTINGS", .node "" [smallUnit "SENSORFUSION" "0" "10.0.0.1" "1",
    smallUnit "SENSOR1" "4" "10.0.0.2" "2"]),
  ("SERVICE_SETTINGS", .node "" [("7", .node "" [("0", .node "" [("SERVICE_ID", .leaf "7"),
    ("SERVICE_IP", .leaf "10.0.1.1"), ("PORT", .leaf "5"), ("PATH", .list []),
    ("OBJECT_SIZE [KByte]", .leaf "1"), ("DEADLINE [ms]", .leaf "9"), ("PRIORITY", .leaf "3"),
    ("SLOT_OFFSET [ms]", .leaf "0"), ("SLOT_LENGTH [ms]", .leaf "0"),
    ("INTER_PACKET_GAP[us]", .leaf "0"), ("INTER_OBJECT_GAP[us]", .leaf "0")])])]),
  ("EXPERIMENT_SETTINGS", .node "" ([("EXPERIMENT_NUMBER", .leaf "0"),
    ("CLIENT_INIT_TIME[ms]", .leaf "0"), ("EXPERIMENT_BEGIN_OFFSET[ms]", .leaf "0"),
    ("EXPERIMENT_END_OFFSET[ms]", .leaf "0"), ("EXPERIMENT_ITERATIONS", .leaf "1"),
    ("EXPERIMENT_SYNCHRONOUS_START_FLAG", .leaf "0"),
    ("MC_DISTRIBUTION_PHASE_DURATION[ms]", .leaf "1"), ("MC_CLIENT_STOP_OFFSET[ms]", .leaf "0"),
    ("MC_CLIENT_RECONFIG_OFFSET[ms]", .leaf "1"), ("MC_CLIENT_START_OFFSET[ms]", .leaf "1"),
    ("INTER_MC_GAP_MIN[ms]", .leaf "0"), ("INTER_MC_GAP_MAX[ms]", .leaf "0"),
    ("HYPERPERIOD_DURATION[ms]", .leaf "9"), ("EXPERIMENT_STARTUP_MODE", .leaf "0"),
    ("EXPERIMENT_STARTUP_MODE_MAP", .node "" [("0", .node "" [("4", .leaf "0")])]),
    ("EXPERIMENT_RECONFIGURATION_ORDER", .list []),
    ("EXPERIMENT_RECONFIGURATION_MAP", .node "" [])]))]

/-- The file. -/
def smallFile : AcceptedFile .oneDigit where
  tree := smallTree
  units := (checkUnitSettingsString .oneDigit smallTree).get (by decide +kernel)
  clients := (loadRmClientAddresses .oneDigit smallTree).get (by decide +kernel)
  services := (loadRmClientServices .oneDigit smallTree).get (by decide +kernel)
  experiment := (loadExperimentSettings .oneDigit smallTree).get (by decide +kernel)
  units_eq := (Option.some_get _).symm
  clients_eq := (Option.some_get _).symm
  services_eq := (Option.some_get _).symm
  experiment_eq := (Option.some_get _).symm

/-- It has two units. -/
theorem mem_entries_smallFile {entry : String × PTree}
    (hentry : entry ∈ smallFile.entries "UNIT_SETTINGS") :
    entry = smallUnit "SENSORFUSION" "0" "10.0.0.1" "1" ∨
      entry = smallUnit "SENSOR1" "4" "10.0.0.2" "2" := by
  have hentries : smallFile.entries "UNIT_SETTINGS" =
      [smallUnit "SENSORFUSION" "0" "10.0.0.1" "1", smallUnit "SENSOR1" "4" "10.0.0.2" "2"] := rfl
  rw [hentries] at hentry
  simpa using hentry

theorem wellFormed_smallFile : smallFile.WellFormed where
  clientIds entry hentry other hother hsame := by
    rcases mem_entries_smallFile hentry with rfl | rfl <;>
      rcases mem_entries_smallFile hother with rfl | rfl
    · rfl
    · exact absurd hsame (by decide +kernel)
    · exact absurd hsame (by decide +kernel)
    · rfl
  endpoints entry hentry other hother unit otherUnit hunit hotherUnit hsame := by
    have hendpoints : (parseUnit .oneDigit entry).map UnitConfiguration.controlEndpoint =
        (parseUnit .oneDigit other).map UnitConfiguration.controlEndpoint := by
      rw [hunit, hotherUnit, Option.map_some, Option.map_some, hsame]
    rcases mem_entries_smallFile hentry with rfl | rfl <;>
      rcases mem_entries_smallFile hother with rfl | rfl
    · rfl
    · exact absurd hendpoints (by decide +kernel)
    · exact absurd hendpoints (by decide +kernel)
    · rfl
  serviceIds service mode parameters hconfigures := by
    obtain ⟨entry, hentry, hservice, modeEntry, hmode, -, hparse⟩ := hconfigures
    obtain rfl := List.mem_singleton.mp hentry
    obtain rfl := List.mem_singleton.mp hmode
    have hserviceId : (parseServiceSettings .oneDigit _).map (fun found ↦ found.serviceId) =
        some parameters.serviceId := congrArg _ hparse
    have hseven : stoiUInt32 "7" = some 7 := by decide +kernel
    obtain rfl := Option.some.inj (hseven.symm.trans hservice)
    exact (Option.some.inj hserviceId).symm

theorem clientStarts_smallFile {hostName : String} (hmem : hostName ∈ ["SENSORFUSION", "SENSOR1"]) :
    smallFile.ClientStarts hostName := by
  refine (smallFile.clientStarts_iff hostName).mpr ?_
  rcases List.mem_cons.mp hmem with rfl | hmem
  · exact ⟨smallUnit "SENSORFUSION" "0" "10.0.0.1" "1", rfl, by decide⟩
  · obtain rfl := List.mem_singleton.mp hmem
    exact ⟨smallUnit "SENSOR1" "4" "10.0.0.2" "2", rfl, by decide⟩

/-- The end node, with its memory. -/
def smallLaunch : ClientLaunch :=
  .wiredRmClientEndnode "SENSOR1" 7
    ⟨false, RequestObject.ofStart 0, .threadStart, ⟨0, 0⟩⟩

/-- The programs started from the file. -/
def smallInstallation : Installation Unit .oneDigit where
  file := smallFile
  rmHostName := none
  rmIpAddress := "10.0.0.1"
  rmStarts := by
    obtain ⟨⟨entry, hentry, hname, hparse⟩, -⟩ :=
      smallFile.exists_entry_of_clientStarts (clientStarts_smallFile List.mem_cons_self)
    refine ⟨⟨_, smallFile.loadUnitSettings_eq _, ⟨entry, hentry, hname, hparse⟩, ?_⟩, ?_⟩
    · decide +kernel
    · refine smallFile.forall_getClientAddress_iff.mpr fun clientId entry hlast ↦ ?_
      rcases mem_entries_smallFile (mem_of_lastEntry hlast).1 with rfl | rfl
      · decide
      · decide
  launch _ := smallLaunch
  clientStarts _ := by
    have hstarts :=
      clientStarts_smallFile (List.mem_cons_of_mem _ (List.mem_singleton_self "SENSOR1"))
    refine ⟨⟨_, smallFile.loadUnitSettings_eq _, ?_⟩, hstarts,
      (smallFile.configures_modeZero_iff 7).mpr ⟨_, List.mem_singleton_self _, ?_, _,
        List.mem_singleton_self _, ?_⟩⟩
    · decide +kernel
    · decide +kernel
    · decide +kernel
  uninitialised := ⟨0, 0⟩

theorem separate_smallInstallation : smallInstallation.Separate where
  hosts _ _ _ := rfl
  closed _ _ _ _ hlaunch := by
    obtain ⟨-, -, rfl⟩ := ClientLaunch.wiredRmClientEndnode.inj hlaunch
    exact nofun

/-- A network that leads to the endpoint that is asked for. -/
def sameEndpoint (target endpoint : TrafficEndpoint) : Bool := target == endpoint

/-- They with the sinks. -/
abbrev smallTestbed : Testbed Unit (Fin smallInstallation.sinkThreads.length) :=
  smallInstallation.testbed sameEndpoint fun _ ↦ 0

/-- The call that starts the end node. -/
def smallStart : ServiceCommand :=
  ⟨RMCommunication.sendStart (some ⟨"10.0.0.2", 2⟩) rmId 0 7 none, 7⟩

/-- Its first packet. -/
def smallPacket : SentPacket :=
  ⟨⟨"10.0.1.1", 5⟩, ⟨7, "10.0.1.1", 5, 1, 9, 3, 0, 0⟩, (DataMessage.ofPayloadAt 3 4 7 1 0 1
    (List.replicate maxProtocolMessageLength 65) 1024 ⟨0, 0⟩ 0).setTimestamp ⟨0, 0⟩⟩

/-- The end node, as it is constructed. -/
def smallSetup : Client.ClientSetup := smallLaunch.setup (smallInstallation.clientStarts ())

/-- A step of the end node. -/
def smallAct (event : Client.ThreadEvent) : Event smallInstallation.deployment.controlPlane :=
  .act (.client ()) event

/-- The end node asks for its service, is started and sends its first packet. -/
def smallRun : List (Event smallInstallation.deployment.controlPlane) :=
  [smallAct (.request 0),
    .deliver .resourceManager (.datagram ⟨"10.0.0.1", 1⟩
      (RMCommunication.sendoutControlMessage (smallSetup.syncRequest 0))),
    .act .resourceManager ResourceManagerEvent.handle,
    .act .resourceManager (ResourceManagerEvent.timer ⟨0, 0⟩ 0 zeroRequest),
    .act .resourceManager (ResourceManagerEvent.timer ⟨0, 0⟩ 0 zeroRequest),
    smallAct .beginWait,
    .deliver (.client ()) (.datagram ⟨"10.0.0.2", 2⟩
      (RMCommunication.sendoutControlMessage (smallStart.rmMessageOut zeroRequest.bytes 0))),
    smallAct .notify, smallAct (.check false), smallAct (.dequeue [⟨0, 0⟩]),
    smallAct (.perform 0)] ++ List.replicate 11 (smallAct (.send ⟨0, 0⟩))

/-- A step of the processes. -/
def smallProcess (event : Event smallInstallation.deployment.controlPlane) : smallTestbed.Event :=
  .process event

theorem length_sinkThreads_smallInstallation : smallInstallation.sinkThreads.length = 5 := by
  decide +kernel

/-- The sink that its packets go to. -/
def firstSink : Fin smallInstallation.sinkThreads.length :=
  ⟨0, by rw [length_sinkThreads_smallInstallation]; decide⟩

/-- The packet arrives there. -/
def smallEvents : List smallTestbed.Event :=
  smallRun.map smallProcess ++ [.arrive firstSink smallPacket [] ⟨0, 0⟩]

/-- The sink writes a record, for the service on the command line of the end node. -/
theorem attributed_of_run_smallEvents :
    ∃ entry, Library.Runs.outputs Testbed.step smallTestbed.start smallEvents = [entry] ∧
      smallInstallation.Attributed sameEndpoint
        (Library.Runs.finalState Testbed.step smallTestbed.start smallEvents).processes.sent
          entry := by
  have hlength :
      (Library.Runs.outputs Testbed.step smallTestbed.start smallEvents).length = 1 := by
    decide +kernel
  obtain ⟨entry, hentry⟩ := List.length_eq_one_iff.mp hlength
  refine ⟨entry, hentry, ?_⟩
  have hmem : entry ∈ Library.Runs.outputs Testbed.step smallTestbed.start smallEvents := by
    rw [hentry]
    exact List.mem_singleton_self entry
  have hfile : smallInstallation.file.WellFormed := wellFormed_smallFile
  unfold smallTestbed at hmem ⊢
  exact Installation.attributed_of_run hfile separate_smallInstallation smallEvents entry hmem

end Tanos
