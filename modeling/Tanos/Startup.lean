import Tanos.Rm.ServiceLookups
import Tanos.Utils.ConfigLoaders

/-!
# The start of the programs

The three programs load their configuration from one file and take fixed positions of its lists:
the clients the first address of the control channel and of the resource manager, the resource
manager five addresses for its sinks and the first address of every client it answers.

`AcceptedFile` is a file that the loaders read without an exception. Nothing they check makes a list
long enough, or the name and the id on the command line a part of the file. `startsComplete_iff`
says what the file has to contain for a command line. The resource manager goes on looking service
settings up while it runs: `runsComplete_iff` adds what the file has to contain for the clients that
ask to be managed.
-/

set_option autoImplicit false
set_option relaxedAutoImplicit false

namespace Tanos

open Library ConfigReader

/-! ### What the programs take from their configuration -/

/-- The constructor of `RMAbstraction`: the endpoint of the control channel, and that of the
resource manager. None where it reads beyond the end of a list. -/
def rmAbstraction (clientConfiguration : UnitConfiguration) :
    Option (UdpEndpoint × UdpEndpoint) := do
  let localIp ← clientConfiguration.rmControlLocalIp[0]?
  let rmIp ← clientConfiguration.rmControlRmIp[0]?
  return (⟨localIp, clientConfiguration.rmControlLocalPort.toUInt16⟩,
    ⟨rmIp, clientConfiguration.rmControlRmPort.toUInt16⟩)

/-- The local endpoint of `TrafficGenerator`. -/
def trafficEndpointLocal (clientConfiguration : UnitConfiguration) : Option UdpEndpoint := do
  let localIp ← clientConfiguration.rmControlLocalIp[0]?
  return ⟨localIp, 10000⟩

/-- The addresses of the five sinks of the resource manager, each with the ports. -/
def trafficSinks (localRmConfiguration : UnitConfiguration) :
    Option (List (String × List UInt32)) := do
  let ip1 ← localRmConfiguration.serviceLocalIp[0]?
  let ip2 ← localRmConfiguration.serviceLocalIp[1]?
  let ip3 ← localRmConfiguration.serviceLocalIp[2]?
  let ip4 ← localRmConfiguration.serviceLocalIp[3]?
  let ip5 ← localRmConfiguration.serviceLocalIp[4]?
  return [ip1, ip2, ip3, ip4, ip5].map fun ip ↦ (ip, localRmConfiguration.serviceLocalPort)

theorem isSome_rmAbstraction_iff (unit : UnitConfiguration) :
    (rmAbstraction unit).isSome = true ↔
      1 ≤ unit.rmControlLocalIp.length ∧ 1 ≤ unit.rmControlRmIp.length := by
  unfold rmAbstraction
  cases unit.rmControlLocalIp with
  | nil => simp
  | cons localIp _ =>
    cases unit.rmControlRmIp with
    | nil => simp
    | cons rmIp _ => simp

theorem isSome_trafficEndpointLocal_iff (unit : UnitConfiguration) :
    (trafficEndpointLocal unit).isSome = true ↔ 1 ≤ unit.rmControlLocalIp.length := by
  unfold trafficEndpointLocal
  cases unit.rmControlLocalIp with
  | nil => simp
  | cons localIp _ => simp

theorem isSome_trafficSinks_iff (unit : UnitConfiguration) :
    (trafficSinks unit).isSome = true ↔ 5 ≤ unit.serviceLocalIp.length := by
  constructor
  · intro hsinks
    obtain ⟨sinks, hsinks⟩ := Option.isSome_iff_exists.mp hsinks
    simp only [trafficSinks, Option.bind_eq_bind, Option.bind_eq_some_iff] at hsinks
    obtain ⟨_, -, _, -, _, -, _, -, ip5, hip5, -⟩ := hsinks
    obtain ⟨hlength, -⟩ := List.getElem?_eq_some_iff.mp hip5
    exact hlength
  · intro hlength
    simp only [trafficSinks]
    rw [List.getElem?_eq_getElem (by omega), List.getElem?_eq_getElem (by omega),
      List.getElem?_eq_getElem (by omega), List.getElem?_eq_getElem (by omega),
      List.getElem?_eq_getElem (by omega)]
    rfl

/-! ### Files -/

/-- A configuration file that all loaders read without an exception. -/
structure AcceptedFile (access : TreeAccess) where
  tree : PTree
  units : StdMap String UnitConfiguration
  clients : StdMap UInt32 UnitConfiguration
  services : ServiceConfigurationMap
  experiment : ExperimentConfiguration
  units_eq : checkUnitSettingsString access tree = some units
  clients_eq : loadRmClientAddresses access tree = some clients
  services_eq : loadRmClientServices access tree = some services
  experiment_eq : loadExperimentSettings access tree = some experiment

/-- The programs with their command lines. -/
inductive Command where
  | wiredRm (hostName : Option String)
  | wiredRmClientEndnode (hostName : String) (serviceId : UInt32)
  | wiredRmClientSwitch (hostName : String)
deriving DecidableEq, Repr

namespace AcceptedFile

variable {access : TreeAccess}

/-- The entries of a part of the file. -/
def entries (file : AcceptedFile access) (key : String) : List (String × PTree) :=
  ((access.getChild file.tree key).map PTree.children).getD []

/-- The resource manager that `wired_rm` constructs. -/
def netLayerRM (file : AcceptedFile access) (uninitialised : Timespec) : NetLayerRM :=
  NetLayerRM.new file.experiment.toExperimentParameter
    (file.clients.map fun _ unit ↦ unit.toUnitSettings)
    (file.services.map fun _ modes ↦ modes.map fun _ settings ↦ settings.toServiceSettings)
    uninitialised

/-- The settings are those of a unit of the file with this name. -/
def UnitFromFile (file : AcceptedFile access) (name : String) (unit : UnitConfiguration) :
    Prop :=
  ∃ entry ∈ file.entries "UNIT_SETTINGS", entry.1 = name ∧
    parseUnit access entry = some unit

/-- A client has its settings from the file, and finds the addresses it takes in them. -/
def ClientStarts (file : AcceptedFile access) (hostName : String) : Prop :=
  ∃ unit, loadUnitSettings access file.tree hostName = some unit ∧
    file.UnitFromFile hostName unit ∧ (rmAbstraction unit).isSome = true

/-- The settings a program uses come from the file, and every position it takes is there. -/
def StartsComplete (file : AcceptedFile access) : Command → Prop
  | .wiredRm hostName =>
    (∃ unit, loadUnitSettings access file.tree (hostName.getD "SENSORFUSION") = some unit ∧
      file.UnitFromFile (hostName.getD "SENSORFUSION") unit ∧ (trafficSinks unit).isSome = true) ∧
    ∀ uninitialised endnodeId,
      ((file.netLayerRM uninitialised).getClientAddress endnodeId).isSome = true
  | .wiredRmClientEndnode hostName serviceId =>
    (∃ unit, loadUnitSettings access file.tree hostName = some unit ∧
      (trafficEndpointLocal unit).isSome = true) ∧
    file.ClientStarts hostName ∧
    ∃ modes, loadServiceSettings access file.tree serviceId = some modes ∧
      Configures access (file.entries "SERVICE_SETTINGS") serviceId 0 (modes.subscript 0).1
  | .wiredRmClientSwitch hostName => file.ClientStarts hostName

/-- Whichever settings the process of the resource manager has for a service and a mode, they are
those of the file, as long as only these clients ask for their services. `operator[]` creates other
ones where it finds none. -/
def LooksUpConfigured (file : AcceptedFile access) (clients : Set (UInt32 × UInt64)) : Prop :=
  ∀ uninitialised events,
    let process := NetLayerRM.RmProcess.start (file.netLayerRM uninitialised)
    Runs.Always NetLayerRM.RmProcess.step (NetLayerRM.RmProcess.RequestsFrom clients) process
        events →
      ∀ service mode settings,
        (Runs.finalState NetLayerRM.RmProcess.step process events).rm.rmClientServiceMap.find
            service mode = some settings →
          ∃ parameters, parameters.toServiceSettings = settings ∧
            Configures access (file.entries "SERVICE_SETTINGS") service mode parameters

/-- The settings a program uses come from the file, and every position it takes is there, also while
the resource manager runs its experiment with these clients. -/
def RunsComplete (file : AcceptedFile access) (clients : Set (UInt32 × UInt64)) : Command → Prop
  | .wiredRm hostName => file.StartsComplete (.wiredRm hostName) ∧ file.LooksUpConfigured clients
  | command => file.StartsComplete command

/-- The last unit with a name has lists of these lengths. -/
def HasUnit (file : AcceptedFile access) (name : String) (lengths : List (String × ℕ)) :
    Prop :=
  ∃ entry, lastEntry (fun unit ↦ some unit.1) (file.entries "UNIT_SETTINGS") name = some entry ∧
    ∀ list ∈ lengths, list.2 ≤ access.listLength entry.2 list.1

/-- What the file has to contain. A client needs a unit with its name and one address in each of two
lists, and an endnode mode 0 of its service. The resource manager needs a unit with its name and
five addresses, and the last unit of every client id needs an address. -/
def Provides (file : AcceptedFile access) : Command → Prop
  | .wiredRm hostName =>
    file.HasUnit (hostName.getD "SENSORFUSION") [("SERVICE_LOCAL_IP", 5)] ∧
      ∀ clientId entry,
        lastEntry (clientIdOf access) (file.entries "UNIT_SETTINGS") clientId = some entry →
          1 ≤ access.listLength entry.2 "RM_CONTROL_LOCAL_IP"
  | .wiredRmClientEndnode hostName serviceId =>
    file.HasUnit hostName [("RM_CONTROL_LOCAL_IP", 1), ("RM_CONTROL_RM_IP", 1)] ∧
      HasMode (file.entries "SERVICE_SETTINGS") serviceId 0
  | .wiredRmClientSwitch hostName =>
    file.HasUnit hostName [("RM_CONTROL_LOCAL_IP", 1), ("RM_CONTROL_RM_IP", 1)]

/-- The file has the service of every client in all modes in which the resource manager looks it
up. It is looked up by the lower 32 bits of its id. -/
def ProvidesServices (file : AcceptedFile access) (clients : Set (UInt32 × UInt64)) : Prop :=
  ∀ client ∈ clients, ∀ mode,
    NetLayerRM.LooksUp file.experiment.toExperimentParameter client.1 mode →
      HasMode (file.entries "SERVICE_SETTINGS") client.2.toUInt32 mode

/-- What the file has to contain for a program that runs with these clients. -/
def ProvidesRun (file : AcceptedFile access) (clients : Set (UInt32 × UInt64)) : Command → Prop
  | .wiredRm hostName => file.Provides (.wiredRm hostName) ∧ file.ProvidesServices clients
  | command => file.Provides command

variable (file : AcceptedFile access)

/-- The part of the file with the units. -/
theorem exists_unitSettings : ∃ settings,
    access.getChild file.tree "UNIT_SETTINGS" = some settings ∧
      file.entries "UNIT_SETTINGS" = settings.children := by
  obtain ⟨settings, hsettings, -⟩ := Option.bind_eq_some_iff.mp file.units_eq
  exact ⟨settings, hsettings, by rw [entries, hsettings]; rfl⟩

/-- The part of the file with the services. -/
theorem exists_serviceSettings : ∃ settings,
    access.getChild file.tree "SERVICE_SETTINGS" = some settings ∧
      file.entries "SERVICE_SETTINGS" = settings.children := by
  obtain ⟨settings, hsettings, -⟩ := Option.bind_eq_some_iff.mp file.services_eq
  exact ⟨settings, hsettings, by rw [entries, hsettings]; rfl⟩

/-- Every unit of the file has been parsed. -/
theorem exists_parseUnit {entry : String × PTree} (hentry : entry ∈ file.entries "UNIT_SETTINGS") :
    ∃ unit, parseUnit access entry = some unit := by
  obtain ⟨settings, hsettings, hentries⟩ := file.exists_unitSettings
  have hunits := file.units_eq
  rw [checkUnitSettingsString, hsettings] at hunits
  rw [hentries] at hentry
  exact exists_value_of_assignAll hunits hentry

theorem loadUnitSettings_eq (name : String) :
    loadUnitSettings access file.tree name = some (file.units.subscript name).1 := by
  rw [loadUnitSettings, file.units_eq]
  rfl

theorem loadServiceSettings_eq (serviceId : UInt32) :
    loadServiceSettings access file.tree serviceId =
      some (file.services.subscript serviceId).1 := by
  have hservices : checkServiceSettings access file.tree = some file.services :=
    file.services_eq
  rw [loadServiceSettings, hservices]
  rfl

/-- A program that is started with the name of a unit gets the last one of this name. -/
theorem loadUnitSettings_of_lastEntry {name : String} {entry : String × PTree}
    (hentry : lastEntry (fun unit ↦ some unit.1) (file.entries "UNIT_SETTINGS") name =
      some entry) :
    ∃ unit, loadUnitSettings access file.tree name = some unit ∧
      file.UnitFromFile name unit ∧ parseUnit access entry = some unit := by
  obtain ⟨settings, hsettings, hentries⟩ := file.exists_unitSettings
  obtain ⟨hmem, hname⟩ := mem_of_lastEntry hentry
  obtain ⟨unit, hunit⟩ := file.exists_parseUnit hmem
  have hfound := getElem?_checkUnitSettingsString hsettings file.units_eq name
  rw [← hentries, hentry, Option.bind_some, hunit] at hfound
  refine ⟨unit, ?_, ⟨entry, hmem, Option.some.inj hname, hunit⟩, hunit⟩
  rw [file.loadUnitSettings_eq, StdMap.subscript_of_getElem? hfound]

/-- Assumes: what a program takes is there precisely when the lists of its unit have these lengths.
It then finds a unit and what it takes precisely when the file has such a unit. -/
theorem exists_unit_iff_hasUnit {taken : UnitConfiguration → Prop} {lengths : List (String × ℕ)}
    (htaken : ∀ entry unit, parseUnit access entry = some unit →
      (taken unit ↔ ∀ list ∈ lengths, list.2 ≤ access.listLength entry.2 list.1)) (name : String) :
    (∃ unit, loadUnitSettings access file.tree name = some unit ∧
        file.UnitFromFile name unit ∧ taken unit) ↔ file.HasUnit name lengths := by
  constructor
  · rintro ⟨unit, hload, ⟨entry, hmem, hname, -⟩, htake⟩
    obtain ⟨last, hlast⟩ : ∃ last, lastEntry (fun unit ↦ some unit.1)
        (file.entries "UNIT_SETTINGS") name = some last :=
      exists_lastEntry_of_mem hmem (congrArg some hname)
    obtain ⟨lastUnit, hlastLoad, -, hparse⟩ := file.loadUnitSettings_of_lastEntry hlast
    rw [hload, Option.some_inj] at hlastLoad
    rw [← hlastLoad] at hparse
    exact ⟨last, hlast, (htaken last unit hparse).mp htake⟩
  · rintro ⟨entry, hlast, hlengths⟩
    obtain ⟨unit, hload, hfile, hparse⟩ := file.loadUnitSettings_of_lastEntry hlast
    exact ⟨unit, hload, hfile, (htaken entry unit hparse).mpr hlengths⟩

theorem clientStarts_iff (hostName : String) :
    file.ClientStarts hostName ↔
      file.HasUnit hostName [("RM_CONTROL_LOCAL_IP", 1), ("RM_CONTROL_RM_IP", 1)] := by
  refine file.exists_unit_iff_hasUnit ?_ hostName
  intro entry unit hparse
  obtain ⟨hlocal, hrm, -⟩ := length_parseUnit hparse
  rw [isSome_rmAbstraction_iff, hlocal, hrm]
  simp

/-- The resource manager finds an address for every client precisely when the units have one. -/
theorem forall_getClientAddress_iff :
    (∀ uninitialised endnodeId,
        ((file.netLayerRM uninitialised).getClientAddress endnodeId).isSome = true) ↔
      ∀ clientId entry,
        lastEntry (clientIdOf access) (file.entries "UNIT_SETTINGS") clientId = some entry →
          1 ≤ access.listLength entry.2 "RM_CONTROL_LOCAL_IP" := by
  obtain ⟨settings, hsettings, hentries⟩ := file.exists_unitSettings
  have hclients := getElem?_checkUnitSettings hsettings file.clients_eq
  have haddress (uninitialised : Timespec) (endnodeId : UInt32) :
      ((file.netLayerRM uninitialised).getClientAddress endnodeId).isSome = true ↔
        ∀ unit, file.clients[endnodeId]? = some unit → 1 ≤ unit.rmControlLocalIp.length := by
    have hmap : (file.netLayerRM uninitialised).rmClientConfigMap[endnodeId]? =
        file.clients[endnodeId]?.map UnitConfiguration.toUnitSettings :=
      Std.ExtTreeMap.getElem?_map
    rw [NetLayerRM.getClientAddress, hmap]
    cases file.clients[endnodeId]? with
    | none => simp
    | some unit => cases hlist : unit.rmControlLocalIp <;> simp [hlist]
  rw [hentries]
  constructor
  · intro hfound clientId entry hlast
    obtain ⟨hmem, -⟩ := mem_of_lastEntry hlast
    obtain ⟨unit, hunit⟩ := file.exists_parseUnit (by rw [hentries]; exact hmem)
    have hclient := hclients clientId
    rw [hlast, Option.bind_some, hunit] at hclient
    rw [← (length_parseUnit hunit).1]
    exact (haddress ⟨0, 0⟩ clientId).mp (hfound ⟨0, 0⟩ clientId) unit hclient
  · intro hlengths uninitialised endnodeId
    refine (haddress uninitialised endnodeId).mpr fun unit hunit ↦ ?_
    rw [hclients endnodeId] at hunit
    obtain ⟨entry, hlast, hparse⟩ := Option.bind_eq_some_iff.mp hunit
    rw [(length_parseUnit hparse).1]
    exact hlengths endnodeId entry hlast

/-- An endnode has the settings of mode 0 from the file precisely when its service has this mode. -/
theorem configures_modeZero_iff (serviceId : UInt32) :
    (∃ modes, loadServiceSettings access file.tree serviceId = some modes ∧
        Configures access (file.entries "SERVICE_SETTINGS") serviceId 0
          (modes.subscript 0).1) ↔
      HasMode (file.entries "SERVICE_SETTINGS") serviceId 0 := by
  obtain ⟨settings, hsettings, hentries⟩ := file.exists_serviceSettings
  rw [hentries, file.loadServiceSettings_eq]
  constructor
  · rintro ⟨modes, -, entry, hentry, hservice, modeEntry, hmodeEntry, hmode, -⟩
    exact ⟨entry, hentry, hservice, modeEntry, hmodeEntry, hmode⟩
  · intro hmode
    obtain ⟨parameters, hparameters⟩ := Option.isSome_iff_exists.mp
      (isSome_configured_of_hasMode hsettings file.services_eq hmode)
    obtain ⟨modes, hmodes, hzero⟩ := Option.bind_eq_some_iff.mp hparameters
    refine ⟨modes, ?_, ?_⟩
    · rw [StdMap.subscript_of_getElem? hmodes]
    · rw [StdMap.subscript_of_getElem? hzero]
      exact configures_of_configured hsettings file.services_eq hparameters

/-- A program finds what it takes, in settings from the file, precisely when the file provides it
for the command line. -/
theorem startsComplete_iff (command : Command) :
    file.StartsComplete command ↔ file.Provides command := by
  cases command with
  | wiredRm hostName =>
    refine and_congr ?_ file.forall_getClientAddress_iff
    refine file.exists_unit_iff_hasUnit ?_ _
    intro entry unit hparse
    rw [isSome_trafficSinks_iff, (length_parseUnit hparse).2.2]
    simp
  | wiredRmClientEndnode hostName serviceId =>
    have hclient := file.clientStarts_iff hostName
    have hservice := file.configures_modeZero_iff serviceId
    constructor
    · rintro ⟨-, hstarts, hmode⟩
      exact ⟨hclient.mp hstarts, hservice.mp hmode⟩
    · rintro ⟨hunit, hmode⟩
      have hstarts := hclient.mpr hunit
      obtain ⟨unit, hload, -, htaken⟩ := id hstarts
      refine ⟨⟨unit, hload, ?_⟩, hstarts, hservice.mpr hmode⟩
      rw [isSome_trafficEndpointLocal_iff]
      exact ((isSome_rmAbstraction_iff unit).mp htaken).1
  | wiredRmClientSwitch hostName => exact file.clientStarts_iff hostName

/-- The settings that the resource manager begins with are those of the file. -/
theorem find_netLayerRM (uninitialised : Timespec) (service mode : UInt32) :
    (file.netLayerRM uninitialised).rmClientServiceMap.find service mode =
      (file.services.configured service mode).map ServiceConfiguration.toServiceSettings := by
  have hmodes : (file.netLayerRM uninitialised).rmClientServiceMap[service]? =
      file.services[service]?.map fun modes ↦ modes.map fun _ settings ↦
        settings.toServiceSettings := Std.ExtTreeMap.getElem?_map
  rw [ServiceMap.find, hmodes, ServiceConfigurationMap.configured]
  cases file.services[service]? with
  | none => rfl
  | some modes => exact Std.ExtTreeMap.getElem?_map

/-- The resource manager finds all settings that it looks up in the file precisely when the file has
the services of its clients in these modes. -/
theorem looksUpConfigured_iff (clients : Set (UInt32 × UInt64)) :
    file.LooksUpConfigured clients ↔ file.ProvidesServices clients := by
  obtain ⟨settings, hsettings, hentries⟩ := file.exists_serviceSettings
  constructor
  · intro hconfigured client hclient mode hlooksUp
    have hempty : (file.netLayerRM ⟨0, 0⟩).serviceList = ServiceList.empty := rfl
    obtain ⟨events, hrequests, hfound⟩ :=
      NetLayerRM.RmProcess.exists_run_of_looksUp hempty hclient hlooksUp
    obtain ⟨found, hfound⟩ := Option.isSome_iff_exists.mp hfound
    obtain ⟨parameters, -, entry, hentry, hservice, modeEntry, hmodeEntry, hmode, -⟩ :=
      hconfigured ⟨0, 0⟩ events hrequests _ _ found hfound
    exact ⟨entry, hentry, hservice, modeEntry, hmodeEntry, hmode⟩
  · intro hprovides uninitialised events process hrequests service mode found hfound
    have hlookups : NetLayerRM.RmProcess.HasLookups (file.netLayerRM uninitialised) clients := by
      intro client hclient mode hlooksUp
      have hmode := hprovides client hclient mode hlooksUp
      rw [hentries] at hmode
      rw [file.find_netLayerRM, Option.isSome_map]
      exact isSome_configured_of_hasMode hsettings file.services_eq hmode
    rw [NetLayerRM.RmProcess.rmClientServiceMap_of_requestsFrom hlookups rfl hrequests,
      file.find_netLayerRM] at hfound
    obtain ⟨parameters, hparameters, hsame⟩ := Option.map_eq_some_iff.mp hfound
    rw [hentries]
    exact ⟨parameters, hsame, configures_of_configured hsettings file.services_eq hparameters⟩

/-- A program finds what it takes, in settings from the file, precisely when the file provides it
for the command line and, to the resource manager, for the clients that ask to be managed. -/
theorem runsComplete_iff (clients : Set (UInt32 × UInt64)) (command : Command) :
    file.RunsComplete clients command ↔ file.ProvidesRun clients command := by
  cases command with
  | wiredRm hostName =>
    exact and_congr (file.startsComplete_iff _) (file.looksUpConfigured_iff clients)
  | wiredRmClientEndnode hostName serviceId =>
    exact file.startsComplete_iff (.wiredRmClientEndnode hostName serviceId)
  | wiredRmClientSwitch hostName => exact file.startsComplete_iff (.wiredRmClientSwitch hostName)

end AcceptedFile

/-- Trees whose translators read the number zero and two truth values. -/
def TreeAccess.onlyZero : TreeAccess where
  getChild := PTree.firstChild
  uint32 text := if text = "0" then some 0 else none
  uint64 text := if text = "0" then some 0 else none
  bool text := if text = "0" then some false else if text = "1" then some true else none

/-- A text without children. -/
def PTree.leaf (text : String) : PTree := .node text []

/-- A list of texts. -/
def PTree.list (texts : List String) : PTree := .node "" (texts.map fun text ↦ ("", .leaf text))

/-- A node with these keys, and the text of a zero without children under each. -/
def PTree.zeros (keys : List String) : PTree := .node "" (keys.map fun key ↦ (key, .node "0" []))

namespace AcceptedFile

/-- A file with one unit, whose lists are empty, and without a service. -/
def emptyLists : AcceptedFile .onlyZero where
  tree := .node "" [
    ("UNIT_SETTINGS", .node "" [("SENSORFUSION", .zeros ["CLIENT_ID", "RM_CONTROL_LOCAL_IP",
      "RM_CONTROL_LOCAL_PORT", "RM_CONTROL_RM_IP", "RM_CONTROL_RM_PORT", "SERVICE_LOCAL_IP",
      "SERVICE_LOCAL_PORT", "CLIENT_PRIORITY"])]),
    ("SERVICE_SETTINGS", .node "" []),
    ("EXPERIMENT_SETTINGS", .zeros ["EXPERIMENT_NUMBER", "CLIENT_INIT_TIME[ms]",
      "EXPERIMENT_BEGIN_OFFSET[ms]", "EXPERIMENT_END_OFFSET[ms]", "EXPERIMENT_ITERATIONS",
      "EXPERIMENT_SYNCHRONOUS_START_FLAG", "MC_DISTRIBUTION_PHASE_DURATION[ms]",
      "MC_CLIENT_STOP_OFFSET[ms]", "MC_CLIENT_RECONFIG_OFFSET[ms]", "MC_CLIENT_START_OFFSET[ms]",
      "INTER_MC_GAP_MIN[ms]", "INTER_MC_GAP_MAX[ms]", "HYPERPERIOD_DURATION[ms]",
      "EXPERIMENT_STARTUP_MODE", "EXPERIMENT_STARTUP_MODE_MAP",
      "EXPERIMENT_RECONFIGURATION_ORDER", "EXPERIMENT_RECONFIGURATION_MAP"])]
  units := (∅ : StdMap String UnitConfiguration).insert "SENSORFUSION"
    { (default : UnitConfiguration) with hostName := "SENSORFUSION" }
  clients := (∅ : StdMap UInt32 UnitConfiguration).insert 0
    { (default : UnitConfiguration) with hostName := "SENSORFUSION" }
  services := ∅
  experiment := ⟨⟨0, 0, false, 0, 0, 0, 0, 0, ∅, [], ∅⟩, 0, 0, 0, 0, 0, 0⟩
  units_eq := rfl
  clients_eq := rfl
  services_eq := rfl
  experiment_eq := rfl

/-- With this file the resource manager takes an address that is not there, and a client with
another name starts with settings that are not in it. -/
theorem not_startsComplete_emptyLists :
    ¬ emptyLists.StartsComplete (.wiredRm none) ∧
      ¬ emptyLists.StartsComplete (.wiredRmClientSwitch "SENSOR1") := by
  constructor
  · rintro ⟨⟨unit, hload, -, hsinks⟩, -⟩
    rw [loadUnitSettings_eq, StdMap.subscript_fst, emptyLists, StdMap.getElem?_insert,
      if_pos Option.getD_none.symm] at hload
    rw [isSome_trafficSinks_iff, ← Option.some.inj hload] at hsinks
    exact absurd hsinks (by decide)
  · rintro ⟨unit, -, ⟨entry, hentry, hname, -⟩, -⟩
    have hnames : (emptyLists.entries "UNIT_SETTINGS").map Prod.fst = ["SENSORFUSION"] := rfl
    have hmem := List.mem_map_of_mem (f := Prod.fst) hentry
    rw [hnames, List.mem_singleton, hname] at hmem
    exact absurd hmem (by decide)

/-- A unit with all addresses. -/
def completeUnit : String × PTree :=
  ("SENSORFUSION", .node "" [("CLIENT_ID", .leaf "0"), ("RM_CONTROL_LOCAL_IP", .list ["10.0.0.1"]),
    ("RM_CONTROL_LOCAL_PORT", .leaf "0"), ("RM_CONTROL_RM_IP", .list ["10.0.0.1"]),
    ("RM_CONTROL_RM_PORT", .leaf "0"),
    ("SERVICE_LOCAL_IP", .list ["10.0.1.1", "10.0.1.2", "10.0.1.3", "10.0.1.4", "10.0.1.5"]),
    ("SERVICE_LOCAL_PORT", .list []), ("CLIENT_PRIORITY", .leaf "0")])

/-- This unit as a client that starts synchronously in mode 0, and no service. -/
def withoutServiceTree : PTree := .node "" [
  ("UNIT_SETTINGS", .node "" [completeUnit]),
  ("SERVICE_SETTINGS", .node "" []),
  ("EXPERIMENT_SETTINGS", .node "" ([("EXPERIMENT_SYNCHRONOUS_START_FLAG", .leaf "1"),
    ("EXPERIMENT_STARTUP_MODE_MAP", .node "" [("0", .node "" [("0", .leaf "0")])])] ++
    (PTree.zeros ["EXPERIMENT_NUMBER", "CLIENT_INIT_TIME[ms]", "EXPERIMENT_BEGIN_OFFSET[ms]",
      "EXPERIMENT_END_OFFSET[ms]", "EXPERIMENT_ITERATIONS", "MC_DISTRIBUTION_PHASE_DURATION[ms]",
      "MC_CLIENT_STOP_OFFSET[ms]", "MC_CLIENT_RECONFIG_OFFSET[ms]", "MC_CLIENT_START_OFFSET[ms]",
      "INTER_MC_GAP_MIN[ms]", "INTER_MC_GAP_MAX[ms]", "HYPERPERIOD_DURATION[ms]",
      "EXPERIMENT_STARTUP_MODE", "EXPERIMENT_RECONFIGURATION_ORDER",
      "EXPERIMENT_RECONFIGURATION_MAP"]).children))]

/-- The file that is read from it. -/
def withoutService : AcceptedFile .onlyZero where
  tree := withoutServiceTree
  units := (checkUnitSettingsString .onlyZero withoutServiceTree).get (by decide +kernel)
  clients := (loadRmClientAddresses .onlyZero withoutServiceTree).get (by decide +kernel)
  services := (loadRmClientServices .onlyZero withoutServiceTree).get (by decide +kernel)
  experiment := (loadExperimentSettings .onlyZero withoutServiceTree).get (by decide +kernel)
  units_eq := (Option.some_get _).symm
  clients_eq := (Option.some_get _).symm
  services_eq := (Option.some_get _).symm
  experiment_eq := (Option.some_get _).symm

/-- The resource manager finds all addresses in this file, and looks the settings of its client up,
which are not there. -/
theorem not_runsComplete_withoutService :
    withoutService.StartsComplete (.wiredRm none) ∧
      ¬ withoutService.RunsComplete {(0, 7)} (.wiredRm none) ∧
      ¬ emptyLists.RunsComplete ∅ (.wiredRm none) ∧
      ¬ emptyLists.RunsComplete ∅ (.wiredRmClientSwitch "SENSOR1") := by
  refine ⟨(withoutService.startsComplete_iff _).mpr ⟨?_, ?_⟩, ?_, ?_, ?_⟩
  · exact ⟨completeUnit, rfl, by decide⟩
  · intro clientId entry hlast
    have hentry : entry ∈ [completeUnit] := (mem_of_lastEntry hlast).1
    rw [List.mem_singleton.mp hentry]
    decide
  · rintro ⟨-, hconfigured⟩
    have hlooksUp : NetLayerRM.LooksUp withoutService.experiment.toExperimentParameter 0 0 :=
      .start (by decide +kernel) (by decide +kernel)
    obtain ⟨entry, hentry, -⟩ : HasMode (withoutService.entries "SERVICE_SETTINGS") 7 0 :=
      (withoutService.looksUpConfigured_iff _).mp hconfigured (0, 7) rfl 0 hlooksUp
    exact absurd hentry List.not_mem_nil
  · exact fun hruns ↦ not_startsComplete_emptyLists.1 hruns.1
  · exact not_startsComplete_emptyLists.2

end AcceptedFile

end Tanos
