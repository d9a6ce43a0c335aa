import Tanos.Utils.PropertyTree

/-!
# Loading the configuration

The functions of `ConfigReader`, on the tree that `read_json` returns. Each reads one of the three
parts of the file and throws when a key is missing or a text cannot be translated; none looks at the
lengths of the lists it reads. `load_unit_settings` and `load_service_settings` take their result
out of a map with `operator[]`, which answers a name or an id that is not in the file with a
value-initialised entry.

`getElem?_checkUnitSettingsString` and `getElem?_checkUnitSettings` say what the maps of the units
hold, `configures_of_configured` and `isSome_configured_of_hasMode` what that of the services does.
-/

set_option autoImplicit false
set_option relaxedAutoImplicit false

namespace Tanos

/-- All that is configured of `struct unit_settings`. -/
structure UnitConfiguration extends UnitSettings where
  hostName : String
  rmControlRmIp : List String
  rmControlRmPort : UInt32
  serviceLocalIp : List String
  serviceLocalPort : List UInt32
  clientPriority : UInt32
deriving DecidableEq, Repr

/-- The value-initialised settings `operator[]` creates. -/
instance : Inhabited UnitConfiguration := ⟨⟨⟨0, [], 0⟩, "", [], 0, [], [], 0⟩⟩

/-- All that is configured of `struct experiment_parameter`. -/
structure ExperimentConfiguration extends ExperimentParameter where
  clientInitTime : ℕ
  experimentBeginOffset : ℕ
  experimentEndOffset : ℕ
  mcClientStopOffset : ℕ
  interMcGapMin : ℕ
  interMcGapMax : ℕ

/-- The configured settings of all services in all modes. -/
abbrev ServiceConfigurationMap : Type := StdMap UInt32 (StdMap UInt32 ServiceConfiguration)

/-- The settings of a service in a mode, if the map has an entry. -/
def ServiceConfigurationMap.configured (map : ServiceConfigurationMap) (service mode : UInt32) :
    Option ServiceConfiguration :=
  map[service]?.bind fun modes ↦ modes[mode]?

namespace ConfigReader

/-- `parse_unit_settings`. The callers set the host name. -/
def parseUnitSettings (access : TreeAccess) (unitTree : PTree) :
    Option UnitConfiguration := do
  let clientId ← access.get access.uint32 unitTree "CLIENT_ID"
  let rmControlLocalIp ← access.getList some unitTree "RM_CONTROL_LOCAL_IP"
  let rmControlLocalPort ← access.get access.uint32 unitTree "RM_CONTROL_LOCAL_PORT"
  let rmControlRmIp ← access.getList some unitTree "RM_CONTROL_RM_IP"
  let rmControlRmPort ← access.get access.uint32 unitTree "RM_CONTROL_RM_PORT"
  let serviceLocalIp ← access.getList some unitTree "SERVICE_LOCAL_IP"
  let serviceLocalPort ← access.getList access.uint32 unitTree "SERVICE_LOCAL_PORT"
  let clientPriority ← access.get access.uint32 unitTree "CLIENT_PRIORITY"
  return {
    clientId := clientId
    rmControlLocalIp := rmControlLocalIp
    rmControlLocalPort := rmControlLocalPort
    hostName := ""
    rmControlRmIp := rmControlRmIp
    rmControlRmPort := rmControlRmPort
    serviceLocalIp := serviceLocalIp
    serviceLocalPort := serviceLocalPort
    clientPriority := clientPriority }

/-- The settings of a unit under its name. -/
def parseUnit (access : TreeAccess) (unit : String × PTree) : Option UnitConfiguration := do
  let parameters ← parseUnitSettings access unit.2
  return { parameters with hostName := unit.1 }

/-- The `CLIENT_ID` of a unit. -/
def clientIdOf (access : TreeAccess) (unit : String × PTree) : Option UInt32 :=
  access.get access.uint32 unit.2 "CLIENT_ID"

/-- `check_unit_settings_string`, which reads the client id as well. -/
def checkUnitSettingsString (access : TreeAccess) (configParsedFile : PTree) :
    Option (StdMap String UnitConfiguration) := do
  let settings ← access.getChild configParsedFile "UNIT_SETTINGS"
  assignAll (fun unit ↦ some unit.1) (parseUnit access) ∅ settings.children

/-- `check_unit_settings`. -/
def checkUnitSettings (access : TreeAccess) (configParsedFile : PTree) :
    Option (StdMap UInt32 UnitConfiguration) := do
  let settings ← access.getChild configParsedFile "UNIT_SETTINGS"
  assignAll (clientIdOf access) (parseUnit access) ∅ settings.children

/-- `parse_service_settings`. -/
def parseServiceSettings (access : TreeAccess) (serviceTree : PTree) :
    Option ServiceConfiguration := do
  let serviceId ← access.get access.uint64 serviceTree "SERVICE_ID"
  let ipAddress ← access.get some serviceTree "SERVICE_IP"
  let port ← access.get access.uint32 serviceTree "PORT"
  let dataPath ← access.getList access.uint32 serviceTree "PATH"
  let objectSize ← access.get access.uint32 serviceTree "OBJECT_SIZE [KByte]"
  let deadline ← access.get access.uint32 serviceTree "DEADLINE [ms]"
  let servicePriority ← access.get access.uint32 serviceTree "PRIORITY"
  let slotOffset ← access.get access.uint32 serviceTree "SLOT_OFFSET [ms]"
  let slotLength ← access.get access.uint32 serviceTree "SLOT_LENGTH [ms]"
  let interPacketGap ← access.get access.uint32 serviceTree "INTER_PACKET_GAP[us]"
  let interObjectGap ← access.get access.uint32 serviceTree "INTER_OBJECT_GAP[us]"
  return {
    serviceId := serviceId
    ipAddress := ipAddress
    port := port
    objectSize := objectSize
    deadline := deadline
    servicePriority := servicePriority
    slotOffset := slotOffset
    slotLength := slotLength
    dataPath := dataPath
    interPacketGap := interPacketGap.toNat
    interObjectGap := interObjectGap.toNat }

/-- `rm_client_service_map[service_ID][mode] = service_parameters`. -/
def assignMode (service mode : UInt32) (parameters : ServiceConfiguration)
    (map : ServiceConfigurationMap) : ServiceConfigurationMap :=
  map.insert service ((map[service]?.getD ∅).insert mode parameters)

/-- The loop over the modes of a service. -/
def assignModes (access : TreeAccess) (service : UInt32) (map : ServiceConfigurationMap)
    (modes : List (String × PTree)) : Option ServiceConfigurationMap :=
  modes.foldlM (fun map mode ↦ do
    let parameters ← parseServiceSettings access mode.2
    let modeId ← stoiUInt32 mode.1
    return assignMode service modeId parameters map) map

/-- The loop over the services. -/
def assignServices (access : TreeAccess) (map : ServiceConfigurationMap)
    (services : List (String × PTree)) : Option ServiceConfigurationMap :=
  services.foldlM (fun map service ↦ do
    let serviceId ← stoiUInt32 service.1
    assignModes access serviceId map service.2.children) map

/-- `check_service_settings`. -/
def checkServiceSettings (access : TreeAccess) (configParsedFile : PTree) :
    Option ServiceConfigurationMap := do
  let settings ← access.getChild configParsedFile "SERVICE_SETTINGS"
  assignServices access ∅ settings.children

/-- The loop over one of the two maps of modes. -/
def parseModeMap (access : TreeAccess) (modeTree : PTree) : Option ModeMap :=
  assignAll (fun outer ↦ stoiUInt32 outer.1)
    (fun outer ↦ assignAll (fun inner ↦ stoiUInt32 inner.1)
      (fun inner ↦ access.uint32 inner.2.data) ∅ outer.2.children) ∅ modeTree.children

/-- `check_experiment_settings`. -/
def checkExperimentSettings (access : TreeAccess) (configParsedFile : PTree) :
    Option ExperimentConfiguration := do
  let experimentTree ← access.getChild configParsedFile "EXPERIMENT_SETTINGS"
  let read := access.get access.uint32 experimentTree
  let experimentNumber ← read "EXPERIMENT_NUMBER"
  let clientInitTime ← read "CLIENT_INIT_TIME[ms]"
  let experimentBeginOffset ← read "EXPERIMENT_BEGIN_OFFSET[ms]"
  let experimentEndOffset ← read "EXPERIMENT_END_OFFSET[ms]"
  let experimentIterations ← read "EXPERIMENT_ITERATIONS"
  let synchronousStartMode ←
    access.get access.bool experimentTree "EXPERIMENT_SYNCHRONOUS_START_FLAG"
  let mcDistributionPhaseDuration ← read "MC_DISTRIBUTION_PHASE_DURATION[ms]"
  let mcClientStopOffset ← read "MC_CLIENT_STOP_OFFSET[ms]"
  let mcClientReconfigOffset ← read "MC_CLIENT_RECONFIG_OFFSET[ms]"
  let mcClientStartOffset ← read "MC_CLIENT_START_OFFSET[ms]"
  let interMcGapMin ← read "INTER_MC_GAP_MIN[ms]"
  let interMcGapMax ← read "INTER_MC_GAP_MAX[ms]"
  let hyperperiodDuration ← read "HYPERPERIOD_DURATION[ms]"
  let startupMode ← read "EXPERIMENT_STARTUP_MODE"
  let startupModeTree ← access.getChild experimentTree "EXPERIMENT_STARTUP_MODE_MAP"
  let startupModeMap ← parseModeMap access startupModeTree
  let reconfigurationOrder ←
    access.getList access.uint32 experimentTree "EXPERIMENT_RECONFIGURATION_ORDER"
  let reconfigurationTree ← access.getChild experimentTree "EXPERIMENT_RECONFIGURATION_MAP"
  let reconfigurationMap ← parseModeMap access reconfigurationTree
  return {
    experimentNumber := experimentNumber
    experimentIterations := experimentIterations
    synchronousStartMode := synchronousStartMode
    mcDistributionPhaseDuration := mcDistributionPhaseDuration.toNat
    mcClientReconfigOffset := mcClientReconfigOffset.toNat
    mcClientStartOffset := mcClientStartOffset.toNat
    hyperperiodDuration := hyperperiodDuration.toNat
    startupMode := startupMode
    startupModeMap := startupModeMap
    reconfigurationOrder := reconfigurationOrder
    reconfigurationMap := reconfigurationMap
    clientInitTime := clientInitTime.toNat
    experimentBeginOffset := experimentBeginOffset.toNat
    experimentEndOffset := experimentEndOffset.toNat
    mcClientStopOffset := mcClientStopOffset.toNat
    interMcGapMin := interMcGapMin.toNat
    interMcGapMax := interMcGapMax.toNat }

/-- `load_unit_settings`. -/
def loadUnitSettings (access : TreeAccess) (configParsedFile : PTree)
    (clientName : String) : Option UnitConfiguration := do
  let units ← checkUnitSettingsString access configParsedFile
  return (units.subscript clientName).1

/-- `load_service_settings`. -/
def loadServiceSettings (access : TreeAccess) (configParsedFile : PTree)
    (serviceId : UInt32) : Option (StdMap UInt32 ServiceConfiguration) := do
  let services ← checkServiceSettings access configParsedFile
  return (services.subscript serviceId).1

/-- `load_rm_client_addresses`. -/
def loadRmClientAddresses : TreeAccess → PTree → Option (StdMap UInt32 UnitConfiguration) :=
  checkUnitSettings

/-- `load_rm_client_services`. -/
def loadRmClientServices : TreeAccess → PTree → Option ServiceConfigurationMap :=
  checkServiceSettings

/-- `load_experiment_settings`. -/
def loadExperimentSettings : TreeAccess → PTree → Option ExperimentConfiguration :=
  checkExperimentSettings

/-! ### Units -/

variable {access : TreeAccess} {tree settings : PTree}

/-- The map of the units holds the last unit of a name. -/
theorem getElem?_checkUnitSettingsString {units : StdMap String UnitConfiguration}
    (hsettings : access.getChild tree "UNIT_SETTINGS" = some settings)
    (hunits : checkUnitSettingsString access tree = some units) (name : String) :
    units[name]? = (lastEntry (fun unit ↦ some unit.1) settings.children name).bind
      (parseUnit access) := by
  rw [checkUnitSettingsString, hsettings] at hunits
  rw [getElem?_assignAll hunits name]
  cases lastEntry (fun unit ↦ some unit.1) settings.children name <;> simp

/-- The map of the clients holds the last unit of a client id. -/
theorem getElem?_checkUnitSettings {clients : StdMap UInt32 UnitConfiguration}
    (hsettings : access.getChild tree "UNIT_SETTINGS" = some settings)
    (hclients : checkUnitSettings access tree = some clients) (clientId : UInt32) :
    clients[clientId]? = (lastEntry (clientIdOf access) settings.children clientId).bind
      (parseUnit access) := by
  rw [checkUnitSettings, hsettings] at hclients
  rw [getElem?_assignAll hclients clientId]
  cases lastEntry (clientIdOf access) settings.children clientId <;> simp

/-- Every list of a unit has the length it has in the file. -/
theorem length_parseUnit {unit : String × PTree} {parameters : UnitConfiguration}
    (hparameters : parseUnit access unit = some parameters) :
    parameters.rmControlLocalIp.length = access.listLength unit.2 "RM_CONTROL_LOCAL_IP" ∧
      parameters.rmControlRmIp.length = access.listLength unit.2 "RM_CONTROL_RM_IP" ∧
      parameters.serviceLocalIp.length = access.listLength unit.2 "SERVICE_LOCAL_IP" := by
  simp only [parseUnit, parseUnitSettings, Option.bind_eq_bind, Option.bind_eq_some_iff,
    Option.pure_def, Option.some.injEq] at hparameters
  obtain ⟨_, ⟨_, -, _, hlocal, _, -, _, hrm, _, -, _, hservice, _, -, _, -, rfl⟩, rfl⟩ :=
    hparameters
  exact ⟨TreeAccess.length_of_getList hlocal, TreeAccess.length_of_getList hrm,
    TreeAccess.length_of_getList hservice⟩

/-! ### Services -/

theorem configured_assignMode (service mode : UInt32) (parameters : ServiceConfiguration)
    (map : ServiceConfigurationMap) (otherService otherMode : UInt32) :
    (assignMode service mode parameters map).configured otherService otherMode =
      if service = otherService ∧ mode = otherMode then some parameters
      else map.configured otherService otherMode := by
  simp only [ServiceConfigurationMap.configured, assignMode, StdMap.getElem?_insert]
  by_cases hservice : service = otherService
  · subst hservice
    simp only [if_true, Option.bind_some, StdMap.getElem?_insert, true_and]
    cases map[service]? with
    | none => simp
    | some modes => rfl
  · simp [hservice]

/-- A mode among the entries of a service has these settings. -/
def ConfiguresMode (access : TreeAccess) (modes : List (String × PTree)) (mode : UInt32)
    (parameters : ServiceConfiguration) : Prop :=
  ∃ entry ∈ modes, stoiUInt32 entry.1 = some mode ∧
    parseServiceSettings access entry.2 = some parameters

/-- A service and mode of the file has these settings. -/
def Configures (access : TreeAccess) (services : List (String × PTree))
    (service mode : UInt32) (parameters : ServiceConfiguration) : Prop :=
  ∃ entry ∈ services, stoiUInt32 entry.1 = some service ∧
    ConfiguresMode access entry.2.children mode parameters

/-- There is an entry for a service and mode in the file. -/
def HasMode (services : List (String × PTree)) (service mode : UInt32) : Prop :=
  ∃ entry ∈ services, stoiUInt32 entry.1 = some service ∧
    ∃ modeEntry ∈ entry.2.children, stoiUInt32 modeEntry.1 = some mode

/-- The first turn of the loop over the modes. -/
theorem assignModes_cons {service : UInt32} {map result : ServiceConfigurationMap}
    {entry : String × PTree} {rest : List (String × PTree)}
    (hresult : assignModes access service map (entry :: rest) = some result) :
    ∃ mode parameters, stoiUInt32 entry.1 = some mode ∧
      parseServiceSettings access entry.2 = some parameters ∧
      assignModes access service (assignMode service mode parameters map) rest =
        some result := by
  rw [assignModes, List.foldlM_cons] at hresult
  obtain ⟨next, hnext, hrest⟩ := Option.bind_eq_some_iff.mp hresult
  obtain ⟨parameters, hparameters, hnext⟩ := Option.bind_eq_some_iff.mp hnext
  obtain ⟨mode, hmode, hnext⟩ := Option.bind_eq_some_iff.mp hnext
  rw [← Option.some.inj hnext] at hrest
  exact ⟨mode, parameters, hmode, hparameters, hrest⟩

/-- What the map holds behind the loop over the modes has been there or is a mode of the service. -/
theorem configured_or_configuresMode {service : UInt32} {map result : ServiceConfigurationMap}
    {modes : List (String × PTree)}
    (hresult : assignModes access service map modes = some result)
    {otherService otherMode : UInt32} {found : ServiceConfiguration}
    (hfound : result.configured otherService otherMode = some found) :
    map.configured otherService otherMode = some found ∨
      service = otherService ∧ ConfiguresMode access modes otherMode found := by
  induction modes generalizing map with
  | nil =>
    rw [Option.some.inj hresult]
    exact Or.inl hfound
  | cons entry rest ih =>
    obtain ⟨mode, parameters, hmode, hparameters, hrest⟩ := assignModes_cons hresult
    rcases ih hrest with hearlier | ⟨hservice, later, hlater, hconfigures⟩
    · rw [configured_assignMode] at hearlier
      split_ifs at hearlier with hsame
      · refine Or.inr ⟨hsame.1, entry, List.mem_cons_self, ?_, ?_⟩
        · rw [hmode, hsame.2]
        · rw [hparameters, hearlier]
      · exact Or.inl hearlier
    · exact Or.inr ⟨hservice, later, List.mem_cons_of_mem entry hlater, hconfigures⟩

/-- Behind the loop over the modes the map has an entry for what it had one for, and for every mode
of the service. -/
theorem isSome_configured_assignModes {service : UInt32} {map result : ServiceConfigurationMap}
    {modes : List (String × PTree)}
    (hresult : assignModes access service map modes = some result)
    {otherService otherMode : UInt32}
    (hentry : (map.configured otherService otherMode).isSome = true ∨ service = otherService ∧
      ∃ entry ∈ modes, stoiUInt32 entry.1 = some otherMode) :
    (result.configured otherService otherMode).isSome = true := by
  induction modes generalizing map with
  | nil =>
    rw [← Option.some.inj hresult]
    rcases hentry with hthere | ⟨-, entry, hentry, -⟩
    · exact hthere
    · exact absurd hentry List.not_mem_nil
  | cons entry rest ih =>
    obtain ⟨mode, parameters, hmode, hparameters, hrest⟩ := assignModes_cons hresult
    apply ih hrest
    rw [configured_assignMode]
    rcases hentry with hthere | ⟨hservice, later, hlater, hlaterMode⟩
    · split_ifs
      · exact Or.inl rfl
      · exact Or.inl hthere
    · rcases List.mem_cons.mp hlater with rfl | hmem
      · rw [hmode, Option.some.injEq] at hlaterMode
        rw [if_pos ⟨hservice, hlaterMode⟩]
        exact Or.inl rfl
      · exact Or.inr ⟨hservice, later, hmem, hlaterMode⟩

/-- The first turn of the loop over the services. -/
theorem assignServices_cons {map result : ServiceConfigurationMap} {entry : String × PTree}
    {rest : List (String × PTree)}
    (hresult : assignServices access map (entry :: rest) = some result) :
    ∃ service next, stoiUInt32 entry.1 = some service ∧
      assignModes access service map entry.2.children = some next ∧
      assignServices access next rest = some result := by
  rw [assignServices, List.foldlM_cons] at hresult
  obtain ⟨next, hnext, hrest⟩ := Option.bind_eq_some_iff.mp hresult
  obtain ⟨service, hservice, hnext⟩ := Option.bind_eq_some_iff.mp hnext
  exact ⟨service, next, hservice, hnext, hrest⟩

theorem configured_or_configures {map result : ServiceConfigurationMap}
    {services : List (String × PTree)}
    (hresult : assignServices access map services = some result) {service mode : UInt32}
    {found : ServiceConfiguration} (hfound : result.configured service mode = some found) :
    map.configured service mode = some found ∨
      Configures access services service mode found := by
  induction services generalizing map with
  | nil =>
    rw [Option.some.inj hresult]
    exact Or.inl hfound
  | cons entry rest ih =>
    obtain ⟨entryService, next, hservice, hnext, hrest⟩ := assignServices_cons hresult
    rcases ih hrest with hearlier | ⟨later, hlater, hconfigures⟩
    · rcases configured_or_configuresMode hnext hearlier with hthere | ⟨rfl, hmode⟩
      · exact Or.inl hthere
      · exact Or.inr ⟨entry, List.mem_cons_self, hservice, hmode⟩
    · exact Or.inr ⟨later, List.mem_cons_of_mem entry hlater, hconfigures⟩

theorem isSome_configured_assignServices {map result : ServiceConfigurationMap}
    {services : List (String × PTree)}
    (hresult : assignServices access map services = some result) {service mode : UInt32}
    (hentry : (map.configured service mode).isSome = true ∨ HasMode services service mode) :
    (result.configured service mode).isSome = true := by
  induction services generalizing map with
  | nil =>
    rw [← Option.some.inj hresult]
    rcases hentry with hthere | ⟨entry, hentry, -⟩
    · exact hthere
    · exact absurd hentry List.not_mem_nil
  | cons entry rest ih =>
    obtain ⟨entryService, next, hservice, hnext, hrest⟩ := assignServices_cons hresult
    apply ih hrest
    rcases hentry with hthere | ⟨later, hlater, hlaterService, hmode⟩
    · exact Or.inl (isSome_configured_assignModes hnext (Or.inl hthere))
    · rcases List.mem_cons.mp hlater with rfl | hmem
      · rw [hservice, Option.some.injEq] at hlaterService
        exact Or.inl (isSome_configured_assignModes hnext (Or.inr ⟨hlaterService, hmode⟩))
      · exact Or.inr ⟨later, hmem, hlaterService, hmode⟩

/-- Whatever the map of the services holds is configured in the file. -/
theorem configures_of_configured {services : ServiceConfigurationMap} {service mode : UInt32}
    {parameters : ServiceConfiguration}
    (hsettings : access.getChild tree "SERVICE_SETTINGS" = some settings)
    (hservices : checkServiceSettings access tree = some services)
    (hconfigured : services.configured service mode = some parameters) :
    Configures access settings.children service mode parameters := by
  rw [checkServiceSettings, hsettings] at hservices
  rcases configured_or_configures hservices hconfigured with hempty | hconfigures
  · simp [ServiceConfigurationMap.configured] at hempty
  · exact hconfigures

/-- The map of the services has an entry for every mode of the file. -/
theorem isSome_configured_of_hasMode {services : ServiceConfigurationMap} {service mode : UInt32}
    (hsettings : access.getChild tree "SERVICE_SETTINGS" = some settings)
    (hservices : checkServiceSettings access tree = some services)
    (hmode : HasMode settings.children service mode) :
    (services.configured service mode).isSome = true := by
  rw [checkServiceSettings, hsettings] at hservices
  exact isSome_configured_assignServices hservices (Or.inr hmode)

end ConfigReader

end Tanos
