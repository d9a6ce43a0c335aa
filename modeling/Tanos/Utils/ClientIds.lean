import Mathlib.Data.List.Find
import Mathlib.Data.List.TakeWhile
import Tanos.Utils.ConfigLoaders

/-!
# Client ids of the configuration

A client is named by the `CLIENT_ID` of its unit, which is read as a `uint32_t`, and by the inner
keys of the two maps of modes, which `std::stoi` reads. `stoi` takes the ids below `2 ^ 31` only,
and every text that begins with a number.

`KeyedFile` is a configuration that is well formed apart from these keys and those of the services.
`idsAgree_iff` says when an id means the same in all its parts.
-/

set_option autoImplicit false
set_option relaxedAutoImplicit false

namespace Tanos

/-! ### Numerals -/

/-- The plain decimal numeral of an id. -/
def numeral (id : UInt32) : String := toString id.toNat

/-- The text is the plain decimal numeral of an id. -/
def IsNumeral (text : String) : Prop := ∃ id, text = numeral id

/-- `stoi` has the value of a list of digits. -/
theorem foldl_digits {digits : List Char} (hdigits : ∀ digit ∈ digits, digit.isDigit = true)
    (value : ℕ) :
    digits.foldl (fun (value : ℤ) digit ↦ value * 10 + (digit.toNat - '0'.toNat)) value =
      (Nat.ofDigitChars 10 digits value : ℤ) := by
  induction digits generalizing value with
  | nil => rw [List.foldl_nil, Nat.ofDigitChars_nil]
  | cons digit rest ih =>
    rw [List.foldl_cons, Nat.ofDigitChars_cons]
    have hzero : '0'.toNat ≤ digit.toNat :=
      (Char.isDigit_iff_toNat.mp (hdigits digit List.mem_cons_self)).1
    rw [← ih fun later hlater ↦ hdigits later (List.mem_cons_of_mem digit hlater)]
    congr 1
    rw [Nat.cast_add, Nat.cast_mul, Nat.cast_sub hzero, Nat.cast_ofNat, mul_comm]

/-- A list of digits is read without a blank or a sign in front of it. -/
theorem stoi_of_digits {text : String} (hnonempty : text.toList ≠ [])
    (hdigits : ∀ digit ∈ text.toList, digit.isDigit = true) :
    stoi text = if Nat.ofDigitChars 10 text.toList 0 < 2 ^ 31 then
      some (Nat.ofDigitChars 10 text.toList 0 : ℤ) else none := by
  unfold stoi
  obtain ⟨first, rest, htext⟩ := List.exists_cons_of_ne_nil hnonempty
  rw [htext] at hdigits ⊢
  have hfirst : first.isDigit = true := hdigits first List.mem_cons_self
  have hspace : ¬ isSpace first = true := by
    intro hblank
    simp only [isSpace, List.mem_cons, List.not_mem_nil, or_false, decide_eq_true_eq] at hblank
    rcases hblank with rfl | rfl | rfl | rfl | rfl | rfl <;> exact absurd hfirst (by decide)
  have hminus : first ≠ '-' := by
    rintro rfl
    exact absurd hfirst (by decide)
  have hplus : first ≠ '+' := by
    rintro rfl
    exact absurd hfirst (by decide)
  have hall : (first :: rest).takeWhile Char.isDigit = first :: rest :=
    List.takeWhile_eq_self_iff.mpr hdigits
  have hvalue := foldl_digits hdigits 0
  rw [Nat.cast_zero] at hvalue
  rw [List.dropWhile_cons_of_neg hspace]
  simp only [List.head?_cons, Option.some.injEq, hminus, hplus, hall, hvalue, if_false,
    List.cons.injEq, false_and, imp_self, implies_true]
  refine if_congr ⟨fun hrange ↦ ?_, fun hbelow ↦ ⟨List.cons_ne_nil first rest, ?_, ?_⟩⟩ rfl rfl
  · omega
  · omega
  · omega

theorem toList_numeral (id : UInt32) : (numeral id).toList = Nat.toDigits 10 id.toNat :=
  Nat.toList_repr

theorem toList_numeral_ne_nil (id : UInt32) : (numeral id).toList ≠ [] := by
  rw [toList_numeral]
  exact Nat.toDigits_ne_nil

theorem isDigit_of_mem_numeral {id : UInt32} {digit : Char} (hdigit : digit ∈ (numeral id).toList) :
    digit.isDigit = true := by
  rw [toList_numeral] at hdigit
  exact Nat.isDigit_of_mem_toDigits (by decide) (by decide) hdigit

/-- `stoi` takes the numerals of the ids below `2 ^ 31`. -/
theorem stoi_numeral (id : UInt32) :
    stoi (numeral id) = if id.toNat < 2 ^ 31 then some (id.toNat : ℤ) else none := by
  rw [stoi_of_digits (toList_numeral_ne_nil id) fun digit ↦ isDigit_of_mem_numeral,
    toList_numeral, Nat.ofDigitChars_ten_toDigits]

theorem isSome_stoi_numeral_iff (id : UInt32) :
    (stoi (numeral id)).isSome = true ↔ id.toNat < 2 ^ 31 := by
  rw [stoi_numeral]
  split_ifs with hid
  · exact iff_of_true rfl hid
  · exact iff_of_false Bool.false_ne_true hid

/-- Different ids have different numerals. -/
theorem numeral_injective : Function.Injective numeral := by
  intro first second hsame
  have hvalues := congrArg (fun text : String ↦ Nat.ofDigitChars 10 text.toList 0) hsame
  simpa only [toList_numeral, Nat.ofDigitChars_ten_toDigits, UInt32.toNat_inj] using hvalues

theorem stoiUInt32_numeral {id : UInt32} (hid : id.toNat < 2 ^ 31) :
    stoiUInt32 (numeral id) = some id := by
  rw [stoiUInt32, stoi_numeral, if_pos hid, Option.map_some]
  have hmod : ((id.toNat : ℤ) % 2 ^ 32).toNat = id.toNat := by omega
  rw [UInt32.ofInt, hmod, UInt32.ofNat_toNat]

/-- Among texts that `stoi` takes, a numeral is the only one that has its id. -/
theorem stoiUInt32_eq_some_iff {text : String} (hnumeral : IsNumeral text)
    (htaken : (stoi text).isSome = true) (id : UInt32) :
    stoiUInt32 text = some id ↔ text = numeral id := by
  obtain ⟨own, rfl⟩ := hnumeral
  have hown := (isSome_stoi_numeral_iff own).mp htaken
  rw [stoiUInt32_numeral hown, Option.some.injEq]
  constructor
  · rintro rfl
    rfl
  · intro htext
    exact numeral_injective htext

/-! ### Maps of modes -/

/-- The keys of a part of the file with two levels of keys: modes and client ids, or services and
modes. -/
def nestedKeys (tree : PTree) : List String :=
  tree.children.flatMap fun outer ↦ outer.1 :: outer.2.children.map Prod.fst

theorem mem_nestedKeys_outer {tree : PTree} {outer : String × PTree}
    (houter : outer ∈ tree.children) : outer.1 ∈ nestedKeys tree :=
  List.mem_flatMap.mpr ⟨outer, houter, List.mem_cons_self⟩

theorem mem_nestedKeys_inner {tree : PTree} {outer inner : String × PTree}
    (houter : outer ∈ tree.children) (hinner : inner ∈ outer.2.children) :
    inner.1 ∈ nestedKeys tree :=
  List.mem_flatMap.mpr ⟨outer, houter, List.mem_cons_of_mem _ (List.mem_map_of_mem hinner)⟩

/-- All keys have a property precisely when the outer ones and the inner ones have it. -/
theorem forall_nestedKeys_iff {tree : PTree} {property : String → Prop} :
    (∀ text ∈ nestedKeys tree, property text) ↔ ∀ outer ∈ tree.children,
      property outer.1 ∧ ∀ inner ∈ outer.2.children, property inner.1 := by
  simp only [nestedKeys, List.forall_mem_flatMap, List.forall_mem_cons, List.forall_mem_map]

/-- The file has a client id as a key under a mode. -/
def Lists (tree : PTree) (mode clientId : UInt32) : Prop :=
  ∃ outer ∈ tree.children, outer.1 = numeral mode ∧
    ∃ inner ∈ outer.2.children, inner.1 = numeral clientId

/-- The map has an entry for the client id under precisely those modes where the file has it. -/
def HasExactly (map : ModeMap) (tree : PTree) (clientId : UInt32) : Prop :=
  ∀ mode, (map[mode]?.bind fun clients ↦ clients[clientId]?).isSome = true ↔
    Lists tree mode clientId

/-- The last entry of a mode has the client id if an earlier one has it. -/
def Keeps (tree : PTree) (clientId : UInt32) : Prop :=
  ∀ mode last, Lists tree mode clientId →
    lastEntry (fun outer ↦ some outer.1) tree.children (numeral mode) = some last →
      ∃ inner ∈ last.2.children, inner.1 = numeral clientId

namespace ConfigReader

variable {access : TreeAccess} {tree : PTree}

/-- Assumes: the modes of the clients can be translated. The map is read precisely when `stoi` takes
all its keys. -/
theorem isSome_parseModeMap_iff (hvalues : ∀ outer ∈ tree.children, ∀ inner ∈ outer.2.children,
      (access.uint32 inner.2.data).isSome = true) :
    (parseModeMap access tree).isSome = true ↔
      ∀ text ∈ nestedKeys tree, (stoi text).isSome = true := by
  rw [forall_nestedKeys_iff, parseModeMap, isSome_assignAll_iff]
  refine forall₂_congr fun outer houter ↦ ?_
  rw [isSome_assignAll_iff, stoiUInt32, Option.isSome_map]
  refine and_congr_right fun _ ↦ forall₂_congr fun inner hinner ↦ ?_
  rw [stoiUInt32, Option.isSome_map]
  exact and_iff_left (hvalues outer houter inner hinner)

/-- Assumes: all keys are numerals. The map that is read has an entry for the client id under those
modes whose last entry has it. -/
theorem isSome_lookup_iff {map : ModeMap} (hmap : parseModeMap access tree = some map)
    (hnumerals : ∀ text ∈ nestedKeys tree, IsNumeral text) (mode clientId : UInt32) :
    (map[mode]?.bind fun clients ↦ clients[clientId]?).isSome = true ↔ ∃ last,
      lastEntry (fun outer ↦ some outer.1) tree.children (numeral mode) = some last ∧
        ∃ inner ∈ last.2.children, inner.1 = numeral clientId := by
  have htaken := isSome_assignAll_iff.mp (Option.isSome_of_eq_some hmap)
  have hlast : lastEntry (fun outer ↦ stoiUInt32 outer.1) tree.children mode =
      lastEntry (fun outer ↦ some outer.1) tree.children (numeral mode) := by
    refine List.find?_congr fun outer houter ↦ decide_eq_decide.mpr ?_
    have hmem := List.mem_reverse.mp houter
    have hkey := (htaken outer hmem).1
    rw [stoiUInt32, Option.isSome_map] at hkey
    rw [stoiUInt32_eq_some_iff (hnumerals outer.1 (mem_nestedKeys_outer hmem)) hkey,
      Option.some.injEq]
  rw [getElem?_assignAll hmap mode, hlast]
  cases hfound : lastEntry (fun outer ↦ some outer.1) tree.children (numeral mode) with
  | none => simp
  | some last =>
    have hmem := (mem_of_lastEntry hfound).1
    obtain ⟨clients, hclients⟩ := Option.isSome_iff_exists.mp (htaken last hmem).2
    have hinner := isSome_assignAll_iff.mp (Option.isSome_of_eq_some hclients)
    simp only [hclients, Option.bind_some, Option.some.injEq, exists_eq_left']
    rw [isSome_getElem?_assignAll hclients]
    refine exists_congr fun inner ↦ and_congr_right fun hinnerMem ↦ ?_
    have hkey := (hinner inner hinnerMem).1
    rw [stoiUInt32, Option.isSome_map] at hkey
    exact stoiUInt32_eq_some_iff (hnumerals inner.1 (mem_nestedKeys_inner hmem hinnerMem)) hkey
      clientId

/-- Assumes: all keys are numerals. The map that is read has an entry for the client id under
precisely those modes where the file has it if and only if no later entry leaves it out. -/
theorem hasExactly_iff {map : ModeMap} (hmap : parseModeMap access tree = some map)
    (hnumerals : ∀ text ∈ nestedKeys tree, IsNumeral text) (clientId : UInt32) :
    HasExactly map tree clientId ↔ Keeps tree clientId := by
  have hlookup (mode : UInt32) := isSome_lookup_iff hmap hnumerals mode clientId
  constructor
  · intro hexactly mode last hlists hlastMode
    obtain ⟨found, hfound, hinner⟩ := (hlookup mode).mp ((hexactly mode).mpr hlists)
    rw [hlastMode, Option.some.injEq] at hfound
    rwa [hfound]
  · intro hkeeps mode
    rw [hlookup]
    constructor
    · rintro ⟨last, hlastMode, hinner⟩
      obtain ⟨hmem, hkey⟩ := mem_of_lastEntry hlastMode
      exact ⟨last, hmem, Option.some.inj hkey, hinner⟩
    · rintro ⟨outer, houter, hkey, hinner⟩
      obtain ⟨last, hlastMode⟩ : ∃ last, lastEntry (fun outer ↦ some outer.1) tree.children
          (numeral mode) = some last := exists_lastEntry_of_mem houter (congrArg some hkey)
      exact ⟨last, hlastMode, hkeeps mode last ⟨outer, houter, hkey, hinner⟩ hlastMode⟩

/-! ### Loading -/

theorem isSome_assignModes_iff {service : UInt32} {map : ServiceConfigurationMap}
    {modes : List (String × PTree)}
    (hparsed : ∀ mode ∈ modes, (parseServiceSettings access mode.2).isSome = true) :
    (assignModes access service map modes).isSome = true ↔
      ∀ mode ∈ modes, (stoi mode.1).isSome = true := by
  induction modes generalizing map with
  | nil => simp [assignModes]
  | cons mode rest ih =>
    rw [List.forall_mem_cons] at hparsed ⊢
    obtain ⟨parameters, hparameters⟩ := Option.isSome_iff_exists.mp hparsed.1
    rw [assignModes, List.foldlM_cons, hparameters, stoiUInt32]
    cases stoi mode.1 with
    | none => simp
    | some value => exact (ih hparsed.2).trans (by simp)

theorem isSome_assignServices_iff {map : ServiceConfigurationMap}
    {services : List (String × PTree)}
    (hparsed : ∀ service ∈ services, ∀ mode ∈ service.2.children,
      (parseServiceSettings access mode.2).isSome = true) :
    (assignServices access map services).isSome = true ↔ ∀ service ∈ services,
      (stoi service.1).isSome = true ∧
        ∀ mode ∈ service.2.children, (stoi mode.1).isSome = true := by
  induction services generalizing map with
  | nil => simp [assignServices]
  | cons service rest ih =>
    rw [List.forall_mem_cons] at hparsed ⊢
    rw [assignServices, List.foldlM_cons]
    cases hkey : stoi service.1 with
    | none => simp [stoiUInt32, hkey]
    | some value =>
      have hmodes : (assignModes access (UInt32.ofInt value) map service.2.children).isSome =
          true ↔ _ := isSome_assignModes_iff hparsed.1
      rw [stoiUInt32, hkey, ← hmodes]
      cases hnext : assignModes access (UInt32.ofInt value) map service.2.children with
      | none => simp [hnext]
      | some next =>
        simp only [Option.map_some, Option.bind_eq_bind, Option.bind_some, hnext]
        exact (ih hparsed.2).trans (by simp)

theorem bind_of_eq_some {α β : Type} {result : Option α} {value : α} (hresult : result = some value)
    (next : α → Option β) : (result >>= next) = next value := by
  rw [hresult]
  rfl

/-- The keys of the experiment whose texts are read as a `uint32_t`. -/
def experimentScalars : List String :=
  ["EXPERIMENT_NUMBER", "CLIENT_INIT_TIME[ms]", "EXPERIMENT_BEGIN_OFFSET[ms]",
    "EXPERIMENT_END_OFFSET[ms]", "EXPERIMENT_ITERATIONS", "MC_DISTRIBUTION_PHASE_DURATION[ms]",
    "MC_CLIENT_STOP_OFFSET[ms]", "MC_CLIENT_RECONFIG_OFFSET[ms]", "MC_CLIENT_START_OFFSET[ms]",
    "INTER_MC_GAP_MIN[ms]", "INTER_MC_GAP_MAX[ms]", "HYPERPERIOD_DURATION[ms]",
    "EXPERIMENT_STARTUP_MODE"]

end ConfigReader

open ConfigReader

/-- A configuration file that is well formed apart from the keys that are read as numbers. -/
structure KeyedFile (access : TreeAccess) where
  tree : PTree
  units : PTree
  services : PTree
  experiment : PTree
  startup : PTree
  reconfiguration : PTree
  clients : StdMap UInt32 UnitConfiguration
  units_eq : access.getChild tree "UNIT_SETTINGS" = some units
  services_eq : access.getChild tree "SERVICE_SETTINGS" = some services
  experiment_eq : access.getChild tree "EXPERIMENT_SETTINGS" = some experiment
  startup_eq : access.getChild experiment "EXPERIMENT_STARTUP_MODE_MAP" = some startup
  reconfiguration_eq :
    access.getChild experiment "EXPERIMENT_RECONFIGURATION_MAP" = some reconfiguration
  clients_eq : loadRmClientAddresses access tree = some clients
  parsed : ∀ service ∈ services.children, ∀ mode ∈ service.2.children,
    (parseServiceSettings access mode.2).isSome = true
  scalars : ∀ key ∈ experimentScalars, (access.get access.uint32 experiment key).isSome = true
  flag : (access.get access.bool experiment "EXPERIMENT_SYNCHRONOUS_START_FLAG").isSome = true
  order : (access.getList access.uint32 experiment "EXPERIMENT_RECONFIGURATION_ORDER").isSome = true
  translated : ∀ modes ∈ [startup, reconfiguration], ∀ outer ∈ modes.children,
    ∀ inner ∈ outer.2.children, (access.uint32 inner.2.data).isSome = true

namespace KeyedFile

variable {access : TreeAccess} (file : KeyedFile access)

/-- The keys that `check_service_settings` reads as numbers. -/
def serviceKeys : List String := nestedKeys file.services

/-- The keys that `check_experiment_settings` reads as numbers. -/
def experimentKeys : List String := nestedKeys file.startup ++ nestedKeys file.reconfiguration

/-- The services are loaded precisely when `stoi` takes all their keys. -/
theorem isSome_loadRmClientServices_iff :
    (loadRmClientServices access file.tree).isSome = true ↔
      ∀ text ∈ file.serviceKeys, (stoi text).isSome = true := by
  rw [serviceKeys, forall_nestedKeys_iff, ← isSome_assignServices_iff file.parsed,
    loadRmClientServices, checkServiceSettings, file.services_eq]
  rfl

/-- The experiment is loaded with the two maps of modes, as soon as these are read. -/
theorem loadExperimentSettings_eq_some_iff {startupMap reconfigurationMap : ModeMap} :
    (∃ experiment, loadExperimentSettings access file.tree = some experiment ∧
      experiment.startupModeMap = startupMap ∧
      experiment.reconfigurationMap = reconfigurationMap) ↔
    parseModeMap access file.startup = some startupMap ∧
      parseModeMap access file.reconfiguration = some reconfigurationMap := by
  have hscalars := file.scalars
  simp only [experimentScalars, List.forall_mem_cons, List.not_mem_nil, false_imp_iff,
    implies_true, and_true, Option.isSome_iff_exists] at hscalars
  obtain ⟨⟨_, hnumber⟩, ⟨_, hinit⟩, ⟨_, hbegin⟩, ⟨_, hend⟩, ⟨_, hiterations⟩, ⟨_, hdistribution⟩,
    ⟨_, hstop⟩, ⟨_, hreconfig⟩, ⟨_, hstart⟩, ⟨_, hgapMin⟩, ⟨_, hgapMax⟩, ⟨_, hhyperperiod⟩,
    ⟨_, hmode⟩⟩ := hscalars
  obtain ⟨_, hflag⟩ := Option.isSome_iff_exists.mp file.flag
  obtain ⟨_, horder⟩ := Option.isSome_iff_exists.mp file.order
  unfold loadExperimentSettings checkExperimentSettings
  rw [bind_of_eq_some file.experiment_eq]
  dsimp only
  rw [bind_of_eq_some hnumber, bind_of_eq_some hinit, bind_of_eq_some hbegin,
    bind_of_eq_some hend, bind_of_eq_some hiterations, bind_of_eq_some hflag,
    bind_of_eq_some hdistribution, bind_of_eq_some hstop, bind_of_eq_some hreconfig,
    bind_of_eq_some hstart, bind_of_eq_some hgapMin, bind_of_eq_some hgapMax,
    bind_of_eq_some hhyperperiod, bind_of_eq_some hmode, bind_of_eq_some file.startup_eq]
  cases parseModeMap access file.startup with
  | none => simp
  | some startupFound =>
    rw [bind_of_eq_some rfl, bind_of_eq_some horder, bind_of_eq_some file.reconfiguration_eq]
    cases parseModeMap access file.reconfiguration with
    | none => simp
    | some reconfigurationFound => simp

/-- The experiment is loaded precisely when `stoi` takes all its keys. -/
theorem isSome_loadExperimentSettings_iff :
    (loadExperimentSettings access file.tree).isSome = true ↔
      ∀ text ∈ file.experimentKeys, (stoi text).isSome = true := by
  have hstartup := file.translated file.startup List.mem_cons_self
  have hreconfiguration := file.translated file.reconfiguration
    (List.mem_cons_of_mem _ (List.mem_singleton_self _))
  rw [experimentKeys, List.forall_mem_append, ← isSome_parseModeMap_iff hstartup,
    ← isSome_parseModeMap_iff hreconfiguration]
  simp only [Option.isSome_iff_exists]
  constructor
  · rintro ⟨experiment, hexperiment⟩
    have hmaps := file.loadExperimentSettings_eq_some_iff.mp ⟨experiment, hexperiment, rfl, rfl⟩
    exact ⟨⟨_, hmaps.1⟩, ⟨_, hmaps.2⟩⟩
  · rintro ⟨⟨startupMap, hstartupMap⟩, ⟨reconfigurationMap, hreconfigurationMap⟩⟩
    obtain ⟨experiment, hexperiment, -⟩ :=
      file.loadExperimentSettings_eq_some_iff.mpr ⟨hstartupMap, hreconfigurationMap⟩
    exact ⟨experiment, hexperiment⟩

/-! ### The ids of the clients -/

/-- A unit has the numeral of the id as its `CLIENT_ID`. -/
def GivesUnit (clientId : UInt32) : Prop :=
  ∃ unit ∈ file.units.children,
    (access.getChild unit.2 "CLIENT_ID").map PTree.data = some (numeral clientId)

/-- The id names a unit and is a key of one of the two maps of modes. -/
def Names (clientId : UInt32) : Prop :=
  file.GivesUnit clientId ∧
    ∃ mode, Lists file.startup mode clientId ∨ Lists file.reconfiguration mode clientId

/-- All parts of the file are loaded, with entries for exactly this client id. -/
structure LoadsWith (clientId : UInt32) : Prop where
  unit : file.clients[clientId]?.isSome = true
  services : (loadRmClientServices access file.tree).isSome = true
  modes : ∃ experiment, loadExperimentSettings access file.tree = some experiment ∧
    HasExactly experiment.startupModeMap file.startup clientId ∧
      HasExactly experiment.reconfigurationMap file.reconfiguration clientId

/-- Keys that are not numerals are rejected, so that no two keys of a part that is loaded have the
same id. -/
structure Distinguishes (keys : List String) (loaded : Bool) : Prop where
  rejects : (∃ text ∈ keys, ¬ IsNumeral text) → loaded = false
  distinct : loaded = true → ∀ first ∈ keys, ∀ second ∈ keys,
    stoiUInt32 first = stoiUInt32 second → first = second

/-- An id means the same in all parts of the file. -/
structure IdsAgree : Prop where
  loads : (∀ text ∈ file.serviceKeys ++ file.experimentKeys, IsNumeral text) →
    ∀ clientId, file.Names clientId → file.LoadsWith clientId
  services : Distinguishes file.serviceKeys (loadRmClientServices access file.tree).isSome
  experiment :
    Distinguishes file.experimentKeys (loadExperimentSettings access file.tree).isSome

/-- What the keys have to be. Where all of them are numerals and an id names a client, they are
below `2 ^ 31`, and no later entry of a mode leaves the id out. A part with a key that is not a
numeral has a key that `stoi` refuses. -/
structure KeysTaken : Prop where
  numerals : (∀ text ∈ file.serviceKeys ++ file.experimentKeys, IsNumeral text) →
    ∀ clientId, file.Names clientId →
      (∀ id, numeral id ∈ file.serviceKeys ++ file.experimentKeys → id.toNat < 2 ^ 31) ∧
        Keeps file.startup clientId ∧ Keeps file.reconfiguration clientId
  services : (∃ text ∈ file.serviceKeys, ¬ IsNumeral text) →
    ∃ text ∈ file.serviceKeys, stoi text = none
  experiment : (∃ text ∈ file.experimentKeys, ¬ IsNumeral text) →
    ∃ text ∈ file.experimentKeys, stoi text = none

/-- Assumes: a part is loaded precisely when `stoi` takes all its keys. -/
theorem distinguishes_iff {keys : List String} {loaded : Bool}
    (hloaded : loaded = true ↔ ∀ text ∈ keys, (stoi text).isSome = true) :
    Distinguishes keys loaded ↔
      ((∃ text ∈ keys, ¬ IsNumeral text) → ∃ text ∈ keys, stoi text = none) := by
  have hrefused : loaded = false ↔ ∃ text ∈ keys, stoi text = none := by
    rw [← Bool.not_eq_true, hloaded]
    push Not
    simp only [Bool.not_eq_true, Option.isSome_eq_false_iff, Option.isNone_iff_eq_none]
  constructor
  · intro hdistinguishes hother
    exact hrefused.mp (hdistinguishes.rejects hother)
  · intro hrefuses
    refine ⟨fun hother ↦ hrefused.mpr (hrefuses hother), ?_⟩
    intro htrue first hfirst second hsecond hsame
    have hnumerals : ∀ text ∈ keys, IsNumeral text := by
      by_contra hother
      push Not at hother
      rw [hrefused.mpr (hrefuses hother)] at htrue
      exact absurd htrue Bool.false_ne_true
    obtain ⟨id, hid⟩ := hnumerals second hsecond
    have hvalue := (stoiUInt32_eq_some_iff (hnumerals second hsecond)
      (hloaded.mp htrue second hsecond) id).mpr hid
    rw [hvalue, stoiUInt32_eq_some_iff (hnumerals first hfirst)
      (hloaded.mp htrue first hfirst)] at hsame
    rw [hsame, hid]

/-- Assumes: all keys are numerals. `stoi` takes them precisely when their ids are below
`2 ^ 31`. -/
theorem forall_isSome_stoi_iff {keys : List String} (hnumerals : ∀ text ∈ keys, IsNumeral text) :
    (∀ text ∈ keys, (stoi text).isSome = true) ↔ ∀ id, numeral id ∈ keys → id.toNat < 2 ^ 31 := by
  constructor
  · intro htaken id hid
    exact (isSome_stoi_numeral_iff id).mp (htaken _ hid)
  · intro hbelow text htext
    obtain ⟨id, rfl⟩ := hnumerals text htext
    exact (isSome_stoi_numeral_iff id).mpr (hbelow id htext)

/-- Assumes: the translator reads numerals. A unit with the id has an entry. -/
theorem isSome_clients_of_givesUnit (hread : ∀ id, access.uint32 (numeral id) = some id)
    {clientId : UInt32} (hunit : file.GivesUnit clientId) :
    file.clients[clientId]?.isSome = true := by
  obtain ⟨unit, hmem, htext⟩ := hunit
  have hclients := file.clients_eq
  rw [loadRmClientAddresses, checkUnitSettings, file.units_eq] at hclients
  refine (isSome_getElem?_assignAll hclients clientId).mpr ⟨unit, hmem, ?_⟩
  obtain ⟨child, hchild, hdata⟩ := Option.map_eq_some_iff.mp htext
  rw [clientIdOf, TreeAccess.get, hchild, ← hread clientId, ← hdata]
  rfl

/-- Assumes: the translator reads numerals, all keys are numerals, and the id names a unit. The file
is loaded with entries for exactly this id precisely when all keys are below `2 ^ 31` and no later
entry of a mode leaves the id out. -/
theorem loadsWith_iff (hread : ∀ id, access.uint32 (numeral id) = some id)
    (hnumerals : ∀ text ∈ file.serviceKeys ++ file.experimentKeys, IsNumeral text)
    {clientId : UInt32} (hunit : file.GivesUnit clientId) :
    file.LoadsWith clientId ↔
      (∀ id, numeral id ∈ file.serviceKeys ++ file.experimentKeys → id.toNat < 2 ^ 31) ∧
        Keeps file.startup clientId ∧ Keeps file.reconfiguration clientId := by
  rw [← forall_isSome_stoi_iff hnumerals, List.forall_mem_append,
    ← file.isSome_loadRmClientServices_iff, ← file.isSome_loadExperimentSettings_iff]
  rw [List.forall_mem_append, experimentKeys, List.forall_mem_append] at hnumerals
  obtain ⟨-, hstartup, hreconfiguration⟩ := hnumerals
  constructor
  · rintro ⟨-, hservices, experiment, hexperiment, hexactStartup, hexactReconfiguration⟩
    obtain ⟨hstartupMap, hreconfigurationMap⟩ :=
      file.loadExperimentSettings_eq_some_iff.mp ⟨experiment, hexperiment, rfl, rfl⟩
    exact ⟨⟨hservices, Option.isSome_of_eq_some hexperiment⟩,
      (hasExactly_iff hstartupMap hstartup clientId).mp hexactStartup,
      (hasExactly_iff hreconfigurationMap hreconfiguration clientId).mp hexactReconfiguration⟩
  · rintro ⟨⟨hservices, hloaded⟩, hkeepsStartup, hkeepsReconfiguration⟩
    obtain ⟨experiment, hexperiment⟩ := Option.isSome_iff_exists.mp hloaded
    obtain ⟨hstartupMap, hreconfigurationMap⟩ :=
      file.loadExperimentSettings_eq_some_iff.mp ⟨experiment, hexperiment, rfl, rfl⟩
    refine ⟨file.isSome_clients_of_givesUnit hread hunit, hservices, experiment, hexperiment,
      ?_, ?_⟩
    · exact (hasExactly_iff hstartupMap hstartup clientId).mpr hkeepsStartup
    · exact (hasExactly_iff hreconfigurationMap hreconfiguration clientId).mpr
        hkeepsReconfiguration

/-- For all files: assuming that the translator reads numerals, an id means the same in all parts
precisely when the keys are taken. -/
theorem idsAgree_iff (hread : ∀ id, access.uint32 (numeral id) = some id) :
    file.IdsAgree ↔ file.KeysTaken := by
  have hservices := distinguishes_iff file.isSome_loadRmClientServices_iff
  have hexperiment := distinguishes_iff file.isSome_loadExperimentSettings_iff
  constructor
  · intro hagree
    refine ⟨fun hnumerals clientId hnames ↦ ?_, hservices.mp hagree.services,
      hexperiment.mp hagree.experiment⟩
    exact (file.loadsWith_iff hread hnumerals hnames.1).mp
      (hagree.loads hnumerals clientId hnames)
  · intro htaken
    refine ⟨fun hnumerals clientId hnames ↦ ?_, hservices.mpr htaken.services,
      hexperiment.mpr htaken.experiment⟩
    exact (file.loadsWith_iff hread hnumerals hnames.1).mpr
      (htaken.numerals hnumerals clientId hnames)

end KeyedFile

/-- The value of a text that consists of digits. -/
def digitsValue (text : String) : Option ℕ :=
  if text.toList ≠ [] ∧ text.toList.all Char.isDigit = true then
    some (Nat.ofDigitChars 10 text.toList 0)
  else none

/-- Trees whose translators read digits as long as the value is in range. -/
def TreeAccess.digits : TreeAccess where
  getChild := PTree.firstChild
  uint32 text := do
    let value ← digitsValue text
    if value < 2 ^ 32 then some (UInt32.ofNat value) else none
  uint64 text := do
    let value ← digitsValue text
    if value < 2 ^ 64 then some (UInt64.ofNat value) else none
  bool text := if text = "true" then some true else if text = "false" then some false else none

@[simp] theorem TreeAccess.getChild_digits : digits.getChild = PTree.firstChild := rfl

/-- The translators read numerals. -/
theorem TreeAccess.uint32_digits (id : UInt32) :
    TreeAccess.digits.uint32 (numeral id) = some id := by
  have hall : (numeral id).toList.all Char.isDigit = true :=
    List.all_eq_true.mpr fun digit ↦ isDigit_of_mem_numeral
  have hvalue : digitsValue (numeral id) = some id.toNat := by
    rw [digitsValue, if_pos ⟨toList_numeral_ne_nil id, hall⟩, toList_numeral,
      Nat.ofDigitChars_ten_toDigits]
  simp only [TreeAccess.digits, hvalue, Option.bind_eq_bind, Option.bind_some]
  rw [if_pos id.toNat_lt, UInt32.ofNat_toNat]

/-- A child is found among children that all have the same content. -/
theorem PTree.firstChild_map_append {keys : List String} {key : String} (hkey : key ∈ keys)
    (data : String) (child : PTree) (others : List (String × PTree)) :
    (PTree.node data (keys.map (fun name ↦ (name, child)) ++ others)).firstChild key =
      some child := by
  obtain ⟨name, hname⟩ : ∃ name, keys.find? (fun name ↦ name = key) = some name := by
    rw [← Option.isSome_iff_exists, List.find?_isSome]
    exact ⟨key, hkey, decide_eq_true rfl⟩
  have hfound : (keys.map fun name ↦ (name, child)).find? (fun entry ↦ entry.1 = key) =
      some (name, child) := by
    rw [List.find?_map]
    exact congrArg (Option.map fun name ↦ (name, child)) hname
  rw [PTree.firstChild, PTree.children, List.find?_append, hfound]
  rfl

namespace KeyedFile

/-- The part with one unit, which has the id as its `CLIENT_ID`. -/
def oneUnit (clientId : UInt32) : PTree :=
  .node "" [("SENSOR1", .node "" [
    ("CLIENT_ID", .node (numeral clientId) []), ("RM_CONTROL_LOCAL_IP", .node "" []),
    ("RM_CONTROL_LOCAL_PORT", .node (numeral 0) []), ("RM_CONTROL_RM_IP", .node "" []),
    ("RM_CONTROL_RM_PORT", .node (numeral 0) []), ("SERVICE_LOCAL_IP", .node "" []),
    ("SERVICE_LOCAL_PORT", .node "" []), ("CLIENT_PRIORITY", .node (numeral 0) [])])]

/-- A map of modes with one key under mode zero. -/
def oneMode (key : String) : PTree :=
  .node "" [(numeral 0, .node "" [(key, .node (numeral 0) [])])]

/-- The part of the experiment with this map of the startup modes. -/
def oneExperiment (key : String) : PTree :=
  .node "" ((experimentScalars.map fun scalar ↦ (scalar, .node (numeral 0) [])) ++
    [("EXPERIMENT_SYNCHRONOUS_START_FLAG", .node "true" []),
      ("EXPERIMENT_STARTUP_MODE_MAP", oneMode key),
      ("EXPERIMENT_RECONFIGURATION_ORDER", .node "" []),
      ("EXPERIMENT_RECONFIGURATION_MAP", .node "" [])])

/-- A file with one unit and one key in the map of the startup modes. -/
def oneKey (clientId : UInt32) (key : String) : KeyedFile .digits where
  tree := .node "" [("UNIT_SETTINGS", oneUnit clientId), ("SERVICE_SETTINGS", .node "" []),
    ("EXPERIMENT_SETTINGS", oneExperiment key)]
  units := oneUnit clientId
  services := .node "" []
  experiment := oneExperiment key
  startup := oneMode key
  reconfiguration := .node "" []
  clients := (∅ : StdMap UInt32 UnitConfiguration).insert clientId
    ⟨⟨clientId, [], 0⟩, "SENSOR1", [], 0, [], [], 0⟩
  units_eq := rfl
  services_eq := rfl
  experiment_eq := rfl
  startup_eq := rfl
  reconfiguration_eq := rfl
  clients_eq := by
    simp [loadRmClientAddresses, checkUnitSettings, clientIdOf, parseUnit, parseUnitSettings,
      oneUnit, assignAll, TreeAccess.get, TreeAccess.getList, PTree.firstChild, PTree.children,
      PTree.data, TreeAccess.uint32_digits]
  parsed := by
    intro service hservice
    exact absurd hservice List.not_mem_nil
  scalars := by
    intro key hkey
    rw [TreeAccess.get, oneExperiment, TreeAccess.getChild_digits,
      PTree.firstChild_map_append hkey]
    exact Option.isSome_of_eq_some (TreeAccess.uint32_digits 0)
  flag := rfl
  order := rfl
  translated := by
    intro modes hmodes outer houter inner hinner
    rcases List.mem_cons.mp hmodes with rfl | hempty
    · rw [List.mem_singleton.mp houter] at hinner
      rw [List.mem_singleton.mp hinner]
      exact Option.isSome_of_eq_some (TreeAccess.uint32_digits 0)
    · rw [List.mem_singleton.mp hempty] at houter
      exact absurd houter List.not_mem_nil

theorem names_oneKey (clientId : UInt32) : (oneKey clientId (numeral clientId)).Names clientId :=
  ⟨⟨_, List.mem_singleton_self _, rfl⟩, 0, Or.inl
    ⟨_, List.mem_singleton_self _, rfl, _, List.mem_singleton_self _, rfl⟩⟩

/-- The id `2 ^ 31` cannot be a key, and a text with an id in front of other characters can. -/
theorem not_idsAgree_oneKey :
    ¬ (oneKey 2147483648 (numeral 2147483648)).IdsAgree ∧ ¬ (oneKey 5 "5x").IdsAgree := by
  constructor
  · intro hagree
    have hnumerals : ∀ text ∈ [numeral 0, numeral 2147483648], IsNumeral text := by
      simp only [List.forall_mem_cons, List.not_mem_nil, false_imp_iff, implies_true, and_true]
      exact ⟨⟨_, rfl⟩, ⟨_, rfl⟩⟩
    obtain ⟨-, -, experiment, hexperiment, -⟩ := hagree.loads hnumerals _ (names_oneKey _)
    have htaken := (oneKey 2147483648 (numeral 2147483648)).isSome_loadExperimentSettings_iff.mp
      (Option.isSome_of_eq_some hexperiment) (numeral 2147483648)
      (List.mem_cons_of_mem _ List.mem_cons_self)
    exact absurd ((isSome_stoi_numeral_iff _).mp htaken) (by decide)
  · intro hagree
    have hother : ∃ text ∈ (oneKey 5 "5x").experimentKeys, ¬ IsNumeral text := by
      refine ⟨"5x", List.mem_cons_of_mem _ List.mem_cons_self, ?_⟩
      rintro ⟨id, hid⟩
      have hmem : 'x' ∈ (numeral id).toList := by
        rw [← hid]
        decide
      exact absurd (isDigit_of_mem_numeral hmem) (by decide)
    have hrejected := hagree.experiment.rejects hother
    have htaken : ∀ text ∈ [numeral 0, "5x"], (stoi text).isSome = true := by
      simp only [List.forall_mem_cons, List.not_mem_nil, false_imp_iff, implies_true, and_true]
      exact ⟨Option.isSome_of_eq_some (stoi_numeral 0), by decide⟩
    have hloaded := (oneKey 5 "5x").isSome_loadExperimentSettings_iff.mpr htaken
    rw [hrejected] at hloaded
    exact absurd hloaded (by decide)

/-- A map of modes with one key has no later entry of a mode. -/
theorem keeps_oneMode (key : String) (clientId : UInt32) : Keeps (oneMode key) clientId := by
  rintro mode last ⟨outer, houter, -, hinner⟩ hlast
  have hmem := (mem_of_lastEntry hlast).1
  rw [List.mem_singleton.mp hmem, ← List.mem_singleton.mp houter]
  exact hinner

/-- In a file with the id `5` it means the same in all parts. -/
theorem idsAgree_five : (oneKey 5 (numeral 5)).IdsAgree := by
  refine (idsAgree_iff _ TreeAccess.uint32_digits).mpr ⟨?_, ?_, ?_⟩
  · intro hnumerals clientId hnames
    refine ⟨fun id hid ↦ ?_, keeps_oneMode _ _, ?_⟩
    · rcases List.mem_cons.mp hid with hzero | hfive
      · rw [numeral_injective hzero]
        decide
      · rw [numeral_injective (List.mem_singleton.mp hfive)]
        decide
    · rintro mode last ⟨outer, houter, -⟩ hlast
      exact absurd houter List.not_mem_nil
  · rintro ⟨text, htext, -⟩
    exact absurd htext List.not_mem_nil
  · rintro ⟨text, htext, hother⟩
    rcases List.mem_cons.mp htext with rfl | hfive
    · exact absurd ⟨0, rfl⟩ hother
    · exact absurd ⟨5, List.mem_singleton.mp hfive⟩ hother

end KeyedFile

end Tanos
