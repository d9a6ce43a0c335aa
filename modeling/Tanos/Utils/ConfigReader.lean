import Mathlib.Data.List.Basic
import Tanos.Attributes.Timespec

/-!
# Configuration records

`StdMap` stands for `std::map`: a finite map with ordered iteration, here the extensional tree map
of the standard library. `subscript` is its `operator[]`, which inserts a value-initialised entry
for an absent key.

The records are those of `config_reader.hpp`. Their durations are `std::chrono` counts which the
reader builds from a `uint32_t`, so that they are natural numbers here; identifiers, modes and
counts keep the widths of the source. Fields that only feed log lines, timers or sleeps are left
out.
-/

set_option autoImplicit false
set_option relaxedAutoImplicit false

namespace Tanos

/-- `std::map`. -/
abbrev StdMap (κ ν : Type) [Ord κ] : Type := Std.ExtTreeMap κ ν compare

namespace StdMap

variable {κ ν : Type} [Ord κ] [Std.TransOrd κ]

/-- Insertion seen through lookups, with the keys compared by equality. -/
theorem getElem?_insert [Std.LawfulEqOrd κ] [DecidableEq κ] (map : StdMap κ ν) (key other : κ)
    (value : ν) :
    (map.insert key value)[other]? = if key = other then some value else map[other]? := by
  rw [Std.ExtTreeMap.getElem?_insert]
  exact if_congr Std.LawfulEqCmp.compare_eq_iff_eq rfl rfl

/-- Inserting an entry that is there leaves the map as it is. -/
theorem insert_of_getElem? [Std.LawfulEqOrd κ] [DecidableEq κ] {map : StdMap κ ν} {key : κ}
    {value : ν} (h : map[key]? = some value) : map.insert key value = map := by
  ext other entry
  rw [getElem?_insert]
  split_ifs with heq
  · rw [← heq, h]
  · rfl

variable [Inhabited ν]

/-- `map[key]`: the entry of the key, which is created with the default value when there is none. -/
def subscript (map : StdMap κ ν) (key : κ) : ν × StdMap κ ν :=
  match map[key]? with
  | some value => (value, map)
  | none => (default, map.insert key default)

theorem subscript_fst (map : StdMap κ ν) (key : κ) :
    (map.subscript key).1 = map[key]?.getD default := by
  unfold subscript
  cases map[key]? <;> rfl

/-- The subscript of a key with an entry reads the entry and leaves the map as it is. -/
theorem subscript_of_getElem? {map : StdMap κ ν} {key : κ} {value : ν}
    (h : map[key]? = some value) : map.subscript key = (value, map) := by
  unfold subscript
  rw [h]

/-- The key of a subscript has an entry afterwards. -/
theorem isSome_getElem?_subscript_snd [Std.LawfulEqOrd κ] [DecidableEq κ] (map : StdMap κ ν)
    (key : κ) : (map.subscript key).2[key]?.isSome = true := by
  unfold subscript
  cases hkey : map[key]? with
  | some value => exact Option.isSome_of_eq_some hkey
  | none =>
    rw [getElem?_insert, if_pos rfl]
    rfl

/-- Looking a key up with the default value for absent keys does not see that `subscript` inserts
such values. -/
theorem getD_subscript_snd [Std.LawfulEqOrd κ] [DecidableEq κ] (map : StdMap κ ν) (key other : κ) :
    (map.subscript key).2[other]?.getD default = map[other]?.getD default := by
  unfold subscript
  cases hkey : map[key]? with
  | some value => rfl
  | none =>
    rw [getElem?_insert]
    split_ifs with heq
    · rw [← heq, hkey]
      rfl
    · rfl

end StdMap

/-- `struct service_settings`: what one service does in one mode. `deadline`, `slotOffset` and
`slotLength` are in milliseconds, `objectSize` in KB. -/
structure ServiceSettings where
  serviceId : UInt64
  ipAddress : String
  port : UInt32
  objectSize : UInt32
  deadline : UInt32
  servicePriority : UInt32
  slotOffset : UInt32
  slotLength : UInt32
deriving DecidableEq, Repr

/-- The value-initialised settings `operator[]` creates. -/
instance : Inhabited ServiceSettings := ⟨⟨0, "", 0, 0, 0, 0, 0, 0⟩⟩

/-- All that is configured of `struct service_settings`: also the data path, and the gaps behind a
packet and an object in microseconds. -/
structure ServiceConfiguration extends ServiceSettings where
  dataPath : List UInt32
  interPacketGap : ℕ
  interObjectGap : ℕ
deriving DecidableEq, Repr

instance : Inhabited ServiceConfiguration := ⟨⟨default, [], 0, 0⟩⟩

/-- `struct unit_settings`, as far as the control channel of a client needs it. -/
structure UnitSettings where
  clientId : UInt32
  rmControlLocalIp : List String
  rmControlLocalPort : UInt32
deriving DecidableEq, Repr

/-- For every network mode the mode each client has in it, keyed by client id. -/
abbrev ModeMap : Type := StdMap UInt32 (StdMap UInt32 UInt32)

/-- The settings of all services in all modes, keyed by service id and mode. -/
abbrev ServiceMap : Type := StdMap UInt32 (StdMap UInt32 ServiceSettings)

/-- `struct experiment_parameter`. Durations are in milliseconds. -/
structure ExperimentParameter where
  experimentNumber : UInt32
  experimentIterations : UInt32
  synchronousStartMode : Bool
  mcDistributionPhaseDuration : ℕ
  mcClientReconfigOffset : ℕ
  mcClientStartOffset : ℕ
  hyperperiodDuration : ℕ
  startupMode : UInt32
  startupModeMap : ModeMap
  reconfigurationOrder : List UInt32
  reconfigurationMap : ModeMap

namespace ServiceMap

/-- `map[service][mode]`, the settings read and the map afterwards. -/
def subscript (map : ServiceMap) (service mode : UInt32) : ServiceSettings × ServiceMap :=
  let modes := StdMap.subscript map service
  let settings := StdMap.subscript modes.1 mode
  (settings.1, modes.2.insert service settings.2)

/-- The settings `map[service][mode]` reads. -/
def settings (map : ServiceMap) (service mode : UInt32) : ServiceSettings :=
  (map[service]?.getD default)[mode]?.getD default

theorem subscript_fst (map : ServiceMap) (service mode : UInt32) :
    (map.subscript service mode).1 = map.settings service mode := by
  simp only [subscript, settings, StdMap.subscript_fst]

/-- Reading settings leaves all settings as they are, although it may create entries. -/
theorem settings_subscript_snd (map : ServiceMap) (service mode : UInt32) :
    (map.subscript service mode).2.settings = map.settings := by
  funext other otherMode
  simp only [subscript, settings, StdMap.getElem?_insert]
  split_ifs with heq
  · rw [Option.getD_some, StdMap.getD_subscript_snd, StdMap.subscript_fst, heq]
  · rw [StdMap.getD_subscript_snd]

/-- The settings of a service in a mode, if there are any. -/
def find (map : ServiceMap) (service mode : UInt32) : Option ServiceSettings :=
  map[service]?.bind fun modes ↦ modes[mode]?

/-- Settings that are there are read, and no entry is created. -/
theorem subscript_of_find {map : ServiceMap} {service mode : UInt32} {settings : ServiceSettings}
    (h : map.find service mode = some settings) :
    map.subscript service mode = (settings, map) := by
  obtain ⟨modes, hmodes, hsettings⟩ := Option.bind_eq_some_iff.mp h
  rw [subscript, StdMap.subscript_of_getElem? hmodes]
  simp only [StdMap.subscript_of_getElem? hsettings]
  rw [StdMap.insert_of_getElem? hmodes]

/-- There are settings for what has been looked up. -/
theorem isSome_find_subscript_snd (map : ServiceMap) (service mode : UInt32) :
    ((map.subscript service mode).2.find service mode).isSome = true := by
  rw [subscript, find, StdMap.getElem?_insert, if_pos rfl]
  exact StdMap.isSome_getElem?_subscript_snd _ mode

theorem settings_of_find {map : ServiceMap} {service mode : UInt32} {settings : ServiceSettings}
    (h : map.find service mode = some settings) : map.settings service mode = settings := by
  rw [← subscript_fst, subscript_of_find h]

end ServiceMap

end Tanos
