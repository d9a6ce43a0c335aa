import Mathlib
import Tanos.Library.PeriodicGrid
import Tanos.Rm.CommandedMode
import Tanos.TrafficGenerator

/-!
# Slot exclusivity

The settings of a service in a mode reserve a slot of every period for it. A round with synchronous
objects tells each client when to start, and from there the senders count their periods on their
own: the resource manager takes the slot from the settings of the mode it commands, and the sender
its period from the settings of the mode that arrives, which is the lower 8 bits of that mode.

All clients of a round start by their slots after the whole seconds of the target hyperperiod, so
that the transmissions are windows in the sense of `Library.PeriodicGrid`, with the two deadlines as
their periods (`exclusive_iff_disjoint_repeatedWindow`). `exclusive_iff` says for which slots and
deadlines they never meet. Disjoint slots before the common deadline are among them as long as the
modes are below 256 (`exclusive_of_lt`), and need not be from there on
(`not_exclusive_wideMode`).
-/

set_option autoImplicit false
set_option relaxedAutoImplicit false

namespace Tanos.SlotExclusivity

open NetLayerRM TrafficGenerator Library.PeriodicGrid

/-- The slot the settings of a service reserve, in milliseconds of a period. -/
def slot (settings : ServiceSettings) : Set ℤ :=
  Set.Ico (settings.slotOffset.toNat : ℤ)
    (settings.slotOffset.toNat + settings.slotLength.toNat : ℤ)

/-- The settings of the service a command is for, in the mode it commands. -/
def commandedSettings (rm : NetLayerRM) (command : ServiceCommand) : ServiceSettings :=
  rm.rmClientServiceMap.settings command.service.toUInt32 command.mode

/-- The settings that the sender of the service finds for the mode with which the command arrives,
in the configuration it has been started with. -/
def arrivingSettings (configuration : ServiceMap) (command : ServiceCommand) :
    Option ServiceSettings :=
  configuration.find command.service.toUInt32 command.arrivingMode

/-- The `local_timestamp` of the sender after some uninterrupted periods. A sender that finds no
settings for its mode leaves its loop. -/
def localTimestamp (configuration : ServiceMap) (command : ServiceCommand) (start : Timespec) :
    ℕ → Option Timespec
  | 0 => some start
  | periods + 1 => do
    let settings ← arrivingSettings configuration command
    let localTimestamp ← localTimestamp configuration command start periods
    return nextLocalTimestamp settings.deadline.toNat localTimestamp

/-- The window in which a sender transmits from its local timestamp on, in nanoseconds. -/
def transmissionWindow (settings : ServiceSettings) (localTimestamp : Timespec) : Set ℤ :=
  Set.Ico localTimestamp.nanoseconds
    (localTimestamp.nanoseconds + settings.slotLength.toNat * 1000000)

/-- The senders that have been sent the commands never transmit at the same time. -/
def Exclusive (configuration : ServiceMap) (rm : NetLayerRM) (first second : ServiceCommand) :
    Prop :=
  ∃ firstStart secondStart, first.timestampStart = some firstStart ∧
    second.timestampStart = some secondStart ∧
    ∀ a b, ∀ firstTime ∈ localTimestamp configuration first firstStart a,
      ∀ secondTime ∈ localTimestamp configuration second secondStart b,
        Disjoint (transmissionWindow (commandedSettings rm first) firstTime)
          (transmissionWindow (commandedSettings rm second) secondTime)

/-- The milliseconds by which the sender repeats its transmission, and 0 for one that does not. -/
def arrivingDeadline (configuration : ServiceMap) (command : ServiceCommand) : ℕ :=
  ((arrivingSettings configuration command).map fun settings ↦ settings.deadline.toNat).getD 0

/-- The condition: one of the slots is empty, or the earlier one is not repeated, or each slot ends
before the remainder, modulo the greatest common divisor of the periods, by which the other one
begins after it. -/
def StayApart (first second : ServiceSettings) (firstPeriod secondPeriod : ℕ) : Prop :=
  first.slotLength.toNat = 0 ∨ second.slotLength.toNat = 0 ∨
    firstPeriod = 0 ∧ first.slotOffset.toNat < second.slotOffset.toNat ∨
    secondPeriod = 0 ∧ second.slotOffset.toNat < first.slotOffset.toNat ∨
    (first.slotLength.toNat : ℤ) ≤
        ((second.slotOffset.toNat : ℤ) - first.slotOffset.toNat) %
          Nat.gcd firstPeriod secondPeriod ∧
      (second.slotLength.toNat : ℤ) ≤
        ((first.slotOffset.toNat : ℤ) - second.slotOffset.toNat) %
          Nat.gcd firstPeriod secondPeriod

/-! ### The periods of a sender -/

section

variable {configuration : ServiceMap} {command : ServiceCommand} {start : Timespec}

/-- The periods of an uninterrupted sender are equidistant. -/
theorem nanoseconds_localTimestamp {periods : ℕ} {time : Timespec}
    (htime : time ∈ localTimestamp configuration command start periods) :
    time.nanoseconds =
      start.nanoseconds + periods * (arrivingDeadline configuration command * 1000000) := by
  induction periods generalizing time with
  | zero =>
    obtain rfl := Option.some.inj htime
    simp
  | succ periods ih =>
    obtain ⟨settings, hsettings, hperiod⟩ := Option.bind_eq_some_iff.mp htime
    obtain ⟨last, hlast, hnext⟩ := Option.bind_eq_some_iff.mp hperiod
    obtain rfl := Option.some.inj hnext
    have hdeadline : arrivingDeadline configuration command = settings.deadline.toNat := by
      rw [arrivingDeadline, hsettings]
      rfl
    rw [nanoseconds_nextLocalTimestamp, ih hlast, hdeadline]
    push_cast
    ring

variable (configuration command start) in
/-- A sender comes to the beginning of every period that it repeats its transmission with. -/
theorem exists_localTimestamp (periods : ℕ) :
    ∃ a, ∃ time ∈ localTimestamp configuration command start a, time.nanoseconds =
      start.nanoseconds + periods * (arrivingDeadline configuration command * 1000000) := by
  cases hsettings : arrivingSettings configuration command with
  | none =>
    refine ⟨0, start, rfl, ?_⟩
    simp [arrivingDeadline, hsettings]
  | some settings =>
    have hcomes : ∀ count, ∃ time, time ∈ localTimestamp configuration command start count := by
      intro count
      induction count with
      | zero => exact ⟨start, rfl⟩
      | succ count ih =>
        obtain ⟨time, htime⟩ := ih
        refine ⟨nextLocalTimestamp settings.deadline.toNat time, ?_⟩
        simp [localTimestamp, hsettings, Option.mem_def.mp htime]
    obtain ⟨time, htime⟩ := hcomes periods
    exact ⟨periods, time, htime, nanoseconds_localTimestamp htime⟩

end

/-! ### The transmissions of two senders -/

/-- Windows in nanoseconds behind a common origin meet where those in milliseconds do. -/
theorem disjoint_nanoseconds_iff (origin : ℤ) (offset other : ℤ) (length otherLength : ℕ) :
    Disjoint
        (Set.Ico (origin + offset * 1000000) (origin + offset * 1000000 + length * 1000000))
        (Set.Ico (origin + other * 1000000) (origin + other * 1000000 + otherLength * 1000000)) ↔
      Disjoint (Set.Ico offset (offset + length)) (Set.Ico other (other + otherLength)) := by
  rw [Set.Ico_disjoint_Ico, Set.Ico_disjoint_Ico]
  omega

variable {configuration : ServiceMap} {rm : NetLayerRM} {first second : ServiceCommand}
  {target : Timespec}

/-- Assumes: both commands start their senders by their slots after one target hyperperiod. The
senders transmit in windows that are repeated with the deadlines of the modes that arrive. -/
theorem exclusive_iff_disjoint_repeatedWindow
    (hfirst : first.timestampStart =
      some (prepareTimestampAdd target (commandedSettings rm first).slotOffset.toNat))
    (hsecond : second.timestampStart =
      some (prepareTimestampAdd target (commandedSettings rm second).slotOffset.toNat)) :
    Exclusive configuration rm first second ↔ ∀ a b, Disjoint
      (repeatedWindow (commandedSettings rm first).slotOffset.toNat
        (commandedSettings rm first).slotLength.toNat (arrivingDeadline configuration first) a)
      (repeatedWindow (commandedSettings rm second).slotOffset.toNat
        (commandedSettings rm second).slotLength.toNat
        (arrivingDeadline configuration second) b) := by
  have hstart (offset periods deadline : ℕ) :
      (prepareTimestampAdd target offset).nanoseconds + (periods : ℤ) * (deadline * 1000000) =
        target.tvSec * 1000000000 + ((offset : ℤ) + periods * deadline) * 1000000 := by
    rw [nanoseconds_prepareTimestampAdd]
    ring
  have hwindows (a b : ℕ) {firstTime secondTime : Timespec}
      (hfirstTime : firstTime.nanoseconds =
        (prepareTimestampAdd target (commandedSettings rm first).slotOffset.toNat).nanoseconds +
          a * (arrivingDeadline configuration first * 1000000))
      (hsecondTime : secondTime.nanoseconds =
        (prepareTimestampAdd target (commandedSettings rm second).slotOffset.toNat).nanoseconds +
          b * (arrivingDeadline configuration second * 1000000)) :
      Disjoint (transmissionWindow (commandedSettings rm first) firstTime)
          (transmissionWindow (commandedSettings rm second) secondTime) ↔
        Disjoint (repeatedWindow (commandedSettings rm first).slotOffset.toNat
            (commandedSettings rm first).slotLength.toNat
            (arrivingDeadline configuration first) a)
          (repeatedWindow (commandedSettings rm second).slotOffset.toNat
            (commandedSettings rm second).slotLength.toNat
            (arrivingDeadline configuration second) b) := by
    rw [transmissionWindow, transmissionWindow, hfirstTime, hsecondTime, hstart, hstart]
    exact disjoint_nanoseconds_iff _ _ _ _ _
  constructor
  · rintro ⟨firstStart, secondStart, hfirstStart, hsecondStart, hdisjoint⟩ a b
    obtain rfl := Option.some.inj (hfirst.symm.trans hfirstStart)
    obtain rfl := Option.some.inj (hsecond.symm.trans hsecondStart)
    obtain ⟨m, firstTime, hfirstMem, hfirstTime⟩ :=
      exists_localTimestamp configuration first _ a
    obtain ⟨n, secondTime, hsecondMem, hsecondTime⟩ :=
      exists_localTimestamp configuration second _ b
    exact (hwindows a b hfirstTime hsecondTime).mp
      (hdisjoint m n firstTime hfirstMem secondTime hsecondMem)
  · intro hdisjoint
    refine ⟨_, _, hfirst, hsecond, fun a b firstTime hfirstTime secondTime hsecondTime ↦ ?_⟩
    exact (hwindows a b (nanoseconds_localTimestamp hfirstTime)
      (nanoseconds_localTimestamp hsecondTime)).mpr (hdisjoint a b)

/-- Assumes: both commands start their senders by their slots after one target hyperperiod, and the
slots are disjoint. -/
theorem exclusive_iff_stayApart
    (hfirst : first.timestampStart =
      some (prepareTimestampAdd target (commandedSettings rm first).slotOffset.toNat))
    (hsecond : second.timestampStart =
      some (prepareTimestampAdd target (commandedSettings rm second).slotOffset.toNat))
    (hslots : Disjoint (slot (commandedSettings rm first)) (slot (commandedSettings rm second))) :
    Exclusive configuration rm first second ↔
      StayApart (commandedSettings rm first) (commandedSettings rm second)
        (arrivingDeadline configuration first) (arrivingDeadline configuration second) := by
  rw [exclusive_iff_disjoint_repeatedWindow hfirst hsecond, StayApart]
  generalize commandedSettings rm first = left at *
  generalize commandedSettings rm second = right at *
  rcases Nat.eq_zero_or_pos left.slotLength.toNat with hempty | hleft
  · simp [repeatedWindow, hempty]
  rcases Nat.eq_zero_or_pos right.slotLength.toNat with hempty | hright
  · simp [repeatedWindow, hempty]
  rw [slot, slot, Set.Ico_disjoint_Ico] at hslots
  rw [forall_disjoint_iff (by omega) (by omega) (by omega)]
  simp only [hleft.ne', hright.ne', false_or, Nat.cast_lt]

/-! ### Modes of a single byte -/

/-- A mode that fits into the byte of the message arrives as it is, and the sender repeats its
transmission with the deadline of this mode. -/
theorem arrivingDeadline_of_lt (configuration : ServiceMap) {command : ServiceCommand}
    (hmode : command.mode.toNat < 256) :
    arrivingDeadline configuration command =
      (configuration.settings command.service.toUInt32 command.mode).deadline.toNat := by
  rw [arrivingDeadline, arrivingSettings, ControlCommand.arrivingMode,
    (toUInt32_toUInt8_eq_iff command.mode).mpr hmode, ServiceMap.find, ServiceMap.settings]
  cases configuration[command.service.toUInt32]? with
  | none => simp; rfl
  | some modes => cases hsettings : modes[command.mode]? <;> simp [hsettings]; rfl

/-- Disjoint slots before a common deadline stay apart. -/
theorem stayApart_of_subset {first second : ServiceSettings} {deadline : ℕ}
    (hfirst : slot first ⊆ Set.Ico 0 (deadline : ℤ))
    (hsecond : slot second ⊆ Set.Ico 0 (deadline : ℤ))
    (hslots : Disjoint (slot first) (slot second)) :
    StayApart first second deadline deadline := by
  rcases Nat.eq_zero_or_pos first.slotLength.toNat with hempty | hfirst_pos
  · exact Or.inl hempty
  rcases Nat.eq_zero_or_pos second.slotLength.toNat with hempty | hsecond_pos
  · exact Or.inr (Or.inl hempty)
  rw [slot, Set.Ico_subset_Ico_iff (by omega)] at hfirst hsecond
  rw [slot, slot, Set.Ico_disjoint_Ico] at hslots
  refine Or.inr (Or.inr (Or.inr (Or.inr ?_)))
  rw [Nat.gcd_self]
  generalize first.slotOffset.toNat = offset at *
  generalize second.slotOffset.toNat = other at *
  rcases lt_or_ge offset other with hlt | hle
  · have hahead : ((other : ℤ) - offset) % deadline = other - offset :=
      Int.emod_eq_of_lt (by omega) (by omega)
    have hbehind : ((offset : ℤ) - other) % deadline = offset - other + deadline := by
      rw [← Int.add_emod_right, Int.emod_eq_of_lt (by omega) (by omega)]
    omega
  · have hahead : ((offset : ℤ) - other) % deadline = offset - other :=
      Int.emod_eq_of_lt (by omega) (by omega)
    have hbehind : ((other : ℤ) - offset) % deadline = other - offset + deadline := by
      rw [← Int.add_emod_right, Int.emod_eq_of_lt (by omega) (by omega)]
    omega

/-! ### Clients of one round -/

/-- The start timestamps of a round. -/
theorem timestampStart_of_mem (objects : SynchronousObjects) (target : Timespec)
    (rm : NetLayerRM) (iterator : UInt8) (networkMode : UInt32) {command : ServiceCommand}
    (hcommand : command ∈ (reconfigureClients objects target rm iterator networkMode).2) :
    command.timestampStart =
      some (prepareTimestampAdd target (commandedSettings rm command).slotOffset.toNat) := by
  obtain ⟨-, hsent⟩ := reconfigureClients_spec objects target rm iterator networkMode
  rw [ControlCommand.timestampStart, hsent command hcommand]
  rfl

/-- Slot exclusivity from the resource manager to the senders: two services with disjoint slots that
are addressed in the same round never transmit at the same time, precisely when their slots stay
apart under the deadlines of the modes that arrive. -/
theorem exclusive_iff (configuration : ServiceMap) (objects : SynchronousObjects)
    (target : Timespec) (rm : NetLayerRM) (iterator : UInt8) (networkMode : UInt32)
    {first second : ServiceCommand}
    (hfirst : first ∈ (reconfigureClients objects target rm iterator networkMode).2)
    (hsecond : second ∈ (reconfigureClients objects target rm iterator networkMode).2)
    (hslots : Disjoint (slot (commandedSettings rm first)) (slot (commandedSettings rm second))) :
    Exclusive configuration rm first second ↔
      StayApart (commandedSettings rm first) (commandedSettings rm second)
        (arrivingDeadline configuration first) (arrivingDeadline configuration second) :=
  exclusive_iff_stayApart (timestampStart_of_mem objects target rm iterator networkMode hfirst)
    (timestampStart_of_mem objects target rm iterator networkMode hsecond) hslots

/-- Assumes: the senders have been started with the settings that the resource manager has, and the
modes are below 256. Disjoint slots before a common deadline exclude each other. -/
theorem exclusive_of_lt {configuration : ServiceMap} (objects : SynchronousObjects)
    (target : Timespec) (rm : NetLayerRM) (iterator : UInt8) (networkMode : UInt32)
    (hsettings : rm.rmClientServiceMap.settings = configuration.settings)
    {first second : ServiceCommand}
    (hfirst : first ∈ (reconfigureClients objects target rm iterator networkMode).2)
    (hsecond : second ∈ (reconfigureClients objects target rm iterator networkMode).2)
    (hfirst_mode : first.mode.toNat < 256) (hsecond_mode : second.mode.toNat < 256)
    {deadline : UInt32} (hfirst_deadline : (commandedSettings rm first).deadline = deadline)
    (hsecond_deadline : (commandedSettings rm second).deadline = deadline)
    (hfirst_slot : slot (commandedSettings rm first) ⊆ Set.Ico 0 (deadline.toNat : ℤ))
    (hsecond_slot : slot (commandedSettings rm second) ⊆ Set.Ico 0 (deadline.toNat : ℤ))
    (hslots : Disjoint (slot (commandedSettings rm first)) (slot (commandedSettings rm second))) :
    Exclusive configuration rm first second := by
  rw [exclusive_iff_stayApart
    (timestampStart_of_mem objects target rm iterator networkMode hfirst)
    (timestampStart_of_mem objects target rm iterator networkMode hsecond) hslots,
    arrivingDeadline_of_lt configuration hfirst_mode,
    arrivingDeadline_of_lt configuration hsecond_mode, ← hsettings]
  rw [commandedSettings] at hfirst_deadline hsecond_deadline
  rw [hfirst_deadline, hsecond_deadline]
  exact stayApart_of_subset hfirst_slot hsecond_slot hslots

/-- Settings with a slot of 40 milliseconds. -/
def fortyMilliseconds (deadline slotOffset : UInt32) : ServiceSettings :=
  { singleSettings slotOffset with deadline := deadline, slotLength := 40 }

/-- Two services of one client, which runs in mode 257 in network mode 0. The deadline of the first
service in mode 1 is given. -/
def twoServices (deadline : UInt32) : NetLayerRM where
  experimentParameterStruct :=
    { singleParameter 100 0 0 0 with
      reconfigurationMap := (∅ : ModeMap).insert 0 ((∅ : StdMap UInt32 UInt32).insert 1 257) }
  hyperperiodDuration := 100
  hyperperiodDuration_eq := rfl
  serviceList :=
    (ServiceList.empty.insert singleRequest).insert { singleRequest with serviceId := 2 }
  rmClientConfigMap := ∅
  rmClientServiceMap :=
    ((∅ : ServiceMap).insert 1 (((∅ : StdMap UInt32 ServiceSettings).insert 257
      (fortyMilliseconds 100 0)).insert 1 (fortyMilliseconds deadline 0))).insert 2
        (((∅ : StdMap UInt32 ServiceSettings).insert 257 (fortyMilliseconds 100 50)).insert 1
          (fortyMilliseconds 100 50))
  rmActiveTimestampLast := ⟨0, 0⟩

/-- The call for one of the two services, with the slot offset of its mode 257. -/
def twoServicesCall (service : UInt64) (slotOffset : ℕ) : ServiceCommand :=
  let start := prepareTimestampAdd ⟨1000, 0⟩ slotOffset
  ⟨sendTimeTriggeredSynchronousReconfigureType ⟨0, 0⟩ (prepareTimestampSub start 0) start
    (some ⟨"127.0.0.1", 25525⟩) service 257 .rmClientSyncTimestampReconfigureSyncObjectSw 0,
    service⟩

/-- Both services are called. -/
theorem mem_reconfigureClients_twoServices (deadline : UInt32) :
    twoServicesCall 1 0 ∈ (reconfigureClients .sw ⟨1000, 0⟩ (twoServices deadline) 0 0).2 ∧
      twoServicesCall 2 50 ∈ (reconfigureClients .sw ⟨1000, 0⟩ (twoServices deadline) 0 0).2 :=
  ⟨List.mem_cons_self, List.mem_cons_of_mem _ List.mem_cons_self⟩

/-- Their slots are disjoint. -/
theorem disjoint_slot_twoServices (deadline : UInt32) :
    Disjoint (slot (commandedSettings (twoServices deadline) (twoServicesCall 1 0)))
      (slot (commandedSettings (twoServices deadline) (twoServicesCall 2 50))) := by
  show Disjoint (slot (fortyMilliseconds 100 0)) (slot (fortyMilliseconds 100 50))
  exact Set.Ico_disjoint_Ico.mpr (by decide)

theorem exclusive_iff_twoServices :
    Exclusive (twoServices 200).rmClientServiceMap (twoServices 200) (twoServicesCall 1 0)
        (twoServicesCall 2 50) ↔
      StayApart (fortyMilliseconds 100 0) (fortyMilliseconds 100 50) 200 100 := by
  obtain ⟨hfirst, hsecond⟩ := mem_reconfigureClients_twoServices 200
  exact exclusive_iff (twoServices 200).rmClientServiceMap .sw ⟨1000, 0⟩ (twoServices 200) 0 0
    hfirst hsecond (disjoint_slot_twoServices 200)

/-- Both services are commanded to mode 257, with a deadline of 100 milliseconds and disjoint slots
before it. Mode 1 arrives, in which the first service has a deadline of 150 milliseconds, so that
its slot comes to meet the one of the second service. -/
theorem not_exclusive_wideMode :
    let rm := twoServices 150
    let sent := (reconfigureClients .sw ⟨1000, 0⟩ rm 0 0).2
    ∃ first ∈ sent, ∃ second ∈ sent, first.service ≠ second.service ∧
      (commandedSettings rm first).deadline = 100 ∧
      (commandedSettings rm second).deadline = 100 ∧
      slot (commandedSettings rm first) ⊆ Set.Ico 0 100 ∧
      slot (commandedSettings rm second) ⊆ Set.Ico 0 100 ∧
      Disjoint (slot (commandedSettings rm first)) (slot (commandedSettings rm second)) ∧
      ¬ Exclusive rm.rmClientServiceMap rm first second := by
  intro rm sent
  obtain ⟨hfirst, hsecond⟩ := mem_reconfigureClients_twoServices 150
  refine ⟨_, hfirst, _, hsecond, by decide, rfl, rfl, Set.Ico_subset_Ico (by decide) (by decide),
    Set.Ico_subset_Ico (by decide) (by decide), disjoint_slot_twoServices 150, ?_⟩
  rw [exclusive_iff_stayApart (timestampStart_of_mem _ _ _ _ _ hfirst)
    (timestampStart_of_mem _ _ _ _ _ hsecond) (disjoint_slot_twoServices 150), StayApart]
  decide

end Tanos.SlotExclusivity
