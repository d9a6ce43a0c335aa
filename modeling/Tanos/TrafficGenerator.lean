import Mathlib.Logic.Function.Iterate
import Mathlib.Tactic.Ring
import Tanos.Attributes.Timespec

/-!
# The traffic generator

`TrafficGenerator` is the state that the control loop of a client shares with the sending thread,
and `notifyGenerator`, `notifyGeneratorModeChange` and `notifyGeneratorTimestamp` are the three ways
to change it. A `Notification` is one call of these functions.

`nextLocalTimestamp` is the period update of the synchronous sender. It is exact on every timestamp
(`nanoseconds_nextLocalTimestamp`), so that the periods of an uninterrupted sender are equidistant.
-/

set_option autoImplicit false
set_option relaxedAutoImplicit false

namespace Tanos

/-- `enum TrafficSourceControl`. -/
inductive TrafficSourceControl where
  | threadStart
  | threadStop
  | threadPaused
  | threadTransmission
  | threadTransmissionFinishObject
  | threadReconfigure
deriving DecidableEq, Repr

/-- The members of `class TrafficGenerator` that notifications set. -/
structure TrafficGenerator where
  trafficGeneratorControl : TrafficSourceControl
  modeGlobal : UInt32
  globalUpdatePeriod : Bool
  globalPeriodTimestamp : Timespec
deriving DecidableEq, Repr

/-- One call of a `notify_generator*` function. -/
inductive Notification where
  | generator (state : TrafficSourceControl)
  | modeChange (state : TrafficSourceControl) (mode : UInt32)
  | timestamp (state : TrafficSourceControl) (time : Timespec) (mode : UInt32)
      (updatePeriod : Bool)
deriving DecidableEq, Repr

/-- The control value that a notification sets. -/
def Notification.control : Notification → TrafficSourceControl
  | generator state | modeChange state _ | timestamp state _ _ _ => state

namespace TrafficGenerator

/-- `notify_generator`. -/
def notifyGenerator (generator : TrafficGenerator) (state : TrafficSourceControl) :
    TrafficGenerator :=
  { generator with trafficGeneratorControl := state }

/-- `notify_generator_mode_change`. -/
def notifyGeneratorModeChange (generator : TrafficGenerator) (state : TrafficSourceControl)
    (mode : UInt32) : TrafficGenerator :=
  { generator with modeGlobal := mode, trafficGeneratorControl := state }

/-- `notify_generator_timestamp`. -/
def notifyGeneratorTimestamp (generator : TrafficGenerator) (state : TrafficSourceControl)
    (time : Timespec) (mode : UInt32) (updatePeriod : Bool) : TrafficGenerator :=
  { generator with
    modeGlobal := mode
    globalUpdatePeriod := updatePeriod
    globalPeriodTimestamp := time
    trafficGeneratorControl := state }

/-- The effect of a notification. -/
def notify (generator : TrafficGenerator) : Notification → TrafficGenerator
  | .generator state => generator.notifyGenerator state
  | .modeChange state mode => generator.notifyGeneratorModeChange state mode
  | .timestamp state time mode updatePeriod =>
    generator.notifyGeneratorTimestamp state time mode updatePeriod

theorem trafficGeneratorControl_notify (generator : TrafficGenerator)
    (notification : Notification) :
    (generator.notify notification).trafficGeneratorControl = notification.control := by
  cases notification <;> rfl

/-! ### Periods of the synchronous sender -/

/-- The period update of `send_objects_dynamic_change`: the next `local_timestamp`, for a deadline
in milliseconds. -/
def nextLocalTimestamp (deadline : ℕ) (localTimestamp : Timespec) : Timespec :=
  let tvNsec := localTimestamp.tvNsec + deadline * 1000000
  if tvNsec ≥ 1000000000 then
    ⟨localTimestamp.tvSec + tvNsec / 1000000000, tvNsec % 1000000000⟩
  else ⟨localTimestamp.tvSec, tvNsec⟩

theorem nanoseconds_nextLocalTimestamp (deadline : ℕ) (localTimestamp : Timespec) :
    (nextLocalTimestamp deadline localTimestamp).nanoseconds =
      localTimestamp.nanoseconds + deadline * 1000000 := by
  simp only [nextLocalTimestamp]
  split_ifs with hcarry
  · simp only [Timespec.nanoseconds]
    omega
  · simp only [Timespec.nanoseconds]
    ring

end TrafficGenerator

end Tanos
