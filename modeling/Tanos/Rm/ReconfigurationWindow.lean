import Tanos.Rm.SingleClient

/-!
# The reconfiguration window of asynchronous objects

With asynchronous objects in hardware, a client is told to stop, to reconfigure and to start again
by three timestamps. `OrderedWindow` says that they come in this order, exactly the two configured
offsets apart.

`payload_of_mem` computes the three timestamps of every message of a round. The stop time is taken
from the clock as it is, the other two have passed through `prepareTimestampAdd`, which drops the
nanoseconds. The window is therefore as configured precisely when the clock stands at a full second
(`orderedWindow_iff`), and at any other reading the reconfiguration comes too early.
-/

set_option autoImplicit false
set_option relaxedAutoImplicit false

namespace Tanos.ReconfigurationWindow

open NetLayerRM

/-- The window a client is given: stop, reconfigure and start in this order, the configured offsets
apart. -/
structure OrderedWindow (parameter : ExperimentParameter) (payload : TimestampPayload) : Prop where
  stop_le_reconfig : payload.timestampStop.nanoseconds ≤ payload.timestampReconfig.nanoseconds
  reconfig_le_start : payload.timestampReconfig.nanoseconds ≤ payload.timestampStart.nanoseconds
  reconfig_sub_stop : payload.timestampReconfig.nanoseconds - payload.timestampStop.nanoseconds =
    parameter.mcClientReconfigOffset * 1000000
  start_sub_reconfig : payload.timestampStart.nanoseconds - payload.timestampReconfig.nanoseconds =
    parameter.mcClientStartOffset * 1000000

/-- All messages of a round carry the same three timestamps. -/
theorem payload_of_mem (rm : NetLayerRM) (iterator : UInt8) (networkMode : UInt32)
    (currentTime : Timespec) :
    ∀ command ∈ (rm.asynchonousObjectsHwRound iterator networkMode currentTime).2,
      command.payload = some ⟨.syncTimestampReconfgure, rm.targetMcBegin currentTime,
        prepareTimestampAdd (rm.targetMcBegin currentTime)
          rm.experimentParameterStruct.mcClientReconfigOffset,
        prepareTimestampAdd (rm.targetMcBegin currentTime)
          (rm.experimentParameterStruct.mcClientStartOffset +
            rm.experimentParameterStruct.mcClientReconfigOffset)⟩ := by
  refine (addressClients_invariant (fun _ ↦ True) ?_ trivial).2
  intro current serviceId message mode _ _
  refine ⟨trivial, fun command hcommand ↦ ?_⟩
  obtain rfl := List.mem_singleton.mp hcommand
  rfl

theorem nanoseconds_targetMcBegin (rm : NetLayerRM) (currentTime : Timespec) :
    (rm.targetMcBegin currentTime).nanoseconds =
      (rm.targetMcBegin currentTime).tvSec * 1000000000 + currentTime.tvNsec := rfl

/-- The exact condition for a window as configured, for every message of a round: the clock stands
at a full second. -/
theorem orderedWindow_iff (rm : NetLayerRM) (iterator : UInt8) (networkMode : UInt32)
    (currentTime : Timespec) {command : ServiceCommand}
    (hcommand : command ∈ (rm.asynchonousObjectsHwRound iterator networkMode currentTime).2) :
    (∃ payload, command.payload = some payload ∧
      OrderedWindow rm.experimentParameterStruct payload) ↔ currentTime.tvNsec = 0 := by
  rw [payload_of_mem rm iterator networkMode currentTime command hcommand]
  constructor
  · rintro ⟨payload, hpayload, hwindow⟩
    obtain rfl := Option.some.inj hpayload
    have hreconfig := hwindow.reconfig_sub_stop
    rw [nanoseconds_prepareTimestampAdd, nanoseconds_targetMcBegin] at hreconfig
    linarith
  · intro hwhole
    refine ⟨_, rfl, ?_⟩
    constructor <;>
      simp only [nanoseconds_prepareTimestampAdd, nanoseconds_targetMcBegin, hwhole] <;>
      push_cast <;> linarith

theorem orderedWindow_singleClient :
    let rm := singleClient (singleParameter 100 1000 10 20) 0 ⟨0, 0⟩
    ∃ command ∈ (rm.asynchonousObjectsHwRound 0 0 ⟨100, 0⟩).2,
      ∃ payload, command.payload = some payload ∧
        OrderedWindow rm.experimentParameterStruct payload := by
  intro rm
  have hcommand : _ ∈ (rm.asynchonousObjectsHwRound 0 0 ⟨100, 0⟩).2 := List.mem_singleton_self _
  exact ⟨_, hcommand, (orderedWindow_iff rm 0 0 ⟨100, 0⟩ hcommand).mpr rfl⟩

/-- Half a second past a full second, the single client is told to reconfigure 490 milliseconds
before it is told to stop. -/
theorem not_orderedWindow_singleClient :
    let rm := singleClient (singleParameter 100 1000 10 20) 0 ⟨0, 0⟩
    (⟨100, 500000000⟩ : Timespec).Normalised ∧
    ∃ command ∈ (rm.asynchonousObjectsHwRound 0 0 ⟨100, 500000000⟩).2,
      ∃ payload, command.payload = some payload ∧
        ¬ OrderedWindow rm.experimentParameterStruct payload := by
  intro rm
  refine ⟨by decide, ?_⟩
  rw [asynchonousObjectsHwRound_singleClient]
  refine ⟨_, List.mem_singleton_self _, _, rfl, fun hwindow ↦ ?_⟩
  have hstop := hwindow.stop_le_reconfig
  revert hstop
  decide

end Tanos.ReconfigurationWindow
