import Tanos.Rm.SingleClient
import Tanos.Rm.TimestampInverse

/-!
# Reconfiguration before the start

With synchronous objects a client starts at the target hyperperiod and its slot offset, and
reconfigures a configured offset before that, or at the epoch if that is too early. Its start time
comes from `prepare_timestamp_add` and its reconfiguration time from `prepare_timestamp_sub`, which
counts nanoseconds in a signed 64-bit integer.

`PrecedesStart` says that both are computed without overflow, normalised, and apart by the offset.
The two helpers are exact on all targets, normalised or not, so that every message of a round has
the property precisely when its start, in nanoseconds, fits the integer (`precedesStart_iff`). The
last such second is in the year 2262.
-/

set_option autoImplicit false
set_option relaxedAutoImplicit false

namespace Tanos.ReconfigurationLead

open MessageNet NetLayerRM

/-- The start time is that of the target and the slot offset, in milliseconds, the reconfiguration
time that of the start time without the reconfiguration offset, or the epoch. -/
structure PrecedesStart (target : Timespec) (slotOffset reconfigOffset : ℕ)
    (payload : TimestampPayload) : Prop where
  add_eq : prepareTimestampAddChecked target slotOffset = some payload.timestampStart
  sub_eq : prepareTimestampSubChecked payload.timestampStart reconfigOffset =
    some payload.timestampReconfig
  normalised_start : payload.timestampStart.Normalised
  normalised_reconfig : payload.timestampReconfig.Normalised
  nanoseconds_reconfig : payload.timestampReconfig.nanoseconds =
    max 0 (payload.timestampStart.nanoseconds - reconfigOffset * 1000000)

/-- A difference is exact down to the epoch, on all timestamps. -/
theorem nanoseconds_prepareTimestampSub_eq_max (timeStamp : Timespec) (delay : ℕ) :
    (prepareTimestampSub timeStamp delay).nanoseconds =
      max 0 (timeStamp.nanoseconds - delay * 1000000) := by
  by_cases hdelay : (delay : ℤ) * 1000000 ≤ timeStamp.nanoseconds
  · rw [nanoseconds_prepareTimestampSub hdelay, max_eq_right (by omega)]
  · have hnegative : timeStamp.tvSec * 1000000000 + timeStamp.tvNsec - delay * 1000000 < 0 := by
      rw [Timespec.nanoseconds] at hdelay
      omega
    rw [max_eq_left (by omega)]
    simp only [prepareTimestampSub, if_pos hnegative]
    rfl

/-- Assumes: the target is not before the epoch, and both offsets are 32-bit values. The timestamps
of `prepareTimestampAdd` and `prepareTimestampSub` are apart by the reconfiguration offset precisely
when the start time in nanoseconds does not overflow. -/
theorem precedesStart_prepareTimestamp_iff {target : Timespec} (htarget : 0 ≤ target.tvSec)
    {slotOffset reconfigOffset : ℕ} (hslot : slotOffset < 2 ^ 32)
    (hreconfig : reconfigOffset < 2 ^ 32) (action : RMCommand) (stop : Timespec) :
    PrecedesStart target slotOffset reconfigOffset
        ⟨action, stop, prepareTimestampSub (prepareTimestampAdd target slotOffset) reconfigOffset,
          prepareTimestampAdd target slotOffset⟩ ↔
      FitsInt64 (target.tvSec * 1000000000 + slotOffset * 1000000) := by
  have hstart := nanoseconds_prepareTimestampAdd target slotOffset
  have hstartSec := tvSec_prepareTimestampAdd target slotOffset
  constructor
  · intro hprecedes
    obtain ⟨htotal, -⟩ := prepareTimestampSub_of_checked hprecedes.sub_eq
    rwa [hstart] at htotal
  · rintro ⟨hlower, hupper⟩
    have hadd : prepareTimestampAddChecked target slotOffset =
        some (prepareTimestampAdd target slotOffset) :=
      prepareTimestampAddChecked_eq ⟨by omega, by omega⟩ ⟨by omega, by omega⟩
    have hsub : prepareTimestampSubChecked (prepareTimestampAdd target slotOffset)
        reconfigOffset =
          some (prepareTimestampSub (prepareTimestampAdd target slotOffset) reconfigOffset) := by
      refine prepareTimestampSubChecked_eq ⟨by omega, by omega⟩ ⟨by omega, by omega⟩ ?_ ?_
      · rw [hstart]
        exact ⟨hlower, hupper⟩
      · rw [hstart]
        exact ⟨by omega, by omega⟩
    exact ⟨hadd, hsub, normalised_prepareTimestampAdd _ _, normalised_prepareTimestampSub _ _,
      nanoseconds_prepareTimestampSub_eq_max _ _⟩

/-- Assumes: the target is not before the epoch, and the reconfiguration offset is a 32-bit value.
Every message of a round, in both experiments with synchronous objects, has a reconfiguration time
that precedes its start time by the offset, down to the epoch, precisely when the start time in
nanoseconds does not overflow. -/
theorem precedesStart_iff (objects : SynchronousObjects) {target : Timespec}
    (htarget : 0 ≤ target.tvSec) (rm : NetLayerRM)
    (hreconfig : rm.experimentParameterStruct.mcClientReconfigOffset < 2 ^ 32) (iterator : UInt8)
    (networkMode : UInt32) {command : ServiceCommand}
    (hcommand : command ∈ (reconfigureClients objects target rm iterator networkMode).2) :
    (∃ payload, command.payload = some payload ∧
      PrecedesStart target (rm.slotOffset command.service command.mode)
        rm.experimentParameterStruct.mcClientReconfigOffset payload) ↔
      FitsInt64 (target.tvSec * 1000000000 +
        rm.slotOffset command.service command.mode * 1000000) := by
  obtain ⟨-, hsent⟩ := reconfigureClients_spec objects target rm iterator networkMode
  have hslot : rm.slotOffset command.service command.mode < 2 ^ 32 := UInt32.toNat_lt _
  have hiff := precedesStart_prepareTimestamp_iff htarget hslot hreconfig
    .syncTimestampReconfgure ⟨0, 0⟩
  rw [hsent command hcommand, ← hiff]
  constructor
  · rintro ⟨payload, hpayload, hprecedes⟩
    obtain rfl := Option.some.inj hpayload
    exact hprecedes
  · intro hprecedes
    exact ⟨_, rfl, hprecedes⟩

/-- A target 1.5 seconds past a full second, a slot offset of 20 ms and a reconfiguration offset of
1700 ms. -/
theorem precedesStart_iff_singleClient :
    let rm := singleClient (singleParameter 100 0 1700 0) 20 ⟨0, 0⟩
    ∃ command ∈ (reconfigureClients .sw ⟨5, 1500000000⟩ rm 0 0).2,
      (∃ payload, command.payload = some payload ∧
        PrecedesStart ⟨5, 1500000000⟩ (rm.slotOffset command.service command.mode)
          rm.experimentParameterStruct.mcClientReconfigOffset payload) ↔
        FitsInt64 (5 * 1000000000 + rm.slotOffset command.service command.mode * 1000000) := by
  intro rm
  have hcommand : _ ∈ (reconfigureClients .sw ⟨5, 1500000000⟩ rm 0 0).2 := List.mem_cons_self
  have hreconfig : rm.experimentParameterStruct.mcClientReconfigOffset < 2 ^ 32 := by decide
  exact ⟨_, hcommand, precedesStart_iff .sw (by decide) rm hreconfig 0 0 hcommand⟩

/-- In the year 2286 the number of nanoseconds overflows. -/
theorem not_precedesStart_overflow :
    let rm := singleClient (singleParameter 100 0 1700 0) 20 ⟨0, 0⟩
    ∃ command ∈ (reconfigureClients .sw ⟨10000000000, 0⟩ rm 0 0).2,
      ∀ payload, command.payload = some payload →
        ¬ PrecedesStart ⟨10000000000, 0⟩ (rm.slotOffset command.service command.mode)
          rm.experimentParameterStruct.mcClientReconfigOffset payload := by
  intro rm
  have hcommand : _ ∈ (reconfigureClients .sw ⟨10000000000, 0⟩ rm 0 0).2 := List.mem_cons_self
  refine ⟨_, hcommand, fun payload hpayload hprecedes ↦ ?_⟩
  obtain rfl := Option.some.inj hpayload
  obtain ⟨htotal, -⟩ := prepareTimestampSub_of_checked hprecedes.sub_eq
  exact absurd htotal (by decide)

end Tanos.ReconfigurationLead
