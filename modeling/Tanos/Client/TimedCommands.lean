import Tanos.Client.Endnode
import Tanos.Client.Switch

/-!
# Commands for one time

Seven handlers wait for one timestamp of their payload. `TimedHandler` lists them, with the action
each is to perform when the time has come.

A clock that runs past the timestamp has a first reading later than it, and there the action is due.
Until then no handler does anything, and at that reading every handler returns. Whether it has
performed its action depends on the second the reading belongs to (`firesOnTime_iff`): the test for
a valid timestamp compares the seconds only, and calls a timestamp of an earlier second invalid
before it is found to be due.
-/

set_option autoImplicit false
set_option relaxedAutoImplicit false

namespace Tanos.Client

open Library.Polling

/-- The handlers that wait for one timestamp, with their parameters beside the payload. -/
inductive TimedHandler where
  | endnodeSyncStart (mode : UInt32)
  | endnodeSyncStop
  | endnodeSyncExit
  | endnodeSyncReconfigureSw (mode : UInt32)
  | switchSyncStart (mode : UInt32) (experimentNumber : UInt8)
  | switchSyncReconfigure (mode : UInt32) (experimentNumber : UInt8) (mcNumber : UInt32)
  | switchSyncExit
deriving DecidableEq, Repr

namespace TimedHandler

/-- The handler as it stands in the source. -/
def run : TimedHandler → MessageNet → List Timespec → HandlerOutcome
  | endnodeSyncStart mode, payload => Endnode.handleSyncStartMessage payload mode
  | endnodeSyncStop, payload => Endnode.handleSyncStopMessage payload
  | endnodeSyncExit, payload => Endnode.handleSyncExitMessage payload
  | endnodeSyncReconfigureSw mode, payload =>
    Endnode.handleSyncReconfigureSwMessage payload mode
  | switchSyncStart mode experimentNumber, payload =>
    Switch.handleSyncStartMessage payload mode experimentNumber
  | switchSyncReconfigure mode experimentNumber mcNumber, payload =>
    Switch.handleSyncReconfigureMessage payload mode experimentNumber mcNumber
  | switchSyncExit, payload => Switch.handleSyncExitMessage payload

/-- The timestamp the handler waits for. -/
def target : TimedHandler → MessageNet → Timespec
  | endnodeSyncStart _, payload => (RMPayload.received payload).timestampStart
  | endnodeSyncStop, payload => (RMPayload.received payload.reset).timestampStop
  | endnodeSyncExit, payload => (RMPayload.received payload.reset).timestampStop
  | endnodeSyncReconfigureSw _, payload => (RMPayload.received payload).timestampReconfig
  | switchSyncStart _ _, payload => (RMPayload.received payload).timestampStart
  | switchSyncReconfigure _ _ _, payload => (RMPayload.received payload).timestampReconfig
  | switchSyncExit, payload => (RMPayload.received payload.reset).timestampStop

/-- What the handler is to do at that time: start or stop the generator, change the mode, end the
client. -/
def action (handler : TimedHandler) (payload : MessageNet) : List ClientEffect :=
  match handler with
  | endnodeSyncStart mode =>
    [.notify (.timestamp .threadTransmission (handler.target payload) mode true)]
  | endnodeSyncStop => [.notify (.generator .threadStop)]
  | endnodeSyncExit => [.notify (.generator .threadStop), .deactivate]
  | endnodeSyncReconfigureSw mode => [.notify (.modeChange .threadTransmission mode)]
  | switchSyncStart mode experimentNumber =>
    [Switch.reconfigureSwToMode mode experimentNumber 0]
  | switchSyncReconfigure mode experimentNumber mcNumber =>
    [Switch.reconfigureSwToMode mode experimentNumber mcNumber]
  | switchSyncExit => [.deactivate]

/-- Every handler polls the clock for its timestamp. -/
theorem run_eq_poll (handler : TimedHandler) (payload : MessageNet) (samples : List Timespec) :
    handler.run payload samples =
      poll (watch (handler.target payload)) (handler.action payload) samples := by
  rw [← timedLoop_eq_poll]
  cases handler <;> rfl

theorem action_ne_nil (handler : TimedHandler) (payload : MessageNet) :
    handler.action payload ≠ [] := by
  cases handler <;> exact List.cons_ne_nil _ _

end TimedHandler

/-- Readings of a clock, of which `now` is the first one later than the target. -/
structure FirstLater (target : Timespec) (past : List Timespec) (now : Timespec) : Prop where
  normalised_past : ∀ sample ∈ past, sample.Normalised
  not_later : ∀ sample ∈ past, sample.nanoseconds ≤ target.nanoseconds
  normalised : now.Normalised
  later : target.nanoseconds < now.nanoseconds

/-- The handler does nothing before the first reading later than its target, and there it performs
its action once and returns. -/
def FiresOnTime (handler : TimedHandler) (payload : MessageNet) (past : List Timespec)
    (now : Timespec) (rest : List Timespec) : Prop :=
  handler.run payload past = ⟨[], none⟩ ∧
    handler.run payload (past ++ now :: rest) = ⟨handler.action payload, some rest⟩

section

variable {target now : Timespec} {past : List Timespec}

theorem undecided_of_firstLater (htarget : target.Normalised) (hsecond : target.tvSec ≠ 0)
    (hfirst : FirstLater target past now) :
    ∀ sample ∈ past, (watch target).decides sample = false := by
  intro sample hsample
  rw [Bool.eq_false_iff, Ne, decides_watch,
    Timespec.isLater_iff_of_normalised (hfirst.normalised_past sample hsample) htarget]
  exact not_or.mpr ⟨hsecond, not_lt.mpr (hfirst.not_later sample hsample)⟩

theorem decides_of_firstLater (htarget : target.Normalised)
    (hfirst : FirstLater target past now) : (watch target).decides now = true :=
  (decides_watch target now).mpr
    (Or.inr ((Timespec.isLater_iff_of_normalised hfirst.normalised htarget).mpr hfirst.later))

end

/-- The exact condition for a timed command to fire on time: the first reading of the clock later
than the timestamp belongs to the second of the timestamp. -/
theorem firesOnTime_iff (handler : TimedHandler) (payload : MessageNet) {past : List Timespec}
    {now : Timespec} (rest : List Timespec) (htarget : (handler.target payload).Normalised)
    (hsecond : (handler.target payload).tvSec ≠ 0)
    (hfirst : FirstLater (handler.target payload) past now) :
    FiresOnTime handler payload past now rest ↔ now.tvSec = (handler.target payload).tvSec := by
  have hpast := undecided_of_firstLater htarget hsecond hfirst
  have hnow := decides_of_firstLater htarget hfirst
  rw [FiresOnTime, TimedHandler.run_eq_poll, TimedHandler.run_eq_poll,
    poll_of_forall_undecided hpast, poll_append_cons hpast hnow]
  by_cases hhits : (watch (handler.target payload)).hits now = true
  · simp [hhits, ((hits_watch _ _).mp hhits).2]
  · have hother : now.tvSec ≠ (handler.target payload).tvSec := fun heq ↦
      hhits ((hits_watch _ _).mpr ⟨hsecond, heq⟩)
    simp [hhits, hother, (handler.action_ne_nil payload).symm]

/-- The payload of a command to start at a time. -/
def startPayload (timestampStart : Timespec) : MessageNet :=
  (RMPayload.commanded .syncTimestampStart ⟨0, 0⟩ ⟨0, 0⟩ timestampStart).serialized

/-- The start handler waits for the time it is commanded. -/
theorem target_startPayload (mode : UInt32) {timestampStart : Timespec}
    (hstart : MessageNet.FitsTimespec timestampStart) :
    (TimedHandler.endnodeSyncStart mode).target (startPayload timestampStart) =
      timestampStart := by
  rw [TimedHandler.target, startPayload, RMPayload.received_serialized
    (RMPayload.representable_commanded _ (by decide) (by decide) hstart)]
  rfl

theorem firesOnTime_startPayload :
    FiresOnTime (.endnodeSyncStart 1) (startPayload ⟨100, 0⟩) [⟨99, 5⟩] ⟨100, 1⟩ [] := by
  have htarget : (TimedHandler.endnodeSyncStart 1).target (startPayload ⟨100, 0⟩) = ⟨100, 0⟩ :=
    target_startPayload 1 (by decide)
  refine (firesOnTime_iff _ _ [] ?_ ?_ ?_).mpr ?_
  · rw [htarget]
    decide
  · rw [htarget]
    decide
  · rw [htarget]
    exact ⟨by decide, by decide, by decide, by decide⟩
  · rw [htarget]

/-- A clock that is first read again one nanosecond after the timestamp, at the next full second:
the end node is not started at all. -/
theorem not_firesOnTime_startPayload :
    let handler := TimedHandler.endnodeSyncStart 1
    let payload := startPayload ⟨100, 999999999⟩
    handler.target payload = ⟨100, 999999999⟩ ∧
      FirstLater ⟨100, 999999999⟩ [⟨100, 5⟩] ⟨101, 0⟩ ∧
      handler.run payload [⟨100, 5⟩, ⟨101, 0⟩] = ⟨[], some []⟩ ∧
      ¬ FiresOnTime handler payload [⟨100, 5⟩] ⟨101, 0⟩ [] := by
  intro handler payload
  have htarget : handler.target payload = ⟨100, 999999999⟩ := target_startPayload 1 (by decide)
  have hrun : handler.run payload [⟨100, 5⟩, ⟨101, 0⟩] = ⟨[], some []⟩ := by
    rw [TimedHandler.run_eq_poll, htarget]
    rfl
  refine ⟨htarget, ⟨by decide, by decide, by decide, by decide⟩, hrun, fun hfires ↦ ?_⟩
  have haction := congrArg Outcome.effects (hrun.symm.trans hfires.2)
  exact handler.action_ne_nil payload haction.symm

end Tanos.Client
