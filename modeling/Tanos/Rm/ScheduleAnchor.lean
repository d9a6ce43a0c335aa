import Tanos.Rm.HyperperiodGrid

/-!
# The anchor of the schedule over whole runs

Every round with synchronous objects moves the anchor of the schedule to its own target and starts
from there the next time. Two things are expected of the anchors of a run: that they are normalised
timestamps, and that each is later than the one before.

Both are exact for one round (`normalised_targetHyperperiod_iff`, `lt_targetHyperperiod_iff`), and
the runs follow. The nanoseconds of the target are never carried into its seconds, so that the
anchors stay normalised as long as no round has to carry (`always_normalised_iff`). A clock that has
not reached the anchor yet is counted negative, and an anchor repeats itself when that count cancels
the hyperperiods of the distribution phase (`isChain_targets_iff`).
-/

set_option autoImplicit false
set_option relaxedAutoImplicit false

namespace Tanos.ScheduleAnchor

open NetLayerRM TargetHyperperiod HyperperiodGrid Library

/-! ### One event -/

section

variable (objects : SynchronousObjects) (rm : NetLayerRM)

/-- Messages do not touch the anchor. -/
theorem rmActiveTimestampLast_step_message (message : RMMessage) :
    (step (.synchronousObjects objects) rm (.message message)).1.rmActiveTimestampLast =
      rm.rmActiveTimestampLast := by
  change (rm.handleMessage message).rmActiveTimestampLast = _
  rw [handleMessage_eq]

/-- A round moves the anchor to its target. -/
theorem rmActiveTimestampLast_step_round (iterator : UInt8) (networkMode : UInt32)
    (currentTime : Timespec) :
    (step (.synchronousObjects objects) rm
      (.round iterator networkMode currentTime)).1.rmActiveTimestampLast =
      rm.targetHyperperiod currentTime := by
  rw [step_round]
  exact (synchronousObjectsRound_spec objects rm iterator networkMode currentTime).2.1

end

/-! ### Normalised anchors -/

/-- The anchor is a normalised timestamp. -/
def AnchorNormalised (rm : NetLayerRM) : Prop := rm.rmActiveTimestampLast.Normalised

instance (rm : NetLayerRM) : Decidable (AnchorNormalised rm) :=
  inferInstanceAs (Decidable rm.rmActiveTimestampLast.Normalised)

/-- The milliseconds by which a round moves the anchor. -/
def advance (rm : NetLayerRM) (currentTime : Timespec) : ℤ :=
  100 * hyperperiodCount rm currentTime % 4294967296

/-- A round does not have to carry nanoseconds into the seconds of its target. -/
def NoCarry (rm : NetLayerRM) : RmEvent → Prop
  | .message _ => True
  | .round _ _ currentTime =>
    rm.rmActiveTimestampLast.tvNsec + advance rm currentTime % 1000 * 1000000 < 1000000000

theorem normalised_targetHyperperiod_iff {rm : NetLayerRM}
    (hlast : rm.rmActiveTimestampLast.Normalised) (currentTime : Timespec) :
    (rm.targetHyperperiod currentTime).Normalised ↔
      rm.rmActiveTimestampLast.tvNsec + advance rm currentTime % 1000 * 1000000 < 1000000000 := by
  obtain ⟨hnonneg, -⟩ := hlast
  rw [Timespec.Normalised, tvNsec_targetHyperperiod, toNat_advanceMilliseconds, advance]
  omega

/-- The synchronous start leaves a normalised anchor. -/
theorem anchorNormalised_start (rm : NetLayerRM) (startTime : Timespec) :
    AnchorNormalised (rm.startNetworkTrafficSynchronous startTime).1 := by
  obtain ⟨⟨-, hlast⟩, -⟩ := startNetworkTrafficSynchronous_spec rm startTime
  unfold AnchorNormalised
  rcases hlast with hlast | ⟨offset, hlast⟩
  · rw [hlast]
    exact normalised_prepareTimestampAdd _ _
  · rw [hlast]
    exact normalised_prepareTimestampAdd _ _

/-- The exact condition for the anchors of a run to be normalised: no round has to carry. -/
theorem always_normalised_iff (objects : SynchronousObjects) (rm : NetLayerRM)
    (startTime : Timespec) (events : List RmEvent) :
    Runs.Always (step (.synchronousObjects objects)) AnchorNormalised
        (rm.startNetworkTrafficSynchronous startTime).1 events ↔
      Runs.EveryStep (step (.synchronousObjects objects)) NoCarry
        (rm.startNetworkTrafficSynchronous startTime).1 events := by
  refine Runs.always_iff_everyStep ?_ (anchorNormalised_start rm startTime) events
  intro current event hcurrent
  unfold AnchorNormalised at hcurrent ⊢
  cases event with
  | message message =>
    simp only [NoCarry, iff_true]
    rw [rmActiveTimestampLast_step_message]
    exact hcurrent
  | round iterator networkMode currentTime =>
    rw [rmActiveTimestampLast_step_round]
    exact normalised_targetHyperperiod_iff hcurrent currentTime

/-- Two rounds within the first second after the start: the second one leaves an anchor of 1.1
billion nanoseconds. -/
theorem not_always_normalised_singleClient :
    let rm := singleClient (singleParameter 100 0 0 0) 0 ⟨0, 0⟩
    let events := [RmEvent.round 0 0 ⟨1000, 500000000⟩, RmEvent.round 0 0 ⟨1000, 900000000⟩]
    rm.hyperperiodDuration = 100 ∧ ClockRun ⟨1000, 0⟩ events ∧
      ¬ Runs.Always (step (.synchronousObjects .sw)) AnchorNormalised
        (rm.startNetworkTrafficSynchronous ⟨1000, 0⟩).1 events := by
  intro rm events
  refine ⟨rfl, ⟨by decide, by decide⟩, fun halways ↦ ?_⟩
  exact absurd (halways events (List.prefix_refl events)) (by decide)

/-! ### Successive anchors -/

/-- A round moves the anchor. -/
def Advances (rm : NetLayerRM) : RmEvent → Prop
  | .message _ => True
  | .round _ _ currentTime => ¬ (1073741824 : ℤ) ∣ hyperperiodCount rm currentTime

theorem lt_targetHyperperiod_iff (rm : NetLayerRM) (currentTime : Timespec) :
    rm.rmActiveTimestampLast.nanoseconds < (rm.targetHyperperiod currentTime).nanoseconds ↔
      ¬ (1073741824 : ℤ) ∣ hyperperiodCount rm currentTime := by
  rw [nanoseconds_targetHyperperiod, toNat_advanceMilliseconds]
  omega

/-- The step of the resource manager, seen through the target hyperperiods of its rounds. -/
def targetStep (objects : SynchronousObjects) (rm : NetLayerRM) (event : RmEvent) :
    NetLayerRM × List Timespec :=
  ((step (.synchronousObjects objects) rm event).1,
    match event with
    | .message _ => []
    | .round _ _ currentTime => [rm.targetHyperperiod currentTime])

/-- The targets of a run. -/
def targets (objects : SynchronousObjects) (rm : NetLayerRM) (events : List RmEvent) :
    List Timespec :=
  Runs.outputs (targetStep objects) rm events

/-- The targets of a run, each compared with the anchor it replaces. -/
theorem isChain_cons_targets_iff (objects : SynchronousObjects) (rm : NetLayerRM)
    (events : List RmEvent) :
    (rm.rmActiveTimestampLast :: targets objects rm events).IsChain
        (fun earlier later ↦ earlier.nanoseconds < later.nanoseconds) ↔
      Runs.EveryStep (step (.synchronousObjects objects)) Advances rm events := by
  induction events generalizing rm with
  | nil => simp [targets]
  | cons event rest ih =>
    rw [Runs.everyStep_cons, ← ih]
    cases event with
    | message message =>
      rw [rmActiveTimestampLast_step_message]
      simp [targets, targetStep, Advances]
    | round iterator networkMode currentTime =>
      rw [rmActiveTimestampLast_step_round, Advances, ← lt_targetHyperperiod_iff]
      exact List.isChain_cons_cons

/-- The exact condition for the target of each round to be later than that of the round before: the
hyperperiods counted from the anchor to the clock, and those of the distribution phase, do not
cancel modulo `2 ^ 30`. -/
theorem isChain_targets_iff (objects : SynchronousObjects) (rm : NetLayerRM) (iterator : UInt8)
    (networkMode : UInt32) (currentTime : Timespec) (events : List RmEvent) :
    (targets objects rm (.round iterator networkMode currentTime :: events)).IsChain
        (fun earlier later ↦ earlier.nanoseconds < later.nanoseconds) ↔
      Runs.EveryStep (step (.synchronousObjects objects)) Advances
        (step (.synchronousObjects objects) rm (.round iterator networkMode currentTime)).1
        events := by
  rw [← isChain_cons_targets_iff, rmActiveTimestampLast_step_round]
  rfl

/-- Two rounds at the same instant, without a distribution phase: the first target is 200
milliseconds ahead, and the second one is the same. -/
theorem not_isChain_targets_singleClient :
    let rm := singleClient (singleParameter 100 0 0 0) 0 ⟨0, 0⟩
    let events := [RmEvent.round 0 0 ⟨1000, 0⟩, RmEvent.round 0 0 ⟨1000, 0⟩]
    rm.hyperperiodDuration = 100 ∧ ClockRun ⟨1000, 0⟩ events ∧
      ¬ (targets .sw (rm.startNetworkTrafficSynchronous ⟨1000, 0⟩).1 events).IsChain
        (fun earlier later ↦ earlier.nanoseconds < later.nanoseconds) := by
  intro rm events
  refine ⟨rfl, ⟨by decide, by decide⟩, fun hchain ↦ ?_⟩
  exact absurd (List.isChain_cons_cons.mp hchain).1 (by decide)

end Tanos.ScheduleAnchor
