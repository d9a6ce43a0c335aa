import Tanos.Rm.TargetHyperperiod

/-!
# The hyperperiod grid over whole runs

All start times of a run are meant to lie on one grid: the common base of the synchronous start, the
slot offset of the service in its mode, and a whole number of hyperperiods (`OnGrid`). `sentInRun`
is everything a run sends, from the start on and through any events after it.

Every start time is the slot offset added to the whole seconds of the base or of the anchor
(`startsAtWholeSecond_of_mem_sentInRun`, by the invariant `AtOrAfter` that the anchor never falls
behind the base). A grid point is guaranteed precisely when the base is a whole second itself and a
second is a whole number of hyperperiods. `forall_onGrid_iff` states that for the runs of all
configurations with a given hyperperiod and distribution phase. The runs of the single client show
that neither part can be left out.
-/

set_option autoImplicit false
set_option relaxedAutoImplicit false

namespace Tanos.HyperperiodGrid

open NetLayerRM TargetHyperperiod Library Library.PeriodicGrid

/-- The reading of the clock an event comes with. -/
def clockReading : RmEvent → Option Timespec
  | .message _ => none
  | .round _ _ currentTime => some currentTime

/-- The readings of the clock from the start of the traffic on: normalised and not decreasing. -/
structure ClockRun (startTime : Timespec) (events : List RmEvent) : Prop where
  normalised : ∀ time ∈ startTime :: events.filterMap clockReading, time.Normalised
  nondecreasing : (startTime :: events.filterMap clockReading).Pairwise
    fun earlier later ↦ earlier.nanoseconds ≤ later.nanoseconds

/-- Everything sent in a run: at the synchronous start of the traffic, and in the rounds after
it. -/
def sentInRun (objects : SynchronousObjects) (rm : NetLayerRM) (startTime : Timespec)
    (events : List RmEvent) : List ServiceCommand :=
  (rm.startNetworkTrafficSynchronous startTime).2 ++
    Runs.outputs (step (.synchronousObjects objects))
      (rm.startNetworkTrafficSynchronous startTime).1 events

/-- A client starts at a point of the grid that belongs to its service in its mode. -/
def OnGrid (rm : NetLayerRM) (base : Timespec) (command : ServiceCommand) : Prop :=
  ∃ start, command.timestampStart = some start ∧
    start.nanoseconds ∈ gridPoints
      (base.nanoseconds + (rm.slotOffset command.service command.mode : ℤ) * 1000000)
      ((rm.hyperperiodDuration : ℤ) * 1000000)

/-! ### Start times of a run -/

/-- The configuration is still the one of the start, and the anchor has not fallen behind the
base. -/
structure AtOrAfter (rm : NetLayerRM) (base : Timespec) (current : NetLayerRM) : Prop where
  sameConfiguration : SameConfiguration current rm
  tvSec_le : base.tvSec ≤ current.rmActiveTimestampLast.tvSec

/-- A client starts at its slot offset after a whole second, not before that of the base. -/
def StartsAtWholeSecond (rm : NetLayerRM) (base : Timespec) (command : ServiceCommand) : Prop :=
  ∃ second, base.tvSec ≤ second ∧ ∃ start, command.timestampStart = some start ∧
    start.nanoseconds =
      second * 1000000000 + (rm.slotOffset command.service command.mode : ℤ) * 1000000

theorem startsAtWholeSecond_of_prepareTimestampAdd {rm : NetLayerRM} {base target : Timespec}
    {command : ServiceCommand} (hle : base.tvSec ≤ target.tvSec)
    (hstart : command.timestampStart =
      some (prepareTimestampAdd target (rm.slotOffset command.service command.mode))) :
    StartsAtWholeSecond rm base command :=
  ⟨target.tvSec, hle, _, hstart, nanoseconds_prepareTimestampAdd _ _⟩

section

variable (objects : SynchronousObjects) (rm : NetLayerRM) (startTime : Timespec)

theorem atOrAfter_start :
    AtOrAfter rm (rm.targetTimeClientStart startTime)
      (rm.startNetworkTrafficSynchronous startTime).1 := by
  obtain ⟨⟨hsame, hlast⟩, -⟩ := startNetworkTrafficSynchronous_spec rm startTime
  refine ⟨hsame, ?_⟩
  rcases hlast with hlast | ⟨offset, hlast⟩
  · rw [hlast]
  · rw [hlast, tvSec_prepareTimestampAdd]
    exact le_add_of_nonneg_right (Int.natCast_nonneg _)

variable {rm}

theorem tvSec_le_targetHyperperiod (current : NetLayerRM) (currentTime : Timespec) :
    current.rmActiveTimestampLast.tvSec ≤ (current.targetHyperperiod currentTime).tvSec := by
  rw [tvSec_targetHyperperiod]
  omega

/-- What one event keeps, and what it sends. -/
theorem atOrAfter_step {base : Timespec} {current : NetLayerRM}
    (hcurrent : AtOrAfter rm base current)
    (event : RmEvent) :
    AtOrAfter rm base (step (.synchronousObjects objects) current event).1 ∧
      ∀ command ∈ (step (.synchronousObjects objects) current event).2,
        StartsAtWholeSecond rm base command := by
  obtain ⟨hsame, hle⟩ := hcurrent
  cases event with
  | message message =>
    refine ⟨⟨(sameConfiguration_handleMessage current message).trans hsame, ?_⟩, by simp [step]⟩
    change base.tvSec ≤ (current.handleMessage message).rmActiveTimestampLast.tvSec
    rw [handleMessage_eq]
    exact hle
  | round iterator networkMode currentTime =>
    obtain ⟨hsame', hlast, hsent⟩ :=
      synchronousObjectsRound_spec objects current iterator networkMode currentTime
    have htarget := hle.trans (tvSec_le_targetHyperperiod current currentTime)
    rw [step_round]
    refine ⟨⟨hsame'.trans hsame, by rwa [hlast]⟩, fun command hcommand ↦ ?_⟩
    refine startsAtWholeSecond_of_prepareTimestampAdd htarget ?_
    rw [hsent command hcommand, hsame.slotOffset_eq]

/-- The start times of a whole run. -/
theorem startsAtWholeSecond_of_mem_sentInRun (events : List RmEvent) :
    ∀ command ∈ sentInRun objects rm startTime events,
      StartsAtWholeSecond rm (rm.targetTimeClientStart startTime) command := by
  intro command hcommand
  rcases List.mem_append.mp hcommand with hstart | hlater
  · exact startsAtWholeSecond_of_prepareTimestampAdd le_rfl
      ((startNetworkTrafficSynchronous_spec rm startTime).2 command hstart)
  · have hkeep : ∀ current, ∀ event ∈ events,
        AtOrAfter rm (rm.targetTimeClientStart startTime) current →
          AtOrAfter rm (rm.targetTimeClientStart startTime)
            (step (.synchronousObjects objects) current event).1 :=
      fun current event _ hcurrent ↦ (atOrAfter_step objects hcurrent event).1
    exact Runs.forall_mem_outputs_of_invariant hkeep
      (fun current event _ hcurrent ↦ (atOrAfter_step objects hcurrent event).2)
      (atOrAfter_start rm startTime) command hlater

end

/-! ### The condition is sufficient -/

/-- A distribution phase of whole seconds makes the base a whole second. -/
theorem nanoseconds_targetTimeClientStart {rm : NetLayerRM}
    (hdistribution : 1000 ∣ rm.experimentParameterStruct.mcDistributionPhaseDuration)
    (startTime : Timespec) :
    (rm.targetTimeClientStart startTime).nanoseconds =
      (rm.targetTimeClientStart startTime).tvSec * 1000000000 := by
  have hzero : (rm.targetTimeClientStart startTime).tvNsec = 0 := by
    rw [targetTimeClientStart, tvNsec_prepareTimestampAdd, Nat.mod_eq_zero_of_dvd hdistribution]
    rfl
  rw [Timespec.nanoseconds, hzero, add_zero]

/-- Assumes: the base is a whole second and the hyperperiod divides a second. The start times of
whole seconds lie on the grid. -/
theorem onGrid_of_startsAtWholeSecond {rm : NetLayerRM} {base : Timespec} {command : ServiceCommand}
    (hbase : base.nanoseconds = base.tvSec * 1000000000) (hperiod : rm.hyperperiodDuration ∣ 1000)
    (hstart : StartsAtWholeSecond rm base command) : OnGrid rm base command := by
  obtain ⟨second, hle, start, htimestamp, hnanoseconds⟩ := hstart
  obtain ⟨count, hcount⟩ := hperiod
  refine ⟨start, htimestamp, gridPoints_subset_of_nsmul _ _ count ?_⟩
  have hsecond : count • ((rm.hyperperiodDuration : ℤ) * 1000000) = 1000000000 := by
    have hcount' : (1000 : ℤ) = rm.hyperperiodDuration * count := by exact_mod_cast hcount
    rw [nsmul_eq_mul]
    linarith
  obtain ⟨seconds, hseconds⟩ := Int.eq_ofNat_of_zero_le (sub_nonneg.mpr hle)
  refine ⟨seconds, ?_⟩
  rw [hsecond, hnanoseconds, hbase, nsmul_eq_mul]
  linarith

/-! ### The condition is necessary -/

section

variable {hyperperiod distribution : ℕ}

/-- The single client shows that the distribution phase is to be whole seconds. -/
theorem dvd_distribution_of_onGrid
    (hgrid : OnGrid (singleClient (singleParameter hyperperiod distribution 0 0) 0 ⟨0, 0⟩)
      (prepareTimestampAdd ⟨0, 0⟩ distribution)
      ⟨sendSynchronousStart (prepareTimestampAdd (prepareTimestampAdd ⟨0, 0⟩ distribution) 0)
        (some ⟨"127.0.0.1", 25525⟩) 1 0, 1⟩) : 1000 ∣ distribution := by
  obtain ⟨start, htimestamp, k, hk⟩ := hgrid
  obtain rfl := Option.some.inj htimestamp
  have hoffset : (singleClient (singleParameter hyperperiod distribution 0 0) 0
      ⟨0, 0⟩).slotOffset 1 0 = 0 := rfl
  have hnonneg : 0 ≤ k • ((hyperperiod : ℤ) * 1000000) := nsmul_nonneg (by positivity) k
  change (prepareTimestampAdd (prepareTimestampAdd ⟨0, 0⟩ distribution) 0).nanoseconds =
    (prepareTimestampAdd ⟨0, 0⟩ distribution).nanoseconds + (0 : ℕ) * 1000000 +
      k • ((hyperperiod : ℤ) * 1000000) at hk
  rw [nanoseconds_prepareTimestampAdd, nanoseconds_prepareTimestampAdd,
    tvSec_prepareTimestampAdd] at hk
  simp only at hk
  omega

/-- A reading of the clock at which the single client, started at the epoch, is ten hyperperiods
behind its next target, up to a multiple of `2 ^ 32`. -/
def tenHyperperiodsBehind (hyperperiod distribution : ℕ) : Timespec :=
  let turns := (distribution / hyperperiod + 4294967287) / 4294967296
  prepareTimestampAdd (prepareTimestampAdd (prepareTimestampAdd ⟨0, 0⟩ distribution) 0)
    (hyperperiod * (8 + 4294967296 * turns - distribution / hyperperiod))

/-- At that reading the round sends the single client one second past its start. -/
theorem tvSec_targetHyperperiod_tenHyperperiodsBehind (hperiod : 1 ≤ hyperperiod) :
    let rm := singleClient (singleParameter hyperperiod distribution 0 0) 0 ⟨0, 0⟩
    ((rm.startNetworkTrafficSynchronous ⟨0, 0⟩).1.targetHyperperiod
      (tenHyperperiodsBehind hyperperiod distribution)).tvSec = (distribution / 1000 : ℕ) + 1 := by
  intro rm
  set started := (rm.startNetworkTrafficSynchronous ⟨0, 0⟩).1 with hstarted
  set last := prepareTimestampAdd (prepareTimestampAdd ⟨0, 0⟩ distribution) 0 with hlastdef
  set turns := (distribution / hyperperiod + 4294967287) / 4294967296 with hturns
  have hlast : started.rmActiveTimestampLast = last :=
    (start_singleClient hyperperiod distribution 0 0 0 ⟨0, 0⟩ ⟨0, 0⟩).2
  have hsecond : last.tvSec = (distribution / 1000 : ℕ) := by
    rw [hlastdef, tvSec_prepareTimestampAdd, tvSec_prepareTimestampAdd]
    simp
  have hlast_ns : last.nanoseconds = last.tvSec * 1000000000 := by
    rw [Timespec.nanoseconds, hlastdef, tvNsec_prepareTimestampAdd]
    simp
  have hbehind_ns : (tenHyperperiodsBehind hyperperiod distribution).nanoseconds =
      last.nanoseconds + (8 + 4294967296 * turns - distribution / hyperperiod : ℕ) *
        ((hyperperiod : ℤ) * 1000000) := by
    rw [tenHyperperiodsBehind, nanoseconds_prepareTimestampAdd, ← hlastdef, hlast_ns]
    push_cast
    ring
  have hcount : hyperperiodCount started (tenHyperperiodsBehind hyperperiod distribution) =
      10 + 4294967296 * turns := by
    have hle : started.rmActiveTimestampLast.nanoseconds ≤
        (tenHyperperiodsBehind hyperperiod distribution).nanoseconds := by
      rw [hlast, hbehind_ns]
      exact le_add_of_nonneg_right (by positivity)
    have hbehind : (tenHyperperiodsBehind hyperperiod distribution).Normalised :=
      normalised_prepareTimestampAdd _ _
    have hlast' : started.rmActiveTimestampLast.Normalised := by
      rw [hlast]
      exact normalised_prepareTimestampAdd _ _
    have hperiod' : ((hyperperiod : ℤ) * 1000000) ≠ 0 := by positivity
    rw [hyperperiodCount_of_le hbehind hlast' hle, hlast, hbehind_ns, add_sub_cancel_left]
    change _ / ((hyperperiod : ℤ) * 1000000) + (distribution / hyperperiod : ℕ) + 2 = _
    rw [Int.mul_ediv_cancel _ hperiod']
    omega
  rw [tvSec_targetHyperperiod, toNat_advanceMilliseconds, hcount, hlast, hsecond]
  omega

/-- The single client shows that the hyperperiod is to divide a second. -/
theorem dvd_hyperperiod_of_onGrid (objects : SynchronousObjects) {target : Timespec}
    (hdistribution : 1000 ∣ distribution) (htarget : target.tvSec = (distribution / 1000 : ℕ) + 1)
    (hgrid : OnGrid (singleClient (singleParameter hyperperiod distribution 0 0) 0 ⟨0, 0⟩)
      (prepareTimestampAdd ⟨0, 0⟩ distribution)
      ⟨sendTimeTriggeredSynchronousReconfigureType ⟨0, 0⟩
        (prepareTimestampSub (prepareTimestampAdd target 0) 0) (prepareTimestampAdd target 0)
        (some ⟨"127.0.0.1", 25525⟩) 1 0 objects.messageType 0, 1⟩) : hyperperiod ∣ 1000 := by
  obtain ⟨start, htimestamp, k, hk⟩ := hgrid
  obtain rfl := Option.some.inj htimestamp
  change (prepareTimestampAdd target 0).nanoseconds =
    (prepareTimestampAdd ⟨0, 0⟩ distribution).nanoseconds + (0 : ℕ) * 1000000 +
      k • ((hyperperiod : ℤ) * 1000000) at hk
  rw [nanoseconds_prepareTimestampAdd, nanoseconds_prepareTimestampAdd, htarget,
    nsmul_eq_mul] at hk
  refine ⟨k, ?_⟩
  have hsecond : (1000 : ℤ) = hyperperiod * k := by
    have hwhole : (distribution : ℤ) = (distribution / 1000 : ℕ) * 1000 := by omega
    push_cast at hk hwhole
    linarith
  exact_mod_cast hsecond

theorem clockRun_tenHyperperiodsBehind :
    ClockRun ⟨0, 0⟩ [.round 0 0 (tenHyperperiodsBehind hyperperiod distribution)] := by
  have hnormalised : (tenHyperperiodsBehind hyperperiod distribution).Normalised :=
    normalised_prepareTimestampAdd _ _
  have hnonneg : (⟨0, 0⟩ : Timespec).nanoseconds ≤
      (tenHyperperiodsBehind hyperperiod distribution).nanoseconds := by
    rw [tenHyperperiodsBehind, nanoseconds_prepareTimestampAdd, tvSec_prepareTimestampAdd,
      tvSec_prepareTimestampAdd]
    change (0 : ℤ) ≤ _
    positivity
  constructor
  · simpa [clockReading, hnormalised] using (by decide : (⟨0, 0⟩ : Timespec).Normalised)
  · simpa [clockReading] using hnonneg

/-- What the single client is sent by the round after its start. -/
theorem mem_sentInRun_singleClient (objects : SynchronousObjects) (currentTime : Timespec) :
    let rm := singleClient (singleParameter hyperperiod distribution 0 0) 0 ⟨0, 0⟩
    let start := prepareTimestampAdd
      ((rm.startNetworkTrafficSynchronous ⟨0, 0⟩).1.targetHyperperiod currentTime) 0
    ⟨sendTimeTriggeredSynchronousReconfigureType ⟨0, 0⟩ (prepareTimestampSub start 0) start
      (some ⟨"127.0.0.1", 25525⟩) 1 0 objects.messageType 0, 1⟩ ∈
        sentInRun objects rm ⟨0, 0⟩ [.round 0 0 currentTime] := by
  intro rm start
  have hround : (step (.synchronousObjects objects) (rm.startNetworkTrafficSynchronous ⟨0, 0⟩).1
      (.round 0 0 currentTime)).2 =
      [⟨sendTimeTriggeredSynchronousReconfigureType ⟨0, 0⟩ (prepareTimestampSub start 0) start
        (some ⟨"127.0.0.1", 25525⟩) 1 0 objects.messageType 0, 1⟩] := by
    rw [step_round]
    rfl
  refine List.mem_append_right _ ?_
  rw [Runs.outputs_cons, hround]
  exact List.mem_cons_self

end

/-! ### The exact condition -/

/-- The exact condition for the start times of all runs of a configuration to lie on the grid: the
distribution phase is a whole number of seconds, and a second a whole number of hyperperiods. -/
theorem forall_onGrid_iff (objects : SynchronousObjects) {hyperperiod : ℕ}
    (hperiod : 1 ≤ hyperperiod) (distribution : ℕ) :
    (∀ (rm : NetLayerRM) (startTime : Timespec) (events : List RmEvent),
      rm.hyperperiodDuration = hyperperiod →
      rm.experimentParameterStruct.mcDistributionPhaseDuration = distribution →
      ClockRun startTime events → ∀ command ∈ sentInRun objects rm startTime events,
        OnGrid rm (rm.targetTimeClientStart startTime) command) ↔
    1000 ∣ distribution ∧ hyperperiod ∣ 1000 := by
  constructor
  · intro hgrid
    have hsent := hgrid (singleClient (singleParameter hyperperiod distribution 0 0) 0 ⟨0, 0⟩)
      ⟨0, 0⟩ [.round 0 0 (tenHyperperiodsBehind hyperperiod distribution)] rfl rfl
      clockRun_tenHyperperiodsBehind
    have hdistribution : 1000 ∣ distribution := by
      refine dvd_distribution_of_onGrid (hsent _ (List.mem_append_left _ ?_))
      exact List.mem_singleton_self _
    exact ⟨hdistribution, dvd_hyperperiod_of_onGrid objects hdistribution
      (tvSec_targetHyperperiod_tenHyperperiodsBehind hperiod)
      (hsent _ (mem_sentInRun_singleClient objects _))⟩
  · rintro ⟨hdistribution, hdvd⟩ rm startTime events rfl rfl - command hcommand
    exact onGrid_of_startsAtWholeSecond (nanoseconds_targetTimeClientStart hdistribution startTime)
      hdvd (startsAtWholeSecond_of_mem_sentInRun objects startTime events command hcommand)

theorem clockRun_nil {startTime : Timespec} (hstart : startTime.Normalised) :
    ClockRun startTime [] :=
  ⟨by simpa using hstart, by simp⟩

theorem onGrid_singleClient :
    let rm := singleClient (singleParameter 100 1000 0 0) 0 ⟨0, 0⟩
    OnGrid rm (rm.targetTimeClientStart ⟨0, 0⟩)
      ⟨sendSynchronousStart (prepareTimestampAdd (rm.targetTimeClientStart ⟨0, 0⟩) 0)
        (some ⟨"127.0.0.1", 25525⟩) 1 0, 1⟩ := by
  intro rm
  exact (forall_onGrid_iff .sw (by decide) 1000).mpr ⟨by decide, by decide⟩ rm ⟨0, 0⟩ [] rfl rfl
    (clockRun_nil (by decide)) _ (List.mem_singleton_self _)

/-- With a distribution phase of 50 milliseconds the single client is told to start at the last full
second, 50 milliseconds before the base. -/
theorem not_onGrid_singleClient :
    let rm := singleClient (singleParameter 100 50 0 0) 0 ⟨0, 0⟩
    1 ≤ rm.hyperperiodDuration ∧ ClockRun ⟨0, 0⟩ [] ∧
      ∃ command ∈ sentInRun .sw rm ⟨0, 0⟩ [],
        ¬ OnGrid rm (rm.targetTimeClientStart ⟨0, 0⟩) command := by
  intro rm
  refine ⟨by decide, clockRun_nil (by decide), _, List.mem_singleton_self _, fun hgrid ↦ ?_⟩
  exact absurd (dvd_distribution_of_onGrid hgrid) (by decide)

end Tanos.HyperperiodGrid
