import Tanos.Rm.ExperimentLoop

/-!
# The arithmetic of the schedule

The constructor of the resource manager sets the timer for `initial_start_handler`, which starts the
traffic in one of two ways and sets the timer for `experiment_selection`, which makes the rounds of
an experiment. `ScheduledRm.step` takes this sequence, one run of a handler or one place of its loop
at a time, with the messages of the clients in between. Its outputs are the operations of the
rounds with synchronous objects that can go wrong: reading the anchor of the schedule, dividing by
the hyperperiod, and multiplying a number of hyperperiods by 100 in 32 bits.

Nothing that is configured is checked: the hyperperiod may be zero, an asynchronous start leaves the
anchor unset, and the product wraps for mode changes that follow each other closely when the
hyperperiod is short, the distribution phase long, or the anchor two hyperperiods ahead of the
clock. `everyStep_operationsSafe_iff` says in which runs none of this happens.
-/

set_option autoImplicit false
set_option relaxedAutoImplicit false

namespace Tanos

open Library

namespace NetLayerRM

/-- The places in the sequence of the timers: before the start, before the selection, in the
function of an experiment, and behind a number that selects none. -/
inductive SchedulePhase where
  | initialising
  | started
  | running (experiment : Experiment) (phase : LoopPhase)
  | idle
deriving DecidableEq, Repr

/-- The resource manager with its timers, whether the anchor of its schedule has been assigned, and
the time of the last mode change, of which the start of the traffic is the first. -/
structure ScheduledRm where
  rm : NetLayerRM
  isAnchorSet : Bool
  lastChange : Timespec
  phase : SchedulePhase

/-- A message of a client, or the next step of the thread of the timers, at a reading of the
clock. -/
inductive ScheduledEvent where
  | message (message : RMMessage)
  | timer (currentTime : Timespec)
deriving DecidableEq, Repr

/-- An operation that can go wrong. A product comes with the milliseconds since the last mode
change. -/
inductive ScheduleOperation where
  | readAnchor (isSet : Bool)
  | divide (divisor : ℕ)
  | multiply (sinceLast : ℤ) (numberHyperperiodsPast numberHyperperiodDistribution : UInt32)
deriving DecidableEq, Repr

/-- Mode changes that are less than 49 days apart. -/
def IsNear (sinceLast : ℤ) : Prop := -(49 * 86400000) < sinceLast ∧ sinceLast < 49 * 86400000

instance (sinceLast : ℤ) : Decidable (IsNear sinceLast) := inferInstanceAs (Decidable (_ ∧ _))

/-- The anchor is set, the divisor is not zero, and the product does not wrap. -/
def ScheduleOperation.Safe : ScheduleOperation → Prop
  | readAnchor isSet => isSet = true
  | divide divisor => divisor ≠ 0
  | multiply sinceLast numberHyperperiodsPast numberHyperperiodDistribution => IsNear sinceLast →
    (numberHyperperiodsPast.toNat + numberHyperperiodDistribution.toNat) * 100 < 2 ^ 32

instance (operation : ScheduleOperation) : Decidable operation.Safe := by
  cases operation with
  | readAnchor isSet => exact inferInstanceAs (Decidable (_ = _))
  | divide divisor => exact inferInstanceAs (Decidable (_ ≠ _))
  | multiply sinceLast numberHyperperiodsPast numberHyperperiodDistribution =>
    exact inferInstanceAs (Decidable (_ → _))

namespace ScheduledRm

/-- After the constructor. -/
def start (experimentParameter : ExperimentParameter)
    (endnodeConfigurationMap : StdMap UInt32 UnitSettings) (serviceConfigurationMap : ServiceMap)
    (uninitialised : Timespec) : ScheduledRm where
  rm := NetLayerRM.new experimentParameter endnodeConfigurationMap serviceConfigurationMap
    uninitialised
  isAnchorSet := false
  lastChange := ⟨0, 0⟩
  phase := .initialising

/-- The thread is about to make a round with synchronous objects. -/
def AtRound : SchedulePhase → Bool
  | .running (.synchronousObjects _) (.modes _ (_ :: _)) => true
  | _ => false

/-- The operations of a round with synchronous objects. A division by zero is the last one. -/
def operations (scheduled : ScheduledRm) (currentTime : Timespec) : List ScheduleOperation :=
  if AtRound scheduled.phase then
    if scheduled.rm.hyperperiodDuration = 0 then [.readAnchor scheduled.isAnchorSet, .divide 0]
    else [.readAnchor scheduled.isAnchorSet, .divide scheduled.rm.hyperperiodDuration,
      .multiply (timeDiffMilliseconds currentTime scheduled.lastChange)
        (scheduled.rm.numberHyperperiodsPast currentTime)
        scheduled.rm.numberHyperperiodDistribution]
  else []

/-- A step of the resource manager. The synchronous start and the rounds with synchronous objects
assign the anchor. -/
def step (scheduled : ScheduledRm) : ScheduledEvent → ScheduledRm × List ScheduleOperation
  | .message message => ({ scheduled with rm := scheduled.rm.handleMessage message }, [])
  | .timer currentTime =>
    match scheduled.phase with
    | .initialising =>
      ({ rm := (scheduled.rm.initialStartHandler currentTime).1
         isAnchorSet := scheduled.rm.experimentParameterStruct.synchronousStartMode
         lastChange := currentTime
         phase := .started }, [])
    | .started =>
      match scheduled.rm.experimentSelection with
      | some experiment => ({ scheduled with phase := .running experiment (.iteration 0) }, [])
      | none => ({ scheduled with phase := .idle }, [])
    | .running experiment phase =>
      let next := (ExperimentRun.step experiment ⟨scheduled.rm, phase⟩ currentTime).1
      ({ rm := next.rm
         isAnchorSet := scheduled.isAnchorSet ||
          (AtRound scheduled.phase && scheduled.rm.hyperperiodDuration != 0)
         lastChange := if AtRound scheduled.phase then currentTime else scheduled.lastChange
         phase := .running experiment next.phase }, scheduled.operations currentTime)
    | .idle => (scheduled, [])

/-- No operation of the step goes wrong. -/
def OperationsSafe (scheduled : ScheduledRm) (event : ScheduledEvent) : Prop :=
  ∀ operation ∈ (scheduled.step event).2, operation.Safe

instance (scheduled : ScheduledRm) : DecidablePred scheduled.OperationsSafe := fun event ↦
  inferInstanceAs (Decidable (∀ operation ∈ (scheduled.step event).2, operation.Safe))

/-- The hyperperiods from the anchor to the clock, the current one included, and those of the
distribution phase are not negative and not too many, where whole turns of the 32-bit count of the
former do not count. There are none unless the clock is 2 ^ 32 hyperperiods away from the anchor. -/
structure FewHyperperiods (hyperperiod distribution : ℕ) (elapsed turns : ℤ) : Prop where
  le_elapsed : turns * 2 ^ 32 ≤ elapsed.tdiv hyperperiod + 1
  add_le : elapsed.tdiv hyperperiod + 1 - turns * 2 ^ 32 +
    ((distribution / hyperperiod + 1) % 2 ^ 32 : ℕ) ≤ 42949672

/-- A round with synchronous objects is only made after a synchronous start, with a hyperperiod that
is not zero, and with few hyperperiods when it is near the last mode change. -/
def SchedulesSafely (scheduled : ScheduledRm) : ScheduledEvent → Prop
  | .message _ => True
  | .timer currentTime =>
    let parameters := scheduled.rm.experimentParameterStruct
    AtRound scheduled.phase = true → parameters.synchronousStartMode = true ∧
      parameters.hyperperiodDuration ≠ 0 ∧
      (IsNear (timeDiffMilliseconds currentTime scheduled.lastChange) → ∃ turns,
        FewHyperperiods parameters.hyperperiodDuration parameters.mcDistributionPhaseDuration
          (timeDiffMilliseconds currentTime scheduled.rm.rmActiveTimestampLast) turns)

/-! ### The product -/

/-- The numbers of a round. A negative number of hyperperiods is a large one in 32 bits. -/
theorem mul_lt_iff_fewHyperperiods (rm : NetLayerRM) (currentTime : Timespec) :
    ((rm.numberHyperperiodsPast currentTime).toNat + rm.numberHyperperiodDistribution.toNat) * 100 <
        2 ^ 32 ↔
      ∃ turns, FewHyperperiods rm.hyperperiodDuration
        rm.experimentParameterStruct.mcDistributionPhaseDuration
        (timeDiffMilliseconds currentTime rm.rmActiveTimestampLast) turns := by
  generalize helapsed : timeDiffMilliseconds currentTime rm.rmActiveTimestampLast = elapsed
  have hpast : ((rm.numberHyperperiodsPast currentTime).toNat : ℤ) =
      (elapsed.tdiv rm.hyperperiodDuration + 1) % 4294967296 := by
    rw [numberHyperperiodsPast, helapsed, UInt32.ofInt, UInt32.toNat_ofNat']
    omega
  have hdistribution : rm.numberHyperperiodDistribution.toNat =
      (rm.experimentParameterStruct.mcDistributionPhaseDuration / rm.hyperperiodDuration + 1) %
        2 ^ 32 := UInt32.toNat_ofNat'
  rw [hdistribution]
  constructor
  · intro hproduct
    refine ⟨(elapsed.tdiv rm.hyperperiodDuration + 1) / 4294967296, ?_, ?_⟩
    · omega
    · omega
  · rintro ⟨turns, hle, hadd⟩
    omega

/-! ### Runs -/

/-- Starting the traffic keeps the parameters of the experiment. -/
theorem experimentParameterStruct_initialStartHandler (rm : NetLayerRM) (currentTime : Timespec) :
    (rm.initialStartHandler currentTime).1.experimentParameterStruct =
      rm.experimentParameterStruct := by
  unfold initialStartHandler
  split_ifs with hsynchronous
  · exact (startNetworkTrafficSynchronous_spec rm currentTime).1.1.experimentParameterStruct_eq
  · exact ExperimentRun.experimentParameterStruct_addressClients (fun _ _ _ _ ↦ rfl) rm

/-- A step of an experiment keeps its parameters. -/
theorem experimentParameterStruct_step (experiment : Experiment) (run : ExperimentRun)
    (currentTime : Timespec) :
    (ExperimentRun.step experiment run currentTime).1.rm.experimentParameterStruct =
      run.rm.experimentParameterStruct := by
  unfold ExperimentRun.step
  split
  · split <;> rfl
  · rfl
  · split
    · rfl
    · exact ExperimentRun.experimentParameterStruct_round _ _ _ _ _
  · rfl
  · rfl
  · rfl

/-- From the start on the anchor is set exactly if the start is a synchronous one. -/
def AnchorByStart (scheduled : ScheduledRm) : Prop :=
  scheduled.phase ≠ .initialising →
    scheduled.isAnchorSet = scheduled.rm.experimentParameterStruct.synchronousStartMode

theorem anchorByStart_start (experimentParameter : ExperimentParameter)
    (endnodeConfigurationMap : StdMap UInt32 UnitSettings) (serviceConfigurationMap : ServiceMap)
    (uninitialised : Timespec) :
    AnchorByStart (start experimentParameter endnodeConfigurationMap serviceConfigurationMap
      uninitialised) :=
  fun hphase ↦ absurd rfl hphase

variable {scheduled : ScheduledRm}

/-- What a round does to the anchor is only told from the start as long as every round follows a
synchronous start. -/
theorem anchorByStart_step (h : AnchorByStart scheduled) {event : ScheduledEvent}
    (hsafely : SchedulesSafely scheduled event) : AnchorByStart (scheduled.step event).1 := by
  cases event with
  | message message =>
    intro hphase
    rw [step, handleMessage_eq]
    exact h hphase
  | timer currentTime =>
    cases hphase : scheduled.phase with
    | initialising =>
      intro _
      simp only [step, hphase, experimentParameterStruct_initialStartHandler]
    | started =>
      have hset := h (by simp [hphase])
      simp only [step, hphase]
      cases scheduled.rm.experimentSelection with
      | some experiment => exact fun _ ↦ hset
      | none => exact fun _ ↦ hset
    | running experiment phase =>
      have hset := h (by simp [hphase])
      intro _
      simp only [step, hphase, experimentParameterStruct_step]
      cases hround : AtRound (.running experiment phase) with
      | false => simp [hset]
      | true =>
        rw [← hphase] at hround
        rw [hset, (hsafely hround).1, Bool.true_or]
    | idle =>
      simp only [step, hphase]
      exact h

/-- The operations of a step are those of the round it makes, if it makes one. -/
theorem operations_step (currentTime : Timespec) :
    (scheduled.step (.timer currentTime)).2 = scheduled.operations currentTime := by
  cases hphase : scheduled.phase with
  | started =>
    simp only [step, operations, hphase, AtRound]
    cases scheduled.rm.experimentSelection <;> rfl
  | _ => simp [step, operations, hphase, AtRound]

theorem operationsSafe_iff (h : AnchorByStart scheduled) (event : ScheduledEvent) :
    OperationsSafe scheduled event ↔ SchedulesSafely scheduled event := by
  cases event with
  | message message => exact iff_of_true (List.forall_mem_nil _) trivial
  | timer currentTime =>
    unfold OperationsSafe SchedulesSafely
    rw [operations_step, operations]
    split_ifs with hround hzero
    · have hconfigured := scheduled.rm.hyperperiodDuration_eq.symm.trans hzero
      simp [hround, hconfigured, ScheduleOperation.Safe]
    · have hstarted : scheduled.phase ≠ .initialising := by
        intro hphase
        rw [hphase] at hround
        exact Bool.noConfusion hround
      have hproduct := mul_lt_iff_fewHyperperiods scheduled.rm currentTime
      have hconfigured := scheduled.rm.hyperperiodDuration_eq
      simp only [List.forall_mem_cons, ScheduleOperation.Safe, h hstarted, List.not_mem_nil,
        IsEmpty.forall_iff, implies_true, and_true, hround, forall_const, ← hconfigured]
      exact and_congr_right fun _ ↦ and_congr_right fun _ ↦ imp_congr_right fun _ ↦ hproduct
    · simp [hround]

/-- No run of the resource manager divides by zero, reads an anchor that is not set or wraps a
product less than 49 days after the last mode change, precisely when all its rounds with synchronous
objects follow a synchronous start, have a hyperperiod, and have few of them there. -/
theorem everyStep_operationsSafe_iff (experimentParameter : ExperimentParameter)
    (endnodeConfigurationMap : StdMap UInt32 UnitSettings) (serviceConfigurationMap : ServiceMap)
    (uninitialised : Timespec) (events : List ScheduledEvent) :
    Runs.EveryStep step OperationsSafe (start experimentParameter endnodeConfigurationMap
        serviceConfigurationMap uninitialised) events ↔
      Runs.EveryStep step SchedulesSafely (start experimentParameter endnodeConfigurationMap
        serviceConfigurationMap uninitialised) events := by
  have hstart : AnchorByStart (start experimentParameter endnodeConfigurationMap
      serviceConfigurationMap uninitialised) :=
    anchorByStart_start experimentParameter endnodeConfigurationMap serviceConfigurationMap
      uninitialised
  have hiff (current : ScheduledRm) (event : ScheduledEvent) (h : AnchorByStart current) :
      OperationsSafe current event ↔ SchedulesSafely current event :=
    operationsSafe_iff h event
  have hkeep (current : ScheduledRm) (event : ScheduledEvent) (h : AnchorByStart current)
      (hsafe : OperationsSafe current event) : AnchorByStart (step current event).1 :=
    anchorByStart_step h ((hiff current event h).mp hsafe)
  exact Runs.everyStep_iff_everyStep hiff hkeep hstart events

/-- The start at the epoch, the selection, and the first round at a reading of the clock. -/
def firstRound (currentTime : Timespec) : List ScheduledEvent :=
  [.timer ⟨0, 0⟩, .timer ⟨0, 0⟩, .timer ⟨0, 0⟩, .timer currentTime]

/-- The first round with a hyperperiod of zero, the first round after an asynchronous start, the
first round fourteen hours after the start with a hyperperiod of one millisecond, and a second round
one second after the first one, with a distribution phase of 49 days and a half. -/
theorem not_everyStep_operationsSafe_firstRound :
    ¬ Runs.EveryStep step OperationsSafe (start (singleParameter 0 0 0 0) ∅ ∅ ⟨0, 0⟩)
        (firstRound ⟨1, 0⟩) ∧
      ¬ Runs.EveryStep step OperationsSafe
        (start { singleParameter 100 0 0 0 with synchronousStartMode := false } ∅ ∅ ⟨0, 0⟩)
        (firstRound ⟨1, 0⟩) ∧
      ¬ Runs.EveryStep step OperationsSafe (start (singleParameter 1 0 0 0) ∅ ∅ ⟨0, 0⟩)
        (firstRound ⟨50400, 0⟩) ∧
      ¬ Runs.EveryStep step OperationsSafe
        (start { singleParameter 100 4276800000 0 0 with reconfigurationOrder := [0, 0] } ∅ ∅
          ⟨0, 0⟩)
        (firstRound ⟨4276800, 0⟩ ++ [.timer ⟨4276801, 0⟩]) := by
  refine ⟨?_, ?_, ?_, ?_⟩ <;> decide

end ScheduledRm

end NetLayerRM

end Tanos
