import Tanos.Rm.Process

/-!
# Loops that nothing interrupts

When no message is handled during a loop over the services, the process of the resource manager
makes the turns of the loop one after the other and leaves it in the state in which the function in
one piece returns (`exists_times_of_begin`). The start and the end in one piece
(`exists_times_initialStartHandler`, `exists_times_stoppingExperiment`) and a run of the function of
an experiment (`reaches_of_run`) therefore are runs of the process, with the same calls: what is
known about the functions in one piece holds of the process as long as its handler does not get in
between.
-/

set_option autoImplicit false
set_option relaxedAutoImplicit false

namespace Tanos

open Library Library.OrderedTraversal

namespace NetLayerRM

namespace RmProcess

variable {loop : ServiceLoop} {next : AfterLoop}

/-- One turn, of a process that is running. -/
theorem step_addressing_timer {process : RmProcess} (halive : process.isAlive = true)
    {entry : UInt64 × RMMessage} (hphase : process.timer = .addressing loop (some entry.1) next)
    (hentry : process.rm.serviceList.entries[entry.1]? = some entry.2) (currentTime : Timespec) :
    process.step (.timer currentTime) =
      ({ process with
        rm := (loop.turn process.rm entry).1
        timer := .addressing loop (process.rm.serviceList.next entry.1) next },
        (loop.turn process.rm entry).2) := by
  have hstep : process.step (.timer currentTime) = process.stepTimer currentTime := if_pos halive
  rw [hstep]
  simp only [stepTimer, hphase, addressNext, hentry]

/-- Assumes: the process is running, in a loop before some entries of the service list, and the
thread of the timers makes one step for each of them. It makes their turns, and is at the end. -/
theorem run_addressing {rest past : List (UInt64 × RMMessage)} {process : RmProcess}
    (halive : process.isAlive = true)
    (hphase : process.timer = .addressing loop (first rest) next)
    (hentries : process.rm.serviceList.entries.toList = past ++ rest) {times : List Timespec}
    (hlength : times.length = rest.length) :
    Runs.finalState step process (times.map .timer) =
        { process with
          rm := Runs.finalState loop.turn process.rm rest
          timer := .addressing loop none next } ∧
      Runs.outputs step process (times.map .timer) = Runs.outputs loop.turn process.rm rest := by
  induction rest generalizing past process times with
  | nil =>
    obtain rfl := List.length_eq_zero_iff.mp hlength
    have hsame : process = { process with timer := .addressing loop none next } := by
      obtain ⟨received, queue, rm, timer⟩ := process
      exact congrArg (RmProcess.mk received queue rm) hphase
    exact ⟨hsame, rfl⟩
  | cons entry rest ih =>
    obtain ⟨currentTime, later, rfl⟩ := List.exists_cons_of_length_eq_add_one hlength
    have hmem : process.rm.serviceList.entries[entry.1]? = some entry.2 :=
      Std.ExtTreeMap.mem_toList_iff_getElem?_eq_some.mp
        (hentries ▸ List.mem_append_right past List.mem_cons_self)
    have hstep := step_addressing_timer halive hphase hmem currentTime
    have hnext : process.rm.serviceList.next entry.1 = first rest := by
      have hordered := process.rm.serviceList.ordered
      rw [ServiceList.next]
      rw [hentries] at hordered ⊢
      exact after_append_cons hordered
    obtain ⟨hsame, -⟩ := loop.turn_spec process.rm entry
    have hentries' : (loop.turn process.rm entry).1.serviceList.entries.toList =
        (past ++ [entry]) ++ rest := by
      rw [hsame.serviceList_eq, hentries, List.append_assoc, List.singleton_append]
    have hturned : ({ process with
        rm := (loop.turn process.rm entry).1
        timer := .addressing loop (first rest) next } : RmProcess).isAlive = true := by
      obtain ⟨hreceived, -⟩ := Bool.and_eq_true_iff.mp halive
      exact Bool.and_eq_true_iff.mpr ⟨hreceived, rfl⟩
    obtain ⟨hfinal, houtputs⟩ := ih hturned rfl hentries' (Nat.succ.inj hlength)
    rw [List.map_cons, Runs.finalState_cons, Runs.outputs_cons, Runs.finalState_cons,
      Runs.outputs_cons, hstep, hnext]
    exact ⟨hfinal, congrArg _ houtputs⟩

/-- Assumes: a step of the thread of the timers begins a loop. It makes the turns of the loop and
goes on behind it. -/
theorem exists_times_of_begin {process : RmProcess}
    (hreceived : process.receivedMessage.isSome = true) {first : NetLayerRM}
    {currentTime : Timespec}
    (hbegin : process.step (.timer currentTime) = (process.address (first, loop) next, [])) :
    ∃ times : List Timespec,
      Runs.finalState step process (times.map .timer) =
          { process with rm := (loop.turns first).1, timer := next.phase } ∧
        Runs.outputs step process (times.map .timer) = (loop.turns first).2 := by
  have hlength : (List.replicate first.serviceList.entries.toList.length currentTime).length =
      first.serviceList.entries.toList.length := List.length_replicate
  have haddressing : (process.address (first, loop) next).isAlive = true :=
    Bool.and_eq_true_iff.mpr ⟨hreceived, rfl⟩
  obtain ⟨hfinal, houtputs⟩ := run_addressing haddressing rfl (List.nil_append _).symm hlength
  -- the step behind the last turn leaves the loop
  have hleave : ({ process with
        rm := (loop.turns first).1
        timer := .addressing loop none next } : RmProcess).step (.timer currentTime) =
      ({ process with rm := (loop.turns first).1, timer := next.phase }, []) :=
    if_pos (Bool.and_eq_true_iff.mpr ⟨hreceived, rfl⟩)
  refine ⟨currentTime :: (List.replicate first.serviceList.entries.toList.length currentTime ++
    [currentTime]), ?_, ?_⟩
  · rw [List.map_cons, Runs.finalState_cons, hbegin, List.map_append, Runs.finalState_append,
      hfinal]
    exact congrArg Prod.fst hleave
  · rw [List.map_cons, Runs.outputs_cons, hbegin, List.nil_append, List.map_append,
      Runs.outputs_append, houtputs, hfinal]
    have hnothing := congrArg Prod.snd hleave
    show (loop.turns first).2 ++ (_ ++ []) = (loop.turns first).2
    rw [List.append_nil]
    exact (congrArg _ hnothing).trans (List.append_nil _)

/-! ### The start and the end -/

/-- Assumes: the process is waiting for the start of the traffic. Without a step of the other
threads it makes the calls of the start. -/
theorem exists_times_initialStartHandler {process : RmProcess}
    (hreceived : process.receivedMessage.isSome = true) (hphase : process.timer = .awaitingStart)
    (currentTime : Timespec) :
    ∃ times : List Timespec,
      Runs.finalState step process (times.map .timer) =
          { process with
            rm := (process.rm.initialStartHandler currentTime).1
            timer := .awaitingExperiment } ∧
        Runs.outputs step process (times.map .timer) =
          (process.rm.initialStartHandler currentTime).2 := by
  have halive : process.isAlive = true := by
    rw [isAlive, hreceived, hphase]
    rfl
  have hbegin : process.step (.timer currentTime) =
      (process.address (process.rm.beginStart currentTime) .experimentTimer, []) := by
    rw [step, if_pos halive]
    simp only [stepTimer, hphase]
  rw [← turns_beginStart]
  exact exists_times_of_begin hreceived hbegin

/-- The calls of the end of an experiment. -/
def stoppingCalls (rm : NetLayerRM) (currentTime : Timespec) :
    StoppingTimer → List ServiceCommand
  | .stoppingExperimentSynchronous => rm.stoppingExperimentSynchronous currentTime
  | .stoppingExperimentAsynchronous => rm.stoppingExperimentAsynchronous

/-- Assumes: the process is waiting for the end of an experiment. Without a step of the other
threads it makes the calls of the end. -/
theorem exists_times_stoppingExperiment {process : RmProcess} {timer : StoppingTimer}
    (hreceived : process.receivedMessage.isSome = true)
    (hphase : process.timer = .awaitingStop timer) (currentTime : Timespec) :
    ∃ times : List Timespec,
      Runs.finalState step process (times.map .timer) =
          { process with timer := timer.afterLoop.phase } ∧
        Runs.outputs step process (times.map .timer) =
          stoppingCalls process.rm currentTime timer := by
  have halive : process.isAlive = true := by
    rw [isAlive, hreceived, hphase]
    rfl
  have hbegin : process.step (.timer currentTime) =
      (process.address (process.rm, timer.beginStop process.rm currentTime) timer.afterLoop,
        []) := by
    rw [step, if_pos halive]
    simp only [stepTimer, hphase]
  have hturns : (timer.beginStop process.rm currentTime).turns process.rm =
      (process.rm, stoppingCalls process.rm currentTime timer) := by
    obtain ⟨hsynchronous, hasynchronous⟩ := turns_beginStop process.rm currentTime
    cases timer with
    | stoppingExperimentSynchronous => exact hsynchronous
    | stoppingExperimentAsynchronous => exact hasynchronous
  obtain ⟨times, hfinal, houtputs⟩ := exists_times_of_begin hreceived hbegin
  rw [hturns] at hfinal houtputs
  exact ⟨times, hfinal, houtputs⟩

/-! ### The function of an experiment -/

/-- The place of the thread of the timers at a place in the function of an experiment. -/
def experimentPlace (experiment : Experiment) : LoopPhase → TimerPhase
  | .iteration iterator => .iteration experiment iterator
  | .modes iterator rest => .modes experiment iterator rest
  | .registering | .returned => .awaitingStop experiment.stoppingTimer
  | .divisionByZero => .divisionByZero

/-- The process while its thread of the timers is in the function of an experiment. -/
def inExperiment (process : RmProcess) (experiment : Experiment) (run : ExperimentRun) :
    RmProcess :=
  { process with rm := run.rm, timer := experimentPlace experiment run.phase }

/-- The calls of a round. -/
def commandsOf : ExperimentOutput → List ServiceCommand
  | .round _ _ commands => commands
  | .registered _ => []

/-- Without a step of the other threads, the process gets from one place in the function of an
experiment to another, with these calls. -/
def Reaches (process : RmProcess) (experiment : Experiment) (run last : ExperimentRun)
    (commands : List ServiceCommand) : Prop :=
  ∃ times : List Timespec,
    Runs.finalState step (process.inExperiment experiment run) (times.map .timer) =
        process.inExperiment experiment last ∧
      Runs.outputs step (process.inExperiment experiment run) (times.map .timer) = commands

variable {process : RmProcess} {experiment : Experiment} {run : ExperimentRun}

theorem Reaches.refl : Reaches process experiment run run [] := ⟨[], rfl, rfl⟩

theorem Reaches.trans {middle last : ExperimentRun} {before later : List ServiceCommand}
    (h : Reaches process experiment run middle before)
    (h' : Reaches process experiment middle last later) :
    Reaches process experiment run last (before ++ later) := by
  obtain ⟨times, hfinal, houtputs⟩ := h
  obtain ⟨times', hfinal', houtputs'⟩ := h'
  refine ⟨times ++ times', ?_, ?_⟩
  · rw [List.map_append, Runs.finalState_append, hfinal, hfinal']
  · rw [List.map_append, Runs.outputs_append, houtputs, hfinal, houtputs']

/-- One step of the thread of the timers, of a process that is running. -/
theorem Reaches.of_stepTimer {last : ExperimentRun}
    (halive : (process.inExperiment experiment run).isAlive = true) (currentTime : Timespec)
    (hstep : (process.inExperiment experiment run).stepTimer currentTime =
      (process.inExperiment experiment last, [])) :
    Reaches process experiment run last [] := by
  have hstep' : (process.inExperiment experiment run).step (.timer currentTime) =
      (process.inExperiment experiment last, []) := (if_pos halive).trans hstep
  refine ⟨[currentTime], ?_, ?_⟩
  · rw [List.map_singleton, Runs.finalState_cons, hstep', Runs.finalState_nil]
  · rw [List.map_singleton, Runs.outputs_cons, hstep', Runs.outputs_nil, List.append_nil]

/-- A round. Assumes: the process is running, and the round does not divide by zero. -/
theorem reaches_round (hreceived : process.receivedMessage.isSome = true) {rm : NetLayerRM}
    (hzero : ¬ experiment.dividesByZero rm = true) (iterator : UInt8) (networkMode : UInt32)
    (rest : List UInt32) (currentTime : Timespec) :
    Reaches process experiment ⟨rm, .modes iterator (networkMode :: rest)⟩
      ⟨(experiment.round rm iterator networkMode currentTime).1, .modes iterator rest⟩
      (experiment.round rm iterator networkMode currentTime).2 := by
  let before := process.inExperiment experiment ⟨rm, .modes iterator (networkMode :: rest)⟩
  have halive : before.isAlive = true := Bool.and_eq_true_iff.mpr ⟨hreceived, rfl⟩
  have hbegin : before.step (.timer currentTime) =
      (before.address (experiment.beginRound rm iterator networkMode currentTime)
        (.modes experiment iterator rest), []) := (if_pos halive).trans (if_neg hzero)
  have hreceived' : before.receivedMessage.isSome = true := hreceived
  rw [← turns_beginRound]
  exact exists_times_of_begin hreceived' hbegin

/-- Assumes: the process is running. A step of the function of an experiment. -/
theorem reaches_step (hreceived : process.receivedMessage.isSome = true) (experiment : Experiment)
    (run : ExperimentRun) (currentTime : Timespec) :
    Reaches process experiment run (run.step experiment currentTime).1
      ((run.step experiment currentTime).2.flatMap commandsOf) := by
  obtain ⟨rm, phase⟩ := run
  have halive : ∀ place, (experimentPlace experiment place).isOver = false →
      (process.inExperiment experiment ⟨rm, place⟩).isAlive = true := fun place hplace ↦
    Bool.and_eq_true_iff.mpr ⟨hreceived, congrArg (!·) hplace⟩
  cases phase with
  | iteration iterator =>
    have hrunning := halive (.iteration iterator) rfl
    by_cases hlt : iterator.toUInt32 < rm.experimentParameterStruct.experimentIterations
    · rw [ExperimentRun.step_iteration_of_lt experiment hlt]
      exact .of_stepTimer hrunning currentTime (if_pos hlt)
    · rw [ExperimentRun.step_iteration_of_not_lt experiment hlt]
      exact .of_stepTimer hrunning currentTime (if_neg hlt)
  | modes iterator order =>
    have hrunning := halive (.modes iterator order) rfl
    cases order with
    | nil => exact .of_stepTimer hrunning currentTime rfl
    | cons networkMode rest =>
      by_cases hzero : experiment.dividesByZero rm = true
      · rw [ExperimentRun.step_modes_of_dividesByZero experiment networkMode rest hzero]
        exact .of_stepTimer hrunning currentTime (if_pos hzero)
      · rw [ExperimentRun.step_modes_of_not_dividesByZero experiment networkMode rest hzero,
          List.flatMap_singleton]
        exact reaches_round hreceived hzero iterator networkMode rest currentTime
  | _ => exact .refl

/-- Assumes: the process is running. A run of the function of an experiment in one piece is a run of
the process in which no other thread takes a step, with the same calls. -/
theorem reaches_of_run (hreceived : process.receivedMessage.isSome = true)
    (experiment : Experiment) (run : ExperimentRun) (clocks : List Timespec) :
    Reaches process experiment run
      (Runs.finalState (ExperimentRun.step experiment) run clocks)
      ((Runs.outputs (ExperimentRun.step experiment) run clocks).flatMap commandsOf) := by
  induction clocks generalizing run with
  | nil => exact .refl
  | cons currentTime rest ih =>
    rw [Runs.finalState_cons, Runs.outputs_cons, List.flatMap_append]
    exact (reaches_step hreceived experiment run currentTime).trans (ih _)

/-- The rounds of the single client, from a process that has just been started. -/
theorem reaches_of_run_singleClient :
    let run := ExperimentRun.start (singleClient (singleParameter 1000 100 100 100) 0 ⟨0, 0⟩)
    let clocks := List.replicate 5 ⟨0, 0⟩
    Reaches (RmProcess.start run.rm) .modeChange run
      (Runs.finalState (ExperimentRun.step .modeChange) run clocks)
      ((Runs.outputs (ExperimentRun.step .modeChange) run clocks).flatMap commandsOf) :=
  reaches_of_run rfl .modeChange _ _

end RmProcess

end NetLayerRM

end Tanos
