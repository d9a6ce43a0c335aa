import Tanos.Rm.Process

/-!
# Steps of the thread of the timers

Between its turns the thread of the timers begins loops over the services (`Begins`) and passes from
one place to another (`Passes`). `stepTimer_spec` says that each of its steps is one of these or a
turn, unless it has finished. The steps of the other threads leave it where it is. What holds in
whole runs of the process goes by these cases.
-/

set_option autoImplicit false
set_option relaxedAutoImplicit false

namespace Tanos

open Library Library.OrderedTraversal

namespace NetLayerRM

/-- A loop that begins at a place of the thread, and where the thread goes on behind it. -/
inductive Begins (rm : NetLayerRM) : TimerPhase → ServiceLoop → AfterLoop → Prop
  | start (current : NetLayerRM) (hgrows : Grows rm current) (currentTime : Timespec) :
    Begins rm .awaitingStart (current.beginStart currentTime).2 .experimentTimer
  | round (current : NetLayerRM) (experiment : Experiment) (iterator : UInt8)
      (networkMode : UInt32) (rest : List UInt32) (currentTime : Timespec) :
    Begins rm (.modes experiment iterator (networkMode :: rest))
      (experiment.beginRound current iterator networkMode currentTime).2
      (.modes experiment iterator rest)
  | stop (current : NetLayerRM) (timer : StoppingTimer) (currentTime : Timespec) :
    Begins rm (.awaitingStop timer) (timer.beginStop current currentTime) timer.afterLoop

/-- A place behind another one, without a loop in between. -/
inductive Passes (rm : NetLayerRM) : TimerPhase → TimerPhase → Prop
  | loopEnd (loop : ServiceLoop) (next : AfterLoop) :
    Passes rm (.addressing loop none next) next.phase
  | experiment (experiment : Experiment) (hselection : rm.experimentSelection = some experiment) :
    Passes rm .awaitingExperiment (.iteration experiment 0)
  | noExperiment (hselection : rm.experimentSelection = none) : Passes rm .awaitingExperiment .idle
  | iteration (experiment : Experiment) (iterator : UInt8)
      (hlt : iterator.toNat < rm.experimentParameterStruct.experimentIterations.toNat) :
    Passes rm (.iteration experiment iterator)
      (.modes experiment iterator rm.experimentParameterStruct.reconfigurationOrder)
  | experimentEnd (experiment : Experiment) (iterator : UInt8)
      (hle : rm.experimentParameterStruct.experimentIterations.toNat ≤ iterator.toNat) :
    Passes rm (.iteration experiment iterator) (.awaitingStop experiment.stoppingTimer)
  | nextIteration (experiment : Experiment) (iterator : UInt8) :
    Passes rm (.modes experiment iterator []) (.iteration experiment (iterator + 1))

/-- The thread has no timer left. -/
def TimerPhase.isFinished : TimerPhase → Bool
  | idle | exited | divisionByZero => true
  | _ => false

/-- The thread has not divided by zero, and an iteration that has begun has a number below their
count. -/
def TimerPhase.Regular (rm : NetLayerRM) : TimerPhase → Prop
  | addressing _ _ (.modes _ iterator _) | modes _ iterator _ =>
    iterator.toNat < rm.experimentParameterStruct.experimentIterations.toNat
  | divisionByZero => False
  | _ => True

/-- The iterator of a loop is at a registered service. -/
def TimerPhase.AtService (list : ServiceList) : TimerPhase → Prop
  | addressing _ (some serviceId) _ => serviceId ∈ list.services
  | _ => True

section

variable {rm : NetLayerRM} {phase : TimerPhase} {loop : ServiceLoop} {next : AfterLoop}

theorem Begins.regular (h : Begins rm phase loop next)
    (hregular : phase.Regular rm) (listIterator : Option UInt64) :
    (TimerPhase.addressing loop listIterator next).Regular rm := by
  cases h with
  | start => trivial
  | round => exact hregular
  | stop current timer => cases timer <;> trivial

theorem Passes.regular {last : TimerPhase} (h : Passes rm phase last)
    (hregular : phase.Regular rm) : last.Regular rm := by
  cases h with
  | loopEnd loop next => cases next <;> exact hregular
  | iteration experiment iterator hlt => exact hlt
  | _ => trivial

theorem Passes.atService {last : TimerPhase} (h : Passes rm phase last) (list : ServiceList) :
    last.AtService list := by
  cases h with
  | loopEnd loop next => cases next <;> trivial
  | _ => trivial

end

/-- An iterator at the least of some registered services is at one of them. -/
theorem atService_of_isFirst {list : ServiceList} {listIterator : Option UInt64}
    {present : Set UInt64} (hfirst : IsFirst present listIterator)
    (hpresent : present ⊆ list.services) (loop : ServiceLoop) (next : AfterLoop) :
    (TimerPhase.addressing loop listIterator next).AtService list := by
  cases listIterator with
  | none => trivial
  | some serviceId => exact hpresent (hfirst.mem serviceId rfl)

namespace RmProcess

/-- A step of the thread of the timers of a process that makes the experiment of a resource
manager. -/
inductive TimerStep (rm : NetLayerRM) (process : RmProcess) :
    RmProcess × List ServiceCommand → Prop
  | begins (begun : NetLayerRM × ServiceLoop) (next : AfterLoop)
      (hsame : SameClients begun.1 process.rm) (hbegins : Begins rm process.timer begun.2 next) :
    TimerStep rm process (process.address begun next, [])
  | turn (loop : ServiceLoop) (entry : UInt64 × RMMessage) (next : AfterLoop)
      (hphase : process.timer = .addressing loop (some entry.1) next)
      (hentry : process.rm.serviceList.entries[entry.1]? = some entry.2) :
    TimerStep rm process
      ({ process with
        rm := (loop.turn process.rm entry).1
        timer := .addressing loop (process.rm.serviceList.next entry.1) next },
        (loop.turn process.rm entry).2)
  | passes (phase : TimerPhase) (hpasses : Passes rm process.timer phase) :
    TimerStep rm process ({ process with timer := phase }, [])
  | finished (hfinished : process.timer.isFinished = true) : TimerStep rm process (process, [])

/-- The process makes the experiment of a resource manager, with its services among others. -/
structure OnSchedule (rm : NetLayerRM) (process : RmProcess) : Prop where
  grows : Grows rm process.rm
  regular : process.timer.Regular rm
  atService : process.timer.AtService process.rm.serviceList

/-- Before the start. -/
theorem onSchedule_start {process : RmProcess} (hstart : process.timer = .awaitingStart) :
    OnSchedule process.rm process :=
  ⟨.refl _, hstart ▸ trivial, hstart ▸ trivial⟩

variable {rm : NetLayerRM} {process : RmProcess}

/-- Assumes: the hyperperiod is not zero. -/
theorem stepTimer_spec (hhyperperiod : rm.hyperperiodDuration ≠ 0) (h : OnSchedule rm process)
    (currentTime : Timespec) : TimerStep rm process (process.stepTimer currentTime) := by
  have hparameters := h.grows.experimentParameterStruct_eq
  have hservice := h.atService
  cases htimer : process.timer with
  | awaitingStart =>
    simp only [stepTimer, htimer]
    exact .begins _ _ (sameClients_beginStart process.rm currentTime)
      (htimer ▸ .start process.rm h.grows currentTime)
  | addressing loop listIterator next =>
    cases listIterator with
    | none =>
      simp only [stepTimer, htimer]
      exact .passes _ (htimer ▸ .loopEnd loop next)
    | some serviceId =>
      rw [htimer] at hservice
      obtain ⟨message, hmessage⟩ := ServiceList.mem_services_iff.mp hservice
      simp only [stepTimer, htimer, addressNext, hmessage]
      exact .turn loop (serviceId, message) next htimer hmessage
  | awaitingExperiment =>
    have hselection : process.rm.experimentSelection = rm.experimentSelection := by
      rw [experimentSelection, hparameters, experimentSelection]
    simp only [stepTimer, htimer, hselection]
    cases hrm : rm.experimentSelection with
    | none => exact .passes _ (htimer ▸ .noExperiment hrm)
    | some experiment => exact .passes _ (htimer ▸ .experiment experiment hrm)
  | iteration experiment iterator =>
    have hcount : iterator.toUInt32 < rm.experimentParameterStruct.experimentIterations ↔
        iterator.toNat < rm.experimentParameterStruct.experimentIterations.toNat := by
      rw [UInt32.lt_iff_toNat_lt, UInt8.toNat_toUInt32]
    simp only [stepTimer, htimer, hparameters]
    by_cases hlt : iterator.toUInt32 < rm.experimentParameterStruct.experimentIterations
    · rw [if_pos hlt]
      exact .passes _ (htimer ▸ .iteration experiment iterator (hcount.mp hlt))
    · rw [if_neg hlt]
      exact .passes _ (htimer ▸ .experimentEnd experiment iterator
        (Nat.le_of_not_lt fun hless ↦ hlt (hcount.mpr hless)))
  | modes experiment iterator rest =>
    cases rest with
    | nil =>
      simp only [stepTimer, htimer]
      exact .passes _ (htimer ▸ .nextIteration experiment iterator)
    | cons networkMode rest =>
      have hzero : ¬ experiment.dividesByZero process.rm = true := by
        rw [ExperimentRun.dividesByZero_congr experiment hparameters]
        cases experiment <;> simp [Experiment.dividesByZero, hhyperperiod]
      simp only [stepTimer, htimer]
      rw [if_neg hzero]
      exact .begins _ _
        (sameClients_beginRound experiment process.rm iterator networkMode currentTime)
        (htimer ▸ .round process.rm experiment iterator networkMode rest currentTime)
  | awaitingStop timer =>
    simp only [stepTimer, htimer]
    exact .begins _ _ (.refl process.rm) (htimer ▸ .stop process.rm timer currentTime)
  | _ =>
    simp only [stepTimer, htimer]
    exact .finished (htimer ▸ rfl)

/-- Assumes: the hyperperiod is not zero. The process stays on its schedule, whichever thread takes
a step. -/
theorem onSchedule_step (hhyperperiod : rm.hyperperiodDuration ≠ 0) (h : OnSchedule rm process)
    (event : RmProcessEvent) : OnSchedule rm (process.step event).1 := by
  have hgrows := process.grows_step event
  rcases process.step_eq_or event with ⟨htimer, -⟩ | ⟨currentTime, -, hstep⟩
  · refine ⟨h.grows.trans hgrows, htimer ▸ h.regular, ?_⟩
    have hservice := h.atService
    rw [htimer]
    cases hphase : process.timer with
    | addressing loop listIterator next =>
      rw [hphase] at hservice
      cases listIterator with
      | none => trivial
      | some serviceId => exact hgrows.services_subset hservice
    | _ => trivial
  · rw [hstep] at hgrows ⊢
    have hspec := stepTimer_spec hhyperperiod h currentTime
    generalize process.stepTimer currentTime = result at hspec hgrows ⊢
    refine ⟨h.grows.trans hgrows, ?_, ?_⟩
    · cases hspec with
      | begins begun next hsame hbegins => exact hbegins.regular h.regular _
      | turn loop entry next hphase hentry =>
        have hregular := h.regular
        rw [hphase] at hregular
        cases next <;> exact hregular
      | passes phase hpasses => exact hpasses.regular h.regular
      | finished hfinished => exact h.regular
    · cases hspec with
      | begins begun next hsame hbegins =>
        exact atService_of_isFirst (isFirst_first begun.1.serviceList.ordered) subset_rfl _ _
      | turn loop entry next hphase hentry =>
        have hlist := (loop.turn_spec process.rm entry).1.serviceList_eq
        show TimerPhase.AtService (loop.turn process.rm entry).1.serviceList _
        rw [hlist]
        exact atService_of_isFirst (isFirst_after process.rm.serviceList.ordered entry.1)
          (Set.sep_subset _ _) _ _
      | passes phase hpasses => exact hpasses.atService _
      | finished hfinished => exact h.atService

end RmProcess

end NetLayerRM

end Tanos
