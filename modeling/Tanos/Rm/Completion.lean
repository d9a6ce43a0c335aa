import Tanos.Rm.Transcript

/-!
# The end of an experiment

The thread of the timers makes a bounded number of steps, whatever the other threads do. The bound
`TimerPhase.stepsLeft` depends on the services that are registered at the end of a run: as a loop
reaches each of them once at most, a registration in the middle of a run costs nothing that is not
counted from the beginning. A run with as many steps of the thread therefore finishes it, and every
service that was registered before the start has got its whole transcript (`complete_of_run`).
-/

set_option autoImplicit false
set_option relaxedAutoImplicit false

namespace Tanos

open Library Library.OrderedTraversal

/-- The ids of the services. -/
def ServiceList.serviceIds (list : ServiceList) : List UInt64 := list.entries.toList.map Prod.fst

namespace NetLayerRM

/-! ### The bound -/

section

variable (rm : NetLayerRM) (services : List UInt64)

/-- The steps of so many iterations, and of the end, with at most one turn for each service in a
loop. -/
def iterationSteps (iterations : ℕ) : ℕ :=
  iterations * (rm.experimentParameterStruct.reconfigurationOrder.length *
    (services.length + 2) + 2) + (services.length + 3)

/-- The steps behind the timer for the experiment. -/
def experimentSteps : ℕ :=
  match rm.experimentSelection with
  | some _ =>
    iterationSteps rm services rm.experimentParameterStruct.experimentIterations.toNat + 1
  | none => 1

/-- The steps in an iteration with some modes left. -/
def modesSteps (iterator : UInt8) (rest : List UInt32) : ℕ :=
  rest.length * (services.length + 2) + 1 + iterationSteps rm services
    (rm.experimentParameterStruct.experimentIterations.toNat - (iterator.toNat + 1))

/-- The steps behind a loop. -/
def AfterLoop.stepsLeft : AfterLoop → ℕ
  | experimentTimer => experimentSteps rm services
  | modes _ iterator rest => modesSteps rm services iterator rest
  | exit | idle => 0

/-- The steps of the thread from a place on. -/
def TimerPhase.stepsLeft : TimerPhase → ℕ
  | awaitingStart => services.length + 2 + experimentSteps rm services
  | addressing _ listIterator next =>
    services.countP (reaches listIterator) + 1 + next.stepsLeft rm services
  | awaitingExperiment => experimentSteps rm services
  | iteration _ iterator => iterationSteps rm services
    (rm.experimentParameterStruct.experimentIterations.toNat - iterator.toNat)
  | modes _ iterator rest => modesSteps rm services iterator rest
  | awaitingStop _ => services.length + 2
  | idle | exited | divisionByZero => 0

end

section

variable {rm : NetLayerRM} {services : List UInt64} {phase : TimerPhase}

theorem isFinished_of_stepsLeft (h : phase.stepsLeft rm services = 0) :
    phase.isFinished = true := by
  cases phase with
  | awaitingStart => simp [TimerPhase.stepsLeft] at h
  | addressing loop listIterator next => simp [TimerPhase.stepsLeft] at h
  | awaitingExperiment =>
    simp only [TimerPhase.stepsLeft, experimentSteps] at h
    split at h <;> simp at h
  | iteration experiment iterator => simp [TimerPhase.stepsLeft, iterationSteps] at h
  | modes experiment iterator rest => simp [TimerPhase.stepsLeft, modesSteps] at h
  | awaitingStop timer => simp [TimerPhase.stepsLeft] at h
  | _ => rfl

theorem stepsLeft_of_isFinished (h : phase.isFinished = true) :
    phase.stepsLeft rm services = 0 := by
  cases phase <;> first | rfl | exact absurd h Bool.false_ne_true

/-- Nothing is still to come when the thread has finished. -/
theorem callsLeft_of_isFinished (h : phase.isFinished = true) (client : UInt32)
    (service : UInt64) : phase.callsLeft rm client service = [] := by
  cases phase <;> first | rfl | exact absurd h Bool.false_ne_true

theorem TimerPhase.Regular.idle_or_exited (h : phase.Regular rm)
    (hfinished : phase.isFinished = true) : phase = .idle ∨ phase = .exited := by
  cases phase with
  | idle => exact Or.inl rfl
  | exited => exact Or.inr rfl
  | divisionByZero => exact h.elim
  | _ => exact absurd hfinished Bool.false_ne_true

theorem AfterLoop.stepsLeft_phase (next : AfterLoop) :
    next.phase.stepsLeft rm services = next.stepsLeft rm services := by
  cases next <;> rfl

/-- A loop takes a step to begin, one to end and one for each service. -/
theorem Begins.stepsLeft_eq {loop : ServiceLoop} {next : AfterLoop}
    (h : Begins rm phase loop next) :
    phase.stepsLeft rm services = services.length + 2 + next.stepsLeft rm services := by
  cases h with
  | start current hgrows currentTime => rfl
  | round current experiment iterator networkMode rest currentTime =>
    simp only [TimerPhase.stepsLeft, AfterLoop.stepsLeft, modesSteps, List.length_cons,
      Nat.add_mul, Nat.one_mul]
    omega
  | stop current timer currentTime => cases timer <;> rfl

/-- Assumes: there are at most 255 iterations. -/
theorem Passes.stepsLeft_eq {last : TimerPhase}
    (hiterations : rm.experimentParameterStruct.experimentIterations.toNat ≤ 255)
    (h : Passes rm phase last) (hregular : phase.Regular rm) :
    phase.stepsLeft rm services = last.stepsLeft rm services + 1 := by
  cases h with
  | loopEnd loop next =>
    have hnone : services.countP (reaches none) = 0 :=
      List.countP_eq_zero.mpr fun _ _ ↦ Bool.false_ne_true
    rw [next.stepsLeft_phase, TimerPhase.stepsLeft, hnone]
    omega
  | experiment experiment hselection =>
    rw [TimerPhase.stepsLeft, experimentSteps, hselection]
    rfl
  | noExperiment hselection =>
    rw [TimerPhase.stepsLeft, experimentSteps, hselection]
    rfl
  | iteration experiment iterator hlt =>
    have hcount : rm.experimentParameterStruct.experimentIterations.toNat - iterator.toNat =
        (rm.experimentParameterStruct.experimentIterations.toNat - (iterator.toNat + 1)) + 1 := by
      omega
    rw [TimerPhase.stepsLeft, TimerPhase.stepsLeft, hcount, modesSteps, iterationSteps,
      iterationSteps, Nat.add_mul]
    omega
  | experimentEnd experiment iterator hle =>
    rw [TimerPhase.stepsLeft, TimerPhase.stepsLeft, Nat.sub_eq_zero_of_le hle, iterationSteps]
    omega
  | nextIteration experiment iterator =>
    have hlt : iterator.toNat < rm.experimentParameterStruct.experimentIterations.toNat := hregular
    have hnext : (iterator + 1).toNat = iterator.toNat + 1 := by
      rw [UInt8.toNat_add, UInt8.toNat_one]
      omega
    rw [TimerPhase.stepsLeft, TimerPhase.stepsLeft, hnext, modesSteps, List.length_nil]
    omega

/-- The iterator behind a key is to reach fewer services. -/
theorem countP_reaches_next (list : ServiceList) {serviceId : UInt64}
    (hmem : serviceId ∈ services) :
    services.countP (reaches (list.next serviceId)) <
      services.countP (reaches (some serviceId)) := by
  have hbehind : ∀ other, reaches (list.next serviceId) other = true →
      serviceId < other := by
    intro other hreaches
    obtain ⟨next, hnext, hle⟩ := (Option.any_eq_true _ _).mp hreaches
    have hfirst := isFirst_after list.ordered serviceId
    exact Std.lt_of_lt_of_le (hfirst.mem next hnext).2 (of_decide_eq_true hle)
  obtain ⟨past, rest, rfl⟩ := List.append_of_mem hmem
  have hpast : ∀ part : List UInt64, part.countP (reaches (list.next serviceId)) ≤
      part.countP (reaches (some serviceId)) := fun part ↦
    List.countP_mono_left fun other _ hreaches ↦
      decide_eq_true (Std.le_of_lt (hbehind other hreaches))
  have hself : ¬ reaches (list.next serviceId) serviceId = true := fun hreaches ↦
    Std.lt_irrefl (hbehind serviceId hreaches)
  have hreached : reaches (some serviceId) serviceId = true :=
    decide_eq_true (Std.le_refl serviceId)
  rw [List.countP_append, List.countP_append, List.countP_cons_of_neg hself,
    List.countP_cons_of_pos hreached]
  have hbefore := hpast past
  have hlater := hpast rest
  omega

end

/-! ### Steps -/

/-- The event is a step of the thread of the timers. -/
def RmProcessEvent.isTimer : RmProcessEvent → Bool
  | timer _ => true
  | receive _ | handle => false

namespace RmProcess

/-- The process is on its schedule and running, and its services are among some others. -/
structure Running (rm : NetLayerRM) (services : List UInt64) (process : RmProcess) : Prop where
  onSchedule : OnSchedule rm process
  received : process.receivedMessage.isSome = true
  services_subset : ∀ serviceId ∈ process.rm.serviceList.services, serviceId ∈ services

variable {rm : NetLayerRM} {services : List UInt64} {process : RmProcess}

/-- The other threads leave the thread of the timers where it is. -/
theorem timer_step (process : RmProcess) {event : RmProcessEvent}
    (hevent : event.isTimer = false) : (process.step event).1.timer = process.timer := by
  rcases process.step_eq_or event with ⟨htimer, -⟩ | ⟨currentTime, rfl, -⟩
  · exact htimer
  · exact absurd hevent.symm Bool.false_ne_true

/-- Assumes: there are at most 255 iterations, and the hyperperiod is not zero. The steps of the
thread of the timers come off the bound, those of the other threads leave it as it is. -/
theorem stepsLeft_step
    (hiterations : rm.experimentParameterStruct.experimentIterations.toNat ≤ 255)
    (hhyperperiod : rm.hyperperiodDuration ≠ 0) (h : Running rm services process)
    (event : RmProcessEvent) :
    (process.step event).1.timer.stepsLeft rm services ≤
      process.timer.stepsLeft rm services - [event].countP RmProcessEvent.isTimer := by
  cases event with
  | timer currentTime =>
    show _ ≤ process.timer.stepsLeft rm services - 1
    by_cases hover : process.timer.isOver = true
    · have hsame : process.step (.timer currentTime) = (process, []) :=
        if_neg fun halive ↦ by simp [isAlive, hover] at halive
      have hfinished : process.timer.isFinished = true := by
        cases htimer : process.timer <;> rw [htimer] at hover <;> first | rfl | exact hover
      rw [hsame, stepsLeft_of_isFinished hfinished]
    · have hstep : process.step (.timer currentTime) = process.stepTimer currentTime :=
        if_pos (Bool.and_eq_true_iff.mpr ⟨h.received, by simpa using hover⟩)
      have hspec := stepTimer_spec hhyperperiod h.onSchedule currentTime
      rw [hstep]
      generalize process.stepTimer currentTime = result at hspec ⊢
      cases hspec with
      | begins begun next hsame hbegins =>
        have hcount := List.countP_le_length (l := services)
          (p := reaches begun.1.serviceList.begin)
        rw [hbegins.stepsLeft_eq]
        show services.countP (reaches begun.1.serviceList.begin) + 1 + _ ≤ _
        omega
      | turn loop entry next hphase hentry =>
        have hservice : entry.1 ∈ services :=
          h.services_subset _ (ServiceList.mem_services_iff.mpr ⟨entry.2, hentry⟩)
        have hless := countP_reaches_next process.rm.serviceList hservice
        rw [hphase]
        show services.countP _ + 1 + _ ≤ services.countP _ + 1 + _ - 1
        omega
      | passes phase hpasses =>
        rw [hpasses.stepsLeft_eq hiterations h.onSchedule.regular]
        exact Nat.le_refl _
      | finished hfinished => rw [stepsLeft_of_isFinished hfinished]
  | _ =>
    rw [process.timer_step rfl]
    exact Nat.le_refl _

/-! ### Runs -/

/-- A process that has overrun its payload array does nothing any more. -/
theorem step_of_received_none (h : process.receivedMessage = none) (event : RmProcessEvent) :
    process.step event = (process, []) :=
  if_neg fun halive ↦ by simp [isAlive, h] at halive

/-- A process that is running at the end of a run has been running before. -/
theorem received_of_finalState {past later : List RmProcessEvent}
    (h : (Runs.finalState step process (past ++ later)).receivedMessage.isSome = true) :
    (Runs.finalState step process past).receivedMessage.isSome = true := by
  rw [Runs.finalState_append] at h
  by_contra hnone
  rw [Option.not_isSome_iff_eq_none] at hnone
  have hkeep : ∀ current : RmProcess, ∀ event ∈ later, current.receivedMessage = none →
      (current.step event).1.receivedMessage = none := by
    intro current event _ hcurrent
    rw [step_of_received_none hcurrent]
    exact hcurrent
  have hlast := Runs.finalState_of_step hkeep hnone
  rw [hlast] at h
  exact absurd h Bool.false_ne_true

/-- The services of a process grow along its runs. -/
theorem grows_finalState (process : RmProcess) (events : List RmProcessEvent) :
    Grows process.rm (Runs.finalState step process events).rm := by
  have hkeep : ∀ current : RmProcess, ∀ event ∈ events, Grows process.rm current.rm →
      Grows process.rm (current.step event).1.rm :=
    fun current event _ hcurrent ↦ hcurrent.trans (current.grows_step event)
  exact Runs.finalState_of_step hkeep (.refl _)

/-- A process that is running at the end of a run is running on its schedule throughout, among the
services of the end. -/
theorem always_running (hhyperperiod : process.rm.hyperperiodDuration ≠ 0)
    (hstart : process.timer = .awaitingStart) {events : List RmProcessEvent}
    (hreceived : (Runs.finalState step process events).receivedMessage.isSome = true) :
    Runs.Always step (Running process.rm
      (Runs.finalState step process events).rm.serviceList.serviceIds) process events := by
  have hkeep : ∀ current : RmProcess, ∀ event ∈ events, OnSchedule process.rm current →
      OnSchedule process.rm (current.step event).1 :=
    fun current event _ h ↦ onSchedule_step hhyperperiod h event
  have hschedule := Runs.always_of_step hkeep (onSchedule_start hstart)
  rintro past ⟨later, rfl⟩
  refine ⟨hschedule past (List.prefix_append past later), received_of_finalState hreceived, ?_⟩
  intro serviceId hservice
  have hgrows := grows_finalState (Runs.finalState step process past) later
  rw [← Runs.finalState_append] at hgrows
  obtain ⟨message, hmessage⟩ := hgrows.services_subset hservice
  exact List.mem_map.mpr ⟨_, hmessage, rfl⟩

/-- Assumes: there are at most 255 iterations and the hyperperiod is not zero, and the process is
running at the end of a run, in which the thread of the timers has made as many steps as the
services of the end need. The thread has finished, and every service that was registered before the
start has got its transcript. -/
theorem complete_of_run (hstart : process.timer = .awaitingStart)
    (hiterations : process.rm.experimentParameterStruct.experimentIterations.toNat ≤ 255)
    (hhyperperiod : process.rm.hyperperiodDuration ≠ 0) {events : List RmProcessEvent}
    (hreceived : (Runs.finalState step process events).receivedMessage.isSome = true)
    (hlong : process.timer.stepsLeft process.rm
        (Runs.finalState step process events).rm.serviceList.serviceIds ≤
      events.countP RmProcessEvent.isTimer) :
    ((Runs.finalState step process events).timer = .idle ∨
        (Runs.finalState step process events).timer = .exited) ∧
      ∀ service message, process.rm.serviceList.entries[service]? = some message →
        (Runs.outputs step process events).filterMap (callTo service) =
          startCalls process.rm message.sourceId ++
            experimentCalls process.rm message.sourceId := by
  have halways := always_running hhyperperiod hstart hreceived
  have hrunning := halways events (List.prefix_refl events)
  have hrank := Runs.rank_finalState_le
    (fun current : RmProcess ↦ current.timer.stepsLeft process.rm
      (Runs.finalState step process events).rm.serviceList.serviceIds)
    (fun current event h ↦ stepsLeft_step hiterations hhyperperiod h event) halways
  have hfinished := isFinished_of_stepsLeft
    (Nat.le_zero.mp (hrank.trans (Nat.le_zero.mpr (Nat.sub_eq_zero_of_le hlong))))
  have hregular := hrunning.onSchedule.regular
  refine ⟨?_, fun service message hentry ↦ ?_⟩
  · exact hregular.idle_or_exited hfinished
  · have hcalls := calls_of_onSchedule hiterations hhyperperiod hentry (onSchedule_start hstart)
      events
    rw [callsLeft_of_isFinished hfinished, List.append_nil, hstart] at hcalls
    exact hcalls

/-- The request for a second service is handled behind the loop of the start. -/
def completedEvents : List RmProcessEvent :=
  List.replicate 4 (.timer ⟨0, 0⟩) ++ .handle :: List.replicate 16 (.timer ⟨0, 0⟩)

/-- The transcript of the first service is complete. -/
theorem complete_of_run_secondRequest :
    let process := { secondRequest with timer := .awaitingStart }
    ((Runs.finalState step process completedEvents).timer = .idle ∨
        (Runs.finalState step process completedEvents).timer = .exited) ∧
      ∀ service message, process.rm.serviceList.entries[service]? = some message →
        (Runs.outputs step process completedEvents).filterMap (callTo service) =
          startCalls process.rm message.sourceId ++
            experimentCalls process.rm message.sourceId := by
  intro process
  exact complete_of_run rfl (by decide) (by decide) (by decide +kernel) (by decide +kernel)

end RmProcess

end NetLayerRM

end Tanos
