import Tanos.Rm.TimerSteps

/-!
# The calls that a service gets

A service that is registered before the start is called once for the start, once for every mode
change in which its client has a mode, in the order of the iterations, and once for the end.
`TimerPhase.callsLeft` is what is still to come of this at a place of the thread of the timers. A
step of the process takes the calls it makes for the service from the front of what is still to come
(`calls_step`), whichever thread takes it and whatever is registered meanwhile, so that the calls of
a run are the beginning of the transcript (`calls_of_run`), and all of it when the thread has no
timer left.
-/

set_option autoImplicit false
set_option relaxedAutoImplicit false

namespace Tanos

open Library Library.OrderedTraversal

namespace NetLayerRM

/-! ### The transcript -/

/-- A call seen from its client: its type and its mode. -/
abbrev ClientCall : Type := MessageTypes × UInt32

/-- The type of the calls of an experiment. -/
def Experiment.messageType : Experiment → MessageTypes
  | .modeChange => .rmClientReconfigureHw
  | .asynchonousObjectsHw => .rmClientSyncTimestampReconfigureHw
  | .asynchonousObjectsSw => .rmClientSyncTimestampReconfigureSw
  | .synchronousObjects objects => objects.messageType

/-- The type of the calls that end an experiment. -/
def StoppingTimer.messageType : StoppingTimer → MessageTypes
  | stoppingExperimentSynchronous => .rmClientSyncTimestampExit
  | stoppingExperimentAsynchronous => .rmClientExit

/-- What a call for the service is to its client. -/
def callTo (service : UInt64) (command : ServiceCommand) : Option ClientCall :=
  if command.service = service then some (command.messageType, command.mode) else none

/-- The calls of a loop for a service of a client. -/
def ServiceLoop.callsFor (loop : ServiceLoop) (rm : NetLayerRM) (client : UInt32) :
    List ClientCall :=
  (loop.modeFor rm.experimentParameterStruct client).toList.map fun mode ↦ (loop.messageType, mode)

section

variable (rm : NetLayerRM) (client : UInt32)

/-- The call of the start. -/
def startCalls : List ClientCall :=
  (clientMode rm.experimentParameterStruct.startupModeMap
    rm.experimentParameterStruct.startupMode client).toList.map fun mode ↦
      (if rm.experimentParameterStruct.synchronousStartMode then
        .rmClientSyncTimestampStart else .rmClientStart, mode)

/-- The calls of the mode changes to some network modes. -/
def Experiment.roundCalls (experiment : Experiment) (order : List UInt32) : List ClientCall :=
  order.flatMap fun networkMode ↦
    (clientMode rm.experimentParameterStruct.reconfigurationMap networkMode client).toList.map
      fun mode ↦ (experiment.messageType, mode)

/-- The calls of so many iterations, and of the end. -/
def Experiment.iterationCalls (experiment : Experiment) (iterations : ℕ) : List ClientCall :=
  (List.replicate iterations
    (experiment.roundCalls rm client rm.experimentParameterStruct.reconfigurationOrder)).flatten ++
      [(experiment.stoppingTimer.messageType, 10)]

/-- The calls that are still to come behind the timer for the experiment. -/
def experimentCalls : List ClientCall :=
  match rm.experimentSelection with
  | some experiment =>
    experiment.iterationCalls rm client rm.experimentParameterStruct.experimentIterations.toNat
  | none => []

/-- The calls that are still to come in an iteration with some modes left. -/
def Experiment.modesCalls (experiment : Experiment) (iterator : UInt8) (rest : List UInt32) :
    List ClientCall :=
  experiment.roundCalls rm client rest ++ experiment.iterationCalls rm client
    (rm.experimentParameterStruct.experimentIterations.toNat - (iterator.toNat + 1))

/-- The calls that are still to come behind a loop. -/
def AfterLoop.callsLeft : AfterLoop → List ClientCall
  | experimentTimer => experimentCalls rm client
  | modes experiment iterator rest => experiment.modesCalls rm client iterator rest
  | exit | idle => []

/-- The loop is still to reach the service. -/
def reaches (listIterator : Option UInt64) (service : UInt64) : Bool :=
  listIterator.any fun next ↦ next ≤ service

/-- The calls that are still to come for a service of a client. -/
def TimerPhase.callsLeft (service : UInt64) : TimerPhase → List ClientCall
  | awaitingStart => startCalls rm client ++ experimentCalls rm client
  | addressing loop listIterator next =>
    (if reaches listIterator service then loop.callsFor rm client else []) ++
      next.callsLeft rm client
  | awaitingExperiment => experimentCalls rm client
  | iteration experiment iterator => experiment.iterationCalls rm client
    (rm.experimentParameterStruct.experimentIterations.toNat - iterator.toNat)
  | modes experiment iterator rest => experiment.modesCalls rm client iterator rest
  | awaitingStop timer => [(timer.messageType, 10)]
  | idle | exited | divisionByZero => []

end

/-! ### The loops -/

section

variable {rm : NetLayerRM} {client : UInt32} {service : UInt64}

theorem callsFor_beginStart {current : NetLayerRM} (hgrows : Grows rm current)
    (currentTime : Timespec) :
    (current.beginStart currentTime).2.callsFor rm client = startCalls rm client := by
  have hmode : current.experimentParameterStruct.synchronousStartMode =
      rm.experimentParameterStruct.synchronousStartMode := by
    rw [hgrows.experimentParameterStruct_eq]
  unfold beginStart startCalls
  rw [hmode]
  split_ifs <;> rfl

theorem Experiment.roundCalls_append (experiment : Experiment) (first second : List UInt32) :
    experiment.roundCalls rm client (first ++ second) =
      experiment.roundCalls rm client first ++ experiment.roundCalls rm client second :=
  List.flatMap_append

theorem callsFor_beginRound (experiment : Experiment) (current : NetLayerRM) (iterator : UInt8)
    (networkMode : UInt32) (currentTime : Timespec) :
    (experiment.beginRound current iterator networkMode currentTime).2.callsFor rm client =
      experiment.roundCalls rm client [networkMode] := by
  rw [Experiment.roundCalls, List.flatMap_singleton]
  cases experiment <;> rfl

theorem callsFor_beginStop (timer : StoppingTimer) (current : NetLayerRM) (currentTime : Timespec) :
    (timer.beginStop current currentTime).callsFor rm client = [(timer.messageType, 10)] := by
  cases timer <;> rfl

/-- The transcript looks at the experiment only. -/
theorem callsFor_congr (loop : ServiceLoop) {current : NetLayerRM} (hgrows : Grows rm current)
    (client : UInt32) : loop.callsFor current client = loop.callsFor rm client := by
  rw [ServiceLoop.callsFor, hgrows.experimentParameterStruct_eq, ServiceLoop.callsFor]

/-- The calls of one turn for the service. -/
theorem filterMap_callTo_turn (loop : ServiceLoop) (current : NetLayerRM)
    (entry : UInt64 × RMMessage) :
    (loop.turn current entry).2.filterMap (callTo service) =
      if entry.1 = service then loop.callsFor current entry.2.sourceId else [] := by
  cases hmode : loop.modeFor current.experimentParameterStruct entry.2.sourceId with
  | none =>
    rw [loop.turn_of_modeFor_none hmode, ServiceLoop.callsFor, hmode]
    split_ifs <;> rfl
  | some mode =>
    obtain ⟨-, command, hcommand, hcall⟩ := loop.body_spec current entry mode
    have hcalls : callTo service ⟨command, entry.1⟩ =
        if entry.1 = service then some (loop.messageType, mode) else none := by
      rw [callTo, hcall.messageType_eq, hcall.mode_eq]
    rw [loop.turn_of_modeFor_some hmode, hcommand, ServiceLoop.callsFor, hmode, List.map_singleton]
    by_cases hservice : entry.1 = service
    · rw [if_pos hservice] at hcalls ⊢
      rw [List.filterMap_cons_some hcalls]
      rfl
    · rw [if_neg hservice] at hcalls ⊢
      rw [List.filterMap_cons_none hcalls]
      rfl

/-- At the least of the keys, a service that is there is still to be reached. -/
theorem reaches_of_isFirst {listIterator : Option UInt64} {present : Set UInt64}
    (hfirst : IsFirst present listIterator) (hservice : service ∈ present) :
    reaches listIterator service = true := by
  obtain ⟨next, hnext, hle⟩ := hfirst.exists_le service hservice
  rw [reaches, Option.mem_def.mp hnext]
  exact decide_eq_true hle

/-- The iterator behind a key is still to reach a registered service precisely when the service is
behind the key. -/
theorem reaches_next_iff {list : ServiceList} (hservice : service ∈ list.services) (key : UInt64) :
    reaches (list.next key) service = true ↔ key < service := by
  have hfirst := isFirst_after list.ordered key
  constructor
  · intro hreaches
    obtain ⟨next, hnext, hle⟩ := (Option.any_eq_true _ _).mp hreaches
    exact Std.lt_of_lt_of_le (hfirst.mem next hnext).2 (of_decide_eq_true hle)
  · intro hlt
    exact reaches_of_isFirst hfirst ⟨hservice, hlt⟩

end

/-! ### Places -/

section

variable {rm : NetLayerRM} {client : UInt32} {service : UInt64} {phase : TimerPhase}

theorem AfterLoop.callsLeft_phase (next : AfterLoop) :
    next.phase.callsLeft rm client service = next.callsLeft rm client := by
  cases next <;> rfl

/-- At the beginning of a loop, its calls and those behind it are still to come. -/
theorem Begins.callsLeft_eq {loop : ServiceLoop} {next : AfterLoop}
    (h : Begins rm phase loop next) :
    phase.callsLeft rm client service = loop.callsFor rm client ++ next.callsLeft rm client := by
  cases h with
  | start current hgrows currentTime =>
    rw [callsFor_beginStart hgrows]
    rfl
  | round current experiment iterator networkMode rest currentTime =>
    rw [callsFor_beginRound]
    show experiment.roundCalls rm client (networkMode :: rest) ++ _ =
      _ ++ (experiment.roundCalls rm client rest ++ _)
    rw [← List.append_assoc, ← Experiment.roundCalls_append]
    rfl
  | stop current timer currentTime =>
    rw [callsFor_beginStop]
    cases timer <;> rfl

/-- What is still to come in the iterations, before one of them. -/
theorem iterationCalls_of_lt (experiment : Experiment) (client : UInt32) {iterator : UInt8}
    (hlt : iterator.toNat < rm.experimentParameterStruct.experimentIterations.toNat) :
    experiment.modesCalls rm client iterator rm.experimentParameterStruct.reconfigurationOrder =
      experiment.iterationCalls rm client
        (rm.experimentParameterStruct.experimentIterations.toNat - iterator.toNat) := by
  have hcount : rm.experimentParameterStruct.experimentIterations.toNat - iterator.toNat =
      (rm.experimentParameterStruct.experimentIterations.toNat - (iterator.toNat + 1)) + 1 := by
    omega
  rw [hcount, Experiment.modesCalls, Experiment.iterationCalls, Experiment.iterationCalls,
    List.replicate_succ, List.flatten_cons, List.append_assoc]

/-- Assumes: there are at most 255 iterations. The same calls are still to come at two places
without a loop in between. -/
theorem Passes.callsLeft_eq {last : TimerPhase}
    (hiterations : rm.experimentParameterStruct.experimentIterations.toNat ≤ 255)
    (h : Passes rm phase last) (hregular : phase.Regular rm) :
    last.callsLeft rm client service = phase.callsLeft rm client service := by
  cases h with
  | loopEnd loop next => exact next.callsLeft_phase
  | experiment experiment hselection =>
    rw [TimerPhase.callsLeft, TimerPhase.callsLeft, experimentCalls, hselection]
    rfl
  | noExperiment hselection =>
    rw [TimerPhase.callsLeft, TimerPhase.callsLeft, experimentCalls, hselection]
  | iteration experiment iterator hlt => exact iterationCalls_of_lt experiment client hlt
  | experimentEnd experiment iterator hle =>
    rw [TimerPhase.callsLeft, TimerPhase.callsLeft, Nat.sub_eq_zero_of_le hle]
    rfl
  | nextIteration experiment iterator =>
    have hlt : iterator.toNat < rm.experimentParameterStruct.experimentIterations.toNat := hregular
    have hnext : (iterator + 1).toNat = iterator.toNat + 1 := by
      rw [UInt8.toNat_add, UInt8.toNat_one]
      omega
    rw [TimerPhase.callsLeft, TimerPhase.callsLeft, hnext]
    rfl

end

namespace RmProcess

variable {rm : NetLayerRM} {service : UInt64} {message : RMMessage} {process : RmProcess}

/-! ### Steps -/

/-- The calls of a turn are taken from the front of what is still to come. -/
theorem calls_turn (hgrows : Grows rm process.rm)
    (hmessage : process.rm.serviceList.entries[service]? = some message) {loop : ServiceLoop}
    {entry : UInt64 × RMMessage} {next : AfterLoop}
    (hphase : process.timer = .addressing loop (some entry.1) next)
    (hentry : process.rm.serviceList.entries[entry.1]? = some entry.2) :
    (loop.turn process.rm entry).2.filterMap (callTo service) ++
        (TimerPhase.addressing loop (process.rm.serviceList.next entry.1) next).callsLeft rm
          message.sourceId service =
      process.timer.callsLeft rm message.sourceId service := by
  have hservice : service ∈ process.rm.serviceList.services :=
    ServiceList.mem_services_iff.mpr ⟨message, hmessage⟩
  have hnext := reaches_next_iff hservice entry.1
  rw [filterMap_callTo_turn, hphase, TimerPhase.callsLeft, TimerPhase.callsLeft,
    ← List.append_assoc]
  congr 1
  by_cases hkey : entry.1 = service
  · have hsource : entry.2 = message := by
      rw [hkey, hmessage] at hentry
      exact (Option.some.inj hentry).symm
    have hpassed : ¬ reaches (process.rm.serviceList.next entry.1) service = true :=
      fun hreaches ↦ Std.lt_irrefl (hkey ▸ hnext.mp hreaches)
    have hreaches : reaches (some entry.1) service = true :=
      decide_eq_true (hkey ▸ Std.le_refl entry.1)
    rw [if_pos hkey, if_neg hpassed, if_pos hreaches, List.append_nil, hsource,
      callsFor_congr loop hgrows]
  · have hsame : reaches (process.rm.serviceList.next entry.1) service =
        reaches (some entry.1) service := by
      rw [Bool.eq_iff_iff, hnext]
      show entry.1 < service ↔ decide (entry.1 ≤ service) = true
      rw [decide_eq_true_eq, Std.le_iff_lt_or_eq]
      exact ⟨Or.inl, fun hle ↦ hle.resolve_right hkey⟩
    rw [if_neg hkey, List.nil_append, hsame]

/-- At the beginning of a loop it is still to reach every service. -/
theorem callsLeft_address {begun : NetLayerRM × ServiceLoop} {next : AfterLoop}
    (hservice : service ∈ begun.1.serviceList.services) (client : UInt32) :
    (process.address begun next).timer.callsLeft rm client service =
      begun.2.callsFor rm client ++ next.callsLeft rm client := by
  have hreaches : reaches begun.1.serviceList.begin service = true :=
    reaches_of_isFirst (isFirst_first begun.1.serviceList.ordered) hservice
  show (if reaches begun.1.serviceList.begin service then _ else _) ++ _ = _
  rw [if_pos hreaches]

/-- Assumes: there are at most 255 iterations, and the hyperperiod is not zero. The calls of a step
for a registered service are taken from the front of what is still to come. -/
theorem calls_step (hiterations : rm.experimentParameterStruct.experimentIterations.toNat ≤ 255)
    (hhyperperiod : rm.hyperperiodDuration ≠ 0)
    (hmessage : rm.serviceList.entries[service]? = some message) (h : OnSchedule rm process)
    (event : RmProcessEvent) :
    (process.step event).2.filterMap (callTo service) ++
        (process.step event).1.timer.callsLeft rm message.sourceId service =
      process.timer.callsLeft rm message.sourceId service := by
  have hregistered := h.grows.entries service message hmessage
  rcases process.step_eq_or event with ⟨htimer, hnone⟩ | ⟨currentTime, -, hstep⟩
  · rw [htimer, hnone]
    rfl
  · rw [hstep]
    have hspec := stepTimer_spec hhyperperiod h currentTime
    generalize process.stepTimer currentTime = result at hspec ⊢
    cases hspec with
    | begins begun next hsame hbegins =>
      have hservice : service ∈ begun.1.serviceList.services := by
        rw [hsame.serviceList_eq]
        exact ServiceList.mem_services_iff.mpr ⟨message, hregistered⟩
      rw [List.filterMap_nil, List.nil_append, callsLeft_address hservice, hbegins.callsLeft_eq]
    | turn loop entry next hphase hentry => exact calls_turn h.grows hregistered hphase hentry
    | passes phase hpasses => exact hpasses.callsLeft_eq hiterations h.regular
    | finished hfinished => rfl

/-- The same for the steps of a run. -/
theorem calls_of_onSchedule
    (hiterations : rm.experimentParameterStruct.experimentIterations.toNat ≤ 255)
    (hhyperperiod : rm.hyperperiodDuration ≠ 0)
    (hmessage : rm.serviceList.entries[service]? = some message) (h : OnSchedule rm process)
    (events : List RmProcessEvent) :
    (Runs.outputs step process events).filterMap (callTo service) ++
        (Runs.finalState step process events).timer.callsLeft rm message.sourceId service =
      process.timer.callsLeft rm message.sourceId service := by
  have hbefore : OnSchedule rm process ∧ ([] : List ServiceCommand).filterMap (callTo service) ++
      process.timer.callsLeft rm message.sourceId service =
        process.timer.callsLeft rm message.sourceId service := ⟨h, rfl⟩
  refine (Runs.finalState_outputs_of_everyStep
    (fun current commands ↦ OnSchedule rm current ∧ commands.filterMap (callTo service) ++
      current.timer.callsLeft rm message.sourceId service =
        process.timer.callsLeft rm message.sourceId service)
    (fun current past event _ ↦ ?_)
    ((Runs.everyStep_iff_forall_mem process events).mpr fun _ _ ↦ trivial) hbefore).2
  rintro ⟨hcurrent, hpast⟩
  refine ⟨onSchedule_step hhyperperiod hcurrent event, ?_⟩
  rw [List.filterMap_append, List.append_assoc,
    calls_step hiterations hhyperperiod hmessage hcurrent event]
  exact hpast

/-- Assumes: there are at most 255 iterations and the hyperperiod is not zero, as the loops and the
rounds of the experiments require, and a service is registered before the start. In every run, the
calls for it and those that are still to come are its transcript. -/
theorem calls_of_run (hstart : process.timer = .awaitingStart)
    (hiterations : process.rm.experimentParameterStruct.experimentIterations.toNat ≤ 255)
    (hhyperperiod : process.rm.hyperperiodDuration ≠ 0)
    (hentry : process.rm.serviceList.entries[service]? = some message)
    (events : List RmProcessEvent) :
    (Runs.outputs step process events).filterMap (callTo service) ++
        (Runs.finalState step process events).timer.callsLeft process.rm message.sourceId service =
      startCalls process.rm message.sourceId ++ experimentCalls process.rm message.sourceId := by
  have hcalls := calls_of_onSchedule hiterations hhyperperiod hentry (onSchedule_start hstart)
    events
  rw [hcalls, hstart]
  rfl

/-- The single client is called for the start, for its mode change and for the end. -/
theorem calls_of_run_singleClient :
    let process := RmProcess.start (singleClient (singleParameter 1000 100 100 100) 0 ⟨0, 0⟩)
    let events := List.replicate 15 (RmProcessEvent.timer ⟨0, 0⟩)
    (Runs.outputs step process events).filterMap (callTo 1) ++
        (Runs.finalState step process events).timer.callsLeft process.rm 1 1 =
      startCalls process.rm 1 ++ experimentCalls process.rm 1 ∧
    (Runs.outputs step process events).filterMap (callTo 1) =
      [(.rmClientSyncTimestampStart, 0), (.rmClientSyncTimestampReconfigureSyncObjectSw, 0),
        (.rmClientSyncTimestampExit, 10)] := by
  intro process events
  have hentry : process.rm.serviceList.entries[(1 : UInt64)]? = some singleRequest := by
    decide +kernel
  exact ⟨calls_of_run rfl (by decide) (by decide) hentry events, by decide +kernel⟩

end RmProcess

end NetLayerRM

end Tanos
