import Tanos.Rm.Process
import Tanos.Rm.ResourceRequest

/-!
# The settings that the resource manager looks up

The resource manager takes the slot offsets of its clients out of the service settings with
`operator[]`, when it starts the traffic synchronously and in the rounds with synchronous objects.
`LooksUp` says for which clients and modes this happens in an experiment.

Where the settings have an entry for each of them, no run of the process creates one, as long as
only these clients ask to be managed (`rmClientServiceMap_of_requestsFrom`). For every one of them
there is a run that looks it up (`exists_run_of_looksUp`), so that an entry that is missing is
created by some run.
-/

set_option autoImplicit false
set_option relaxedAutoImplicit false

namespace Tanos

open Library Library.OrderedTraversal

namespace NetLayerRM

/-- The settings of a service are looked up in a mode: its client has this mode in the startup mode
and the traffic starts synchronously, or it has the mode in a network mode of the reconfiguration
order and the experiment gets to a round with synchronous objects. -/
inductive LooksUp (parameters : ExperimentParameter) (client mode : UInt32) : Prop
  | start (hsynchronous : parameters.synchronousStartMode = true)
      (hmode : clientMode parameters.startupModeMap parameters.startupMode client = some mode)
  | round (networkMode : UInt32) (hnumber : parameters.experimentNumber ∈ [2, 4, 5, 6, 7])
      (hiterations : parameters.experimentIterations ≠ 0)
      (hhyperperiod : parameters.hyperperiodDuration ≠ 0)
      (horder : networkMode ∈ parameters.reconfigurationOrder)
      (hmode : clientMode parameters.reconfigurationMap networkMode client = some mode)

/-- The experiments with these numbers are those with synchronous objects. -/
theorem exists_experimentSelection_iff (rm : NetLayerRM) :
    (∃ objects, rm.experimentSelection = some (.synchronousObjects objects)) ↔
      rm.experimentParameterStruct.experimentNumber ∈ [2, 4, 5, 6, 7] := by
  unfold experimentSelection
  split <;> simp_all

/-- The loop looks the settings of its services up. -/
def ServiceLoop.looksUp : ServiceLoop → Bool
  | startSynchronous _ | synchronousObjects _ _ _ _ => true
  | _ => false

namespace ServiceLoop

variable {loop : ServiceLoop} {rm : NetLayerRM} {entry : UInt64 × RMMessage}

/-- A loop that looks nothing up leaves the settings as they are. -/
theorem rmClientServiceMap_turn (hloop : loop.looksUp = false) :
    (loop.turn rm entry).1.rmClientServiceMap = rm.rmClientServiceMap := by
  cases hmode : loop.modeFor rm.experimentParameterStruct entry.2.sourceId with
  | none => rw [turn_of_modeFor_none loop hmode]
  | some mode =>
    rw [turn_of_modeFor_some loop hmode]
    cases loop with
    | startSynchronous target => exact absurd hloop Bool.false_ne_true.symm
    | synchronousObjects objects target iterator networkMode =>
      exact absurd hloop Bool.false_ne_true.symm
    | _ => rfl

/-- Assumes: the message asks for the service it is kept under. The loop takes the settings of this
service in the mode of the client. -/
theorem rmClientServiceMap_turn_of_looksUp (hloop : loop.looksUp = true)
    (hservice : entry.2.serviceId = entry.1) {mode : UInt32}
    (hmode : loop.modeFor rm.experimentParameterStruct entry.2.sourceId = some mode) :
    (loop.turn rm entry).1.rmClientServiceMap =
      (rm.rmClientServiceMap.subscript entry.1.toUInt32 mode).2 := by
  rw [turn_of_modeFor_some loop hmode]
  cases loop with
  | startSynchronous target => rfl
  | synchronousObjects objects target iterator networkMode =>
    rw [← hservice]
    rfl
  | _ => exact absurd hloop Bool.false_ne_true

end ServiceLoop

/-! ### Places of the thread of the timers -/

/-- The round of an experiment that has been selected, in a network mode of its order. -/
structure RoundsAhead (rm : NetLayerRM) (experiment : Experiment) (rest : List UInt32) : Prop where
  experimentSelection_eq : rm.experimentSelection = some experiment
  iterations_ne : rm.experimentParameterStruct.experimentIterations ≠ 0
  rest_subset : rest ⊆ rm.experimentParameterStruct.reconfigurationOrder

/-- What a loop looks up is known from the parameters of the experiment. -/
def ServiceLoop.Expected (parameters : ExperimentParameter) (loop : ServiceLoop) : Prop :=
  loop.looksUp = true → ∀ client mode, loop.modeFor parameters client = some mode →
    LooksUp parameters client mode

/-- The rounds behind a loop are those of the experiment. -/
def AfterLoop.Expected (rm : NetLayerRM) : AfterLoop → Prop
  | modes experiment _ rest => RoundsAhead rm experiment rest
  | _ => True

/-- The thread of the timers is at a place of the experiment of a resource manager. -/
def TimerPhase.Expected (rm : NetLayerRM) : TimerPhase → Prop
  | addressing loop _ next => loop.Expected rm.experimentParameterStruct ∧ next.Expected rm
  | iteration experiment _ => rm.experimentSelection = some experiment
  | modes experiment _ rest => RoundsAhead rm experiment rest
  | _ => True

variable {rm : NetLayerRM}

theorem AfterLoop.expected_phase {next : AfterLoop} (h : next.Expected rm) :
    next.phase.Expected rm := by
  cases next <;> exact h

/-- The anchor of the schedule does not matter to the settings. -/
theorem rmClientServiceMap_of_anchor (rm : NetLayerRM) (anchor : Timespec) :
    { rm with rmActiveTimestampLast := anchor }.rmClientServiceMap = rm.rmClientServiceMap := rfl

/-- The start of the traffic keeps the settings up to its loop, which looks up what is expected. -/
theorem expected_beginStart (rm : NetLayerRM) (currentTime : Timespec) :
    (rm.beginStart currentTime).1.rmClientServiceMap = rm.rmClientServiceMap ∧
      (rm.beginStart currentTime).2.Expected rm.experimentParameterStruct := by
  unfold beginStart
  split_ifs with hsynchronous
  · exact ⟨rmClientServiceMap_of_anchor rm _, fun _ _ _ hmode ↦ .start hsynchronous hmode⟩
  · exact ⟨rfl, fun hlooks ↦ absurd hlooks Bool.false_ne_true⟩

/-- Assumes: the round is one of the experiment, and does not divide by zero. It keeps the settings
up to its loop, which looks up what is expected. -/
theorem expected_beginRound {current : NetLayerRM}
    (hparameters : current.experimentParameterStruct = rm.experimentParameterStruct)
    {experiment : Experiment} {networkMode : UInt32} {rest : List UInt32}
    (hahead : RoundsAhead rm experiment (networkMode :: rest))
    (hzero : ¬ experiment.dividesByZero current = true) (iterator : UInt8)
    (currentTime : Timespec) :
    let begun := experiment.beginRound current iterator networkMode currentTime
    begun.1.rmClientServiceMap = current.rmClientServiceMap ∧
      begun.2.Expected rm.experimentParameterStruct := by
  cases experiment with
  | synchronousObjects objects =>
    refine ⟨rmClientServiceMap_of_anchor current _, fun _ client mode hmode ↦ ?_⟩
    have hnumber := (exists_experimentSelection_iff rm).mp ⟨objects, hahead.experimentSelection_eq⟩
    refine .round networkMode hnumber hahead.iterations_ne ?_
      (hahead.rest_subset List.mem_cons_self) hmode
    rw [ExperimentRun.dividesByZero_congr _ hparameters] at hzero
    rw [← rm.hyperperiodDuration_eq]
    simpa [Experiment.dividesByZero] using hzero
  | _ => exact ⟨rfl, fun hlooks ↦ absurd hlooks Bool.false_ne_true⟩

/-! ### Runs of the process -/

namespace RmProcess

/-- The requests that are in the queue are those of these clients for these services. -/
def RequestsFrom (clients : Set (UInt32 × UInt64)) (process : RmProcess) : Prop :=
  ∀ message ∈ process.nRMInHandleQueue,
    MessageTypes.ofCode message.messageType = some .rmClientSyncRequest →
      (message.sourceId, message.serviceId) ∈ clients

/-- The process makes the experiment of a resource manager, for these clients and their services,
and has the settings of the services as they were. -/
structure KeepsSettings (rm : NetLayerRM) (clients : Set (UInt32 × UInt64))
    (process : RmProcess) : Prop where
  experimentParameterStruct_eq :
    process.rm.experimentParameterStruct = rm.experimentParameterStruct
  rmClientServiceMap_eq : process.rm.rmClientServiceMap = rm.rmClientServiceMap
  registered : ∀ (service : UInt64) (message : RMMessage),
    process.rm.serviceList.entries[service]? = some message → (message.sourceId, service) ∈ clients
  expected : process.timer.Expected rm

/-- The settings are there for everything that these clients let the resource manager look up. -/
def HasLookups (rm : NetLayerRM) (clients : Set (UInt32 × UInt64)) : Prop :=
  ∀ client ∈ clients, ∀ mode, LooksUp rm.experimentParameterStruct client.1 mode →
    (rm.rmClientServiceMap.find client.2.toUInt32 mode).isSome = true

variable {rm : NetLayerRM} {clients : Set (UInt32 × UInt64)} {process : RmProcess}

/-- The loops of the thread of the timers leave the settings as they are. -/
theorem rmClientServiceMap_turn_of_hasLookups (hlookups : HasLookups rm clients)
    (h : KeepsSettings rm clients process) {loop : ServiceLoop}
    (hloop : loop.Expected rm.experimentParameterStruct) {service : UInt64} {message : RMMessage}
    (hentry : process.rm.serviceList.entries[service]? = some message) :
    (loop.turn process.rm (service, message)).1.rmClientServiceMap = rm.rmClientServiceMap := by
  rw [← h.rmClientServiceMap_eq]
  cases hlooks : loop.looksUp with
  | false => exact ServiceLoop.rmClientServiceMap_turn hlooks
  | true =>
    cases hmode : loop.modeFor process.rm.experimentParameterStruct message.sourceId with
    | none => rw [loop.turn_of_modeFor_none hmode]
    | some mode =>
      have hservice := process.rm.serviceList.serviceId_eq service message hentry
      rw [ServiceLoop.rmClientServiceMap_turn_of_looksUp hlooks hservice hmode]
      rw [h.experimentParameterStruct_eq] at hmode
      obtain ⟨settings, hsettings⟩ := Option.isSome_iff_exists.mp
        (hlookups _ (h.registered service message hentry) mode (hloop hlooks _ mode hmode))
      rw [← h.rmClientServiceMap_eq] at hsettings
      rw [ServiceMap.subscript_of_find hsettings]

/-- A step of the thread of the timers keeps the settings, and stays with the experiment. -/
theorem keepsSettings_stepTimer (hlookups : HasLookups rm clients)
    (h : KeepsSettings rm clients process) (currentTime : Timespec) :
    KeepsSettings rm clients (process.stepTimer currentTime).1 := by
  have hsame := process.sameClients_stepTimer currentTime
  have hparameters := h.experimentParameterStruct_eq
  have hexpected := h.expected
  suffices hstep : (process.stepTimer currentTime).1.rm.rmClientServiceMap =
      rm.rmClientServiceMap ∧ (process.stepTimer currentTime).1.timer.Expected rm by
    refine ⟨hsame.experimentParameterStruct_eq.trans hparameters, hstep.1, ?_, hstep.2⟩
    rw [hsame.serviceList_eq]
    exact h.registered
  have hmap := h.rmClientServiceMap_eq
  cases htimer : process.timer with
  | awaitingStart =>
    obtain ⟨hkept, hloop⟩ := expected_beginStart process.rm currentTime
    simp only [stepTimer, htimer, address]
    exact ⟨hkept.trans hmap, hparameters ▸ hloop, trivial⟩
  | addressing loop listIterator next =>
    rw [htimer] at hexpected
    cases listIterator with
    | none =>
      simp only [stepTimer, htimer]
      exact ⟨hmap, AfterLoop.expected_phase hexpected.2⟩
    | some serviceId =>
      simp only [stepTimer, htimer, addressNext]
      cases hentry : process.rm.serviceList.entries[serviceId]? with
      | none => exact ⟨hmap, htimer ▸ hexpected⟩
      | some message =>
        exact ⟨rmClientServiceMap_turn_of_hasLookups hlookups h hexpected.1 hentry, hexpected⟩
  | awaitingExperiment =>
    have hselection : process.rm.experimentSelection = rm.experimentSelection := by
      rw [experimentSelection, hparameters, experimentSelection]
    simp only [stepTimer, htimer, hselection]
    cases hrm : rm.experimentSelection with
    | none => exact ⟨hmap, trivial⟩
    | some experiment => exact ⟨hmap, hrm⟩
  | iteration experiment iterator =>
    rw [htimer] at hexpected
    simp only [stepTimer, htimer, hparameters]
    split_ifs with hlt
    · refine ⟨hmap, hexpected, ?_, List.Subset.refl _⟩
      rintro hnone
      rw [hnone] at hlt
      exact absurd hlt (UInt32.not_lt_zero)
    · exact ⟨hmap, trivial⟩
  | modes experiment iterator rest =>
    rw [htimer] at hexpected
    cases rest with
    | nil =>
      simp only [stepTimer, htimer]
      exact ⟨hmap, hexpected.experimentSelection_eq⟩
    | cons networkMode rest =>
      simp only [stepTimer, htimer]
      split_ifs with hzero
      · exact ⟨hmap, trivial⟩
      · obtain ⟨hkept, hloop⟩ :=
          expected_beginRound hparameters hexpected hzero iterator currentTime
        exact ⟨hkept.trans hmap, hloop, hexpected.experimentSelection_eq,
          hexpected.iterations_ne, List.subset_of_cons_subset hexpected.rest_subset⟩
  | awaitingStop timer =>
    simp only [stepTimer, htimer, address]
    cases timer <;> exact ⟨hmap, fun hlooks ↦ absurd hlooks Bool.false_ne_true, trivial⟩
  | _ =>
    simp only [stepTimer, htimer]
    exact ⟨hmap, trivial⟩

/-- Assumes: the requests in the queue come from the clients. A step of any thread keeps the
settings. -/
theorem keepsSettings_step (hlookups : HasLookups rm clients)
    (hrequests : RequestsFrom clients process) (h : KeepsSettings rm clients process)
    (event : RmProcessEvent) : KeepsSettings rm clients (process.step event).1 := by
  unfold step
  split_ifs
  · cases event with
    | receive datagram =>
      show KeepsSettings rm clients (process.receiveMessage datagram)
      unfold receiveMessage
      split <;> exact ⟨h.experimentParameterStruct_eq, h.rmClientServiceMap_eq, h.registered,
        h.expected⟩
    | handle =>
      show KeepsSettings rm clients process.handleMessage
      cases hqueue : process.nRMInHandleQueue with
      | nil =>
        simp only [handleMessage, hqueue]
        exact h
      | cons message rest =>
        have hgrows := grows_handleMessage process.rm message
        simp only [handleMessage, hqueue]
        refine ⟨hgrows.experimentParameterStruct_eq.trans h.experimentParameterStruct_eq, ?_, ?_,
          h.expected⟩
        · show (process.rm.handleMessage message).rmClientServiceMap = rm.rmClientServiceMap
          rw [handleMessage_eq]
          exact h.rmClientServiceMap_eq
        · intro service entry hentry
          rcases entry_handleMessage hentry with hbefore | ⟨htype, rfl, hsource⟩
          · exact h.registered service entry hbefore
          · rw [hsource]
            exact hrequests message (hqueue ▸ List.mem_cons_self) htype
    | timer currentTime => exact keepsSettings_stepTimer hlookups h currentTime
  · exact h

/-- Assumes: no client is registered yet, and only requests of these clients get into the queue. No
run of the process changes the settings when everything it looks up is there. -/
theorem rmClientServiceMap_of_requestsFrom (hlookups : HasLookups rm clients)
    (hempty : rm.serviceList = ServiceList.empty) {events : List RmProcessEvent}
    (hrequests : Runs.Always step (RequestsFrom clients) (start rm) events) :
    (Runs.finalState step (start rm) events).rm.rmClientServiceMap = rm.rmClientServiceMap := by
  have hstart : RequestsFrom clients (start rm) ∧ KeepsSettings rm clients (start rm) := by
    refine ⟨List.forall_mem_nil _, rfl, rfl, ?_, trivial⟩
    intro service message hentry
    have hnone : (start rm).rm.serviceList.entries[service]? = none := by
      rw [start, hempty]
      exact Std.ExtTreeMap.getElem?_empty
    rw [hnone] at hentry
    exact absurd hentry.symm (Option.some_ne_none message)
  have hkept : Runs.Always step
      (fun current ↦ RequestsFrom clients current ∧ KeepsSettings rm clients current)
      (start rm) events :=
    Runs.always_of_everyStep
      (fun _ event hnext h ↦ ⟨hnext, keepsSettings_step hlookups h.1 h.2 event⟩)
      (Runs.everyStep_of_always hrequests) hstart
  exact (hkept events (List.prefix_refl events)).2.rmClientServiceMap_eq

/-! ### A run for every lookup -/

/-- A round that does not divide by zero begins its loop. -/
theorem stepTimer_modes {experiment : Experiment} {iterator : UInt8} {networkMode : UInt32}
    {rest : List UInt32} (hphase : process.timer = .modes experiment iterator (networkMode :: rest))
    (hzero : ¬ experiment.dividesByZero process.rm = true) (currentTime : Timespec) :
    process.stepTimer currentTime =
      (process.address (experiment.beginRound process.rm iterator networkMode currentTime)
        (.modes experiment iterator rest), []) := by
  simp only [stepTimer, hphase, if_neg hzero]

/-- The process without a client and without a message. -/
def withoutClients (rm : NetLayerRM) (anchor : Timespec) (phase : TimerPhase) : RmProcess :=
  ⟨some RMMessage.new, [], { rm with rmActiveTimestampLast := anchor }, phase⟩

/-- The thread of the timers gets to a place while no client has asked for a service. -/
def ReachesPlace (rm : NetLayerRM) (phase : TimerPhase) : Prop :=
  ∃ (times : List Timespec) (anchor : Timespec),
    Runs.finalState step (start rm) (times.map .timer) = withoutClients rm anchor phase

theorem requestsFrom_of_nil (hqueue : process.nRMInHandleQueue = []) :
    RequestsFrom clients process := by
  rw [RequestsFrom, hqueue]
  exact List.forall_mem_nil _

/-- The steps of the thread of the timers bring no request. -/
theorem requestsFrom_timers (times : List Timespec) (hqueue : process.nRMInHandleQueue = []) :
    Runs.Always step (RequestsFrom clients) process (times.map .timer) := by
  have hkept : Runs.Always step (fun current ↦ current.nRMInHandleQueue = []) process
      (times.map .timer) := by
    refine Runs.always_of_step ?_ hqueue
    intro current event hevent hcurrent
    obtain ⟨currentTime, -, rfl⟩ := List.mem_map.mp hevent
    unfold step
    split_ifs
    · exact (current.stepTimer_frame currentTime).2.trans hcurrent
    · exact hcurrent
  exact fun past hpast ↦ requestsFrom_of_nil (hkept past hpast)

variable {phase : TimerPhase}

/-- Behind a place there is the next one. -/
theorem ReachesPlace.exists_step (h : ReachesPlace rm phase) (halive : phase.isOver = false) :
    ∃ anchor, ∀ later last, ((withoutClients rm anchor phase).stepTimer ⟨0, 0⟩).1 =
      withoutClients rm later last → ReachesPlace rm last := by
  obtain ⟨times, anchor, hfinal⟩ := h
  refine ⟨anchor, fun later last hnext ↦ ⟨times ++ [⟨0, 0⟩], later, ?_⟩⟩
  have halive : (withoutClients rm anchor phase).isAlive = true := by
    rw [isAlive, withoutClients, halive]
    rfl
  rw [List.map_append, Runs.finalState_append, hfinal, ← hnext]
  show ((withoutClients rm anchor phase).step (.timer ⟨0, 0⟩)).1 = _
  rw [RmProcess.step, if_pos halive]

/-- Assumes: no client is registered, and the thread of the timers begins a loop at a place. It gets
behind the loop. -/
theorem ReachesPlace.loop (hempty : rm.serviceList = ServiceList.empty) (h : ReachesPlace rm phase)
    (halive : phase.isOver = false) (next : AfterLoop)
    (hbegin : ∀ anchor, ∃ later loop, ((withoutClients rm anchor phase).stepTimer ⟨0, 0⟩).1 =
      (withoutClients rm anchor phase).address ({ rm with rmActiveTimestampLast := later }, loop)
        next) :
    ReachesPlace rm next.phase := by
  have hnone : rm.serviceList.begin = none := by
    rw [hempty]
    rfl
  obtain ⟨anchor, hreaches⟩ := h.exists_step halive
  obtain ⟨later, loop, hbegun⟩ := hbegin anchor
  have hloop : ReachesPlace rm (.addressing loop none next) := by
    refine hreaches later _ (hbegun.trans ?_)
    rw [address, withoutClients, withoutClients, ← hnone]
  obtain ⟨current, hends⟩ := hloop.exists_step rfl
  exact hends current _ rfl

/-- The thread of the timers gets to the modes of the first iteration of the experiment. -/
theorem reachesPlace_modes (hempty : rm.serviceList = ServiceList.empty) {experiment : Experiment}
    (hselection : rm.experimentSelection = some experiment)
    (hiterations : rm.experimentParameterStruct.experimentIterations ≠ 0) :
    ReachesPlace rm (.modes experiment 0 rm.experimentParameterStruct.reconfigurationOrder) := by
  have hstart : ReachesPlace rm .awaitingStart := ⟨[], rm.rmActiveTimestampLast, rfl⟩
  have hexperiment : ReachesPlace rm .awaitingExperiment := by
    refine hstart.loop hempty rfl .experimentTimer fun anchor ↦ ?_
    by_cases hsynchronous : rm.experimentParameterStruct.synchronousStartMode = true
    · refine ⟨rm.targetTimeClientStart ⟨0, 0⟩,
        .startSynchronous (rm.targetTimeClientStart ⟨0, 0⟩), ?_⟩
      simp only [withoutClients, stepTimer, beginStart, hsynchronous, if_true]
      rfl
    · refine ⟨anchor, .startAsynchronous, ?_⟩
      simp only [withoutClients, stepTimer, beginStart, hsynchronous]
      rfl
  have hiteration : ReachesPlace rm (.iteration experiment 0) := by
    obtain ⟨anchor, hreaches⟩ := hexperiment.exists_step rfl
    have hsame : (withoutClients rm anchor .awaitingExperiment).rm.experimentSelection =
        some experiment := hselection
    refine hreaches anchor _ ?_
    simp only [stepTimer, hsame]
    rfl
  obtain ⟨anchor, hreaches⟩ := hiteration.exists_step rfl
  have hlt : (0 : UInt8).toUInt32 < rm.experimentParameterStruct.experimentIterations := by
    rw [UInt32.lt_iff_toNat_lt]
    exact Nat.pos_of_ne_zero fun hzero ↦ hiterations (UInt32.toNat_inj.mp hzero)
  refine hreaches anchor _ ?_
  simp only [withoutClients, stepTimer, hlt, if_true]

/-- Assumes: the rounds do not divide by zero. The thread of the timers gets to every network mode
of an iteration. -/
theorem ReachesPlace.modes (hempty : rm.serviceList = ServiceList.empty) {experiment : Experiment}
    (hzero : ¬ experiment.dividesByZero rm = true) {past rest : List UInt32}
    (h : ReachesPlace rm (.modes experiment 0 (past ++ rest))) :
    ReachesPlace rm (.modes experiment 0 rest) := by
  induction past with
  | nil => exact h
  | cons networkMode past ih =>
    refine ih (h.loop hempty rfl (.modes experiment 0 (past ++ rest)) fun anchor ↦ ?_)
    have hnow : ¬ experiment.dividesByZero (withoutClients rm anchor
        (.modes experiment 0 (networkMode :: past ++ rest))).rm = true := by
      have hsame : experiment.dividesByZero rm =
          experiment.dividesByZero { rm with rmActiveTimestampLast := anchor } :=
        ExperimentRun.dividesByZero_congr experiment rfl
      exact fun hnow ↦ hzero (hsame.trans hnow)
    rw [stepTimer_modes rfl hnow]
    cases experiment with
    | synchronousObjects objects => exact ⟨_, _, rfl⟩
    | _ => exact ⟨anchor, _, rfl⟩

/-! ### A client that asks for its service -/

/-- The request of a client for a service arrives. -/
theorem exists_request (client : UInt32 × UInt64) : ∃ datagram message,
    RMCommunication.receiveControlMessage RMMessage.new datagram = some message ∧
      message.messageType = MessageTypes.rmClientSyncRequest.code ∧
      (message.sourceId, message.serviceId) = client := by
  obtain ⟨hsize, hused⟩ := payload_sendSyncRequest client.1 0 client.2 0 MessageNet.holds_new
    (Nat.zero_le _)
  have hreceived := RMCommunication.receiveControlMessage_sendoutControlMessage RMMessage.new
    ((congrArg List.length hused).trans hsize.symm) (hsize.trans_le (Nat.zero_le _))
  exact ⟨_, _, hreceived, rfl, rfl⟩

/-- Assumes: no client is registered. Behind a request the list has its service only. -/
theorem begin_handleMessage (hempty : rm.serviceList = ServiceList.empty) {message : RMMessage}
    (htype : message.messageType = MessageTypes.rmClientSyncRequest.code) :
    (rm.handleMessage message).serviceList.entries[message.serviceId]? =
        some { message with payloadSize := 0 } ∧
      (rm.handleMessage message).serviceList.begin = some message.serviceId := by
  have hnone : ∀ service : UInt64, rm.serviceList.entries[service]? = none := by
    rw [hempty]
    exact fun service ↦ Std.ExtTreeMap.getElem?_empty
  have hentry := getElem?_handleMessage htype (hnone message.serviceId)
  refine ⟨hentry, ?_⟩
  have hfirst := isFirst_first (rm.handleMessage message).serviceList.ordered
  obtain ⟨service, hservice, -⟩ := hfirst.exists_le message.serviceId
    (ServiceList.mem_services_iff.mpr ⟨_, hentry⟩)
  obtain ⟨entry, hother⟩ := ServiceList.mem_services_iff.mp (hfirst.mem service hservice)
  rcases entry_handleMessage hother with hbefore | ⟨-, rfl, -⟩
  · rw [hnone] at hbefore
    exact absurd hbefore.symm (Option.some_ne_none entry)
  · exact hservice

/-- Assumes: a loop that looks settings up begins before a service, and its client has a mode. There
are settings for it behind the first turn. -/
theorem isSome_find_of_address {begun : NetLayerRM × ServiceLoop} {service : UInt64}
    {message : RMMessage} {mode : UInt32} (hsame : SameClients begun.1 process.rm)
    (hlooks : begun.2.looksUp = true) (hfirst : process.rm.serviceList.begin = some service)
    (hentry : process.rm.serviceList.entries[service]? = some message)
    (hmode : begun.2.modeFor process.rm.experimentParameterStruct message.sourceId = some mode)
    (next : AfterLoop) (currentTime : Timespec) :
    (((process.address begun next).stepTimer currentTime).1.rm.rmClientServiceMap.find
      service.toUInt32 mode).isSome = true := by
  rw [← hsame.serviceList_eq] at hfirst hentry
  rw [← hsame.experimentParameterStruct_eq] at hmode
  have hservice := begun.1.serviceList.serviceId_eq service message hentry
  simp only [address, stepTimer, hfirst, addressNext, hentry]
  rw [ServiceLoop.rmClientServiceMap_turn_of_looksUp hlooks hservice hmode]
  exact ServiceMap.isSome_find_subscript_snd _ _ _

/-- Assumes: no client is registered, and at a place of the thread of the timers a loop begins that
looks the settings of a client up. When the client asks for its service there, it does. -/
theorem ReachesPlace.exists_run (hempty : rm.serviceList = ServiceList.empty)
    (h : ReachesPlace rm phase) (halive : phase.isOver = false) {client : UInt32 × UInt64}
    (hclient : client ∈ clients) {mode : UInt32}
    (hbegin : ∀ current : RmProcess, current.timer = phase →
      current.rm.experimentParameterStruct = rm.experimentParameterStruct →
      ∃ begun next, (current.stepTimer ⟨0, 0⟩).1 = current.address begun next ∧
        SameClients begun.1 current.rm ∧ begun.2.looksUp = true ∧
        begun.2.modeFor rm.experimentParameterStruct client.1 = some mode) :
    ∃ events, Runs.Always RmProcess.step (RequestsFrom clients) (start rm) events ∧
      ((Runs.finalState RmProcess.step (start rm) events).rm.rmClientServiceMap.find
        client.2.toUInt32 mode).isSome = true := by
  obtain ⟨times, anchor, hfinal⟩ := h
  obtain ⟨datagram, message, hreceived, htype, rfl⟩ := exists_request client
  have hruns : ∀ current : RmProcess, current.receivedMessage.isSome = true →
      current.timer.isOver = false → current.isAlive = true := by
    intro current hmessage hrunning
    rw [isAlive, hmessage, hrunning]
    rfl
  let current : NetLayerRM := { rm with rmActiveTimestampLast := anchor }
  have hcurrent : current.serviceList = ServiceList.empty := hempty
  obtain ⟨hentry, hfirst⟩ := begin_handleMessage hcurrent htype
  have hparameters := (grows_handleMessage current message).experimentParameterStruct_eq
  have harrived : ((withoutClients rm anchor phase).step (.receive datagram)).1 =
      ⟨some message, [message], current, phase⟩ := by
    rw [RmProcess.step, if_pos (hruns _ rfl halive)]
    simp only [receiveMessage, withoutClients, Option.bind_some, hreceived, List.nil_append]
    rfl
  let handled : RmProcess := ⟨some message, [], current.handleMessage message, phase⟩
  have hhandled : (RmProcess.step ⟨some message, [message], current, phase⟩ .handle).1 =
      handled := by
    rw [RmProcess.step, if_pos (hruns _ rfl halive)]
    rfl
  obtain ⟨begun, next, hbegun, hsame, hlooks, hmode⟩ := hbegin handled rfl hparameters
  have hloop : (handled.step (.timer ⟨0, 0⟩)).1 = handled.address begun next := by
    rw [RmProcess.step, if_pos (hruns _ rfl halive)]
    exact hbegun
  rw [← hparameters] at hmode
  refine ⟨times.map .timer ++ [.receive datagram, .handle, .timer ⟨0, 0⟩, .timer ⟨0, 0⟩], ?_, ?_⟩
  · rw [Runs.always_append, hfinal]
    refine ⟨requestsFrom_timers times rfl, ?_⟩
    refine (Runs.always_cons _ _ _).mpr ⟨requestsFrom_of_nil rfl, ?_⟩
    rw [harrived]
    refine (Runs.always_cons _ _ _).mpr ⟨?_, ?_⟩
    · exact List.forall_mem_singleton.mpr fun _ ↦ hclient
    · rw [hhandled]
      exact requestsFrom_timers [⟨0, 0⟩, ⟨0, 0⟩] rfl
  · rw [Runs.finalState_append, hfinal]
    simp only [Runs.finalState_cons, Runs.finalState_nil, harrived, hhandled, hloop]
    rw [RmProcess.step, if_pos (hruns _ rfl rfl)]
    exact isSome_find_of_address hsame hlooks hfirst hentry hmode next _

/-- Assumes: no client is registered when the process starts. For every client and mode that the
resource manager looks up there is a run behind which the settings have an entry. -/
theorem exists_run_of_looksUp (hempty : rm.serviceList = ServiceList.empty)
    {client : UInt32 × UInt64} (hclient : client ∈ clients) {mode : UInt32}
    (hlooksUp : LooksUp rm.experimentParameterStruct client.1 mode) :
    ∃ events, Runs.Always step (RequestsFrom clients) (start rm) events ∧
      ((Runs.finalState step (start rm) events).rm.rmClientServiceMap.find
        client.2.toUInt32 mode).isSome = true := by
  cases hlooksUp with
  | start hsynchronous hmode =>
    have hstart : ReachesPlace rm .awaitingStart := ⟨[], rm.rmActiveTimestampLast, rfl⟩
    refine hstart.exists_run hempty rfl hclient fun current hphase hparameters ↦ ?_
    refine ⟨current.rm.beginStart ⟨0, 0⟩, .experimentTimer, ?_,
      sameClients_beginStart current.rm _, ?_⟩
    · simp only [stepTimer, hphase]
    · rw [← hparameters] at hsynchronous
      rw [beginStart, if_pos hsynchronous]
      exact ⟨rfl, hmode⟩
  | round networkMode hnumber hiterations hhyperperiod horder hmode =>
    obtain ⟨objects, hselection⟩ := (exists_experimentSelection_iff rm).mpr hnumber
    obtain ⟨past, rest, hsplit⟩ := List.append_of_mem horder
    have hzero : ∀ other : NetLayerRM,
        other.experimentParameterStruct = rm.experimentParameterStruct →
          ¬ (Experiment.synchronousObjects objects).dividesByZero other = true := by
      intro other hother
      rw [ExperimentRun.dividesByZero_congr _ hother]
      simpa [Experiment.dividesByZero, rm.hyperperiodDuration_eq] using hhyperperiod
    have hmodes := reachesPlace_modes hempty hselection hiterations
    rw [hsplit] at hmodes
    refine (hmodes.modes hempty (hzero rm rfl)).exists_run hempty rfl hclient ?_
    intro current hphase hparameters
    refine ⟨_, _, congrArg Prod.fst (stepTimer_modes hphase (hzero _ hparameters) _),
      sameClients_beginRound _ current.rm 0 networkMode _, rfl, hmode⟩

end RmProcess

end NetLayerRM

end Tanos
