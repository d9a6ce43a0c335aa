import Tanos.ReceiveLoop
import Tanos.Rm.Release
import Tanos.Rm.ServiceLoop

/-!
# The process of the resource manager

Three threads share the resource manager. `receive_message` decodes datagrams into one message
object and enqueues a copy each time, `handle_message` takes the messages out of the queue, and the
thread of the timers starts the traffic, makes the rounds of the experiment and ends it. `RmProcess`
is the state of all three. Every step of the thread of the timers is one turn of a loop over the
services at most, so that the runs of `step` interleave it with the messages that are handled, also
within a loop.

A loop reaches every service that is registered when it begins exactly once, in the order of the
ids, whatever is registered meanwhile (`dispatched_of_addressing`). Services that are registered
behind the iterator may be reached, those before it wait for the next loop.
-/

set_option autoImplicit false
set_option relaxedAutoImplicit false

namespace Tanos

open Library Library.OrderedTraversal

namespace NetLayerRM

/-- Where the thread of the timers goes on behind a loop. -/
inductive AfterLoop where
  | experimentTimer
  | modes (experiment : Experiment) (iterator : UInt8) (rest : List UInt32)
  | exit
  | idle
deriving DecidableEq, Repr

/-- The places of the thread of the timers: before the timer for the start, in a loop over the
services, before the timer for the experiment, at the test of the iterations and in an iteration of
an experiment, before the timer for its end, with no timer left, and behind the end of the process,
by `exit` or in a division by zero. -/
inductive TimerPhase where
  | awaitingStart
  | addressing (loop : ServiceLoop) (listIterator : Option UInt64) (next : AfterLoop)
  | awaitingExperiment
  | iteration (experiment : Experiment) (iterator : UInt8)
  | modes (experiment : Experiment) (iterator : UInt8) (rest : List UInt32)
  | awaitingStop (timer : StoppingTimer)
  | idle
  | exited
  | divisionByZero
deriving DecidableEq, Repr

/-- The place behind a loop. -/
def AfterLoop.phase : AfterLoop → TimerPhase
  | experimentTimer => .awaitingExperiment
  | modes experiment iterator rest => .modes experiment iterator rest
  | exit => .exited
  | idle => .idle

/-- The end of an experiment: the synchronous one ends the process. -/
def StoppingTimer.afterLoop : StoppingTimer → AfterLoop
  | stoppingExperimentSynchronous => .exit
  | stoppingExperimentAsynchronous => .idle

/-- The loop in which the thread of the timers is, and where it goes on behind it. -/
def TimerPhase.currentLoop : TimerPhase → Option (ServiceLoop × AfterLoop)
  | addressing loop _ next => some (loop, next)
  | _ => none

/-- The process is over. -/
def TimerPhase.isOver : TimerPhase → Bool
  | exited | divisionByZero => true
  | _ => false

/-- The state of the process. The message object of the receiver is none when its payload array has
been overrun. -/
structure RmProcess where
  receivedMessage : Option RMMessage
  nRMInHandleQueue : List RMMessage
  rm : NetLayerRM
  timer : TimerPhase

/-- A datagram for the receiver, the next message for the handler, or a step of the thread of the
timers, at a reading of the clock. -/
inductive RmProcessEvent where
  | receive (datagram : List UInt8)
  | handle
  | timer (currentTime : Timespec)
deriving DecidableEq, Repr

namespace RmProcess

/-- After the constructor. -/
def start (rm : NetLayerRM) : RmProcess := ⟨some RMMessage.new, [], rm, .awaitingStart⟩

/-- The process is running, and has not overrun its payload array. -/
def isAlive (process : RmProcess) : Bool :=
  process.receivedMessage.isSome && !process.timer.isOver

/-- `receive_message`, for one datagram. -/
def receiveMessage (process : RmProcess) (datagram : List UInt8) : RmProcess :=
  match process.receivedMessage.bind
      fun message ↦ RMCommunication.receiveControlMessage message datagram with
  | none => { process with receivedMessage := none }
  | some message =>
    { process with
      receivedMessage := some message
      nRMInHandleQueue := process.nRMInHandleQueue ++ [message] }

/-- `handle_message`, for one message. -/
def handleMessage (process : RmProcess) : RmProcess :=
  match process.nRMInHandleQueue with
  | [] => process
  | message :: rest =>
    { process with nRMInHandleQueue := rest, rm := process.rm.handleMessage message }

/-- The thread of the timers is before the first service of a loop. -/
def address (process : RmProcess) (begun : NetLayerRM × ServiceLoop) (next : AfterLoop) :
    RmProcess :=
  { process with rm := begun.1, timer := .addressing begun.2 begun.1.serviceList.begin next }

/-- One turn of a loop. The iterator moves on before the service is addressed. -/
def addressNext (process : RmProcess) (loop : ServiceLoop) (serviceId : UInt64) (next : AfterLoop) :
    RmProcess × List ServiceCommand :=
  match process.rm.serviceList.entries[serviceId]? with
  | none => (process, [])
  | some message =>
    let turned := loop.turn process.rm (serviceId, message)
    ({ process with
      rm := turned.1
      timer := .addressing loop (process.rm.serviceList.next serviceId) next }, turned.2)

/-- A step of the thread of the timers. -/
def stepTimer (process : RmProcess) (currentTime : Timespec) : RmProcess × List ServiceCommand :=
  match process.timer with
  | .awaitingStart => (process.address (process.rm.beginStart currentTime) .experimentTimer, [])
  | .addressing loop (some serviceId) next => process.addressNext loop serviceId next
  | .addressing _ none next => ({ process with timer := next.phase }, [])
  | .awaitingExperiment =>
    match process.rm.experimentSelection with
    | some experiment => ({ process with timer := .iteration experiment 0 }, [])
    | none => ({ process with timer := .idle }, [])
  | .iteration experiment iterator =>
    let parameters := process.rm.experimentParameterStruct
    if iterator.toUInt32 < parameters.experimentIterations then
      ({ process with timer := .modes experiment iterator parameters.reconfigurationOrder }, [])
    else ({ process with timer := .awaitingStop experiment.stoppingTimer }, [])
  | .modes experiment iterator [] =>
    ({ process with timer := .iteration experiment (iterator + 1) }, [])
  | .modes experiment iterator (networkMode :: rest) =>
    if experiment.dividesByZero process.rm then ({ process with timer := .divisionByZero }, [])
    else (process.address (experiment.beginRound process.rm iterator networkMode currentTime)
      (.modes experiment iterator rest), [])
  | .awaitingStop timer =>
    (process.address (process.rm, timer.beginStop process.rm currentTime) timer.afterLoop, [])
  | .idle | .exited | .divisionByZero => (process, [])

/-- A step of one of the threads. -/
def step (process : RmProcess) (event : RmProcessEvent) : RmProcess × List ServiceCommand :=
  if process.isAlive then
    match event with
    | .receive datagram => (process.receiveMessage datagram, [])
    | .handle => (process.handleMessage, [])
    | .timer currentTime => process.stepTimer currentTime
  else (process, [])

end RmProcess

/-! ### What the threads leave as it is -/

/-- Entries stay in the service list, and the experiment and the clients stay what they are. -/
structure Grows (first second : NetLayerRM) : Prop where
  entries : ∀ (service : UInt64) (message : RMMessage),
    first.serviceList.entries[service]? = some message →
      second.serviceList.entries[service]? = some message
  experimentParameterStruct_eq :
    second.experimentParameterStruct = first.experimentParameterStruct
  rmClientConfigMap_eq : second.rmClientConfigMap = first.rmClientConfigMap

namespace Grows

variable {first second third : NetLayerRM}

theorem refl (rm : NetLayerRM) : Grows rm rm := ⟨fun _ _ h ↦ h, rfl, rfl⟩

theorem trans (h : Grows first second) (h' : Grows second third) : Grows first third :=
  ⟨fun service message hentry ↦ h'.entries service message (h.entries service message hentry),
    h'.experimentParameterStruct_eq.trans h.experimentParameterStruct_eq,
    h'.rmClientConfigMap_eq.trans h.rmClientConfigMap_eq⟩

theorem of_sameClients (h : SameClients second first) : Grows first second :=
  ⟨fun _ _ hentry ↦ by rw [h.serviceList_eq]; exact hentry, h.experimentParameterStruct_eq,
    h.rmClientConfigMap_eq⟩

theorem services_subset (h : Grows first second) :
    first.serviceList.services ⊆ second.serviceList.services := by
  intro service hservice
  obtain ⟨message, hmessage⟩ := ServiceList.mem_services_iff.mp hservice
  exact ServiceList.mem_services_iff.mpr ⟨message, h.entries service message hmessage⟩

theorem getClientAddress_eq (h : Grows first second) (client : UInt32) :
    second.getClientAddress client = first.getClientAddress client := by
  rw [getClientAddress, h.rmClientConfigMap_eq, getClientAddress]

end Grows

theorem grows_handleMessage (rm : NetLayerRM) (message : RMMessage) :
    Grows rm (rm.handleMessage message) := by
  refine ⟨fun service entry hentry ↦ getElem?_handleMessage_of_some hentry message, ?_, ?_⟩
  · rw [handleMessage_eq]
  · rw [handleMessage_eq]

theorem sameClients_beginStart (rm : NetLayerRM) (currentTime : Timespec) :
    SameClients (rm.beginStart currentTime).1 rm := by
  unfold beginStart
  split_ifs
  · exact .of_anchor rm _
  · exact .refl rm

theorem sameClients_beginRound (experiment : Experiment) (rm : NetLayerRM) (iterator : UInt8)
    (networkMode : UInt32) (currentTime : Timespec) :
    SameClients (experiment.beginRound rm iterator networkMode currentTime).1 rm := by
  cases experiment with
  | synchronousObjects objects => exact .of_anchor rm _
  | _ => exact .refl rm

/-- An entry behind a message was there before, or the message has asked for its service. -/
theorem entry_handleMessage {rm : NetLayerRM} {message : RMMessage} {service : UInt64}
    {entry : RMMessage}
    (hentry : (rm.handleMessage message).serviceList.entries[service]? = some entry) :
    rm.serviceList.entries[service]? = some entry ∨
      MessageTypes.ofCode message.messageType = some .rmClientSyncRequest ∧
        service = message.serviceId ∧ entry.sourceId = message.sourceId := by
  simp only [NetLayerRM.handleMessage, handleSyncMessages, RMMessage.networkToRm_empty] at hentry
  split at hentry
  · next htype =>
    split at hentry
    · exact Or.inl hentry
    · simp only [ServiceList.insert] at hentry
      rw [StdMap.getElem?_insert] at hentry
      split_ifs at hentry with hservice
      · obtain rfl := Option.some.inj hentry
        exact Or.inr ⟨htype, hservice.symm, rfl⟩
      · exact Or.inl hentry
  · exact Or.inl hentry

namespace RmProcess

variable (process : RmProcess)

/-- The thread of the timers leaves the services and the clients as they are. -/
theorem sameClients_stepTimer (currentTime : Timespec) :
    SameClients (process.stepTimer currentTime).1.rm process.rm := by
  unfold stepTimer
  split
  · exact sameClients_beginStart process.rm currentTime
  · next loop serviceId next _ =>
    unfold addressNext
    split
    · exact .refl _
    · exact (loop.turn_spec process.rm _).1
  · exact .refl _
  · split <;> exact .refl _
  · simp only
    split_ifs <;> exact .refl _
  · exact .refl _
  · next experiment iterator networkMode rest _ =>
    split_ifs
    · exact .refl _
    · exact sameClients_beginRound experiment process.rm iterator networkMode currentTime
  all_goals exact .refl _

/-- The thread of the timers leaves the messages to the other threads. -/
theorem stepTimer_frame (currentTime : Timespec) :
    (process.stepTimer currentTime).1.receivedMessage = process.receivedMessage ∧
      (process.stepTimer currentTime).1.nRMInHandleQueue = process.nRMInHandleQueue := by
  unfold stepTimer
  split
  · exact ⟨rfl, rfl⟩
  · unfold addressNext
    split <;> exact ⟨rfl, rfl⟩
  · exact ⟨rfl, rfl⟩
  · split <;> exact ⟨rfl, rfl⟩
  · simp only
    split_ifs <;> exact ⟨rfl, rfl⟩
  · exact ⟨rfl, rfl⟩
  · split_ifs <;> exact ⟨rfl, rfl⟩
  all_goals exact ⟨rfl, rfl⟩

/-- The thread of the timers makes calls in the turns of its loops only. -/
theorem stepTimer_eq_or (currentTime : Timespec) :
    (∃ loop service next, process.timer = .addressing loop (some service) next ∧
      process.stepTimer currentTime = process.addressNext loop service next) ∨
    (process.stepTimer currentTime).2 = [] := by
  cases htimer : process.timer with
  | addressing loop listIterator next =>
    cases listIterator with
    | none => exact Or.inr (by simp only [stepTimer, htimer])
    | some service => exact Or.inl ⟨loop, service, next, rfl, by simp only [stepTimer, htimer]⟩
  | modes experiment iterator rest =>
    right
    cases rest with
    | nil => simp only [stepTimer, htimer]
    | cons networkMode rest =>
      simp only [stepTimer, htimer]
      split_ifs <;> rfl
  | awaitingExperiment =>
    right
    simp only [stepTimer, htimer]
    split <;> rfl
  | iteration experiment iterator =>
    right
    simp only [stepTimer, htimer]
    split_ifs <;> rfl
  | _ => exact Or.inr (by simp only [stepTimer, htimer])

/-- The calls of the thread of the timers are those of its loops, for registered services. -/
theorem call_of_mem_stepTimer {currentTime : Timespec} {command : ServiceCommand}
    (hcommand : command ∈ (process.stepTimer currentTime).2) :
    ∃ loop message, process.rm.serviceList.entries[command.service]? = some message ∧
      ∃ mode ∈ ServiceLoop.modeFor loop process.rm.experimentParameterStruct message.sourceId,
        loop.Call process.rm (command.service, message) mode command := by
  rcases process.stepTimer_eq_or currentTime with ⟨loop, service, next, -, hturn⟩ | hnone
  · rw [hturn, addressNext] at hcommand
    cases hmessage : process.rm.serviceList.entries[service]? with
    | none =>
      rw [hmessage] at hcommand
      exact absurd hcommand List.not_mem_nil
    | some message =>
      rw [hmessage] at hcommand
      obtain ⟨mode, hmode, hcall⟩ := exists_mem_left_of_forall₂
        (loop.turn_spec process.rm (service, message)).2 command hcommand
      have hservice : command.service = service := hcall.service_eq
      rw [hservice]
      exact ⟨loop, message, hmessage, mode, Option.mem_toList.mp hmode, hcall⟩
  · rw [hnone] at hcommand
    exact absurd hcommand List.not_mem_nil

/-- No step takes an entry out of the service list, or changes the experiment and the clients. -/
theorem grows_step (event : RmProcessEvent) : Grows process.rm (process.step event).1.rm := by
  unfold step
  split_ifs
  · cases event with
    | receive datagram =>
      show Grows process.rm (process.receiveMessage datagram).rm
      unfold receiveMessage
      split <;> exact .refl _
    | handle =>
      show Grows process.rm process.handleMessage.rm
      unfold handleMessage
      split
      · exact .refl _
      · exact grows_handleMessage process.rm _
    | timer currentTime => exact .of_sameClients (process.sameClients_stepTimer currentTime)
  · exact .refl _

/-! ### A loop among the other threads -/

/-- The thread of the timers is in a loop. -/
def Addressing (loop : ServiceLoop) (next : AfterLoop) (process : RmProcess) : Prop :=
  process.timer.currentLoop = some (loop, next)

instance (loop : ServiceLoop) (next : AfterLoop) : DecidablePred (Addressing loop next) :=
  fun process ↦ inferInstanceAs (Decidable (process.timer.currentLoop = some (loop, next)))

/-- A step leaves the thread of the timers where it is, or is one of this thread. -/
theorem step_eq_or (event : RmProcessEvent) :
    ((process.step event).1.timer = process.timer ∧ (process.step event).2 = []) ∨
      ∃ currentTime, event = .timer currentTime ∧
        process.step event = process.stepTimer currentTime := by
  by_cases halive : process.isAlive = true
  · have hstep : ∀ event, process.step event = match event with
        | .receive datagram => (process.receiveMessage datagram, [])
        | .handle => (process.handleMessage, [])
        | .timer currentTime => process.stepTimer currentTime := fun _ ↦ if_pos halive
    rw [hstep]
    cases event with
    | receive datagram =>
      refine Or.inl ⟨?_, rfl⟩
      show (process.receiveMessage datagram).timer = process.timer
      unfold receiveMessage
      split <;> rfl
    | handle =>
      refine Or.inl ⟨?_, rfl⟩
      show process.handleMessage.timer = process.timer
      unfold handleMessage
      split <;> rfl
    | timer currentTime => exact Or.inr ⟨currentTime, rfl, rfl⟩
  · have hstep : process.step event = (process, []) := if_neg halive
    rw [hstep]
    exact Or.inl ⟨rfl, rfl⟩

/-- What a step is to a loop that it does not end: it leaves the iterator where it is, or it is the
turn for the service there. -/
theorem step_addressing {process : RmProcess} {loop : ServiceLoop} {listIterator : Option UInt64}
    {next : AfterLoop} (hphase : process.timer = .addressing loop listIterator next)
    (event : RmProcessEvent) (hstays : Addressing loop next (process.step event).1) :
    ((process.step event).1.timer = process.timer ∧ (process.step event).2 = []) ∨
    ∃ service message, listIterator = some service ∧
      process.rm.serviceList.entries[service]? = some message ∧
      (process.step event).1.timer =
        .addressing loop (process.rm.serviceList.next service) next ∧
      (process.step event).1.rm = (loop.turn process.rm (service, message)).1 ∧
      (process.step event).2 = (loop.turn process.rm (service, message)).2 := by
  rcases process.step_eq_or event with hsame | ⟨currentTime, -, hstep⟩
  · exact Or.inl hsame
  · rw [hstep] at hstays ⊢
    cases listIterator with
    | none =>
      simp only [Addressing, stepTimer, hphase] at hstays
      cases next <;> exact absurd hstays nofun
    | some service =>
      have hturn : process.stepTimer currentTime = process.addressNext loop service next := by
        simp only [stepTimer, hphase]
      rw [hturn, addressNext]
      cases hentry : process.rm.serviceList.entries[service]? with
      | none => exact Or.inl ⟨rfl, rfl⟩
      | some message => exact Or.inr ⟨service, message, rfl, hentry, rfl, rfl, rfl⟩

/-- What a loop has done since it was begun: the services it has visited, and the calls it has made
for those of them whose clients have a mode. -/
structure Addressed (loop : ServiceLoop) (first current : NetLayerRM)
    (listIterator : Option UInt64) (visited : List UInt64) (commands : List ServiceCommand) :
    Prop where
  grows : Grows first current
  traversed : Traversed first.serviceList.services current.serviceList.services listIterator visited
  sublist : (commands.map ServiceCommand.service).Sublist visited
  call_of_mem : ∀ command ∈ commands, ∃ message,
    current.serviceList.entries[command.service]? = some message ∧
      ∃ mode ∈ loop.modeFor first.experimentParameterStruct message.sourceId,
        loop.Call first (command.service, message) mode command
  exists_mem : ∀ service ∈ visited, ∀ message,
    current.serviceList.entries[service]? = some message →
      ∀ mode ∈ loop.modeFor first.experimentParameterStruct message.sourceId,
        ∃ command ∈ commands, command.service = service

/-- The entry of a visited service is the one that a later state has. -/
theorem Addressed.grow {loop : ServiceLoop} {first current later : NetLayerRM}
    {listIterator : Option UInt64} {visited : List UInt64} {commands : List ServiceCommand}
    (h : Addressed loop first current listIterator visited commands)
    (hgrows : Grows current later) :
    Addressed loop first later listIterator visited commands := by
  refine ⟨h.grows.trans hgrows, h.traversed.grow hgrows.services_subset, h.sublist, ?_, ?_⟩
  · intro command hcommand
    obtain ⟨message, hmessage, hcall⟩ := h.call_of_mem command hcommand
    exact ⟨message, hgrows.entries _ _ hmessage, hcall⟩
  · intro service hservice message hmessage mode hmode
    obtain ⟨before, hbefore⟩ :=
      ServiceList.mem_services_iff.mp (h.traversed.mem_present service hservice)
    have hsame : before = message := by
      rw [hgrows.entries _ _ hbefore] at hmessage
      exact Option.some.inj hmessage
    exact h.exists_mem service hservice message (hsame ▸ hbefore) mode hmode

/-- One turn. -/
theorem Addressed.turn {loop : ServiceLoop} {first current : NetLayerRM} {service : UInt64}
    {visited : List UInt64} {commands : List ServiceCommand}
    (h : Addressed loop first current (some service) visited commands) {message : RMMessage}
    (hmessage : current.serviceList.entries[service]? = some message) :
    Addressed loop first (loop.turn current (service, message)).1
      (current.serviceList.next service) (visited ++ [service])
      (commands ++ (loop.turn current (service, message)).2) := by
  obtain ⟨hsame, hcalls⟩ := loop.turn_spec current (service, message)
  have hgrown := h.grow (.of_sameClients hsame)
  rw [h.grows.experimentParameterStruct_eq] at hcalls
  have hlist := hsame.serviceList_eq
  generalize loop.turn current (service, message) = turned at hgrown hcalls hlist ⊢
  have hservice : ∀ command ∈ turned.2, command.service = service := by
    intro command hcommand
    obtain ⟨mode, -, hcall⟩ := exists_mem_left_of_forall₂ hcalls command hcommand
    exact hcall.service_eq
  refine ⟨hgrown.grows, ?_, ?_, ?_, ?_⟩
  · rw [hlist]
    exact h.traversed.advance (isFirst_after current.serviceList.ordered service)
  · rw [List.map_append]
    refine h.sublist.append ?_
    have hservices : turned.2.map ServiceCommand.service =
        (loop.modeFor first.experimentParameterStruct message.sourceId).toList.map
          fun _ ↦ service :=
      map_eq_of_forall₂ hcalls fun _ _ hcall ↦ hcall.service_eq
    rw [hservices]
    cases loop.modeFor first.experimentParameterStruct message.sourceId with
    | none => exact List.nil_sublist _
    | some mode => exact List.Sublist.refl _
  · intro command hcommand
    rcases List.mem_append.mp hcommand with hbefore | hnow
    · exact hgrown.call_of_mem command hbefore
    · obtain ⟨mode, hmode, hcall⟩ := exists_mem_left_of_forall₂ hcalls command hnow
      refine ⟨message, ?_, mode, Option.mem_toList.mp hmode, ?_⟩
      · rw [hservice command hnow, hlist]
        exact hmessage
      · rw [hservice command hnow]
        exact ⟨hcall.service_eq, hcall.messageType_eq, hcall.mode_eq, hcall.targetAddress_eq.trans
          (h.grows.getClientAddress_eq _)⟩
  · refine List.forall_mem_append.mpr ⟨fun other hother entry hentry mode hmode ↦ ?_, ?_⟩
    · obtain ⟨command, hcommand, heq⟩ := hgrown.exists_mem other hother entry hentry mode hmode
      exact ⟨command, List.mem_append_left _ hcommand, heq⟩
    · refine List.forall_mem_singleton.mpr fun entry hentry mode hmode ↦ ?_
      rw [hlist, hmessage] at hentry
      obtain rfl := Option.some.inj hentry
      obtain ⟨command, hcommand, -⟩ :=
        exists_mem_right_of_forall₂ hcalls mode (Option.mem_toList.mpr hmode)
      exact ⟨command, List.mem_append_right _ hcommand, hservice command hcommand⟩

/-- A step within the loop. -/
theorem addressed_step {loop : ServiceLoop} {next : AfterLoop} {first : NetLayerRM}
    {process : RmProcess} {commands : List ServiceCommand} {event : RmProcessEvent}
    (hstays : Addressing loop next (process.step event).1)
    (h : ∃ listIterator visited, process.timer = .addressing loop listIterator next ∧
      Addressed loop first process.rm listIterator visited commands) :
    ∃ listIterator visited, (process.step event).1.timer = .addressing loop listIterator next ∧
      Addressed loop first (process.step event).1.rm listIterator visited
        (commands ++ (process.step event).2) := by
  obtain ⟨listIterator, visited, hphase, haddressed⟩ := h
  rcases step_addressing hphase event hstays with
    ⟨hsame, hnone⟩ | ⟨service, message, rfl, hmessage, hphase', hrm, hcommands⟩
  · refine ⟨listIterator, visited, hsame.trans hphase, ?_⟩
    rw [hnone, List.append_nil]
    exact haddressed.grow (process.grows_step event)
  · refine ⟨_, visited ++ [service], hphase', ?_⟩
    rw [hrm, hcommands]
    exact haddressed.turn hmessage

/-- The calls of a loop, made between two states: in the order of the service ids, they are calls
for services that are registered at the end of the loop, with the modes and the addresses of their
clients, and there is one for every service whose client has a mode that has been registered when
the loop began. -/
structure DispatchedBetween (loop : ServiceLoop) (first last : NetLayerRM)
    (commands : List ServiceCommand) : Prop where
  ascending : commands.Pairwise fun command other ↦ command.service < other.service
  call_of_mem : ∀ command ∈ commands, ∃ message,
    last.serviceList.entries[command.service]? = some message ∧
      ∃ mode ∈ loop.modeFor first.experimentParameterStruct message.sourceId,
        loop.Call first (command.service, message) mode command
  exists_mem : ∀ service message, first.serviceList.entries[service]? = some message →
    ∀ mode ∈ loop.modeFor first.experimentParameterStruct message.sourceId,
      ∃ command ∈ commands, command.service = service

/-- A loop that has just begun makes its calls, whatever the other threads do until it is at its
end. -/
theorem dispatched_of_addressing {loop : ServiceLoop} {next : AfterLoop} {process : RmProcess}
    (hbegin : process.timer = .addressing loop process.rm.serviceList.begin next)
    {events : List RmProcessEvent} (hstays : Runs.Always step (Addressing loop next) process events)
    (hend : (Runs.finalState step process events).timer = .addressing loop none next) :
    DispatchedBetween loop process.rm (Runs.finalState step process events).rm
      (Runs.outputs step process events) := by
  have hstart : ∃ listIterator visited, process.timer = .addressing loop listIterator next ∧
      Addressed loop process.rm process.rm listIterator visited [] := by
    refine ⟨_, [], hbegin, Grows.refl _, traversed_begin ?_, List.Sublist.refl _, ?_, ?_⟩
    · exact isFirst_first process.rm.serviceList.ordered
    · exact List.forall_mem_nil _
    · exact List.forall_mem_nil _
  obtain ⟨listIterator, visited, hphase, haddressed⟩ :=
    Runs.finalState_outputs_of_everyStep
      (fun current commands ↦ ∃ listIterator visited,
        current.timer = .addressing loop listIterator next ∧
          Addressed loop process.rm current.rm listIterator visited commands)
      (fun current past event hevent hcurrent ↦ addressed_step hevent hcurrent)
      (Runs.everyStep_of_always hstays) hstart
  rw [hend] at hphase
  obtain ⟨-, rfl, -⟩ := TimerPhase.addressing.inj hphase
  refine ⟨?_, haddressed.call_of_mem, fun service message hmessage mode hmode ↦ ?_⟩
  · exact List.pairwise_map.mp (haddressed.traversed.ascending.sublist haddressed.sublist)
  · have hvisited := haddressed.traversed.mem_of_finished service
      (ServiceList.mem_services_iff.mpr ⟨message, hmessage⟩)
    exact haddressed.exists_mem service hvisited message
      (haddressed.grows.entries service message hmessage) mode hmode

/-- The single client asks for a second service, while a loop is before its first one. -/
def secondRequest : RmProcess where
  receivedMessage := some RMMessage.new
  nRMInHandleQueue := [{ singleRequest with serviceId := 2 }]
  rm := singleClient (singleParameter 1000 100 100 100) 0 ⟨0, 0⟩
  timer := .addressing (.modeChange 0 0) (some 1) .idle

/-- The request is handled, and the loop goes on to its end. -/
def secondRequestEvents : List RmProcessEvent := [.handle, .timer ⟨0, 0⟩, .timer ⟨0, 0⟩]

/-- The loop addresses the second service too. -/
theorem dispatched_of_addressing_secondRequest :
    DispatchedBetween (.modeChange 0 0) secondRequest.rm
        (Runs.finalState step secondRequest secondRequestEvents).rm
        (Runs.outputs step secondRequest secondRequestEvents) ∧
      (Runs.outputs step secondRequest secondRequestEvents).map ServiceCommand.service =
        [1, 2] := by
  have hbegin : secondRequest.timer = .addressing (.modeChange 0 0)
      secondRequest.rm.serviceList.begin .idle := by decide +kernel
  have hstays : Runs.Always step (Addressing (.modeChange 0 0) .idle) secondRequest
      secondRequestEvents := by decide +kernel
  have hend : (Runs.finalState step secondRequest secondRequestEvents).timer =
      .addressing (.modeChange 0 0) none .idle := by decide +kernel
  exact ⟨dispatched_of_addressing hbegin hstays hend, by decide +kernel⟩

end RmProcess

end NetLayerRM

end Tanos
