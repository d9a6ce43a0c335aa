import Tanos.Client.ClientProcess

/-!
# The session of a client

Seen from the resource manager, a client asks for its service, answers the commands it has received
and releases its service, while its receiver, its main function and the sending thread run side by
side. `Session` relates the state of the process to a trace of what it has received, handled and
put out. It says that the commands are handled once, in the order in which they have been received,
that everything a client says is the request, the answers to what it has handled and the release,
in this order, and that the first command to end the session is the last one that is handled. A
signal ends the session too, and nothing is handled behind it. `session_of_run` is this for all
interleavings.
-/

set_option autoImplicit false
set_option relaxedAutoImplicit false

namespace Tanos.Client

open Library

/-- A datagram for the receiver, or a step of a thread. -/
inductive SessionEvent where
  | datagram (bytes : List UInt8)
  | thread (event : ThreadEvent)
deriving DecidableEq, Repr

/-- What can be observed of a client: its receiver enqueues a message, its main function hands one
to a handler that will take these readings of the clock, and something leaves the process. -/
inductive Observation where
  | received (message : RMMessage)
  | handling (message : RMMessage) (samples : List Timespec)
  | output (output : ClientOutput)
deriving DecidableEq, Repr

/-- What a client says: a message of some type, or a shell script. -/
inductive Utterance where
  | message (type : MessageTypes)
  | script (command : String)
deriving DecidableEq, Repr

/-- Packets and signals are not said. -/
def ClientOutput.utterance : ClientOutput → Option Utterance
  | .message sent => (MessageTypes.ofCode sent.messageType).map .message
  | .script command => some (.script command)
  | .packet _ | .interruption => none

/-- What an effect of a handler says. -/
def ClientEffect.utterance : ClientEffect → Option Utterance
  | syncAckReceive => some (.message .rmClientSyncReceive)
  | syncAckReconfigureDone => some (.message .rmClientSyncReconfigureDone)
  | reconfigureSwToMode _ _ _ command => command.map .script
  | notify _ | deactivate => none

/-- The message that has been enqueued. -/
def Observation.receivedMessage : Observation → Option RMMessage
  | received message => some message
  | handling _ _ | output _ => none

/-- The message that has been handed to a handler, with the readings of the clock. -/
def Observation.handledMessage : Observation → Option (RMMessage × List Timespec)
  | handling message samples => some (message, samples)
  | received _ | output _ => none

/-- What has been said. -/
def Observation.utterance : Observation → Option Utterance
  | .output left => left.utterance
  | .received _ | .handling _ _ => none

namespace ClientProcess

/-- A step with what can be observed of it. -/
def observe (process : ClientProcess) : SessionEvent → ClientProcess × List Observation
  | .datagram bytes =>
    (process.receive bytes,
      if process.isAlive ∧ process.control.receiver = .receiving then
        (process.rmMessage.bind fun message ↦
          RMCommunication.receiveControlMessage message bytes).toList.map .received
      else [])
  | .thread (.dequeue samples) =>
    ((process.step (.dequeue samples)).1,
      if process.isAlive ∧ process.phase = .controlling then
        (process.control.step .dequeue).2.map fun message ↦ .handling message samples
      else [])
  | .thread event => ((process.step event).1, (process.step event).2.map .output)

end ClientProcess

namespace ClientSetup

variable (setup : ClientSetup)

/-- The effects of the handler for a message. -/
def effectsOf (handled : RMMessage × List Timespec) : List ClientEffect :=
  (setup.handleControlMessage handled.1 handled.2).effects

/-- The handler for a message ends the session. -/
def Ends (handled : RMMessage × List Timespec) : Prop := .deactivate ∈ setup.effectsOf handled

/-- What is said for a message. -/
def answers (handled : RMMessage × List Timespec) : List Utterance :=
  (setup.effectsOf handled).filterMap ClientEffect.utterance

/-- What is said at the end. -/
def farewell : List Utterance :=
  match setup.program with
  | .wiredRmClientEndnode _ => [.message .rmClientRelease]
  | .wiredRmClientSwitch => []

/-- What is said until a place of the main function. -/
def session (handled : List (RMMessage × List Timespec)) : ClientPhase → List Utterance
  | .initialising => []
  | .controlling => .message .rmClientSyncRequest :: handled.flatMap setup.answers
  | .exited =>
    .message .rmClientSyncRequest :: handled.flatMap setup.answers ++ setup.farewell

end ClientSetup

/-! ### The threads and the queue -/

namespace ControlQueue

variable {μ : Type}

/-- The main function is in a handler. -/
def IsHandling (client : ControlQueue μ) : Prop := ∃ message, client.main = .handling message

/-- What a step does that takes no message into the queue or out of it. -/
structure Passes (client next : ControlQueue μ) : Prop where
  rmClientOutQueue_eq : next.rmClientOutQueue = client.rmClientOutQueue
  active_eq : next.active = client.active
  dequeuing : next.main = .dequeuing → client.main = .dequeuing ∨ client.active = true
  ended : next.main = .ended → client.main = .ended ∨ client.active = false

variable (client : ControlQueue μ)

theorem passes_notify : Passes client (client.step .notify).1 ∧
    (client.IsHandling → (client.step .notify).1.IsHandling) := by
  obtain ⟨queue, receiver, main, active⟩ := client
  cases receiver <;> cases main <;>
    exact ⟨⟨rfl, rfl, by simp [step, wake], by simp [step, wake]⟩, by simp [IsHandling, step, wake]⟩

theorem passes_beginWait : Passes client (client.step .beginWait).1 ∧
    (client.IsHandling → (client.step .beginWait).1.IsHandling) := by
  obtain ⟨queue, receiver, main, active⟩ := client
  cases main <;> cases active <;>
    exact ⟨⟨rfl, rfl, by simp [step], by simp [step]⟩, by simp [IsHandling, step]⟩

theorem passes_spuriousWake : Passes client (client.step .spuriousWake).1 ∧
    (client.IsHandling → (client.step .spuriousWake).1.IsHandling) := by
  obtain ⟨queue, receiver, main, active⟩ := client
  cases main <;>
    exact ⟨⟨rfl, rfl, by simp [step, wake], by simp [step, wake]⟩, by simp [IsHandling, step, wake]⟩

theorem passes_check (isMessageLeft : Bool) : Passes client (client.step (.check isMessageLeft)).1 ∧
    (client.IsHandling → (client.step (.check isMessageLeft)).1.IsHandling) := by
  obtain ⟨queue, receiver, main, active⟩ := client
  cases main <;> cases active <;> cases isMessageLeft <;>
    exact ⟨⟨rfl, rfl, by simp [step], by simp [step]⟩, by simp [IsHandling, step]⟩

/-- A handler that returns leaves the flag of the loop as it is. -/
theorem passes_handled : Passes client (client.step (.handled client.active)).1 := by
  obtain ⟨queue, receiver, main, active⟩ := client
  cases main <;> exact ⟨rfl, rfl, by simp [step], by simp [step]⟩

/-- The step hands the first message to a handler, or there is none. -/
theorem step_dequeue : (client.step .dequeue).2 = [] ∨ ∃ message rest,
    client.main = .dequeuing ∧ client.rmClientOutQueue = message :: rest ∧
      client.step .dequeue =
        ({ client with rmClientOutQueue := rest, main := .handling message }, [message]) := by
  obtain ⟨queue, receiver, main, active⟩ := client
  cases main with
  | dequeuing =>
    cases queue with
    | nil => exact Or.inl rfl
    | cons message rest => exact Or.inr ⟨message, rest, rfl, rfl, rfl⟩
  | _ => exact Or.inl rfl

end ControlQueue

/-! ### The session -/

/-- The messages that have been handled in a trace. -/
def handledIn (trace : List Observation) : List (RMMessage × List Timespec) :=
  trace.filterMap Observation.handledMessage

@[simp] theorem handledIn_append (trace more : List Observation) :
    handledIn (trace ++ more) = handledIn trace ++ handledIn more := List.filterMap_append

/-- What leaves the process is neither received nor handled. -/
@[simp] theorem handledIn_output (outputs : List ClientOutput) :
    handledIn (outputs.map .output) = [] := by
  rw [handledIn, List.filterMap_map]
  exact List.filterMap_eq_nil_iff.mpr fun _ _ ↦ rfl

@[simp] theorem receivedMessage_output (outputs : List ClientOutput) :
    (outputs.map Observation.output).filterMap Observation.receivedMessage = [] := by
  rw [List.filterMap_map]
  exact List.filterMap_eq_nil_iff.mpr fun _ _ ↦ rfl

@[simp] theorem utterance_output (outputs : List ClientOutput) :
    (outputs.map Observation.output).filterMap Observation.utterance =
      outputs.filterMap ClientOutput.utterance := List.filterMap_map

/-- A signal has cleared the flag of the loop. -/
def Interrupted (trace : List Observation) : Prop := .output .interruption ∈ trace

/-- Nothing is handled behind a signal. -/
def QuietOnceInterrupted (trace : List Observation) : Prop :=
  ∀ past later, trace = past ++ .output .interruption :: later → handledIn later = []

section

variable {trace more : List Observation}

theorem interrupted_append_iff (hmore : ¬ Interrupted more) :
    Interrupted (trace ++ more) ↔ Interrupted trace := by
  rw [Interrupted, List.mem_append]
  exact or_iff_left hmore

theorem interrupted_output_iff (outputs : List ClientOutput) :
    Interrupted (outputs.map .output) ↔ .interruption ∈ outputs := by
  simp [Interrupted]

/-- Assumes: nothing is handled in what is added. -/
theorem QuietOnceInterrupted.append (h : QuietOnceInterrupted trace) (hmore : handledIn more = []) :
    QuietOnceInterrupted (trace ++ more) := by
  intro past later htrace
  rcases List.append_eq_append_iff.mp htrace with ⟨before, rfl, hadded⟩ | ⟨rest, hrest, hlater⟩
  · -- The signal is in what is added.
    rw [hadded, handledIn_append] at hmore
    exact (List.append_eq_nil_iff.mp hmore).2
  · cases rest with
    | nil =>
      rw [List.nil_append] at hlater
      rw [← hlater] at hmore
      exact hmore
    | cons first rest =>
      obtain ⟨rfl, hlater'⟩ := List.cons.inj (hlater.trans (List.cons_append))
      rw [hlater', handledIn_append, h _ _ hrest, hmore]
      rfl

theorem quietOnceInterrupted_of_not (h : ¬ Interrupted trace) : QuietOnceInterrupted trace := by
  rintro past later rfl
  exact absurd (List.mem_append_right past List.mem_cons_self) h

end

/-- The relation between a process and the trace of its run. -/
structure Session (setup : ClientSetup) (process : ClientProcess) (trace : List Observation) :
    Prop where
  setup_eq : process.setup = setup
  received_eq : trace.filterMap Observation.receivedMessage =
    (handledIn trace).map Prod.fst ++ process.control.rmClientOutQueue
  said_eq : trace.filterMap Observation.utterance ++
      process.effects.filterMap ClientEffect.utterance =
    setup.session (handledIn trace) process.phase
  initialising : process.phase = .initialising → handledIn trace = []
  exited : process.phase = .exited → process.control.main = .ended
  effects_eq : ¬ process.control.IsHandling → process.effects = []
  dequeuing : process.control.main = .dequeuing → process.control.active = true
  ended : process.control.main = .ended → process.control.active = false
  ends_iff : (process.control.active = false ∨ .deactivate ∈ process.effects) ↔
    (∃ handled ∈ handledIn trace, setup.Ends handled) ∨ Interrupted trace
  not_ends : ∀ handled ∈ (handledIn trace).dropLast, ¬ setup.Ends handled
  quiet : QuietOnceInterrupted trace

theorem session_start (setup : ClientSetup) : Session setup (ClientProcess.start setup) [] where
  setup_eq := rfl
  received_eq := rfl
  said_eq := rfl
  initialising _ := rfl
  exited := nofun
  effects_eq _ := rfl
  dequeuing := nofun
  ended := nofun
  ends_iff := by simp [ClientProcess.start, ControlQueue.start, handledIn, Interrupted]
  not_ends := List.forall_mem_nil _
  quiet := quietOnceInterrupted_of_not List.not_mem_nil

section

variable {setup : ClientSetup} {process : ClientProcess} {trace : List Observation}

/-- A step that takes no message into the queue or out of it, and has no effects. -/
theorem Session.of_passes (h : Session setup process trace) (hrunning : process.phase ≠ .exited)
    {control : ControlQueue RMMessage} (hpasses : ControlQueue.Passes process.control control)
    (hhandling : process.control.IsHandling → control.IsHandling ∨ process.effects = []) :
    Session setup { process with control := control } trace where
  setup_eq := h.setup_eq
  received_eq := by
    rw [hpasses.rmClientOutQueue_eq]
    exact h.received_eq
  said_eq := h.said_eq
  initialising := h.initialising
  exited hexited := absurd hexited hrunning
  effects_eq hnot := by
    by_cases hbefore : process.control.IsHandling
    · exact (hhandling hbefore).resolve_left hnot
    · exact h.effects_eq hbefore
  dequeuing hmain := by
    rw [hpasses.active_eq]
    exact (hpasses.dequeuing hmain).elim h.dequeuing id
  ended hmain := by
    rw [hpasses.active_eq]
    exact (hpasses.ended hmain).elim h.ended id
  ends_iff := by
    rw [hpasses.active_eq]
    exact h.ends_iff
  not_ends := h.not_ends
  quiet := h.quiet

/-- Nothing is said, and no signal comes. -/
theorem Session.append_output (h : Session setup process trace) {outputs : List ClientOutput}
    (hsaid : outputs.filterMap ClientOutput.utterance = []) (hsignal : .interruption ∉ outputs) :
    Session setup process (trace ++ outputs.map .output) := by
  have hin : handledIn (trace ++ outputs.map .output) = handledIn trace := by simp
  refine ⟨h.setup_eq, ?_, ?_, ?_, h.exited, h.effects_eq, h.dequeuing, h.ended, ?_, ?_,
    h.quiet.append (handledIn_output outputs)⟩
  · rw [List.filterMap_append, receivedMessage_output, List.append_nil, hin]
    exact h.received_eq
  · rw [List.filterMap_append, utterance_output, hsaid, List.append_nil, hin]
    exact h.said_eq
  · rw [hin]
    exact h.initialising
  · rw [hin, interrupted_append_iff fun hin ↦ hsignal ((interrupted_output_iff outputs).mp hin)]
    exact h.ends_iff
  · rw [hin]
    exact h.not_ends

/-- The receiver enqueues a message. -/
theorem Session.enqueue (h : Session setup process trace)
    (hreceiving : process.control.receiver = .receiving) (message : RMMessage) :
    Session setup
      { process with
        rmMessage := some message
        control := (process.control.step (.enqueue message)).1 }
      (trace ++ [.received message]) := by
  have hin : handledIn (trace ++ [.received message]) = handledIn trace :=
    (handledIn_append trace _).trans (List.append_nil _)
  have hcontrol : (process.control.step (.enqueue message)).1 =
      { process.control with
        rmClientOutQueue := process.control.rmClientOutQueue ++ [message]
        receiver := .notifying } := by
    simp only [ControlQueue.step, hreceiving]
  rw [hcontrol]
  refine ⟨h.setup_eq, ?_, ?_, ?_, h.exited, h.effects_eq, h.dequeuing, h.ended, ?_, ?_,
    h.quiet.append rfl⟩
  · rw [List.filterMap_append, h.received_eq, hin, List.append_assoc]
    rfl
  · have hsaid : [Observation.received message].filterMap Observation.utterance = [] := rfl
    rw [List.filterMap_append, hsaid, List.append_nil, hin]
    exact h.said_eq
  · rw [hin]
    exact h.initialising
  · rw [hin, interrupted_append_iff (by simp [Interrupted])]
    exact h.ends_iff
  · rw [hin]
    exact h.not_ends

theorem Session.receive (h : Session setup process trace) (bytes : List UInt8) :
    Session setup (process.observe (.datagram bytes)).1
      (trace ++ (process.observe (.datagram bytes)).2) := by
  simp only [ClientProcess.observe, ClientProcess.receive]
  by_cases hreceiving : process.isAlive ∧ process.control.receiver = .receiving
  · rw [if_pos hreceiving, if_pos hreceiving]
    cases process.rmMessage.bind
        fun message ↦ RMCommunication.receiveControlMessage message bytes with
    | none =>
      rw [Option.toList_none, List.map_nil, List.append_nil]
      exact ⟨h.setup_eq, h.received_eq, h.said_eq, h.initialising, h.exited, h.effects_eq,
        h.dequeuing, h.ended, h.ends_iff, h.not_ends, h.quiet⟩
    | some message => exact h.enqueue hreceiving.2 message
  · rw [if_neg hreceiving, if_neg hreceiving, List.append_nil]
    exact h

/-! ### The main function -/

/-- The request. -/
theorem Session.request (h : Session setup process trace) (hphase : process.phase = .initialising)
    (now : ℤ) : Session setup { process with phase := .controlling }
      (trace ++ [.output (.message (process.setup.syncRequest now))]) := by
  have hnone := h.initialising hphase
  have hin : handledIn (trace ++ [.output (.message (process.setup.syncRequest now))]) = [] := by
    rw [handledIn, List.filterMap_append]
    exact (List.append_nil _).trans hnone
  have hsaid := h.said_eq
  rw [hphase, hnone] at hsaid
  obtain ⟨htrace, heffects⟩ := List.append_eq_nil_iff.mp hsaid
  refine ⟨h.setup_eq, ?_, ?_, nofun, nofun, h.effects_eq, h.dequeuing, h.ended, ?_, ?_,
    h.quiet.append rfl⟩
  · rw [List.filterMap_append, h.received_eq, hin, hnone]
    exact List.append_nil _
  · rw [List.filterMap_append, htrace, heffects, hin]
    rfl
  · rw [hin, ← hnone, interrupted_append_iff (by simp [Interrupted])]
    exact h.ends_iff
  · rw [hin]
    exact List.forall_mem_nil _

/-- A message is handed to its handler. -/
theorem Session.handling (h : Session setup process trace) (hphase : process.phase = .controlling)
    {message : RMMessage} {rest : List RMMessage} (hmain : process.control.main = .dequeuing)
    (hqueue : process.control.rmClientOutQueue = message :: rest) (samples : List Timespec) :
    Session setup
      { process with
        control := { process.control with
          rmClientOutQueue := rest
          main := .handling message }
        effects := (process.setup.handleControlMessage message samples).effects
        returns := (process.setup.handleControlMessage message samples).rest.isSome }
      (trace ++ [.handling message samples]) := by
  have hnot : ¬ process.control.IsHandling := by simp [ControlQueue.IsHandling, hmain]
  have heffects := h.effects_eq hnot
  have hin : handledIn (trace ++ [.handling message samples]) =
      handledIn trace ++ [(message, samples)] := handledIn_append trace _
  have hopen : ¬ ((∃ handled ∈ handledIn trace, setup.Ends handled) ∨ Interrupted trace) := by
    rw [← h.ends_iff, h.dequeuing hmain, heffects]
    simp
  obtain ⟨hends, hsignal⟩ := not_or.mp hopen
  have hnone : ∀ handled ∈ handledIn trace, ¬ setup.Ends handled :=
    fun handled hhandled hended ↦ hends ⟨handled, hhandled, hended⟩
  have hsignal' : ¬ Interrupted (trace ++ [.handling message samples]) := by
    rw [interrupted_append_iff (by simp [Interrupted])]
    exact hsignal
  have hsaid := h.said_eq
  rw [heffects, hphase, List.filterMap_nil, List.append_nil] at hsaid
  refine ⟨h.setup_eq, ?_, ?_, ?_, ?_, fun hnot ↦ absurd ⟨message, rfl⟩ hnot, nofun, nofun, ?_, ?_,
    quietOnceInterrupted_of_not hsignal'⟩
  · have hreceived := h.received_eq
    rw [hqueue] at hreceived
    rw [List.filterMap_append, hreceived, hin]
    simp [Observation.receivedMessage]
  · have hsilent : [Observation.handling message samples].filterMap Observation.utterance = [] :=
      rfl
    rw [List.filterMap_append, hsaid, hsilent, List.append_nil, hin, hphase, h.setup_eq]
    simp only [ClientSetup.session, List.flatMap_append, List.flatMap_singleton, List.cons_append]
    rfl
  · intro hinitialising
    rw [hphase] at hinitialising
    exact absurd hinitialising nofun
  · intro hexited
    rw [hphase] at hexited
    exact absurd hexited nofun
  · rw [hin, h.setup_eq, or_iff_left hsignal']
    constructor
    · rintro (hinactive | hmem)
      · rw [h.dequeuing hmain] at hinactive
        exact absurd hinactive (by decide)
      · exact ⟨(message, samples), List.mem_append_right _ List.mem_cons_self, hmem⟩
    · rintro ⟨handled, hhandled, hends⟩
      rcases List.mem_append.mp hhandled with hbefore | hnow
      · exact absurd hends (hnone handled hbefore)
      · rw [List.mem_singleton.mp hnow] at hends
        exact Or.inr hends
  · rw [hin, List.dropLast_concat]
    exact hnone

/-- What an effect says leaves the process. -/
theorem utterance_performEffect (process : ClientProcess) (now : ℤ) (effect : ClientEffect) :
    (process.performEffect now effect).2.filterMap ClientOutput.utterance =
      effect.utterance.toList := by
  cases effect with
  | reconfigureSwToMode mode experimentNumber mcNumber command => cases command <;> rfl
  | _ => rfl

/-- No effect is a signal. -/
theorem interruption_not_mem_performEffect (process : ClientProcess) (now : ℤ)
    (effect : ClientEffect) : .interruption ∉ (process.performEffect now effect).2 := by
  cases effect with
  | reconfigureSwToMode mode experimentNumber mcNumber command => cases command <;> exact nofun
  | _ => exact nofun

/-- What an effect does to the process. -/
theorem performEffect_eq (process : ClientProcess) (now : ℤ) (effect : ClientEffect) :
    (process.performEffect now effect).1 =
      { process with
        control := { process.control with
          active := process.control.active && decide (effect ≠ .deactivate) }
        trafficGenerator := (process.performEffect now effect).1.trafficGenerator } := by
  obtain ⟨setup, rmMessage, ⟨queue, receiver, main, active⟩, effects, returns, generator, phase⟩ :=
    process
  cases effect <;> simp [ClientProcess.performEffect]

/-- An effect of a handler. -/
theorem Session.perform (h : Session setup process trace) (hphase : process.phase = .controlling)
    {effect : ClientEffect} {rest : List ClientEffect} (heffects : process.effects = effect :: rest)
    (now : ℤ) :
    Session setup (({ process with effects := rest } : ClientProcess).performEffect now effect).1
      (trace ++ (({ process with effects := rest } : ClientProcess).performEffect now
        effect).2.map .output) := by
  have hhandling : process.control.IsHandling := by
    by_contra hnot
    rw [h.effects_eq hnot] at heffects
    exact absurd heffects nofun
  have hmain : ∀ phase, process.control.main = phase →
      (∀ message, phase ≠ .handling message) → False := by
    rintro phase rfl hphase
    obtain ⟨message, hmessage⟩ := hhandling
    exact hphase message hmessage
  have hprocess := performEffect_eq ({ process with effects := rest } : ClientProcess) now effect
  have houtputs :=
    utterance_performEffect ({ process with effects := rest } : ClientProcess) now effect
  have hsignal := interruption_not_mem_performEffect
    ({ process with effects := rest } : ClientProcess) now effect
  generalize ({ process with effects := rest } : ClientProcess).performEffect now effect = performed
    at hprocess houtputs hsignal ⊢
  obtain ⟨next, outputs⟩ := performed
  generalize next.trafficGenerator = generator at hprocess
  subst hprocess
  have hin : handledIn (trace ++ outputs.map .output) = handledIn trace := by simp
  refine ⟨h.setup_eq, ?_, ?_, ?_, ?_, fun hnot ↦ absurd hhandling hnot, ?_, ?_, ?_, ?_,
    h.quiet.append (handledIn_output outputs)⟩
  · rw [List.filterMap_append, receivedMessage_output, List.append_nil, hin]
    exact h.received_eq
  · have hsaid := h.said_eq
    rw [heffects, List.filterMap_cons] at hsaid
    rw [List.filterMap_append, utterance_output, houtputs, hin, ← hsaid, List.append_assoc]
    cases effect.utterance <;> rfl
  · intro hinitialising
    exact absurd (hphase.symm.trans hinitialising) nofun
  · intro hexited
    exact absurd (hphase.symm.trans hexited) nofun
  · intro hdequeuing
    exact (hmain _ hdequeuing nofun).elim
  · intro hended
    exact (hmain _ hended nofun).elim
  · rw [hin, interrupted_append_iff fun hin ↦ hsignal ((interrupted_output_iff outputs).mp hin),
      ← h.ends_iff, heffects, List.mem_cons]
    by_cases hdeactivate : effect = .deactivate
    · simp [hdeactivate]
    · simp [hdeactivate, Ne.symm hdeactivate]
  · rw [hin]
    exact h.not_ends

/-- The end of the main function. -/
theorem Session.leave (h : Session setup process trace) (hphase : process.phase = .controlling)
    (hmain : process.control.main = .ended) (now : ℤ) :
    Session setup (process.leave now).1 (trace ++ (process.leave now).2.map .output) := by
  have hnot : ¬ process.control.IsHandling := by simp [ControlQueue.IsHandling, hmain]
  have heffects := h.effects_eq hnot
  have hsaid := h.said_eq
  rw [heffects, hphase, List.filterMap_nil, List.append_nil] at hsaid
  have hfarewell : (process.leave now).2.filterMap ClientOutput.utterance = setup.farewell := by
    simp only [ClientProcess.leave, ClientSetup.farewell, h.setup_eq]
    cases setup.program <;> rfl
  have hin : handledIn (trace ++ (process.leave now).2.map .output) = handledIn trace := by simp
  have hsignal : .interruption ∉ (process.leave now).2 := by
    simp only [ClientProcess.leave]
    cases process.setup.program <;> simp
  have hexited : (process.leave now).1.phase ≠ .initialising := by simp [ClientProcess.leave]
  refine ⟨h.setup_eq, ?_, ?_, fun hphase ↦ absurd hphase hexited, fun _ ↦ hmain, h.effects_eq,
    h.dequeuing, h.ended, ?_, ?_, h.quiet.append (handledIn_output _)⟩
  · rw [List.filterMap_append, receivedMessage_output, List.append_nil, hin]
    exact h.received_eq
  · rw [List.filterMap_append, utterance_output, hfarewell, hsaid, hin]
    show _ ++ process.effects.filterMap ClientEffect.utterance = _
    rw [heffects]
    exact List.append_nil _
  · rw [hin, interrupted_append_iff fun hin ↦ hsignal ((interrupted_output_iff _).mp hin)]
    exact h.ends_iff
  · rw [hin]
    exact h.not_ends

/-- A signal, where the main function is in no handler. -/
theorem Session.signal (h : Session setup process trace) (hrunning : process.phase ≠ .exited)
    (hmain : process.control.main = .starting ∨ process.control.main = .waiting ∨
      process.control.main = .checking) :
    Session setup { process with control := { process.control with active := false } }
      (trace ++ [.output .interruption]) := by
  have hin : handledIn (trace ++ [.output .interruption]) = handledIn trace :=
    (handledIn_append trace _).trans (List.append_nil _)
  have hnot : ¬ process.control.IsHandling := by
    rintro ⟨message, hhandling⟩
    rw [hhandling] at hmain
    exact absurd hmain (by simp)
  refine ⟨h.setup_eq, ?_, ?_, ?_, fun hexited ↦ absurd hexited hrunning, fun _ ↦ h.effects_eq hnot,
    fun hdequeuing ↦ ?_, fun _ ↦ rfl, iff_of_true (Or.inl rfl) (Or.inr ?_), ?_, h.quiet.append rfl⟩
  · rw [List.filterMap_append, hin]
    exact (List.append_nil _).trans h.received_eq
  · have hsilent : [Observation.output .interruption].filterMap Observation.utterance = [] := rfl
    rw [List.filterMap_append, hsilent, List.append_nil, hin]
    exact h.said_eq
  · rw [hin]
    exact h.initialising
  · have hdequeuing' : process.control.main = .dequeuing := hdequeuing
    rw [hdequeuing'] at hmain
    exact absurd hmain (by simp)
  · exact List.mem_append_right trace List.mem_cons_self
  · rw [hin]
    exact h.not_ends

/-! ### A step -/

/-- Nothing happens. -/
theorem Session.append_nil (h : Session setup process trace) :
    Session setup process (trace ++ []) := by
  rw [List.append_nil]
  exact h

/-- A process that is running has not reached the end of its main function. -/
theorem phase_ne_exited (halive : process.isAlive = true) : process.phase ≠ .exited := by
  intro hexited
  simp [ClientProcess.isAlive, hexited] at halive

theorem Session.send (h : Session setup process trace) (clock : Timespec) :
    Session setup (process.send clock).1 (trace ++ (process.send clock).2.map .output) := by
  unfold ClientProcess.send
  cases process.trafficGenerator with
  | none => exact h.append_nil
  | some sender =>
    have hsaid : ((sender.step process.setup.threadTypeSelect (.run clock)).2.filterMap
        ClientProcess.sentPacket).filterMap ClientOutput.utterance = [] := by
      rw [List.filterMap_filterMap]
      refine List.filterMap_eq_nil_iff.mpr fun output _ ↦ ?_
      cases output <;> rfl
    have hsignal : .interruption ∉ (sender.step process.setup.threadTypeSelect
        (.run clock)).2.filterMap ClientProcess.sentPacket := by
      intro hmem
      obtain ⟨output, -, houtput⟩ := List.mem_filterMap.mp hmem
      cases output <;> exact absurd houtput nofun
    have hsent := h.append_output hsaid hsignal
    exact ⟨hsent.setup_eq, hsent.received_eq, hsent.said_eq, hsent.initialising, hsent.exited,
      hsent.effects_eq, hsent.dequeuing, hsent.ended, hsent.ends_iff, hsent.not_ends, hsent.quiet⟩

theorem Session.interrupt (h : Session setup process trace) (hrunning : process.phase ≠ .exited) :
    Session setup process.interrupt.1 (trace ++ process.interrupt.2.map .output) := by
  unfold ClientProcess.interrupt
  cases hmain : process.control.main with
  | starting => exact h.signal hrunning (Or.inl hmain)
  | waiting => exact h.signal hrunning (Or.inr (Or.inl hmain))
  | checking => exact h.signal hrunning (Or.inr (Or.inr hmain))
  | _ => exact h.append_nil

theorem Session.dequeue (h : Session setup process trace) (samples : List Timespec) :
    Session setup (process.observe (.thread (.dequeue samples))).1
      (trace ++ (process.observe (.thread (.dequeue samples))).2) := by
  simp only [ClientProcess.observe, ClientProcess.step]
  by_cases halive : process.isAlive = true
  · cases hphase : process.phase with
    | controlling =>
      simp only [halive, if_true, and_self, ClientProcess.dequeue]
      rcases process.control.step_dequeue with hnone | ⟨message, rest, hmain, hqueue, hstep⟩
      · rw [hnone]
        exact h.append_nil
      · rw [hstep]
        exact h.handling hphase hmain hqueue samples
    | _ =>
      simp only [halive, if_true, reduceCtorEq, and_false, if_false]
      exact h.append_nil
  · rw [if_neg halive, if_neg fun hboth ↦ halive hboth.1]
    exact h.append_nil

/-- A step that hands no message to a handler. -/
theorem Session.thread (h : Session setup process trace) (event : ThreadEvent)
    (hdequeue : ∀ samples, event ≠ .dequeue samples) :
    Session setup (process.step event).1 (trace ++ (process.step event).2.map .output) := by
  unfold ClientProcess.step
  by_cases halive : process.isAlive = true
  · have hrunning := phase_ne_exited halive
    rw [if_pos halive]
    split
    · obtain ⟨hpasses, hhandling⟩ := process.control.passes_notify
      exact (h.of_passes hrunning hpasses fun hin ↦ Or.inl (hhandling hin)).append_nil
    · exact h.send _
    · exact h.interrupt hrunning
    · next hphase => exact h.request hphase _
    · obtain ⟨hpasses, hhandling⟩ := process.control.passes_beginWait
      exact (h.of_passes hrunning hpasses fun hin ↦ Or.inl (hhandling hin)).append_nil
    · obtain ⟨hpasses, hhandling⟩ := process.control.passes_spuriousWake
      exact (h.of_passes hrunning hpasses fun hin ↦ Or.inl (hhandling hin)).append_nil
    · obtain ⟨hpasses, hhandling⟩ := process.control.passes_check _
      exact (h.of_passes hrunning hpasses fun hin ↦ Or.inl (hhandling hin)).append_nil
    · exact absurd rfl (hdequeue _)
    · next hphase =>
      unfold ClientProcess.perform
      cases heffects : process.effects with
      | nil => exact h.append_nil
      | cons effect rest => exact h.perform hphase heffects _
    · split_ifs with hreturned
      · exact (h.of_passes hrunning process.control.passes_handled
          fun _ ↦ Or.inr hreturned.1).append_nil
      · exact h.append_nil
    · next hphase =>
      split_ifs with hended
      · exact h.leave hphase hended _
      · exact h.append_nil
    · exact h.append_nil
  · rw [if_neg halive]
    exact h.append_nil

/-- Every step of every thread keeps the session. -/
theorem Session.step (h : Session setup process trace) (event : SessionEvent) :
    Session setup (process.observe event).1 (trace ++ (process.observe event).2) := by
  cases event with
  | datagram bytes => exact h.receive bytes
  | thread event =>
    cases event with
    | dequeue samples => exact h.dequeue samples
    | _ => exact h.thread _ nofun

end

/-! ### Runs -/

/-- The session of a run. -/
theorem session_run (setup : ClientSetup) (events : List SessionEvent) :
    Session setup (Runs.finalState ClientProcess.observe (ClientProcess.start setup) events)
      (Runs.outputs ClientProcess.observe (ClientProcess.start setup) events) :=
  Runs.finalState_outputs_of_everyStep (Session setup) (fun _ _ event _ h ↦ h.step event)
    ((Runs.everyStep_iff_forall_mem _ events).mpr fun _ _ ↦ trivial) (session_start setup)

/-- Whatever a client receives and however its threads run: what has been handled and what is in the
queue is what has been received, what has been said and what the handler will still say is the
request, the answers to what has been handled and the farewell, no message is handled behind one
that ends the session or behind a signal, and the client leaves behind such a one only. -/
theorem session_of_run (setup : ClientSetup) (events : List SessionEvent) :
    let last := Runs.finalState ClientProcess.observe (ClientProcess.start setup) events
    let trace := Runs.outputs ClientProcess.observe (ClientProcess.start setup) events
    trace.filterMap Observation.receivedMessage =
        (handledIn trace).map Prod.fst ++ last.control.rmClientOutQueue ∧
      trace.filterMap Observation.utterance ++ last.effects.filterMap ClientEffect.utterance =
        setup.session (handledIn trace) last.phase ∧
      (∀ handled ∈ (handledIn trace).dropLast, ¬ setup.Ends handled) ∧
      QuietOnceInterrupted trace ∧
      (last.phase = .exited → last.effects = [] ∧
        ((∃ exit ∈ (handledIn trace).getLast?, setup.Ends exit) ∨ Interrupted trace)) := by
  intro last trace
  have h : Session setup last trace := session_run setup events
  refine ⟨h.received_eq, h.said_eq, h.not_ends, h.quiet, fun hexited ↦ ?_⟩
  have hended := h.exited hexited
  have hnot : ¬ last.control.IsHandling := by simp [ControlQueue.IsHandling, hended]
  refine ⟨h.effects_eq hnot, (h.ends_iff.mp (Or.inl (h.ended hended))).imp_left ?_⟩
  rintro ⟨exit, hexit, hends⟩
  refine ⟨exit, ?_, hends⟩
  obtain ⟨before, final, hhandled⟩ :=
    List.eq_nil_or_concat (handledIn trace) |>.resolve_left (List.ne_nil_of_mem hexit)
  have hnone := h.not_ends
  rw [List.concat_eq_append] at hhandled
  rw [hhandled] at hexit hnone ⊢
  rw [List.dropLast_concat] at hnone
  rcases List.mem_append.mp hexit with hbefore | hlast
  · exact absurd hends (hnone exit hbefore)
  · rw [List.mem_singleton.mp hlast]
    exact List.getLast?_concat

end Tanos.Client
