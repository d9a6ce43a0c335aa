import Tanos.Client.ClientProcess
import Tanos.Client.SignalHandler

/-!
# Signals in the process of a client

The process of a client takes a signal in one step, at the places where the main loop does not hold
`cv_mutex`. `signalHandler` takes several, on top of the main thread, and what the receiver does in
between can meet them.

`exists_run_of_interruptible` justifies the one step: every state that the client with its signal
handler comes to is matched by a state that the control queue comes to when signals clear its flag
at once. A handler that waits for its own thread is matched by no signal at all. A handler that
runs between the test of `active` and the wait is matched by a signal in the wait, which the queue
may then leave before the client does.
-/

set_option autoImplicit false
set_option relaxedAutoImplicit false

namespace Tanos.Client

open Library.Runs

variable {μ : Type}

/-- A step of the control queue, or a signal. -/
inductive SignalledEvent (μ : Type) where
  | queue (event : QueueEvent μ)
  | signal
deriving DecidableEq, Repr

namespace ControlQueue

/-- `signalHandler` as one step, where the main loop does not hold the mutex. -/
def interrupt (client : ControlQueue μ) : ControlQueue μ :=
  match client.main with
  | .starting | .waiting | .checking => { client with active := false }
  | .dequeuing | .handling _ | .ended => client

/-- A step of the control queue, or a signal. -/
def signalledStep (client : ControlQueue μ) : SignalledEvent μ → ControlQueue μ × List μ
  | .queue event => client.step event
  | .signal => (client.interrupt, [])

end ControlQueue

/-- This is what a signal does to the process of a client. -/
theorem control_interrupt (process : ClientProcess) :
    process.interrupt.1.control = process.control.interrupt := by
  unfold ClientProcess.interrupt ControlQueue.interrupt
  split <;> simp_all

namespace InterruptibleClient

/-- Where the queue is when the main thread is at a place of its loop. It begins its wait with the
client, or with a signal that comes behind the test of `active`, and may leave it earlier then. -/
inductive SamePlace (active : Bool) : LoopPhase μ → MainPhase μ → Prop where
  | preparing : SamePlace active .preparing .starting
  | testing : SamePlace active .testing .starting
  | locking (hactive : active = true) : SamePlace active .locking .starting
  | beforeWait (hactive : active = true) : SamePlace active .beforeWait .starting
  | waiting : SamePlace active .waiting .waiting
  | relocking : SamePlace active .relocking .checking
  | innerTesting : SamePlace active .innerTesting .checking
  | checking (hactive : active = true) : SamePlace active .checking .checking
  | dequeuing : SamePlace active .dequeuing .dequeuing
  | handling (message : μ) : SamePlace active (.handling message) (.handling message)
  | ended : SamePlace active .ended .ended
  | signalled (hactive : active = false) {phase : LoopPhase μ} {main : MainPhase μ}
    (hphase : phase = .locking ∨ phase = .beforeWait ∨ phase = .waiting)
    (hmain : main = .waiting ∨ main = .checking) : SamePlace active phase main

/-- The queue is where the client is, and the handler of a signal is not where the main loop holds
the mutex, nor behind the loop. -/
structure Matches (client : InterruptibleClient μ) (queue : ControlQueue μ) : Prop where
  rmClientOutQueue_eq : queue.rmClientOutQueue = client.rmClientOutQueue
  receiver_eq : queue.receiver = client.receiver
  active_eq : queue.active = client.active
  place : SamePlace client.active client.main queue.main
  exclusive : client.signalHandler.any HandlerPhase.holdsMutex = true →
    client.main.holdsMutex = false
  running : client.signalHandler ≠ none → client.main ≠ .ended

theorem matches_start : Matches (start : InterruptibleClient μ) ControlQueue.start :=
  ⟨rfl, rfl, rfl, .preparing, nofun, nofun⟩

variable {client : InterruptibleClient μ} {queue : ControlQueue μ}

/-- What wakes the client up wakes the queue up. -/
theorem SamePlace.wake {active : Bool} {phase : LoopPhase μ} {main : MainPhase μ}
    (h : SamePlace active phase main) :
    SamePlace active (InterruptibleClient.wake phase) (ControlQueue.wake main) := by
  cases h with
  | waiting => exact .relocking
  | signalled hactive hphase hmain =>
    have hwoken : ControlQueue.wake main = .checking := by
      rcases hmain with rfl | rfl <;> rfl
    rw [hwoken]
    rcases hphase with rfl | rfl | rfl
    · exact .signalled hactive (Or.inl rfl) (Or.inr rfl)
    · exact .signalled hactive (Or.inr (Or.inl rfl)) (Or.inr rfl)
    · exact .relocking
  | _ => constructor <;> assumption

/-- A main loop that is woken up holds the mutex and has ended as before. -/
theorem holdsMutex_wake (phase : LoopPhase μ) :
    (wake phase).holdsMutex = phase.holdsMutex ∧ (wake phase = .ended ↔ phase = .ended) := by
  cases phase <;> simp [wake, LoopPhase.holdsMutex]

/-- Assumes: the handler of a signal clears the flag. The queue takes the signal, in its wait if the
client is about to wait. -/
theorem Matches.clear (h : Matches client queue) (hphase : client.signalHandler = some .clearing) :
    ∃ events, Matches (client.runHandler .clearing)
      (finalState ControlQueue.signalledStep queue events) := by
  obtain ⟨messages, receiver, main, active⟩ := queue
  obtain ⟨rfl, rfl, rfl, hplace, hexclusive, hrunning⟩ := h
  have hfree := hexclusive (by rw [hphase]; rfl)
  have hnot_ended := hrunning (by rw [hphase]; exact Option.some_ne_none _)
  have hmatches (next : MainPhase μ) (hnext : SamePlace false client.main next) :
      Matches (client.runHandler .clearing)
        ⟨client.rmClientOutQueue, client.receiver, next, false⟩ :=
    ⟨rfl, rfl, rfl, hnext, fun _ ↦ hfree, fun _ ↦ hnot_ended⟩
  generalize hmain : client.main = phase at *
  cases hplace with
  | preparing => exact ⟨[.signal], hmatches _ .preparing⟩
  | testing => exact ⟨[.signal], hmatches _ .testing⟩
  | locking hactive =>
    refine ⟨[.queue .beginWait, .signal], ?_⟩
    have hwaits := hmatches .waiting (.signalled rfl (Or.inl rfl) (Or.inl rfl))
    simpa [finalState, ControlQueue.signalledStep, ControlQueue.step, ControlQueue.interrupt,
      hactive] using hwaits
  | waiting => exact ⟨[.signal], hmatches _ .waiting⟩
  | relocking => exact ⟨[.signal], hmatches _ .relocking⟩
  | signalled hactive hplaces hmain =>
    refine ⟨[.signal], ?_⟩
    rcases hmain with rfl | rfl
    · exact hmatches _ (.signalled rfl hplaces (Or.inl rfl))
    · exact hmatches _ (.signalled rfl hplaces (Or.inr rfl))
  | ended => exact absurd rfl hnot_ended
  | _ => exact absurd hfree (by simp [LoopPhase.holdsMutex])

/-- A step of the handler of a signal. -/
theorem Matches.runHandler (h : Matches client queue) {phase : HandlerPhase}
    (hphase : client.signalHandler = some phase) :
    ∃ events, Matches (client.runHandler phase)
      (finalState ControlQueue.signalledStep queue events) := by
  have hnot_ended := h.running (by rw [hphase]; exact Option.some_ne_none _)
  cases phase with
  | locking =>
    refine ⟨[], ?_⟩
    unfold InterruptibleClient.runHandler
    split_ifs with hlocked
    · exact h
    · have hfree : client.main.holdsMutex = false :=
        (Bool.or_eq_false_iff.mp (Bool.not_eq_true _ ▸ hlocked)).1
      exact ⟨h.rmClientOutQueue_eq, h.receiver_eq, h.active_eq, h.place, fun _ ↦ hfree,
        fun _ ↦ hnot_ended⟩
  | clearing => exact h.clear hphase
  | notifying =>
    have hfree := h.exclusive (by rw [hphase]; rfl)
    obtain ⟨hmutex, hended⟩ := holdsMutex_wake client.main
    exact ⟨[.queue .spuriousWake], h.rmClientOutQueue_eq, h.receiver_eq, h.active_eq,
      h.place.wake, fun _ ↦ hmutex.trans hfree, fun _ ↦ mt hended.mp hnot_ended⟩
  | unlocking =>
    exact ⟨[], h.rmClientOutQueue_eq, h.receiver_eq, h.active_eq, h.place, nofun, nofun⟩

/-- Without a handler the places alone have to match. -/
theorem matches_of_samePlace {messages : List μ} {receiver : ReceiverPhase}
    {active signalled : Bool} {phase : LoopPhase μ} {main : MainPhase μ}
    (h : SamePlace active phase main) :
    Matches ⟨messages, receiver, phase, none, active, signalled⟩
      ⟨messages, receiver, main, active⟩ :=
  ⟨rfl, rfl, rfl, h, nofun, fun hnot ↦ absurd rfl hnot⟩

/-- A step of the main loop. The queue takes none where the client tests a flag that is set, locks
the mutex, or goes on to a wait that the queue has begun. -/
theorem Matches.runLoop (h : Matches client queue) (hphase : client.signalHandler = none)
    (isMessageLeft stillActive : Bool) :
    ∃ events, Matches (client.runLoop isMessageLeft stillActive)
      (finalState ControlQueue.signalledStep queue events) := by
  obtain ⟨_, _, phase, signalHandler, _, signalled⟩ := client
  obtain ⟨messages, receiver, main, active⟩ := queue
  obtain ⟨rfl, rfl, rfl, hplace, -, -⟩ := h
  obtain rfl : signalHandler = none := hphase
  change SamePlace active phase main at hplace
  cases hplace with
  | preparing => exact ⟨[], matches_of_samePlace .testing⟩
  | testing =>
    cases active with
    | true => exact ⟨[], matches_of_samePlace (.locking rfl)⟩
    | false => exact ⟨[.queue .beginWait], matches_of_samePlace .ended⟩
  | locking hactive => exact ⟨[], matches_of_samePlace (.beforeWait hactive)⟩
  | beforeWait hactive =>
    subst hactive
    exact ⟨[.queue .beginWait], matches_of_samePlace .waiting⟩
  | waiting => exact ⟨[], matches_of_samePlace .waiting⟩
  | relocking => exact ⟨[], matches_of_samePlace .innerTesting⟩
  | innerTesting =>
    cases active with
    | true => exact ⟨[], matches_of_samePlace (.checking rfl)⟩
    | false => exact ⟨[.queue (.check false)], matches_of_samePlace .testing⟩
  | checking hactive =>
    subst hactive
    refine ⟨[.queue (.check isMessageLeft)], ?_⟩
    cases isMessageLeft with
    | false => exact matches_of_samePlace .dequeuing
    | true => exact matches_of_samePlace .testing
  | dequeuing =>
    refine ⟨[.queue .dequeue], ?_⟩
    cases messages with
    | nil => exact matches_of_samePlace .dequeuing
    | cons message rest => exact matches_of_samePlace (.handling message)
  | handling message =>
    exact ⟨[.queue (.handled (active && stillActive))], matches_of_samePlace .innerTesting⟩
  | ended => exact ⟨[], matches_of_samePlace .ended⟩
  | signalled hactive hplaces hmain =>
    refine ⟨[], ?_⟩
    rcases hplaces with rfl | rfl | rfl
    · exact matches_of_samePlace (.signalled hactive (Or.inr (Or.inl rfl)) hmain)
    · exact matches_of_samePlace (.signalled hactive (Or.inr (Or.inr rfl)) hmain)
    · exact matches_of_samePlace (.signalled hactive (Or.inr (Or.inr rfl)) hmain)

/-- Every step of the client is matched by steps of the queue. -/
theorem Matches.step (h : Matches client queue) (event : ClientEvent μ) :
    ∃ events, Matches (client.step event).1
      (finalState ControlQueue.signalledStep queue events) := by
  cases event with
  | enqueue message =>
    refine ⟨[.queue (.enqueue message)], ?_⟩
    simp only [finalState, List.foldl_cons, List.foldl_nil, ControlQueue.signalledStep,
      ControlQueue.step, InterruptibleClient.step, h.receiver_eq]
    cases client.receiver with
    | receiving =>
      exact ⟨by rw [h.rmClientOutQueue_eq], rfl, h.active_eq, h.place, h.exclusive, h.running⟩
    | notifying => exact h
  | notify =>
    refine ⟨[.queue .notify], ?_⟩
    obtain ⟨hmutex, hended⟩ := holdsMutex_wake client.main
    simp only [finalState, List.foldl_cons, List.foldl_nil, ControlQueue.signalledStep,
      ControlQueue.step, InterruptibleClient.step, h.receiver_eq]
    cases client.receiver with
    | receiving => exact h
    | notifying =>
      exact ⟨h.rmClientOutQueue_eq, rfl, h.active_eq, h.place.wake,
        fun hhandler ↦ hmutex.trans (h.exclusive hhandler),
        fun hhandler ↦ mt hended.mp (h.running hhandler)⟩
  | signal =>
    refine ⟨[], ?_⟩
    rcases client.signal_cases with ⟨-, hheld⟩ | ⟨-, hended, htaken⟩
    · rw [hheld]
      exact h
    · rw [htaken]
      exact ⟨h.rmClientOutQueue_eq, h.receiver_eq, h.active_eq, h.place, Bool.noConfusion,
        fun _ ↦ hended⟩
  | spuriousWake =>
    obtain ⟨hmutex, hended⟩ := holdsMutex_wake client.main
    exact ⟨[.queue .spuriousWake], h.rmClientOutQueue_eq, h.receiver_eq, h.active_eq,
      h.place.wake, fun hhandler ↦ hmutex.trans (h.exclusive hhandler),
      fun hhandler ↦ mt hended.mp (h.running hhandler)⟩
  | main isMessageLeft stillActive =>
    simp only [InterruptibleClient.step]
    cases hphase : client.signalHandler with
    | some phase => exact h.runHandler hphase
    | none => exact h.runLoop hphase isMessageLeft stillActive

/-- Every state of a client with its signal handler is matched by one of the control queue when
signals clear its flag at once. -/
theorem exists_run_of_interruptible (events : List (ClientEvent μ)) :
    ∃ queueEvents, Matches (finalState step start events)
      (finalState ControlQueue.signalledStep ControlQueue.start queueEvents) := by
  have hstep : ∀ current : InterruptibleClient μ, ∀ event ∈ events,
      (∃ past, Matches current (finalState ControlQueue.signalledStep ControlQueue.start past)) →
        ∃ past, Matches (current.step event).1
          (finalState ControlQueue.signalledStep ControlQueue.start past) := by
    rintro current event - ⟨past, h⟩
    obtain ⟨later, hlater⟩ := h.step event
    exact ⟨past ++ later, finalState_append _ past later ▸ hlater⟩
  exact finalState_of_step hstep ⟨[], matches_start⟩

end InterruptibleClient

end Tanos.Client
