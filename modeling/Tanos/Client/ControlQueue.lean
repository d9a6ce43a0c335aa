import Tanos.Library.Runs

/-!
# The control queue of a client

A client receives control messages in one thread and handles them in another. The receiver enqueues
a message and then notifies `cv_rm_notification`. The main loop waits for the notification, without
a predicate, and goes on to an inner loop that handles messages until the check for further ones
says `true`. The check returns a variable that it never sets, so that its result is part of the
event here, and the condition of the loop negates it.

A notification reaches the main loop only if it is waiting at that moment. `always_attended_iff`
gives the steps that leave a message unattended, in the sense that the main loop can go on to wait
for a notification that has been issued already, and `neverStranded_iff` says that these are the
steps that strand a message in the queue.
-/

set_option autoImplicit false
set_option relaxedAutoImplicit false

namespace Tanos.Client

open Library.Runs

/-- What the receiver thread does next: receive and enqueue a message, or notify. -/
inductive ReceiverPhase where
  | receiving
  | notifying
deriving DecidableEq, Repr

/-- Where the main loop is: before the wait, in it, before the check of the inner loop, in
`get_next_control_message`, in a handler, or behind the loop. -/
inductive MainPhase (μ : Type) where
  | starting
  | waiting
  | checking
  | dequeuing
  | handling (message : μ)
  | ended
deriving DecidableEq, Repr

/-- The two threads and what they share. -/
structure ControlQueue (μ : Type) where
  rmClientOutQueue : List μ
  receiver : ReceiverPhase
  main : MainPhase μ
  active : Bool
deriving DecidableEq, Repr

/-- A step of one of the threads. -/
inductive QueueEvent (μ : Type) where
  | enqueue (message : μ)
  | notify
  | beginWait
  | spuriousWake
  | check (isMessageLeft : Bool)
  | dequeue
  | handled (stillActive : Bool)
deriving DecidableEq, Repr

namespace ControlQueue

variable {μ : Type}

/-- Before the first message. -/
def start : ControlQueue μ := ⟨[], .receiving, .starting, true⟩

/-- `rm_notification.notify_one()`, seen from the main loop. -/
def wake : MainPhase μ → MainPhase μ
  | .waiting => .checking
  | phase => phase

/-- One step, with the messages it hands to a handler. A step that its thread cannot take changes
nothing: `dequeue` in particular blocks on an empty queue. -/
def step (client : ControlQueue μ) : QueueEvent μ → ControlQueue μ × List μ
  | .enqueue message =>
    match client.receiver with
    | .receiving =>
      ({ client with
        rmClientOutQueue := client.rmClientOutQueue ++ [message]
        receiver := .notifying }, [])
    | .notifying => (client, [])
  | .notify =>
    match client.receiver with
    | .notifying => ({ client with receiver := .receiving, main := wake client.main }, [])
    | .receiving => (client, [])
  | .beginWait =>
    match client.main with
    | .starting => ({ client with main := if client.active then .waiting else .ended }, [])
    | _ => (client, [])
  | .spuriousWake => ({ client with main := wake client.main }, [])
  | .check isMessageLeft =>
    match client.main with
    | .checking =>
      ({ client with
        main := if client.active && isMessageLeft == false then .dequeuing else .starting }, [])
    | _ => (client, [])
  | .dequeue =>
    match client.main, client.rmClientOutQueue with
    | .dequeuing, message :: rest =>
      ({ client with rmClientOutQueue := rest, main := .handling message }, [message])
    | _, _ => (client, [])
  | .handled stillActive =>
    match client.main with
    | .handling _ => ({ client with main := .checking, active := stillActive }, [])
    | _ => (client, [])

/-- The main loop does not wait, unless a notification is still to be issued or the queue is
empty. -/
def NotStranded (client : ControlQueue μ) : Prop :=
  client.main = .waiting → client.receiver = .receiving → client.rmClientOutQueue = []

/-- The same for a main loop that waits or is about to. -/
def Attended (client : ControlQueue μ) : Prop :=
  client.main = .waiting ∨ client.main = .starting ∧ client.active = true →
    client.receiver = .receiving → client.rmClientOutQueue = []

/-- A step that loses no message: no notification is issued between the inner loop and the wait
while there is a message in the queue, and the inner loop is not left with a message in the queue
whose notification has been issued. -/
def Timely (client : ControlQueue μ) : QueueEvent μ → Prop
  | .notify => client.receiver = .notifying → client.main = .starting → client.active = true →
      client.rmClientOutQueue = []
  | .check isMessageLeft => client.main = .checking → isMessageLeft = true →
      client.active = true → client.receiver = .receiving → client.rmClientOutQueue = []
  | _ => True

/-- Nothing is stranded in any state of a run, nor when the main loop goes on to wait in one of
them. -/
def NeverStranded (events : List (QueueEvent μ)) : Prop :=
  ∀ past, past <+: events → (finalState step start past).NotStranded ∧
    (step (finalState step start past) .beginWait).1.NotStranded

theorem attended_start : (start : ControlQueue μ).Attended := fun _ _ ↦ rfl

/-- Unattended messages are those that are stranded, or will be when the main loop goes on. -/
theorem attended_iff (client : ControlQueue μ) :
    client.Attended ↔ client.NotStranded ∧ (step client .beginWait).1.NotStranded := by
  obtain ⟨queue, receiver, main, active⟩ := client
  cases main with
  | starting =>
    cases active with
    | true => simp [Attended, NotStranded, step]
    | false => simp [Attended, NotStranded, step]
  | waiting => simp [Attended, NotStranded, step]
  | checking => simp [Attended, NotStranded, step]
  | dequeuing => simp [Attended, NotStranded, step]
  | handling message => simp [Attended, NotStranded, step]
  | ended => simp [Attended, NotStranded, step]

/-- A step leaves no message unattended precisely when it is timely. -/
theorem attended_step_iff (client : ControlQueue μ) (event : QueueEvent μ)
    (hclient : client.Attended) : (step client event).1.Attended ↔ client.Timely event := by
  obtain ⟨queue, receiver, main, active⟩ := client
  cases event with
  | enqueue message =>
    cases receiver with
    | receiving => simp [Attended, Timely, step]
    | notifying => exact iff_of_true hclient trivial
  | notify =>
    cases receiver with
    | receiving => exact iff_of_true hclient nofun
    | notifying => cases main <;> simp [Attended, Timely, step, wake]
  | beginWait =>
    refine iff_of_true ?_ trivial
    cases main with
    | starting =>
      cases active with
      | true => simpa [Attended, step] using hclient
      | false => simp [Attended, step]
    | _ => exact hclient
  | spuriousWake =>
    refine iff_of_true ?_ trivial
    cases main with
    | waiting => simp [Attended, step, wake]
    | _ => exact hclient
  | check isMessageLeft =>
    cases main with
    | checking => cases active <;> cases isMessageLeft <;> simp [Attended, Timely, step]
    | _ => exact iff_of_true hclient nofun
  | dequeue =>
    refine iff_of_true ?_ trivial
    cases main with
    | dequeuing =>
      cases queue with
      | nil => exact hclient
      | cons message rest => simp [Attended, step]
    | _ => exact hclient
  | handled stillActive =>
    refine iff_of_true ?_ trivial
    cases main with
    | handling message => simp [Attended, step]
    | _ => exact hclient

/-- A run leaves no message unattended precisely when all its steps are timely. -/
theorem always_attended_iff (events : List (QueueEvent μ)) :
    Always step Attended start events ↔ EveryStep step Timely start events :=
  always_iff_everyStep attended_step_iff attended_start events

/-- A run strands no message, wherever the main loop goes on to wait, precisely when all its steps
are timely. -/
theorem neverStranded_iff (events : List (QueueEvent μ)) :
    NeverStranded events ↔ EveryStep step Timely start events := by
  rw [← always_attended_iff]
  constructor
  · intro hnever past hpast
    exact (attended_iff _).mpr (hnever past hpast)
  · intro hattended past hpast
    exact (attended_iff _).mp (hattended past hpast)

/-- A message that arrives before the main loop waits for the first time. -/
theorem not_always_notStranded_earlyMessage :
    ¬ Always step NotStranded start [.enqueue (), .notify, .beginWait] := by
  intro halways
  have hqueue := halways _ (List.prefix_refl _) rfl rfl
  exact absurd hqueue (List.cons_ne_nil _ _)

end ControlQueue

end Tanos.Client
