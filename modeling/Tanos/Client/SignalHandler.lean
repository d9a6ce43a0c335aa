import Tanos.Client.ControlQueue

/-!
# The signal handler of a client

`signalHandler` runs on the main thread, on top of whatever this thread is doing, and takes
`cv_mutex` to clear `active` and to notify the main loop. The main loop holds the same mutex from
its wait on, except while it waits.

`InterruptibleClient` refines the control queue by the mutex and by the places the main thread can
be interrupted at. A signal ends the client unless it comes where the main loop holds the mutex, so
that the thread waits for itself, or where it has tested `active` but does not wait yet, so that the
notification is lost (`endsClient_iff`). Otherwise the main thread leaves its loop within seven
steps (`ended_of_ending`).
-/

set_option autoImplicit false
set_option relaxedAutoImplicit false

namespace Tanos.Client

open Library.Runs

/-- Where the main thread is: behind `init_done`, at the test of `active`, before the lock, before
the wait, in it, before the lock is taken again, at the test of `active` in the inner loop, at the
check, in `get_next_control_message`, in a handler of messages, or behind the loop. -/
inductive LoopPhase (μ : Type) where
  | preparing
  | testing
  | locking
  | beforeWait
  | waiting
  | relocking
  | innerTesting
  | checking
  | dequeuing
  | handling (message : μ)
  | ended
deriving DecidableEq, Repr

/-- Where `signalHandler` is: before the lock, before `active = false`, before the notification, or
before its end. -/
inductive HandlerPhase where
  | locking
  | clearing
  | notifying
  | unlocking
deriving DecidableEq, Repr

/-- The main loop holds `cv_mutex`. -/
def LoopPhase.holdsMutex {μ : Type} : LoopPhase μ → Bool
  | .beforeWait | .innerTesting | .checking | .dequeuing | .handling _ => true
  | _ => false

/-- The handler holds `cv_mutex`. -/
def HandlerPhase.holdsMutex : HandlerPhase → Bool
  | .locking => false
  | _ => true

/-- The two threads, with the handler on top of the main thread while it runs. -/
structure InterruptibleClient (μ : Type) where
  rmClientOutQueue : List μ
  receiver : ReceiverPhase
  main : LoopPhase μ
  signalHandler : Option HandlerPhase
  active : Bool
  signalled : Bool
deriving DecidableEq, Repr

/-- A step of the receiver, of the main thread with what it comes to decide on, or a signal. -/
inductive ClientEvent (μ : Type) where
  | enqueue (message : μ)
  | notify
  | signal
  | spuriousWake
  | main (isMessageLeft stillActive : Bool)
deriving DecidableEq, Repr

namespace InterruptibleClient

variable {μ : Type}

/-- The client once `init_done` is set. -/
def start : InterruptibleClient μ := ⟨[], .receiving, .preparing, none, true, false⟩

/-- `cv_mutex` is locked. -/
def cvMutexLocked (client : InterruptibleClient μ) : Bool :=
  client.main.holdsMutex || client.signalHandler.any HandlerPhase.holdsMutex

/-- `cv_rm_notification.notify_one()`, seen from the main loop. -/
def wake : LoopPhase μ → LoopPhase μ
  | .waiting => .relocking
  | phase => phase

/-- A step of `signalHandler`. `init_done` is set, so that it does not exit. -/
def runHandler (client : InterruptibleClient μ) : HandlerPhase → InterruptibleClient μ
  | .locking =>
    if client.cvMutexLocked then client else { client with signalHandler := some .clearing }
  | .clearing => { client with active := false, signalHandler := some .notifying }
  | .notifying => { client with main := wake client.main, signalHandler := some .unlocking }
  | .unlocking => { client with signalHandler := none }

/-- A step of the main loop. -/
def runLoop (client : InterruptibleClient μ) (isMessageLeft stillActive : Bool) :
    InterruptibleClient μ :=
  match client.main with
  | .preparing => { client with main := .testing }
  | .testing => { client with main := if client.active then .locking else .ended }
  | .locking => if client.cvMutexLocked then client else { client with main := .beforeWait }
  | .beforeWait => { client with main := .waiting }
  | .waiting => client
  | .relocking => if client.cvMutexLocked then client else { client with main := .innerTesting }
  | .innerTesting => { client with main := if client.active then .checking else .testing }
  | .checking => { client with main := if isMessageLeft == false then .dequeuing else .testing }
  | .dequeuing =>
    match client.rmClientOutQueue with
    | message :: rest => { client with rmClientOutQueue := rest, main := .handling message }
    | [] => client
  | .handling _ => { client with active := client.active && stillActive, main := .innerTesting }
  | .ended => client

/-- One step, without outputs. A step that its thread cannot take changes nothing. A signal is held
back while its handler runs. -/
def step (client : InterruptibleClient μ) :
    ClientEvent μ → InterruptibleClient μ × List Empty
  | .enqueue message =>
    match client.receiver with
    | .receiving =>
      ({ client with
        rmClientOutQueue := client.rmClientOutQueue ++ [message]
        receiver := .notifying }, [])
    | .notifying => (client, [])
  | .notify =>
    match client.receiver with
    | .notifying => ({ client with receiver := .receiving, main := wake client.main }, [])
    | .receiving => (client, [])
  | .signal =>
    match client.signalHandler, client.main with
    | none, .ended => (client, [])
    | none, _ => ({ client with signalHandler := some .locking, signalled := true }, [])
    | some _, _ => (client, [])
  | .spuriousWake => ({ client with main := wake client.main }, [])
  | .main isMessageLeft stillActive =>
    match client.signalHandler with
    | some phase => (client.runHandler phase, [])
    | none => (client.runLoop isMessageLeft stillActive, [])

/-- The main thread has a step to take: it is not blocked on the mutex, in the wait or in the
dequeue. -/
def Enabled (client : InterruptibleClient μ) : Prop :=
  ∃ isMessageLeft stillActive, (step client (.main isMessageLeft stillActive)).1 ≠ client

/-- The step is no signal that reaches the main thread where it holds the mutex, or between the test
of `active` and the lock. -/
def SignalsSafely (client : InterruptibleClient μ) : ClientEvent μ → Prop
  | .signal => client.signalHandler = none →
    client.main.holdsMutex = false ∧ client.main ≠ .locking
  | _ => True

/-- Steps of the main thread alone, with what it comes to decide on. -/
def mainSteps (choices : List (Bool × Bool)) : List (ClientEvent μ) :=
  choices.map fun choice ↦ .main choice.1 choice.2

/-- Once a signal has come, the main thread has a step to take wherever it comes to without a
further message, until it has left the loop. -/
def Unblocked (client : InterruptibleClient μ) : Prop :=
  ∀ choices, let last := finalState step client (mainSteps choices)
    last.signalled = true → last.main ≠ .ended → last.Enabled

/-- A signal ends the client: no state of a run behind a signal is blocked. -/
def EndsClient (events : List (ClientEvent μ)) : Prop := Always step Unblocked start events

/-! ### Signals that end the client -/

/-- Where the main loop can be while the handler runs, and once it has run. -/
def Interruptible : LoopPhase μ → Option HandlerPhase → Prop
  | .preparing, _ | .testing, _ | .relocking, _ => True
  | .waiting, some .locking | .waiting, some .clearing | .waiting, some .notifying => True
  | .innerTesting, none | .ended, none => True
  | _, _ => False

/-- The client is on its way to its end, once a signal has come. -/
structure Ending (client : InterruptibleClient μ) : Prop where
  signalled_of_handler : client.signalHandler ≠ none → client.signalled = true
  interruptible : client.signalled = true → Interruptible client.main client.signalHandler
  inactive : client.signalled = true → client.signalHandler ≠ some .locking →
    client.signalHandler ≠ some .clearing → client.active = false

/-- The handler of the signal has run. -/
theorem Ending.active_eq_false {client : InterruptibleClient μ} (h : client.Ending)
    (hsignalled : client.signalled = true) (hphase : client.signalHandler = none) :
    client.active = false := by
  refine h.inactive hsignalled ?_ ?_
  · rw [hphase]
    exact nofun
  · rw [hphase]
    exact nofun

theorem ending_start : (start : InterruptibleClient μ).Ending := ⟨nofun, nofun, nofun⟩

theorem interruptible_wake {main : LoopPhase μ} {signalHandler : Option HandlerPhase}
    (h : Interruptible main signalHandler) : Interruptible (wake main) signalHandler := by
  cases main with
  | waiting => trivial
  | _ => exact h

/-- The phases of the handler, one after the other. -/
theorem interruptible_next (main : LoopPhase μ) :
    (Interruptible main (some .locking) → Interruptible main (some .clearing)) ∧
      (Interruptible main (some .clearing) → Interruptible main (some .notifying)) ∧
      (Interruptible main (some .notifying) → Interruptible (wake main) (some .unlocking)) ∧
      (Interruptible main (some .unlocking) → Interruptible main none) := by
  cases main <;> simp [Interruptible, wake]

/-- A handler that is entered safely does not wait for the mutex. -/
theorem cvMutexLocked_of_interruptible {client : InterruptibleClient μ}
    (hphase : client.signalHandler = some .locking)
    (h : Interruptible client.main (some .locking)) : client.cvMutexLocked = false := by
  rw [cvMutexLocked, hphase]
  cases hmain : client.main with
  | preparing | testing | waiting | relocking => rfl
  | _ =>
    rw [hmain] at h
    exact h.elim

theorem ending_runHandler {client : InterruptibleClient μ} (h : client.Ending)
    {phase : HandlerPhase} (hphase : client.signalHandler = some phase) :
    (client.runHandler phase).Ending := by
  have hsignalled : client.signalled = true := h.signalled_of_handler (by simp [hphase])
  have hinterruptible := h.interruptible hsignalled
  have hinactive := h.inactive hsignalled
  obtain ⟨hclearing, hnotifying, hunlocking, hnone⟩ := interruptible_next client.main
  rw [hphase] at hinterruptible hinactive
  cases phase with
  | locking =>
    rw [runHandler, cvMutexLocked_of_interruptible hphase hinterruptible]
    exact ⟨fun _ ↦ hsignalled, fun _ ↦ hclearing hinterruptible, fun _ _ hnot ↦ absurd rfl hnot⟩
  | clearing => exact ⟨fun _ ↦ hsignalled, fun _ ↦ hnotifying hinterruptible, fun _ _ _ ↦ rfl⟩
  | notifying =>
    exact ⟨fun _ ↦ hsignalled, fun _ ↦ hunlocking hinterruptible,
      fun _ _ _ ↦ hinactive (by decide) (by decide)⟩
  | unlocking =>
    exact ⟨nofun, fun _ ↦ hnone hinterruptible, fun _ _ _ ↦ hinactive (by decide) (by decide)⟩

/-- The main loop does not touch the handler. -/
theorem runLoop_frame (client : InterruptibleClient μ) (isMessageLeft stillActive : Bool) :
    (client.runLoop isMessageLeft stillActive).signalled = client.signalled ∧
      (client.runLoop isMessageLeft stillActive).signalHandler = client.signalHandler := by
  unfold runLoop
  repeat' split
  all_goals exact ⟨rfl, rfl⟩

theorem ending_runLoop {client : InterruptibleClient μ} (h : client.Ending)
    (hphase : client.signalHandler = none) (isMessageLeft stillActive : Bool) :
    (client.runLoop isMessageLeft stillActive).Ending := by
  obtain ⟨hsame, hhandler⟩ := client.runLoop_frame isMessageLeft stillActive
  by_cases hsignalled : client.signalled = true
  · have hinterruptible := h.interruptible hsignalled
    have hinactive : client.active = false := h.active_eq_false hsignalled hphase
    have hunlocked : client.main = .relocking → client.cvMutexLocked = false := by
      intro hmain
      rw [cvMutexLocked, hmain, hphase]
      rfl
    rw [hphase] at hinterruptible
    refine ⟨fun hnot ↦ absurd (hhandler.trans hphase) hnot, fun _ ↦ ?_, fun _ _ _ ↦ ?_⟩
    · rw [hhandler, hphase, runLoop]
      cases hmain : client.main with
      | preparing => trivial
      | testing =>
        rw [hinactive]
        trivial
      | relocking =>
        rw [hunlocked hmain]
        trivial
      | innerTesting =>
        rw [hinactive]
        trivial
      | ended =>
        show Interruptible client.main none
        rw [hmain]
        trivial
      | _ =>
        rw [hmain] at hinterruptible
        exact hinterruptible.elim
    · unfold runLoop
      repeat' split
      all_goals simp only [hinactive, Bool.false_and]
  · refine ⟨fun hnot ↦ absurd (hhandler.trans hphase) hnot, fun hnext ↦ ?_, fun hnext ↦ ?_⟩
    · exact absurd (hsame.symm.trans hnext) hsignalled
    · exact absurd (hsame.symm.trans hnext) hsignalled

/-- A signal is held back while its handler runs and behind the loop. -/
theorem signal_cases (client : InterruptibleClient μ) :
    (client.signalHandler ≠ none ∨ client.main = .ended) ∧ (step client .signal).1 = client ∨
      client.signalHandler = none ∧ client.main ≠ .ended ∧
        (step client .signal).1 =
          { client with signalHandler := some .locking, signalled := true } := by
  obtain ⟨messages, receiver, main, signalHandler, active, signalled⟩ := client
  cases signalHandler with
  | some phase => exact Or.inl ⟨Or.inl (Option.some_ne_none phase), rfl⟩
  | none =>
    cases main with
    | ended => exact Or.inl ⟨Or.inr rfl, rfl⟩
    | _ => exact Or.inr ⟨rfl, by simp, rfl⟩

theorem ending_step {client : InterruptibleClient μ} {event : ClientEvent μ}
    (hsafe : client.SignalsSafely event) (h : client.Ending) : (step client event).1.Ending := by
  cases event with
  | enqueue message =>
    simp only [step]
    split
    · exact ⟨h.signalled_of_handler, h.interruptible, h.inactive⟩
    · exact h
  | notify =>
    simp only [step]
    split
    · exact ⟨h.signalled_of_handler,
        fun hsignalled ↦ interruptible_wake (h.interruptible hsignalled), h.inactive⟩
    · exact h
  | signal =>
    rcases client.signal_cases with ⟨-, hheld⟩ | ⟨hnone, hended, htaken⟩
    · rw [hheld]
      exact h
    · rw [htaken]
      obtain ⟨hmutex, hlocking⟩ := hsafe hnone
      refine ⟨fun _ ↦ rfl, fun _ ↦ ?_, fun _ hnot ↦ absurd rfl hnot⟩
      cases hmain : client.main <;> simp_all [Interruptible, LoopPhase.holdsMutex]
  | spuriousWake =>
    exact ⟨h.signalled_of_handler,
      fun hsignalled ↦ interruptible_wake (h.interruptible hsignalled), h.inactive⟩
  | main isMessageLeft stillActive =>
    simp only [step]
    cases hphase : client.signalHandler with
    | some phase => exact ending_runHandler h hphase
    | none => exact ending_runLoop h hphase isMessageLeft stillActive

/-- A client on its way to its end is not blocked. -/
theorem enabled_of_ending {client : InterruptibleClient μ} (h : client.Ending)
    (hsignalled : client.signalled = true) (hended : client.main ≠ .ended) : client.Enabled := by
  refine ⟨false, false, fun hsame ↦ ?_⟩
  have hinterruptible := h.interruptible hsignalled
  cases hphase : client.signalHandler with
  | some phase =>
    simp only [step, hphase] at hsame
    have hhandler := congrArg signalHandler hsame
    rw [hphase] at hhandler hinterruptible
    cases phase with
    | locking =>
      rw [runHandler, cvMutexLocked_of_interruptible hphase hinterruptible] at hhandler
      exact absurd hhandler (by simp)
    | clearing => exact absurd hhandler (by simp [runHandler])
    | notifying => exact absurd hhandler (by simp [runHandler])
    | unlocking => exact absurd hhandler (by simp [runHandler])
  | none =>
    have hinactive : client.active = false := h.active_eq_false hsignalled hphase
    simp only [step, hphase] at hsame
    have hloop := congrArg main hsame
    rw [hphase] at hinterruptible
    cases hmain : client.main with
    | preparing | testing | innerTesting => simp [runLoop, hmain, hinactive] at hloop
    | relocking =>
      simp [runLoop, hmain, cvMutexLocked, hphase, LoopPhase.holdsMutex] at hloop
    | ended => exact hended hmain
    | _ =>
      rw [hmain] at hinterruptible
      exact hinterruptible.elim

theorem unblocked_of_ending {client : InterruptibleClient μ} (h : client.Ending) :
    client.Unblocked := by
  intro choices last hsignalled hended
  have hlast : last.Ending := by
    refine finalState_of_step ?_ h
    intro current event hevent hcurrent
    obtain ⟨choice, -, rfl⟩ := List.mem_map.mp hevent
    exact ending_step trivial hcurrent
  exact enabled_of_ending hlast hsignalled hended

/-- How many steps the main thread still has to take in a phase of the handler. -/
def handlerRank : Option HandlerPhase → ℕ
  | some .locking => 4
  | some .clearing => 3
  | some .notifying => 2
  | some .unlocking => 1
  | none => 0

/-- How many steps the main thread still has to take in a phase of the loop. -/
def loopRank : LoopPhase μ → ℕ
  | .waiting | .relocking => 3
  | .preparing | .innerTesting => 2
  | .testing => 1
  | _ => 0

/-- How many steps the main thread still has to take. -/
def rank (client : InterruptibleClient μ) : ℕ :=
  handlerRank client.signalHandler + loopRank client.main

theorem rank_le (client : InterruptibleClient μ) : client.rank ≤ 7 := by
  have hhandler : handlerRank client.signalHandler ≤ 4 := by
    unfold handlerRank
    split <;> decide
  have hloop : loopRank client.main ≤ 3 := by
    unfold loopRank
    split <;> decide
  exact Nat.add_le_add hhandler hloop

/-- Every step of the main thread takes a client on its way to its end closer to it. -/
theorem rank_step {client : InterruptibleClient μ} (h : client.Ending)
    (hsignalled : client.signalled = true) (isMessageLeft stillActive : Bool) :
    (step client (.main isMessageLeft stillActive)).1.rank ≤ client.rank - 1 := by
  have hinterruptible := h.interruptible hsignalled
  cases hphase : client.signalHandler with
  | some phase =>
    rw [hphase] at hinterruptible
    cases phase with
    | locking =>
      have hunlocked := cvMutexLocked_of_interruptible hphase hinterruptible
      simp [rank, step, hphase, runHandler, hunlocked, handlerRank]
    | clearing => simp [rank, step, hphase, runHandler, handlerRank]
    | notifying => cases hmain : client.main <;>
        simp [rank, step, hphase, runHandler, handlerRank, wake, hmain, loopRank]
    | unlocking => simp [rank, step, hphase, runHandler, handlerRank]
  | none =>
    have hinactive : client.active = false := h.active_eq_false hsignalled hphase
    rw [hphase] at hinterruptible
    cases hmain : client.main with
    | preparing | testing | innerTesting | ended =>
      simp [rank, step, hphase, runLoop, hmain, hinactive, loopRank, handlerRank]
    | relocking =>
      simp [rank, step, hphase, runLoop, hmain, cvMutexLocked, LoopPhase.holdsMutex, loopRank,
        handlerRank]
    | _ =>
      rw [hmain] at hinterruptible
      exact hinterruptible.elim

/-- A client with no step left to take has left the loop. -/
theorem ended_of_rank_eq_zero {client : InterruptibleClient μ}
    (h : Interruptible client.main client.signalHandler) (hrank : client.rank = 0) :
    client.main = .ended := by
  obtain ⟨hhandler, hloop⟩ := Nat.add_eq_zero_iff.mp hrank
  have hphase : client.signalHandler = none := by
    cases hphase : client.signalHandler with
    | none => rfl
    | some phase =>
      rw [hphase] at hhandler
      cases phase <;> exact absurd hhandler (by decide)
  rw [hphase] at h
  cases hmain : client.main with
  | ended => rfl
  | preparing | testing | waiting | relocking | innerTesting =>
    rw [hmain] at hloop
    exact absurd hloop (by simp [loopRank])
  | _ =>
    rw [hmain] at h
    exact h.elim

/-- The main thread does not forget that a signal has come. -/
theorem signalled_step (client : InterruptibleClient μ) (isMessageLeft stillActive : Bool) :
    (step client (.main isMessageLeft stillActive)).1.signalled = client.signalled := by
  cases hphase : client.signalHandler with
  | some phase =>
    simp only [step, hphase]
    cases phase with
    | locking =>
      simp only [runHandler]
      split <;> rfl
    | _ => rfl
  | none =>
    simp only [step, hphase]
    exact (client.runLoop_frame isMessageLeft stillActive).1

/-- A client on its way to its end leaves the loop within seven steps of the main thread. -/
theorem ended_of_ending {client : InterruptibleClient μ} (h : client.Ending)
    (hsignalled : client.signalled = true) {choices : List (Bool × Bool)}
    (hlong : 7 ≤ choices.length) :
    (finalState step client (mainSteps choices)).main = .ended := by
  have hchoices : finalState step client (mainSteps choices) =
      finalState (fun current choice ↦ step current (.main choice.1 choice.2)) client choices := by
    simp only [finalState, mainSteps, List.foldl_map]
  have hstep : ∀ (current : InterruptibleClient μ) (choice : Bool × Bool),
      current.Ending ∧ current.signalled = true →
        ((step current (.main choice.1 choice.2)).1.Ending ∧
          (step current (.main choice.1 choice.2)).1.signalled = true) ∧
        (step current (.main choice.1 choice.2)).1.rank ≤ current.rank - 1 := by
    rintro current ⟨isMessageLeft, stillActive⟩ ⟨hcurrent, hstill⟩
    refine ⟨⟨ending_step trivial hcurrent, ?_⟩, rank_step hcurrent hstill _ _⟩
    rw [signalled_step]
    exact hstill
  obtain ⟨⟨hlast, hstill⟩, hrank⟩ :=
    finalState_of_rank rank hstep ⟨h, hsignalled⟩ (Nat.le_trans client.rank_le hlong)
  rw [← hchoices] at hlast hstill hrank
  exact ended_of_rank_eq_zero (hlast.interruptible hstill) hrank

/-! ### Signals that do not -/

theorem step_signal {client : InterruptibleClient μ} (hphase : client.signalHandler = none)
    (hended : client.main ≠ .ended) :
    (step client .signal).1 =
      { client with signalHandler := some .locking, signalled := true } := by
  rcases client.signal_cases with ⟨hnot | hnot, -⟩ | ⟨-, -, htaken⟩
  · exact absurd hphase hnot
  · exact absurd hnot hended
  · exact htaken

/-- A handler that is entered where the main loop holds the mutex waits for its own thread. -/
theorem not_unblocked_of_holdsMutex {client : InterruptibleClient μ}
    (hphase : client.signalHandler = none) (hholds : client.main.holdsMutex = true) :
    ¬ (step client .signal).1.Unblocked := by
  have hended : client.main ≠ .ended := by
    intro hmain
    rw [hmain] at hholds
    exact absurd hholds (by simp [LoopPhase.holdsMutex])
  rw [step_signal hphase hended]
  intro hunblocked
  obtain ⟨isMessageLeft, stillActive, hstep⟩ := hunblocked [] rfl hended
  apply hstep
  simp only [step, mainSteps, List.map_nil, finalState_nil, runHandler, cvMutexLocked, hholds,
    Bool.true_or, if_true]

/-- A handler that is entered before the lock notifies nobody, and the main loop goes on to wait. -/
theorem not_unblocked_of_locking {client : InterruptibleClient μ}
    (hphase : client.signalHandler = none) (hmain : client.main = .locking) :
    ¬ (step client .signal).1.Unblocked := by
  rw [step_signal hphase (by simp [hmain])]
  intro hunblocked
  obtain ⟨queue, receiver, main, signalHandler, active, signalled⟩ := client
  subst hmain
  have hlast : finalState step ⟨queue, receiver, .locking, some .locking, active, true⟩
      (mainSteps (List.replicate 6 (false, false))) =
        ⟨queue, receiver, .waiting, none, false, true⟩ := rfl
  have henabled := hunblocked (List.replicate 6 (false, false))
  rw [hlast] at henabled
  obtain ⟨isMessageLeft, stillActive, hstep⟩ := henabled rfl (by simp)
  exact hstep rfl

/-- The exact condition for signals to end the client. -/
theorem endsClient_iff (events : List (ClientEvent μ)) :
    EndsClient events ↔ EveryStep step SignalsSafely start events := by
  constructor
  · intro hends past event hpast
    cases event with
    | signal =>
      intro hphase
      have hnext := hends _ hpast
      rw [finalState_append] at hnext
      constructor
      · cases hholds : (finalState step start past).main.holdsMutex with
        | false => rfl
        | true => exact absurd hnext (not_unblocked_of_holdsMutex hphase hholds)
      · intro hmain
        exact not_unblocked_of_locking hphase hmain hnext
    | _ => trivial
  · intro hsafe past hpast
    exact unblocked_of_ending
      (always_of_everyStep (fun _ _ ↦ ending_step) hsafe ending_start past hpast)

/-- A message has woken the main loop, and a signal comes before the check of the inner loop. -/
theorem not_endsClient_innerLoop :
    ¬ EndsClient [.main false true, .main false true, .main false true, .main false true,
      .enqueue (), .notify, .main false true, .signal] := by
  intro hends
  obtain ⟨isMessageLeft, stillActive, hstep⟩ := hends _ (List.prefix_refl _) [] rfl (by decide)
  exact hstep rfl

end InterruptibleClient

end Tanos.Client
