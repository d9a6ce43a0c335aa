import Mathlib.Logic.Function.Basic
import Tanos.Library.Runs

/-!
# Timers

`TimerManager` keeps the timers of a program under the ids they have been registered with. Its
`registerTimer` makes a new timer object, whose completion handler runs a task and registers it
again if the id repeats; `cancel` aborts the timer object that is kept under an id.

The handler owns its timer object as well. A timer that is replaced in `m_timers` goes on, and
`timers` is therefore the list of all timer objects, to which `m_timers` points by number. A wait
that is cancelled in time leads to a handler with an error, and a wait that has expired before does
not. Calls are taken as a whole, from inside a task or from another thread, and one thread runs the
handlers.

`TrackedTimers` adds what the calls so far amount to, that is the latest registration of every id
that has not been cancelled since. The timers take no notice of it (`map_toTimerManager_run`), and
`bookkept_step` relates it to the two maps.
-/

set_option autoImplicit false
set_option relaxedAutoImplicit false

namespace Tanos

open Library.Runs

/-- The life of a timer: its wait goes on, it has expired or has been cancelled and its handler is
queued, the handler runs its task, and the end. -/
inductive TimerStatus where
  | pending
  | expired
  | aborted
  | running
  | done
deriving DecidableEq, Repr

/-- The task is still to run. -/
def TimerStatus.isLive : TimerStatus → Bool
  | .pending | .expired => true
  | _ => false

/-- A timer object with what its handler captures. The task is the time, the function and its
arguments. -/
structure TimerObject (κ τ : Type) where
  id : κ
  task : τ
  status : TimerStatus
deriving DecidableEq, Repr

/-- The wait of a timer comes to an end. -/
def TimerObject.expire {κ τ : Type} (timer : TimerObject κ τ) : TimerObject κ τ :=
  if timer.status = .pending then { timer with status := .expired } else timer

/-- `cancel` of the timer object, which is too late for a wait that has come to an end. -/
def TimerObject.cancel {κ τ : Type} (timer : TimerObject κ τ) : TimerObject κ τ :=
  if timer.status = .pending then { timer with status := .aborted } else timer

/-- The handler is called: it runs its task, or it is told of an error. -/
def TimerObject.call {κ τ : Type} (timer : TimerObject κ τ) : TimerObject κ τ :=
  match timer.status with
  | .expired => { timer with status := .running }
  | .aborted => { timer with status := .done }
  | _ => timer

/-- `class TimerManager`. A pointer in `m_timers` is none while it is null. -/
structure TimerManager (κ τ : Type) where
  timers : List (TimerObject κ τ)
  timerRepeat : κ → Option Bool
  mTimers : κ → Option ℕ

/-- A call, or something that happens to the timer object with a number: its wait ends, its handler
is called, the task of its handler returns. -/
inductive TimerEvent (κ τ : Type) where
  | register (id : κ) (repeating : Bool) (task : τ)
  | cancel (id : κ) (repeating : Bool)
  | expire (number : ℕ)
  | call (number : ℕ)
  | finish (number : ℕ)
deriving DecidableEq, Repr

namespace TimerManager

variable {κ τ : Type} [DecidableEq κ]

/-- `TimerManager()`. -/
def new : TimerManager κ τ := ⟨[], fun _ ↦ none, fun _ ↦ none⟩

/-- `registerTimer`. A flag that is in the map stays. -/
def registerTimer (manager : TimerManager κ τ) (id : κ) (repeating : Bool) (task : τ) :
    TimerManager κ τ where
  timers := manager.timers ++ [⟨id, task, .pending⟩]
  timerRepeat :=
    if manager.timerRepeat id = none then Function.update manager.timerRepeat id (some repeating)
    else manager.timerRepeat
  mTimers := Function.update manager.mTimers id (some manager.timers.length)

/-- `cancel`, none where it follows a null pointer. The flag it sets is erased at its end. -/
def cancel (manager : TimerManager κ τ) (id : κ) (_repeating : Bool) :
    Option (TimerManager κ τ) :=
  (manager.mTimers id).map fun number ↦ { manager with
    timers := manager.timers.modify number TimerObject.cancel
    timerRepeat := Function.update manager.timerRepeat id none }

/-- A task is running. -/
def isBusy (manager : TimerManager κ τ) : Bool :=
  manager.timers.any fun timer ↦ timer.status = .running

/-- The task of a handler has returned. -/
def markDone (manager : TimerManager κ τ) (number : ℕ) : TimerManager κ τ :=
  { manager with
    timers := manager.timers.modify number fun timer ↦ { timer with status := .done } }

/-- The end of a handler, behind its task, none where it dereferences `timer_repeat.end()`. -/
def finish (manager : TimerManager κ τ) (number : ℕ) : Option (TimerManager κ τ) :=
  match manager.timers[number]? with
  | none => some manager
  | some timer =>
    if timer.status = .running then
      match manager.timerRepeat timer.id with
      | none => none
      | some false => some (manager.markDone number)
      | some true => some ((manager.markDone number).registerTimer timer.id true timer.task)
    else some manager

/-- A step of the program. -/
def step (manager : TimerManager κ τ) : TimerEvent κ τ → Option (TimerManager κ τ)
  | .register id repeating task => some (manager.registerTimer id repeating task)
  | .cancel id repeating => manager.cancel id repeating
  | .expire number =>
    some { manager with timers := manager.timers.modify number TimerObject.expire }
  | .call number =>
    if manager.isBusy then some manager
    else some { manager with timers := manager.timers.modify number TimerObject.call }
  | .finish number => manager.finish number

/-- One step of a run, which undefined behaviour ends. -/
def runStep (state : Option (TimerManager κ τ)) (event : TimerEvent κ τ) :
    Option (TimerManager κ τ) × List Unit :=
  (state.bind (step · event), [])

end TimerManager

/-- A call of `registerTimer`: the number of its timer object, its task and its flag. -/
structure Registration (τ : Type) where
  number : ℕ
  task : τ
  repeating : Bool
deriving DecidableEq, Repr

/-- The timers, the latest registration of every id since its last `cancel`, and whether an id has
been registered at all. -/
structure TrackedTimers (κ τ : Type) extends TimerManager κ τ where
  registration : κ → Option (Registration τ)
  wasRegistered : κ → Bool

namespace TrackedTimers

variable {κ τ : Type} [DecidableEq κ]

/-- Before any call. -/
def start : TrackedTimers κ τ := ⟨TimerManager.new, fun _ ↦ none, fun _ ↦ false⟩

/-- The timers after a step that leaves the registrations as they are. -/
def withManager (tracked : TrackedTimers κ τ) (manager : TimerManager κ τ) : TrackedTimers κ τ :=
  { tracked with toTimerManager := manager }

/-- The timers after a registration. -/
def register (tracked : TrackedTimers κ τ) (manager : TimerManager κ τ) (id : κ)
    (repeating : Bool) (task : τ) : TrackedTimers κ τ where
  toTimerManager := manager.registerTimer id repeating task
  registration :=
    Function.update tracked.registration id (some ⟨manager.timers.length, task, repeating⟩)
  wasRegistered := Function.update tracked.wasRegistered id true

/-- The timers after a cancel that follows the pointer to a timer object. -/
def cancelled (tracked : TrackedTimers κ τ) (id : κ) (number : ℕ) : TrackedTimers κ τ where
  timers := tracked.timers.modify number TimerObject.cancel
  timerRepeat := Function.update tracked.timerRepeat id none
  mTimers := tracked.mTimers
  registration := Function.update tracked.registration id none
  wasRegistered := tracked.wasRegistered

/-- The end of a handler, with the registration it makes. -/
def finish (tracked : TrackedTimers κ τ) (number : ℕ) : Option (TrackedTimers κ τ) :=
  match tracked.timers[number]? with
  | none => some tracked
  | some timer =>
    if timer.status = .running then
      match tracked.timerRepeat timer.id with
      | none => none
      | some false => some (tracked.withManager (tracked.markDone number))
      | some true => some (tracked.register (tracked.markDone number) timer.id true timer.task)
    else some tracked

/-- A step of the program, with the calls it makes. -/
def step (tracked : TrackedTimers κ τ) : TimerEvent κ τ → Option (TrackedTimers κ τ)
  | .register id repeating task => some (tracked.register tracked.toTimerManager id repeating task)
  | .cancel id _ => (tracked.mTimers id).map (tracked.cancelled id)
  | .expire number => (tracked.toTimerManager.step (.expire number)).map tracked.withManager
  | .call number => (tracked.toTimerManager.step (.call number)).map tracked.withManager
  | .finish number => tracked.finish number

/-- One step of a run, which undefined behaviour ends. -/
def runStep (state : Option (TrackedTimers κ τ)) (event : TimerEvent κ τ) :
    Option (TrackedTimers κ τ) × List Unit :=
  (state.bind (step · event), [])

/-- Tracking the registrations changes nothing about the timers. -/
theorem map_toTimerManager_step (tracked : TrackedTimers κ τ) (event : TimerEvent κ τ) :
    (tracked.step event).map toTimerManager = tracked.toTimerManager.step event := by
  cases event with
  | register id repeating task => rfl
  | cancel id repeating =>
    simp only [step, TimerManager.step, TimerManager.cancel, Option.map_map]
    rfl
  | expire number => rfl
  | call number =>
    simp only [step, TimerManager.step]
    split_ifs with hbusy <;> rfl
  | finish number =>
    simp only [step, TimerManager.step, finish, TimerManager.finish]
    cases tracked.timers[number]? with
    | none => rfl
    | some timer =>
      simp only
      split_ifs with hrunning
      · cases tracked.timerRepeat timer.id with
        | none => rfl
        | some repeating => cases repeating <;> rfl
      · rfl

/-- A run with the registrations is one of the timers. -/
theorem map_toTimerManager_run (events : List (TimerEvent κ τ))
    (state : Option (TrackedTimers κ τ)) :
    (finalState runStep state events).map toTimerManager =
      finalState TimerManager.runStep (state.map toTimerManager) events := by
  induction events generalizing state with
  | nil => rfl
  | cons event rest ih =>
    have hstep : (runStep state event).1.map toTimerManager =
        (TimerManager.runStep (state.map toTimerManager) event).1 := by
      cases state with
      | none => rfl
      | some tracked => exact map_toTimerManager_step tracked event
    rw [finalState_cons, finalState_cons, ih, hstep]

/-- What the end of a handler can do: nothing, because it does not run; nothing more, because its id
does not repeat; or register its task again. -/
theorem finish_cases {tracked next : TrackedTimers κ τ} {number : ℕ}
    (hnext : tracked.finish number = some next) :
    next = tracked ∨ next = tracked.withManager (tracked.markDone number) ∨
      ∃ timer, tracked.timers[number]? = some timer ∧ timer.status = .running ∧
        tracked.timerRepeat timer.id = some true ∧
        next = tracked.register (tracked.markDone number) timer.id true timer.task := by
  unfold finish at hnext
  cases htimer : tracked.timers[number]? with
  | none =>
    rw [htimer] at hnext
    exact Or.inl (Option.some.inj hnext).symm
  | some timer =>
    simp only [htimer] at hnext
    split_ifs at hnext with hrunning
    · cases hflag : tracked.timerRepeat timer.id with
      | none => simp [hflag] at hnext
      | some repeating =>
        rw [hflag] at hnext
        cases repeating with
        | false => exact Or.inr (Or.inl (Option.some.inj hnext).symm)
        | true =>
          exact Or.inr (Or.inr ⟨timer, rfl, hrunning, hflag, (Option.some.inj hnext).symm⟩)
    · exact Or.inl (Option.some.inj hnext).symm

/-! ### The bookkeeping -/

/-- The maps go with the registrations: the pointer is that of the latest registration, there is a
flag from a registration to the next cancel, and a pointer from the first registration on. -/
structure Bookkept (tracked : TrackedTimers κ τ) : Prop where
  mTimers_eq : ∀ id registration, tracked.registration id = some registration →
    tracked.mTimers id = some registration.number
  isSome_timerRepeat : ∀ id, (tracked.timerRepeat id).isSome = (tracked.registration id).isSome
  isSome_mTimers : ∀ id, (tracked.mTimers id).isSome = tracked.wasRegistered id

omit [DecidableEq κ] in
theorem bookkept_start : Bookkept (start : TrackedTimers κ τ) where
  mTimers_eq := nofun
  isSome_timerRepeat _ := rfl
  isSome_mTimers _ := rfl

/-- There is a flag after a registration, and those of other ids stay. -/
theorem timerRepeat_registerTimer (manager : TimerManager κ τ) (id : κ) (repeating : Bool)
    (task : τ) :
    (manager.registerTimer id repeating task).timerRepeat =
      Function.update manager.timerRepeat id (some ((manager.timerRepeat id).getD repeating)) := by
  simp only [TimerManager.registerTimer]
  split_ifs with habsent
  · rw [habsent, Option.getD_none]
  · obtain ⟨flag, hflag⟩ := Option.ne_none_iff_exists'.mp habsent
    rw [hflag, Option.getD_some, ← hflag, Function.update_eq_self]

variable {tracked : TrackedTimers κ τ}

/-- Assumes: the maps of the manager are those of the tracked timers. -/
theorem Bookkept.register (h : Bookkept tracked) {manager : TimerManager κ τ}
    (hrepeat : manager.timerRepeat = tracked.timerRepeat)
    (htimers : manager.mTimers = tracked.mTimers) (id : κ) (repeating : Bool) (task : τ) :
    Bookkept (tracked.register manager id repeating task) := by
  constructor
  · intro other registration hregistration
    by_cases hother : other = id
    · subst hother
      simp only [TrackedTimers.register, Function.update_self, Option.some.injEq]
        at hregistration
      simp [TrackedTimers.register, TimerManager.registerTimer, ← hregistration]
    · simp only [TrackedTimers.register, Function.update_of_ne hother] at hregistration
      simp only [TrackedTimers.register, TimerManager.registerTimer,
        Function.update_of_ne hother, htimers]
      exact h.mTimers_eq other registration hregistration
  · intro other
    simp only [TrackedTimers.register, timerRepeat_registerTimer, hrepeat]
    by_cases hother : other = id
    · simp [hother]
    · simp only [Function.update_of_ne hother]
      exact h.isSome_timerRepeat other
  · intro other
    simp only [TrackedTimers.register, TimerManager.registerTimer, htimers]
    by_cases hother : other = id
    · simp [hother]
    · simp only [Function.update_of_ne hother]
      exact h.isSome_mTimers other

theorem Bookkept.cancelled (h : Bookkept tracked) (id : κ) (number : ℕ) :
    Bookkept (tracked.cancelled id number) := by
  constructor
  · intro other registration hregistration
    by_cases hother : other = id
    · simp [TrackedTimers.cancelled, hother] at hregistration
    · simp only [TrackedTimers.cancelled, Function.update_of_ne hother] at hregistration
      exact h.mTimers_eq other registration hregistration
  · intro other
    by_cases hother : other = id
    · simp [TrackedTimers.cancelled, hother]
    · simp only [TrackedTimers.cancelled, Function.update_of_ne hother]
      exact h.isSome_timerRepeat other
  · exact h.isSome_mTimers

/-- Every step keeps the maps with the registrations. -/
theorem bookkept_step (h : Bookkept tracked) {event : TimerEvent κ τ}
    {next : TrackedTimers κ τ} (hnext : tracked.step event = some next) : Bookkept next := by
  cases event with
  | register id repeating task =>
    rw [← Option.some.inj hnext]
    exact h.register rfl rfl id repeating task
  | cancel id repeating =>
    obtain ⟨number, -, rfl⟩ := Option.map_eq_some_iff.mp hnext
    exact h.cancelled id number
  | expire number =>
    rw [← Option.some.inj hnext]
    exact ⟨h.mTimers_eq, h.isSome_timerRepeat, h.isSome_mTimers⟩
  | call number =>
    simp only [step, TimerManager.step] at hnext
    split_ifs at hnext with hbusy
    · rw [← Option.some.inj hnext]
      exact h
    · rw [← Option.some.inj hnext]
      exact ⟨h.mTimers_eq, h.isSome_timerRepeat, h.isSome_mTimers⟩
  | finish number =>
    rcases finish_cases hnext with rfl | rfl | ⟨timer, -, -, -, rfl⟩
    · exact h
    · exact ⟨h.mTimers_eq, h.isSome_timerRepeat, h.isSome_mTimers⟩
    · refine h.register ?_ ?_ timer.id true timer.task <;> rfl

/-- As long as there is a state, its maps go with its registrations. -/
def IsBookkept (state : Option (TrackedTimers κ τ)) : Prop :=
  ∀ tracked, state = some tracked → Bookkept tracked

omit [DecidableEq κ] in
theorem isBookkept_start : IsBookkept (some (start : TrackedTimers κ τ)) := by
  intro tracked htracked
  rw [← Option.some.inj htracked]
  exact bookkept_start

theorem isBookkept_runStep (state : Option (TrackedTimers κ τ)) (event : TimerEvent κ τ)
    (h : IsBookkept state) : IsBookkept (runStep state event).1 := by
  intro next hnext
  obtain ⟨tracked, htracked, hstep⟩ := Option.bind_eq_some_iff.mp hnext
  exact bookkept_step (h tracked htracked) hstep

end TrackedTimers

end Tanos
