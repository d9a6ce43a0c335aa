import Tanos.Utils.TimerEvents

/-!
# The lookups of the timers

`cancel` follows the pointer it finds in `m_timers`, and a handler looks its flag up in
`timer_repeat` behind its task; neither looks whether there is an entry. Entries of `m_timers` are
never erased, so that an id needs to have been registered once. Those of `timer_repeat` are erased
by every `cancel`, whether the timer can still be aborted or not, so that the id of a handler needs
to be registered when its task returns. `always_isDefined_iff` says that nothing else is needed.
-/

set_option autoImplicit false
set_option relaxedAutoImplicit false

namespace Tanos

open Library.Runs

namespace TrackedTimers

variable {κ τ : Type} [DecidableEq κ]

/-- No lookup has failed. -/
def IsDefined (state : Option (TrackedTimers κ τ)) : Prop := ∃ tracked, state = some tracked

/-- A cancel is one of an id that has been registered, and at the end of a task the id of its timer
has been registered since it was last cancelled. -/
def FindsEntry (tracked : TrackedTimers κ τ) : TimerEvent κ τ → Prop
  | .cancel id _ => tracked.wasRegistered id = true
  | .finish number => ∀ timer, tracked.timers[number]? = some timer → timer.status = .running →
      ∃ registration, tracked.registration timer.id = some registration
  | .register _ _ _ | .expire _ | .call _ => True

/-- As long as there is a state, the step finds its entry. -/
def FindsEntries (state : Option (TrackedTimers κ τ)) (event : TimerEvent κ τ) : Prop :=
  ∀ tracked, state = some tracked → tracked.FindsEntry event

/-- The end of a handler is defined if its flag is in the map. -/
theorem finish_eq_none_iff (tracked : TrackedTimers κ τ) (number : ℕ) :
    tracked.finish number = none ↔ ∃ timer, tracked.timers[number]? = some timer ∧
      timer.status = .running ∧ tracked.timerRepeat timer.id = none := by
  unfold finish
  cases tracked.timers[number]? with
  | none => simp
  | some timer =>
    simp only [Option.some.injEq, exists_eq_left']
    split_ifs with hrunning
    · cases tracked.timerRepeat timer.id with
      | none => simp [hrunning]
      | some repeating => cases repeating <;> simp
    · simp [hrunning]

/-- A step is defined exactly if it finds its entry. -/
theorem step_ne_none_iff {tracked : TrackedTimers κ τ} (h : Bookkept tracked)
    (event : TimerEvent κ τ) : tracked.step event ≠ none ↔ tracked.FindsEntry event := by
  cases event with
  | register id repeating task => exact iff_of_true (Option.some_ne_none _) trivial
  | cancel id repeating =>
    calc tracked.step (.cancel id repeating) ≠ none
        ↔ (tracked.mTimers id).isSome = true := by
          rw [step, ne_eq, Option.map_eq_none_iff, Option.isSome_iff_ne_none]
      _ ↔ tracked.FindsEntry (.cancel id repeating) := by rw [h.isSome_mTimers, FindsEntry]
  | expire number => exact iff_of_true (Option.some_ne_none _) trivial
  | call number =>
    refine iff_of_true ?_ trivial
    simp only [step, TimerManager.step]
    split_ifs <;> exact Option.some_ne_none _
  | finish number =>
    rw [step, ne_eq, finish_eq_none_iff, FindsEntry]
    push Not
    refine forall_congr' fun timer ↦ forall_congr' fun _ ↦ forall_congr' fun _ ↦ ?_
    rw [← Option.isSome_iff_ne_none, h.isSome_timerRepeat, Option.isSome_iff_exists]

theorem isDefined_runStep_iff (state : Option (TrackedTimers κ τ)) (event : TimerEvent κ τ)
    (hbookkept : IsBookkept state) (hdefined : IsDefined state) :
    IsDefined (runStep state event).1 ↔ FindsEntries state event := by
  obtain ⟨tracked, rfl⟩ := hdefined
  have hstep := step_ne_none_iff (hbookkept tracked rfl) event
  calc IsDefined (runStep (some tracked) event).1
      ↔ tracked.step event ≠ none := Option.ne_none_iff_exists'.symm
    _ ↔ FindsEntries (some tracked) event := by simp [hstep, FindsEntries]

/-- In a run of calls and timers no lookup fails precisely when only registered ids are cancelled,
and every task returns while its id is registered. -/
theorem always_isDefined_iff (events : List (TimerEvent κ τ)) :
    Always runStep IsDefined (some start) events ↔
      EveryStep runStep FindsEntries (some (start : TrackedTimers κ τ)) events := by
  have hstart : IsDefined (some (start : TrackedTimers κ τ)) := ⟨start, rfl⟩
  exact always_iff_everyStep_of_invariant isBookkept_runStep isDefined_runStep_iff
    isBookkept_start hstart events

/-- An id that has never been registered is cancelled, and a task cancels its own id. -/
theorem not_always_isDefined_cancel :
    ¬ Always runStep IsDefined (some start) [(.cancel 7 false : TimerEvent ℕ ℕ)] ∧
      ¬ Always runStep IsDefined (some start)
        [TimerEvent.register 7 true 0, .expire 0, .call 0, .cancel 7 false, .finish 0] := by
  constructor
  · intro halways
    obtain ⟨tracked, htracked⟩ := halways _ (List.prefix_refl _)
    cases htracked
  · intro halways
    obtain ⟨tracked, htracked⟩ := halways _ (List.prefix_refl _)
    cases htracked

end TrackedTimers

end Tanos
