import Tanos.Utils.TimerEvents

/-!
# One live timer per id

A timer is live until its task starts or its wait is cancelled. The live timers are to be those of
the latest registrations of their ids, with the flags of these registrations, and none for an id
that has been cancelled (`OnlyLatestLive`). There is then at most one for each id.

`registerTimer` replaces the pointer to a live timer without ending its wait, and keeps the flag of
an earlier registration; `cancel` comes too late for a timer that has expired; and a task that
repeats is registered again beside whatever has been registered under its id in the meantime.
`always_isOnlyLatestLive_iff` says that the timers are as they should be in the runs where none of
this happens and every lookup succeeds.
-/

set_option autoImplicit false
set_option relaxedAutoImplicit false

namespace Tanos

open Library.Runs

namespace TrackedTimers

variable {κ τ : Type}

/-- Every live timer is that of the latest registration of its id, and its flag is in the map. -/
def OnlyLatestLive (tracked : TrackedTimers κ τ) : Prop :=
  ∀ number timer, tracked.timers[number]? = some timer → timer.status.isLive = true →
    ∃ registration, tracked.registration timer.id = some registration ∧
      registration.number = number ∧ registration.task = timer.task ∧
      tracked.timerRepeat timer.id = some registration.repeating

/-- There are timers, and only those of the latest registrations are live. -/
def IsOnlyLatestLive (state : Option (TrackedTimers κ τ)) : Prop :=
  ∃ tracked, state = some tracked ∧ tracked.OnlyLatestLive

/-- No timer of an id is live. -/
def NoneLive (timers : List (TimerObject κ τ)) (id : κ) : Prop :=
  ∀ timer ∈ timers, timer.status.isLive = true → timer.id ≠ id

/-- The call is made where it goes well. An id is registered while none of its timers is live, and
with the flag that is in the map if there is one. It is cancelled after a registration, and while
none of its timers has expired. When a task returns there is a flag for its id, and if it repeats no
timer of the id is live. -/
def KeepsLatest (tracked : TrackedTimers κ τ) : TimerEvent κ τ → Prop
  | .register id repeating _ => NoneLive tracked.timers id ∧
      ∀ flag, tracked.timerRepeat id = some flag → flag = repeating
  | .cancel id _ => tracked.wasRegistered id = true ∧
      ∀ timer ∈ tracked.timers, timer.status = .expired → timer.id ≠ id
  | .finish number => ∀ timer, tracked.timers[number]? = some timer → timer.status = .running →
      ∃ flag, tracked.timerRepeat timer.id = some flag ∧
        (flag = true → NoneLive tracked.timers timer.id)
  | .expire _ | .call _ => True

/-- As long as there is a state, the calls are made where they go well. -/
def KeepsOnlyLatest (state : Option (TrackedTimers κ τ)) (event : TimerEvent κ τ) : Prop :=
  ∀ tracked, state = some tracked → tracked.KeepsLatest event

variable {tracked : TrackedTimers κ τ}

/-! ### Timer objects -/

theorem isLive_expire (timer : TimerObject κ τ) :
    timer.expire.id = timer.id ∧ timer.expire.task = timer.task ∧
      (timer.expire.status.isLive = true → timer.status.isLive = true) := by
  unfold TimerObject.expire
  split_ifs with hpending <;> simp [hpending, TimerStatus.isLive]

theorem isLive_call (timer : TimerObject κ τ) :
    timer.call.id = timer.id ∧ timer.call.task = timer.task ∧
      (timer.call.status.isLive = true → timer.status.isLive = true) := by
  unfold TimerObject.call
  split <;> simp_all [TimerStatus.isLive]

theorem isLive_cancel (timer : TimerObject κ τ) :
    timer.cancel.id = timer.id ∧ timer.cancel.task = timer.task ∧
      (timer.cancel.status.isLive = true → timer.status = .expired) := by
  obtain ⟨id, task, status⟩ := timer
  cases status <;> simp [TimerObject.cancel, TimerStatus.isLive]

/-- A timer object in a list after one has been changed. -/
theorem getElem?_modify_eq_some {timers : List (TimerObject κ τ)}
    {change : TimerObject κ τ → TimerObject κ τ} {number index : ℕ} {changed : TimerObject κ τ}
    (hchanged : (timers.modify number change)[index]? = some changed) :
    ∃ timer, timers[index]? = some timer ∧
      (number = index ∧ changed = change timer ∨ number ≠ index ∧ changed = timer) := by
  rw [List.getElem?_modify] at hchanged
  obtain ⟨timer, htimer, hvalue⟩ := Option.map_eq_some_iff.mp hchanged
  refine ⟨timer, htimer, ?_⟩
  split_ifs at hvalue with hnumber
  · exact Or.inl ⟨hnumber, hvalue.symm⟩
  · exact Or.inr ⟨hnumber, hvalue.symm⟩

/-- Assumes: the change makes no timer live, and keeps what the handler has captured. -/
theorem OnlyLatestLive.modify (h : tracked.OnlyLatestLive) (number : ℕ)
    {change : TimerObject κ τ → TimerObject κ τ}
    (hchange : ∀ timer, (change timer).id = timer.id ∧ (change timer).task = timer.task ∧
      ((change timer).status.isLive = true → timer.status.isLive = true)) :
    (tracked.withManager { tracked.toTimerManager with
      timers := tracked.timers.modify number change }).OnlyLatestLive := by
  intro index changed hchanged hlive
  rcases getElem?_modify_eq_some hchanged with ⟨timer, htimer, ⟨-, rfl⟩ | ⟨-, rfl⟩⟩
  · obtain ⟨hid, htask, hkept⟩ := hchange timer
    rw [hid, htask]
    exact h index timer htimer (hkept hlive)
  · exact h index changed htimer hlive

/-- The end of a task that runs changes no live timer. -/
theorem noneLive_markDone_iff {number : ℕ} {timer : TimerObject κ τ}
    (htimer : tracked.timers[number]? = some timer) (hrunning : timer.status = .running) (id : κ) :
    NoneLive (tracked.markDone number).timers id ↔ NoneLive tracked.timers id := by
  constructor
  · intro hnone other hmem hlive
    obtain ⟨index, hother⟩ := List.getElem?_of_mem hmem
    have hnumber : number ≠ index := by
      rintro rfl
      rw [hother, Option.some_inj] at htimer
      rw [htimer, hrunning] at hlive
      exact Bool.noConfusion hlive
    refine hnone other ?_ hlive
    refine List.mem_of_getElem? (i := index) ?_
    simp only [TimerManager.markDone]
    rw [List.getElem?_modify, hother]
    simp [hnumber]
  · intro hnone changed hmem hlive
    obtain ⟨index, hchanged⟩ := List.getElem?_of_mem hmem
    rcases getElem?_modify_eq_some hchanged with ⟨other, hother, ⟨-, rfl⟩ | ⟨-, rfl⟩⟩
    · exact Bool.noConfusion hlive
    · exact hnone changed (List.mem_of_getElem? hother) hlive

theorem OnlyLatestLive.markDone (h : tracked.OnlyLatestLive) (number : ℕ) :
    (tracked.withManager (tracked.markDone number)).OnlyLatestLive :=
  h.modify number fun _ ↦ ⟨rfl, rfl, fun hlive ↦ Bool.noConfusion hlive⟩

theorem isOnlyLatestLive_some (tracked : TrackedTimers κ τ) :
    IsOnlyLatestLive (some tracked) ↔ tracked.OnlyLatestLive := by
  simp [IsOnlyLatestLive]

/-! ### Calls -/

section Calls

variable [DecidableEq κ]

/-- The new timer is the only live one of its id, and the flag is its own. -/
theorem onlyLatestLive_register_iff (h : tracked.OnlyLatestLive) (id : κ) (repeating : Bool)
    (task : τ) :
    (tracked.register tracked.toTimerManager id repeating task).OnlyLatestLive ↔
      NoneLive tracked.timers id ∧
        ∀ flag, tracked.timerRepeat id = some flag → flag = repeating := by
  have hrepeat := timerRepeat_registerTimer tracked.toTimerManager id repeating task
  have htimers : (tracked.register tracked.toTimerManager id repeating task).timers =
      tracked.timers ++ [⟨id, task, .pending⟩] := rfl
  constructor
  · intro hnext
    constructor
    · rintro timer hmem hlive rfl
      obtain ⟨number, htimer⟩ := List.getElem?_of_mem hmem
      obtain ⟨hnumber, -⟩ := List.getElem?_eq_some_iff.mp htimer
      have hsome :
          (tracked.register tracked.toTimerManager timer.id repeating task).timers[number]? =
            some timer := by
        rw [htimers, List.getElem?_append_left hnumber, htimer]
      obtain ⟨registration, hregistration, hlatest, -, -⟩ := hnext number timer hsome hlive
      simp only [TrackedTimers.register, Function.update_self, Option.some.injEq]
        at hregistration
      rw [← hregistration] at hlatest
      exact absurd hlatest (by simp; omega)
    · intro flag hflag
      have hsome : (tracked.register tracked.toTimerManager id repeating task).timers[
          tracked.timers.length]? = some ⟨id, task, .pending⟩ := by
        rw [htimers, List.getElem?_concat_length]
      obtain ⟨registration, hregistration, -, -, hown⟩ := hnext _ _ hsome rfl
      simp only [TrackedTimers.register, Function.update_self, Option.some.injEq]
        at hregistration
      simp only [TrackedTimers.register, hrepeat, Function.update_self, hflag, Option.getD_some,
        Option.some.injEq, ← hregistration] at hown
      exact hown
  · rintro ⟨hnone, hflags⟩ number timer htimer hlive
    rw [htimers] at htimer
    by_cases hnumber : number < tracked.timers.length
    · rw [List.getElem?_append_left hnumber] at htimer
      have hother : timer.id ≠ id := hnone timer (List.mem_of_getElem? htimer) hlive
      obtain ⟨registration, hregistration⟩ := h number timer htimer hlive
      refine ⟨registration, ?_⟩
      simp only [TrackedTimers.register, hrepeat, Function.update_of_ne hother]
      exact hregistration
    · rw [List.getElem?_append_right (Nat.not_lt.mp hnumber), List.getElem?_singleton] at htimer
      split_ifs at htimer with hlast
      rw [← Option.some.inj htimer]
      refine ⟨⟨tracked.timers.length, task, repeating⟩, ?_, by simp only; omega, rfl, ?_⟩
      · simp only [TrackedTimers.register, Function.update_self]
      · simp only [TrackedTimers.register, hrepeat, Function.update_self]
        cases hflag : tracked.timerRepeat id with
        | none => rfl
        | some flag => rw [Option.getD_some, hflags flag hflag]

/-- A cancel that comes in time leaves no live timer of its id. -/
theorem onlyLatestLive_cancelled_iff (hbookkept : Bookkept tracked) (h : tracked.OnlyLatestLive)
    {id : κ} {number : ℕ} (hpointer : tracked.mTimers id = some number) :
    (tracked.cancelled id number).OnlyLatestLive ↔
      ∀ timer ∈ tracked.timers, timer.status = .expired → timer.id ≠ id := by
  constructor
  · rintro hnext timer hmem hexpired rfl
    obtain ⟨index, htimer⟩ := List.getElem?_of_mem hmem
    have hcancel : timer.cancel = timer := if_neg (by simp [hexpired])
    have hsome : (tracked.cancelled timer.id number).timers[index]? = some timer := by
      change (tracked.timers.modify number TimerObject.cancel)[index]? = some timer
      rw [List.getElem?_modify, htimer]
      simp [hcancel]
    obtain ⟨registration, hregistration, -⟩ := hnext index timer hsome (by rw [hexpired]; rfl)
    simp [TrackedTimers.cancelled] at hregistration
  · intro hexpired index changed hchanged hlive
    obtain ⟨timer, htimer, hcases⟩ := getElem?_modify_eq_some hchanged
    obtain ⟨hid, -, hlate⟩ := isLive_cancel timer
    rcases hcases with ⟨hnumber, rfl⟩ | ⟨hnumber, rfl⟩
    · -- The timer has not been aborted, so that it has expired, and has another id.
      have hother : timer.id ≠ id := hexpired timer (List.mem_of_getElem? htimer) (hlate hlive)
      obtain ⟨registration, hregistration⟩ :=
        h index timer htimer (by rw [hlate hlive]; rfl)
      refine ⟨registration, ?_⟩
      obtain ⟨-, htask, -⟩ := isLive_cancel timer
      simp only [TrackedTimers.cancelled, hid, htask, Function.update_of_ne hother]
      exact hregistration
    · obtain ⟨registration, hregistration, hlatest, htask, hflag⟩ := h index changed htimer hlive
      have hother : changed.id ≠ id := by
        rintro rfl
        have hsame := hbookkept.mTimers_eq changed.id registration hregistration
        rw [hpointer, Option.some_inj, hlatest] at hsame
        exact hnumber hsame
      refine ⟨registration, ?_⟩
      simp only [TrackedTimers.cancelled, Function.update_of_ne hother]
      exact ⟨hregistration, hlatest, htask, hflag⟩

/-- What the end of a handler does to the live timers. -/
theorem isOnlyLatestLive_finish_iff (h : tracked.OnlyLatestLive) (number : ℕ) :
    IsOnlyLatestLive (tracked.finish number) ↔ tracked.KeepsLatest (.finish number) := by
  simp only [TrackedTimers.finish, KeepsLatest]
  cases htimer : tracked.timers[number]? with
  | none =>
    exact iff_of_true ⟨tracked, rfl, h⟩ fun _ hsome ↦ absurd hsome (Option.some_ne_none _).symm
  | some timer =>
    simp only [Option.some.injEq, forall_eq']
    split_ifs with hrunning
    · cases hflag : tracked.timerRepeat timer.id with
      | none => simp [IsOnlyLatestLive, hrunning]
      | some repeating =>
        cases repeating with
        | false =>
          refine iff_of_true ⟨_, rfl, h.markDone number⟩ fun _ ↦ ⟨false, rfl, ?_⟩
          exact fun htrue ↦ absurd htrue Bool.false_ne_true
        | true =>
          have hregister := onlyLatestLive_register_iff (h.markDone number) timer.id true timer.task
          have hnone := noneLive_markDone_iff htimer hrunning timer.id
          have hown : ∀ flag,
              (tracked.withManager (tracked.markDone number)).timerRepeat timer.id = some flag →
                flag = true := by
            intro flag hsome
            exact (Option.some.inj (hflag.symm.trans hsome)).symm
          have hkept : IsOnlyLatestLive (some (tracked.register (tracked.markDone number) timer.id
              true timer.task)) ↔ NoneLive tracked.timers timer.id := by
            rw [← hnone]
            constructor
            · rintro ⟨next, hnext, hlive⟩
              rw [← Option.some.inj hnext] at hlive
              exact (hregister.mp hlive).1
            · exact fun hlive ↦ ⟨_, rfl, hregister.mpr ⟨hlive, hown⟩⟩
          simp [hkept, hrunning]
    · exact iff_of_true ⟨tracked, rfl, h⟩ fun hrunning' ↦ absurd hrunning' hrunning

/-- What a step does to the live timers. -/
theorem isOnlyLatestLive_step_iff (hbookkept : Bookkept tracked) (h : tracked.OnlyLatestLive)
    (event : TimerEvent κ τ) :
    IsOnlyLatestLive (tracked.step event) ↔ tracked.KeepsLatest event := by
  cases event with
  | register id repeating task =>
    rw [step, isOnlyLatestLive_some]
    exact onlyLatestLive_register_iff h id repeating task
  | cancel id repeating =>
    rw [step, KeepsLatest, ← hbookkept.isSome_mTimers]
    cases hpointer : tracked.mTimers id with
    | none => simp [IsOnlyLatestLive]
    | some number =>
      rw [Option.map_some, isOnlyLatestLive_some,
        onlyLatestLive_cancelled_iff hbookkept h hpointer]
      simp
  | expire number => exact iff_of_true ⟨_, rfl, h.modify number isLive_expire⟩ trivial
  | call number =>
    refine iff_of_true ?_ trivial
    simp only [step, TimerManager.step]
    split_ifs with hbusy
    · exact ⟨_, rfl, h⟩
    · exact ⟨_, rfl, h.modify number isLive_call⟩
  | finish number => exact isOnlyLatestLive_finish_iff h number

theorem isOnlyLatestLive_runStep_iff (state : Option (TrackedTimers κ τ))
    (event : TimerEvent κ τ) (hbookkept : IsBookkept state) (h : IsOnlyLatestLive state) :
    IsOnlyLatestLive (runStep state event).1 ↔ KeepsOnlyLatest state event := by
  obtain ⟨tracked, rfl, hlive⟩ := h
  have hstep := isOnlyLatestLive_step_iff (hbookkept tracked rfl) hlive event
  simpa [KeepsOnlyLatest, runStep] using hstep

/-- In a run of calls and timers the live timers are always those of the latest registrations, with
their flags, precisely when every call is made where it goes well. -/
theorem always_isOnlyLatestLive_iff (events : List (TimerEvent κ τ)) :
    Always runStep IsOnlyLatestLive (some start) events ↔
      EveryStep runStep KeepsOnlyLatest (some (start : TrackedTimers κ τ)) events := by
  have hstart : IsOnlyLatestLive (some (start : TrackedTimers κ τ)) := ⟨start, rfl, nofun⟩
  exact always_iff_everyStep_of_invariant isBookkept_runStep isOnlyLatestLive_runStep_iff
    isBookkept_start hstart events

end Calls

/-- An id that is registered twice, one that is cancelled after its timer has expired, and one that
is registered with another flag than before. -/
theorem not_always_isOnlyLatestLive_calls :
    ¬ Always runStep IsOnlyLatestLive (some start)
        [.register 7 false 0, .register 7 false (1 : ℕ)] ∧
      ¬ Always runStep IsOnlyLatestLive (some start)
        [.register 7 false (0 : ℕ), .expire 0, .cancel 7 false] ∧
      ¬ Always runStep IsOnlyLatestLive (some start)
        [.register 7 false 0, .expire 0, .call 0, .finish 0, .register 7 true (1 : ℕ)] := by
  refine ⟨fun halways ↦ ?_, fun halways ↦ ?_, fun halways ↦ ?_⟩
  · obtain ⟨tracked, htracked, hlive⟩ := halways _ (List.prefix_refl _)
    cases htracked
    obtain ⟨registration, hregistration, hnumber, -⟩ := hlive 0 _ rfl rfl
    cases hregistration
    exact absurd hnumber (by decide)
  · obtain ⟨tracked, htracked, hlive⟩ := halways _ (List.prefix_refl _)
    cases htracked
    obtain ⟨registration, hregistration, -⟩ := hlive 0 _ rfl rfl
    cases hregistration
  · obtain ⟨tracked, htracked, hlive⟩ := halways _ (List.prefix_refl _)
    cases htracked
    obtain ⟨registration, hregistration, -, -, hflag⟩ := hlive 1 _ rfl rfl
    cases hregistration
    exact absurd hflag (by decide)

end TrackedTimers

end Tanos
