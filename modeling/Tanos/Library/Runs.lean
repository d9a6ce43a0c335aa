import Mathlib.Data.List.Basic

/-!
# Runs of a deterministic machine with outputs

A machine is a step function `step : σ → ε → σ × List ω`: in a state it consumes one event, moves
to the next state and emits a list of outputs. This module is about whole runs, that is lists of
events. `finalState` is the state a run ends in and `outputs` everything it emits. `Always` says
that a property holds in every state a run passes through, and `EveryStep` that a condition on the
state before a step and on the event of that step is met along the run.

`always_of_step` is the invariant rule, `always_of_everyStep` the same under a condition, and
`forall_mem_outputs_of_invariant` its companion for outputs. `forall_mem_outputs_of_always` is the
latter along a run that keeps a property, and `countP_outputs_le_of_potential` bounds the number of
outputs of such a run. Where a property is about the outputs of many steps,
`finalState_foldl_outputs_of_everyStep` relates the state to a record of the outputs so far.
`content_outputs_of_step` is about a content that is first in, first out.
`outputs_eq_outputs_of_lockstep` compares two runs on the same events, and `run_congr` the runs of
two machines.
`always_iff_everyStep` is the exact form: when a step keeps the property precisely under a
condition, a run keeps it precisely when each of its steps meets the condition, possibly beside an
invariant (`always_iff_everyStep_of_invariant`). `everyStep_iff_everyStep` is the same for a
condition in place of the property. A condition on the events alone is one on each event
(`everyStep_iff_forall_mem`), and two conditions are met together when each is (`everyStep_and`).

Three rules are about reaching a state, with a rank that decreases on the way there. By
`exists_run_of_rank` some run reaches it, by `finalState_of_rank` every run that is long enough, and
by `rank_finalState_le` every run with enough events of those that decrease the rank.
-/

set_option autoImplicit false
set_option relaxedAutoImplicit false

namespace Tanos.Library.Runs

variable {σ ε ω : Type*}

/-- The state in which a run ends. -/
def finalState (step : σ → ε → σ × List ω) (state : σ) (events : List ε) : σ :=
  events.foldl (fun current event ↦ (step current event).1) state

/-- Everything a run emits, in order. -/
def outputs (step : σ → ε → σ × List ω) (state : σ) : List ε → List ω
  | [] => []
  | event :: rest => (step state event).2 ++ outputs step (step state event).1 rest

/-- A property of states that holds in every state a run passes through, its first and its last
state included. -/
def Always (step : σ → ε → σ × List ω) (property : σ → Prop) (state : σ) (events : List ε) : Prop :=
  ∀ past, past <+: events → property (finalState step state past)

/-- A condition on the state before a step and on the event of the step that every step of a run
meets. -/
def EveryStep (step : σ → ε → σ × List ω) (condition : σ → ε → Prop) (state : σ)
    (events : List ε) : Prop :=
  ∀ past event, past ++ [event] <+: events → condition (finalState step state past) event

variable {step : σ → ε → σ × List ω} {property : σ → Prop} {condition : σ → ε → Prop}

@[simp] theorem finalState_nil (state : σ) : finalState step state [] = state := rfl

@[simp] theorem finalState_cons (state : σ) (event : ε) (rest : List ε) :
    finalState step state (event :: rest) = finalState step (step state event).1 rest := rfl

theorem finalState_append (state : σ) (events later : List ε) :
    finalState step state (events ++ later) =
      finalState step (finalState step state events) later :=
  List.foldl_append

@[simp] theorem outputs_nil (state : σ) : outputs step state [] = [] := rfl

@[simp] theorem outputs_cons (state : σ) (event : ε) (rest : List ε) :
    outputs step state (event :: rest) =
      (step state event).2 ++ outputs step (step state event).1 rest := rfl

@[simp] theorem always_nil (state : σ) : Always step property state [] ↔ property state := by
  constructor
  · intro h
    exact h [] (List.prefix_refl _)
  · intro h past hpast
    rw [List.prefix_nil.mp hpast]
    exact h

@[simp] theorem always_cons (state : σ) (event : ε) (rest : List ε) :
    Always step property state (event :: rest) ↔
      property state ∧ Always step property (step state event).1 rest := by
  constructor
  · intro h
    refine ⟨h [] (List.nil_prefix), fun past hpast ↦ ?_⟩
    exact h (event :: past) (List.prefix_cons_inj event |>.mpr hpast)
  · rintro ⟨hstate, hrest⟩ past hpast
    rcases List.prefix_cons_iff.mp hpast with rfl | ⟨tail, rfl, htail⟩
    · exact hstate
    · exact hrest tail htail

@[simp] theorem everyStep_nil (state : σ) : EveryStep step condition state [] := by
  intro past event hpast
  have hempty := List.prefix_nil.mp hpast
  simp at hempty

@[simp] theorem everyStep_cons (state : σ) (event : ε) (rest : List ε) :
    EveryStep step condition state (event :: rest) ↔
      condition state event ∧ EveryStep step condition (step state event).1 rest := by
  constructor
  · intro h
    refine ⟨h [] event ?_, fun past later hpast ↦ ?_⟩
    · exact ⟨rest, rfl⟩
    · exact h (event :: past) later (List.prefix_cons_inj event |>.mpr hpast)
  · rintro ⟨hstate, hrest⟩ past later hpast
    cases past with
    | nil =>
      obtain ⟨rfl, -⟩ := List.cons_prefix_cons.mp hpast
      exact hstate
    | cons first tail =>
      obtain ⟨rfl, htail⟩ := List.cons_prefix_cons.mp hpast
      exact hrest tail later htail

@[simp] theorem outputs_append (state : σ) (events later : List ε) :
    outputs step state (events ++ later) =
      outputs step state events ++ outputs step (finalState step state events) later := by
  induction events generalizing state with
  | nil => rfl
  | cons event rest ih =>
    rw [List.cons_append, outputs_cons, outputs_cons, finalState_cons, ih, List.append_assoc]

@[simp] theorem always_append (state : σ) (events later : List ε) :
    Always step property state (events ++ later) ↔
      Always step property state events ∧
        Always step property (finalState step state events) later := by
  induction events generalizing state with
  | nil =>
    refine ⟨fun h ↦ ⟨(always_nil state).mpr (h [] List.nil_prefix), h⟩, fun h ↦ h.2⟩
  | cons event rest ih =>
    rw [List.cons_append, always_cons, always_cons, finalState_cons, ih, and_assoc]

instance decidableAlways [DecidablePred property] :
    ∀ (state : σ) (events : List ε), Decidable (Always step property state events)
  | state, [] => decidable_of_iff _ (always_nil state).symm
  | state, event :: rest =>
    have := decidableAlways (step state event).1 rest
    decidable_of_iff _ (always_cons state event rest).symm

instance decidableEveryStep [∀ state, DecidablePred (condition state)] :
    ∀ (state : σ) (events : List ε), Decidable (EveryStep step condition state events)
  | state, [] => .isTrue (everyStep_nil state)
  | state, event :: rest =>
    have := decidableEveryStep (step state event).1 rest
    decidable_of_iff _ (everyStep_cons state event rest).symm

/-- The invariant rule: a property of the first state that every step of a run keeps holds
throughout the run. -/
theorem always_of_step {state : σ} {events : List ε}
    (hstep : ∀ current, ∀ event ∈ events, property current → property (step current event).1)
    (hstate : property state) : Always step property state events := by
  induction events generalizing state with
  | nil => exact (always_nil state).mpr hstate
  | cons event rest ih =>
    refine (always_cons state event rest).mpr ⟨hstate, ih ?_ ?_⟩
    · exact fun current later hlater ↦ hstep current later (List.mem_cons_of_mem event hlater)
    · exact hstep state event List.mem_cons_self hstate

/-- The invariant rule under a condition: a property of the first state that every step under the
condition keeps holds throughout a run whose steps meet the condition. -/
theorem always_of_everyStep {state : σ} {events : List ε}
    (hstep : ∀ current event, condition current event → property current →
      property (step current event).1)
    (hevents : EveryStep step condition state events) (hstate : property state) :
    Always step property state events := by
  induction events generalizing state with
  | nil => exact (always_nil state).mpr hstate
  | cons event rest ih =>
    obtain ⟨hnow, hlater⟩ := (everyStep_cons state event rest).mp hevents
    exact (always_cons state event rest).mpr ⟨hstate, ih hlater (hstep state event hnow hstate)⟩

/-- The state a run ends in keeps an invariant of its steps. -/
theorem finalState_of_step {state : σ} {events : List ε}
    (hstep : ∀ current, ∀ event ∈ events, property current → property (step current event).1)
    (hstate : property state) : property (finalState step state events) :=
  always_of_step hstep hstate events (List.prefix_refl events)

/-- The invariant rule for outputs: when every step of a run keeps an invariant, and every output of
a step from a state with the invariant has a property, all outputs of the run have it. -/
theorem forall_mem_outputs_of_invariant {good : ω → Prop} {state : σ} {events : List ε}
    (hstep : ∀ current, ∀ event ∈ events, property current → property (step current event).1)
    (houtput : ∀ current, ∀ event ∈ events, property current →
      ∀ output ∈ (step current event).2, good output)
    (hstate : property state) : ∀ output ∈ outputs step state events, good output := by
  induction events generalizing state with
  | nil => simp
  | cons event rest ih =>
    intro output hmem
    rcases List.mem_append.mp hmem with hnow | hlater
    · exact houtput state event List.mem_cons_self hstate output hnow
    · refine ih ?_ ?_ (hstep state event List.mem_cons_self hstate) output hlater
      · exact fun current later hrest ↦ hstep current later (List.mem_cons_of_mem event hrest)
      · exact fun current later hrest ↦ houtput current later (List.mem_cons_of_mem event hrest)

/-- The invariant rule for outputs along a run that keeps a property throughout. -/
theorem forall_mem_outputs_of_always {invariant : σ → Prop} {good : ω → Prop} {state : σ}
    {events : List ε}
    (hstep : ∀ current event, property current → invariant current →
      invariant (step current event).1)
    (houtput : ∀ current event, property current → invariant current →
      ∀ output ∈ (step current event).2, good output)
    (halways : Always step property state events) (hstate : invariant state) :
    ∀ output ∈ outputs step state events, good output := by
  induction events generalizing state with
  | nil => simp
  | cons event rest ih =>
    obtain ⟨hproperty, hrest⟩ := (always_cons state event rest).mp halways
    intro output hmem
    rcases List.mem_append.mp hmem with hnow | hlater
    · exact houtput state event hproperty hstate output hnow
    · exact ih hrest (hstep state event hproperty hstate) output hlater

/-- The rule for bounds: when, along a run that keeps a property throughout, every step pays for the
outputs it adds to a count out of a potential, the count stays within the potential at the start. -/
theorem countP_outputs_le_of_potential {counted : ω → Bool} {potential : σ → ℕ} {state : σ}
    {events : List ε}
    (hstep : ∀ current event, property current →
      (step current event).2.countP counted + potential (step current event).1 ≤
        potential current)
    (halways : Always step property state events) :
    (outputs step state events).countP counted ≤ potential state := by
  induction events generalizing state with
  | nil => exact Nat.zero_le _
  | cons event rest ih =>
    obtain ⟨hproperty, hrest⟩ := (always_cons state event rest).mp halways
    rw [outputs_cons, List.countP_append]
    calc (step state event).2.countP counted +
          (outputs step (step state event).1 rest).countP counted
        ≤ (step state event).2.countP counted + potential (step state event).1 :=
          Nat.add_le_add_left (ih hrest) _
      _ ≤ potential state := hstep state event hproperty

/-- The invariant rule for the state and a record of the outputs: when every step of a run that
meets a condition keeps them in a relation, they are in it at the end. -/
theorem finalState_foldl_outputs_of_everyStep {ρ : Type*} {record : ρ → ω → ρ}
    {relation : σ → ρ → Prop} {state : σ} {start : ρ} {events : List ε}
    (hstep : ∀ current past, ∀ event ∈ events, condition current event → relation current past →
      relation (step current event).1 ((step current event).2.foldl record past))
    (hevents : EveryStep step condition state events) (hstart : relation state start) :
    relation (finalState step state events) ((outputs step state events).foldl record start) := by
  induction events generalizing state start with
  | nil => exact hstart
  | cons event rest ih =>
    obtain ⟨hcondition, hrest⟩ := (everyStep_cons state event rest).mp hevents
    rw [finalState_cons, outputs_cons, List.foldl_append]
    refine ih ?_ hrest (hstep state start event List.mem_cons_self hcondition hstart)
    intro current past later hlater
    exact hstep current past later (List.mem_cons_of_mem event hlater)

/-- The same with all outputs for the record. -/
theorem finalState_outputs_of_everyStep (relation : σ → List ω → Prop) {state : σ}
    {past : List ω} {events : List ε}
    (hstep : ∀ current past event, condition current event → relation current past →
      relation (step current event).1 (past ++ (step current event).2))
    (hevents : EveryStep step condition state events) (hstart : relation state past) :
    relation (finalState step state events) (past ++ outputs step state events) := by
  induction events generalizing state past with
  | nil =>
    rw [outputs_nil, List.append_nil]
    exact hstart
  | cons event rest ih =>
    obtain ⟨hcondition, hrest⟩ := (everyStep_cons state event rest).mp hevents
    rw [finalState_cons, outputs_cons, ← List.append_assoc]
    exact ih hrest (hstep state past event hcondition hstart)

/-- The rule for what is first in, first out: when every step from a state with an invariant puts
what enters behind a content and takes what leaves from its front, a run does the same. -/
theorem content_outputs_of_step {α : Type*} {content : σ → List α}
    {entering leaving : ω → Option α} {state : σ} {events : List ε}
    (hkeep : ∀ current event, property current → property (step current event).1)
    (hstep : ∀ current event, property current →
      content current ++ (step current event).2.filterMap entering =
        (step current event).2.filterMap leaving ++ content (step current event).1)
    (hstate : property state) :
    content state ++ (outputs step state events).filterMap entering =
      (outputs step state events).filterMap leaving ++ content (finalState step state events) := by
  induction events generalizing state with
  | nil => simp
  | cons event rest ih =>
    rw [outputs_cons, finalState_cons, List.filterMap_append, List.filterMap_append,
      ← List.append_assoc, hstep state event hstate, List.append_assoc, List.append_assoc,
      ih (hkeep state event hstate)]

/-- The rule for two runs on the same events: when steps that meet a condition keep the states in a
relation and emit the same outputs, the runs emit the same outputs. -/
theorem outputs_eq_outputs_of_lockstep {relation : σ → σ → Prop} {first second : σ}
    {events : List ε}
    (hstep : ∀ first second event, condition first event → condition second event →
      relation first second → relation (step first event).1 (step second event).1 ∧
        (step first event).2 = (step second event).2)
    (hfirst : EveryStep step condition first events)
    (hsecond : EveryStep step condition second events) (hrelation : relation first second) :
    outputs step first events = outputs step second events := by
  induction events generalizing first second with
  | nil => rfl
  | cons event rest ih =>
    obtain ⟨hnow, hlater⟩ := (everyStep_cons first event rest).mp hfirst
    obtain ⟨hnow', hlater'⟩ := (everyStep_cons second event rest).mp hsecond
    obtain ⟨hnext, houtputs⟩ := hstep first second event hnow hnow' hrelation
    rw [outputs_cons, outputs_cons, houtputs, ih hlater hlater' hnext]

/-- The rule for two machines: when their steps are the same from states with an invariant, so are
their runs. -/
theorem run_congr {other : σ → ε → σ × List ω} {state : σ} {events : List ε}
    (hkeep : ∀ current, ∀ event ∈ events, property current → property (step current event).1)
    (hsame : ∀ current, ∀ event ∈ events, property current →
      step current event = other current event)
    (hstate : property state) :
    finalState step state events = finalState other state events ∧
      outputs step state events = outputs other state events := by
  induction events generalizing state with
  | nil => exact ⟨rfl, rfl⟩
  | cons event rest ih =>
    have hnow := hsame state event List.mem_cons_self hstate
    obtain ⟨hfinal, houtputs⟩ := ih
      (fun current later hlater ↦ hkeep current later (List.mem_cons_of_mem event hlater))
      (fun current later hlater ↦ hsame current later (List.mem_cons_of_mem event hlater))
      (hkeep state event List.mem_cons_self hstate)
    rw [hnow] at hfinal houtputs
    rw [finalState_cons, outputs_cons, hnow, hfinal, houtputs]
    exact ⟨rfl, rfl⟩

/-- The exact invariant rule beside an invariant: when, from a state with the property, a step keeps
the property precisely under a condition, a run that starts in such a state keeps it throughout
precisely when each of its steps meets the condition. -/
theorem always_iff_everyStep_of_invariant {invariant : σ → Prop}
    (hkeep : ∀ state event, invariant state → invariant (step state event).1)
    (hstep : ∀ state event, invariant state → property state →
      (property (step state event).1 ↔ condition state event))
    {state : σ} (hinvariant : invariant state) (hstate : property state) (events : List ε) :
    Always step property state events ↔ EveryStep step condition state events := by
  induction events generalizing state with
  | nil => simp [hstate]
  | cons event rest ih =>
    rw [always_cons, everyStep_cons]
    constructor
    · rintro ⟨-, hrest⟩
      have hnext : property (step state event).1 := hrest [] List.nil_prefix
      exact ⟨(hstep _ _ hinvariant hstate).mp hnext, (ih (hkeep _ _ hinvariant) hnext).mp hrest⟩
    · rintro ⟨hcondition, hrest⟩
      have hnext := (hstep _ _ hinvariant hstate).mpr hcondition
      exact ⟨hstate, (ih (hkeep _ _ hinvariant) hnext).mpr hrest⟩

/-- The exact invariant rule, without another invariant. -/
theorem always_iff_everyStep
    (hstep : ∀ state event, property state → (property (step state event).1 ↔
      condition state event))
    {state : σ} (hstate : property state) (events : List ε) :
    Always step property state events ↔ EveryStep step condition state events := by
  have hkeep : ∀ (current : σ) (event : ε), (fun _ ↦ True) current →
      (fun _ ↦ True) (step current event).1 := fun _ _ h ↦ h
  exact always_iff_everyStep_of_invariant hkeep (fun current event _ ↦ hstep current event) trivial
    hstate events

/-- The exact rule for two conditions: when, from a state with the property, they are the same on
every step, and a step that meets them keeps the property, they are the same on every run that
starts in such a state. -/
theorem everyStep_iff_everyStep {other : σ → ε → Prop}
    (hiff : ∀ state event, property state → (condition state event ↔ other state event))
    (hkeep : ∀ state event, property state → condition state event →
      property (step state event).1)
    {state : σ} (hstate : property state) (events : List ε) :
    EveryStep step condition state events ↔ EveryStep step other state events := by
  induction events generalizing state with
  | nil => simp
  | cons event rest ih =>
    rw [everyStep_cons, everyStep_cons]
    constructor
    · rintro ⟨hcondition, hrest⟩
      have hnext := hkeep state event hstate hcondition
      exact ⟨(hiff state event hstate).mp hcondition, (ih hnext).mp hrest⟩
    · rintro ⟨hother, hrest⟩
      have hcondition := (hiff state event hstate).mpr hother
      exact ⟨hcondition, (ih (hkeep state event hstate hcondition)).mpr hrest⟩

/-- A condition on the events alone is met along a run when every event meets it. -/
theorem everyStep_iff_forall_mem {condition : ε → Prop} (state : σ) (events : List ε) :
    EveryStep step (fun _ event ↦ condition event) state events ↔
      ∀ event ∈ events, condition event := by
  induction events generalizing state with
  | nil => simp
  | cons event rest ih => rw [everyStep_cons, ih, List.forall_mem_cons]

/-- Two conditions are met along a run when each of them is. -/
theorem everyStep_and {first second : σ → ε → Prop} (state : σ) (events : List ε) :
    EveryStep step (fun current event ↦ first current event ∧ second current event) state events ↔
      EveryStep step first state events ∧ EveryStep step second state events := by
  constructor
  · intro h
    exact ⟨fun past event hpast ↦ (h past event hpast).1,
      fun past event hpast ↦ (h past event hpast).2⟩
  · rintro ⟨hfirst, hsecond⟩ past event hpast
    exact ⟨hfirst past event hpast, hsecond past event hpast⟩

/-- What holds throughout a run holds behind each of its steps. -/
theorem everyStep_of_always {state : σ} {events : List ε}
    (halways : Always step property state events) :
    EveryStep step (fun current event ↦ property (step current event).1) state events := by
  intro past event hpast
  have hnext := halways _ hpast
  rw [finalState_append] at hnext
  exact hnext

/-! ### Reaching a state -/

/-- When a state with the property is a goal or has an allowed event that keeps the property and
decreases a rank, some run of allowed events keeps the property and reaches a goal. -/
theorem exists_run_of_rank {allowed : ε → Prop} {goal : σ → Prop} (rank : σ → ℕ)
    (hstep : ∀ current, property current → ¬ goal current → ∃ event, allowed event ∧
      property (step current event).1 ∧ rank (step current event).1 < rank current)
    {state : σ} (hstate : property state) :
    ∃ events, (∀ event ∈ events, allowed event) ∧ Always step property state events ∧
      goal (finalState step state events) := by
  induction hrank : rank state using Nat.strongRecOn generalizing state with
  | ind bound ih =>
    by_cases hgoal : goal state
    · exact ⟨[], List.forall_mem_nil _, (always_nil state).mpr hstate, hgoal⟩
    · obtain ⟨event, hallowed, hnext, hless⟩ := hstep state hstate hgoal
      obtain ⟨events, hevents, halways, hreached⟩ := ih _ (hrank ▸ hless) hnext rfl
      refine ⟨event :: events, ?_, ?_, hreached⟩
      · exact List.forall_mem_cons.mpr ⟨hallowed, hevents⟩
      · exact (always_cons state event events).mpr ⟨hstate, halways⟩

/-- When every step from a state with the property keeps it and decreases a rank that is not zero,
every run at least as long as the rank ends with rank zero. -/
theorem finalState_of_rank (rank : σ → ℕ)
    (hstep : ∀ current event, property current →
      property (step current event).1 ∧ rank (step current event).1 ≤ rank current - 1)
    {state : σ} (hstate : property state) {events : List ε} (hlong : rank state ≤ events.length) :
    property (finalState step state events) ∧ rank (finalState step state events) = 0 := by
  induction events generalizing state with
  | nil => exact ⟨hstate, Nat.le_zero.mp hlong⟩
  | cons event rest ih =>
    obtain ⟨hnext, hless⟩ := hstep state event hstate
    have hrest : rank (step state event).1 ≤ rest.length := by
      rw [List.length_cons] at hlong
      omega
    rw [finalState_cons]
    exact ih hnext hrest

/-- When, along a run that keeps a property throughout, no step increases a rank and the counted
ones decrease it, the counted events of the run come off the rank. -/
theorem rank_finalState_le {counted : ε → Bool} (rank : σ → ℕ) {state : σ} {events : List ε}
    (hstep : ∀ current event, property current →
      rank (step current event).1 ≤ rank current - [event].countP counted)
    (halways : Always step property state events) :
    rank (finalState step state events) ≤ rank state - events.countP counted := by
  induction events generalizing state with
  | nil => exact Nat.le_refl _
  | cons event rest ih =>
    obtain ⟨hproperty, hrest⟩ := (always_cons state event rest).mp halways
    have hnow := hstep state event hproperty
    have hlater := ih hrest
    have hcount : ([event] ++ rest).countP counted =
        [event].countP counted + rest.countP counted := List.countP_append
    rw [List.singleton_append] at hcount
    rw [finalState_cons]
    omega

end Tanos.Library.Runs
