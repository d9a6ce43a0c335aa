import Tanos.Library.Runs

/-!
# Simulations that skip steps

One machine refines another one when each of its steps is a step of the other one on the abstract
state, with the same outputs, or changes nothing that the other one sees and has no outputs.
`Simulates` says this under a condition on the steps and for states with an invariant, and
`Simulates.run` that a whole run of the first machine then is a run of the second one, on the
events that are left when the skipped steps are taken out (`seen`).
-/

set_option autoImplicit false
set_option relaxedAutoImplicit false

namespace Tanos.Library.Stuttering

open Runs

variable {σ τ ε ω : Type*}

/-- The events of a run without those of the skipped steps. -/
def seen (step : σ → ε → σ × List ω) (skips : σ → ε → Bool) (state : σ) : List ε → List ε
  | [] => []
  | event :: rest =>
    if skips state event then seen step skips (step state event).1 rest
    else event :: seen step skips (step state event).1 rest

/-- Each step of a machine that meets the condition, from a state with the invariant, keeps the
invariant and is matched by a step of the other machine or skipped. -/
structure Simulates (step : σ → ε → σ × List ω) (other : τ → ε → τ × List ω)
    (abstraction : σ → τ) (skips : σ → ε → Bool) (condition : σ → ε → Prop)
    (invariant : σ → Prop) : Prop where
  keeps : ∀ state event, condition state event → invariant state →
    invariant (step state event).1
  matched : ∀ state event, condition state event → invariant state → skips state event = false →
    other (abstraction state) event = (abstraction (step state event).1, (step state event).2)
  skipped : ∀ state event, condition state event → invariant state → skips state event = true →
    abstraction (step state event).1 = abstraction state ∧ (step state event).2 = []

variable {step : σ → ε → σ × List ω} {other : τ → ε → τ × List ω} {abstraction : σ → τ}
  {skips : σ → ε → Bool} {condition : σ → ε → Prop} {invariant : σ → Prop}

theorem seen_sublist (state : σ) (events : List ε) :
    (seen step skips state events).Sublist events := by
  induction events generalizing state with
  | nil => exact List.Sublist.refl []
  | cons event rest ih =>
    unfold seen
    split_ifs with hskip
    · exact (ih _).cons event
    · exact (ih _).cons_cons event

/-- Assumes: no step with an event of some kind is skipped. All events of this kind are seen. -/
theorem filter_seen {kind : ε → Bool}
    (hkind : ∀ state event, kind event = true → skips state event = false) (state : σ)
    (events : List ε) : (seen step skips state events).filter kind = events.filter kind := by
  induction events generalizing state with
  | nil => rfl
  | cons event rest ih =>
    unfold seen
    cases hevent : kind event with
    | true =>
      rw [hkind state event hevent, if_neg Bool.false_ne_true, List.filter_cons_of_pos hevent,
        List.filter_cons_of_pos hevent, ih]
    | false =>
      have hnot : ¬ kind event = true := by simp [hevent]
      rw [List.filter_cons_of_neg hnot]
      split_ifs with hskip
      · exact ih _
      · rw [List.filter_cons_of_neg hnot, ih]

/-- A run whose steps meet the condition is a run of the other machine. -/
theorem Simulates.run (h : Simulates step other abstraction skips condition invariant)
    {state : σ} {events : List ε} (hevents : EveryStep step condition state events)
    (hstate : invariant state) :
    finalState other (abstraction state) (seen step skips state events) =
        abstraction (finalState step state events) ∧
      outputs other (abstraction state) (seen step skips state events) =
        outputs step state events := by
  induction events generalizing state with
  | nil => exact ⟨rfl, rfl⟩
  | cons event rest ih =>
    obtain ⟨hcondition, hrest⟩ := (everyStep_cons state event rest).mp hevents
    obtain ⟨hfinal, houtputs⟩ := ih hrest (h.keeps state event hcondition hstate)
    unfold seen
    split_ifs with hskip
    · obtain ⟨hsame, hnone⟩ := h.skipped state event hcondition hstate hskip
      rw [← hsame, finalState_cons, outputs_cons, hnone, List.nil_append]
      exact ⟨hfinal, houtputs⟩
    · have hmatched := h.matched state event hcondition hstate (by simpa using hskip)
      rw [finalState_cons, outputs_cons, finalState_cons, outputs_cons, hmatched]
      exact ⟨hfinal, congrArg _ houtputs⟩

end Tanos.Library.Stuttering
