import Mathlib.Data.List.Basic

/-!
# Loops that poll a source of samples

A polling loop draws one sample after the other and looks at each only once. A `Watch` says at
which samples the loop makes up its mind (`decides`) and whether it is in favour (`hits`). `poll`
watches one target: at the first deciding sample it returns, having caused its effects if that
sample is a hit. `pollTwo` watches two targets at once: the first one is decided at most once, the
second one ends the loop, and a miss of either of them ends it too.

A loop may outlive the samples it is given. `Outcome.rest` is `none` then, and otherwise it holds
the samples the loop has left over.

`Watch.Hit` and `Watch.Missed` speak about a whole list of samples, through the first sample that
decides, and `Watch.index` is the position of that sample. `poll_append_cons` computes a poll from
a split of the samples, and `pollTwo_of_hit`, `pollTwo_of_missed`, `pollTwo_of_lt` and
`pollTwo_of_undecided` reduce a two-target loop to which target is decided first and how.
`pollTwo_of_returns` sums up the ways such a loop can return, and `returns_imp_poll_iff` and
`returns_imp_pollTwo_iff` say exactly when a loop that returns has achieved what it was to.
-/

set_option autoImplicit false
set_option relaxedAutoImplicit false

namespace Tanos.Library.Polling

variable {σ ε : Type*}

/-- What a loop has done: the effects it caused, and the samples left over once it has returned. -/
structure Outcome (σ ε : Type*) where
  effects : List ε
  rest : Option (List σ)
deriving DecidableEq, Repr

namespace Outcome

/-- Effects caused before the rest of a computation ran. -/
def prepend (effects : List ε) (outcome : Outcome σ ε) : Outcome σ ε :=
  ⟨effects ++ outcome.effects, outcome.rest⟩

/-- The loop has come to its end on the samples it was given. -/
def Returns (outcome : Outcome σ ε) : Prop := outcome.rest.isSome

instance (outcome : Outcome σ ε) : Decidable outcome.Returns :=
  inferInstanceAs (Decidable (outcome.rest.isSome = true))

/-- Effects caused after a computation has returned. -/
def followedBy (outcome : Outcome σ ε) (effects : List ε) : Outcome σ ε :=
  ⟨outcome.effects ++ if outcome.Returns then effects else [], outcome.rest⟩

@[simp] theorem effects_prepend (effects : List ε) (outcome : Outcome σ ε) :
    (outcome.prepend effects).effects = effects ++ outcome.effects := rfl

theorem effects_followedBy_of_returns {outcome : Outcome σ ε} (h : outcome.Returns)
    (effects : List ε) : (outcome.followedBy effects).effects = outcome.effects ++ effects := by
  rw [followedBy, if_pos h]

theorem effects_followedBy_of_not_returns {outcome : Outcome σ ε} (h : ¬ outcome.Returns)
    (effects : List ε) : (outcome.followedBy effects).effects = outcome.effects := by
  rw [followedBy, if_neg h, List.append_nil]

end Outcome

/-- A target a loop watches for: the samples at which the loop is decided, and among these the ones
that hit the target. -/
structure Watch (σ : Type*) where
  decides : σ → Bool
  hits : σ → Bool

namespace Watch

/-- The first deciding sample hits the target. -/
def Hit (watch : Watch σ) (samples : List σ) : Prop :=
  ∃ sample, samples.find? watch.decides = some sample ∧ watch.hits sample = true

/-- The first deciding sample does not hit the target. -/
def Missed (watch : Watch σ) (samples : List σ) : Prop :=
  ∃ sample, samples.find? watch.decides = some sample ∧ watch.hits sample = false

/-- The position of the first deciding sample, the number of samples when there is none. -/
def index (watch : Watch σ) (samples : List σ) : ℕ := samples.findIdx watch.decides

theorem not_hit_of_missed {watch : Watch σ} {samples : List σ} (h : watch.Missed samples) :
    ¬ watch.Hit samples := by
  rintro ⟨sample, hfind, hhit⟩
  obtain ⟨other, hother, hmiss⟩ := h
  rw [hother] at hfind
  obtain rfl := Option.some.inj hfind
  rw [hhit] at hmiss
  exact Bool.noConfusion hmiss

theorem hit_or_missed {watch : Watch σ} {samples : List σ} {sample : σ}
    (h : samples.find? watch.decides = some sample) :
    watch.Hit samples ∨ watch.Missed samples := by
  cases hhits : watch.hits sample with
  | true => exact Or.inl ⟨sample, h, hhits⟩
  | false => exact Or.inr ⟨sample, h, hhits⟩

theorem index_eq_length {watch : Watch σ} {samples : List σ} (hhit : ¬ watch.Hit samples)
    (hmissed : ¬ watch.Missed samples) : watch.index samples = samples.length := by
  cases hfind : samples.find? watch.decides with
  | some sample => exact absurd (hit_or_missed hfind) (not_or_intro hhit hmissed)
  | none => exact List.findIdx_eq_length.mpr (by simpa using hfind)

theorem index_lt_length_of_missed {watch : Watch σ} {samples : List σ}
    (h : watch.Missed samples) : watch.index samples < samples.length := by
  obtain ⟨sample, hfind, -⟩ := h
  exact List.findIdx_lt_length.mpr
    ⟨sample, List.mem_of_find?_eq_some hfind, List.find?_some hfind⟩

theorem hit_cons_of_decides {watch : Watch σ} {sample : σ} {rest : List σ}
    (h : watch.decides sample = true) : watch.Hit (sample :: rest) ↔ watch.hits sample = true := by
  simp [Hit, h]

theorem missed_cons_of_decides {watch : Watch σ} {sample : σ} {rest : List σ}
    (h : watch.decides sample = true) :
    watch.Missed (sample :: rest) ↔ watch.hits sample = false := by
  simp [Missed, h]

theorem hit_cons_of_undecided {watch : Watch σ} {sample : σ} {rest : List σ}
    (h : watch.decides sample = false) : watch.Hit (sample :: rest) ↔ watch.Hit rest := by
  simp [Hit, h]

theorem missed_cons_of_undecided {watch : Watch σ} {sample : σ} {rest : List σ}
    (h : watch.decides sample = false) : watch.Missed (sample :: rest) ↔ watch.Missed rest := by
  simp [Missed, h]

theorem index_cons_of_decides {watch : Watch σ} {sample : σ} {rest : List σ}
    (h : watch.decides sample = true) : watch.index (sample :: rest) = 0 := by
  simp [index, List.findIdx_cons, h]

theorem index_cons_of_undecided {watch : Watch σ} {sample : σ} {rest : List σ}
    (h : watch.decides sample = false) :
    watch.index (sample :: rest) = watch.index rest + 1 := by
  simp [index, List.findIdx_cons, h]

end Watch

/-! ### One target -/

/-- A loop that watches one target. -/
def poll (watch : Watch σ) (effects : List ε) : List σ → Outcome σ ε
  | [] => ⟨[], none⟩
  | sample :: rest =>
    if watch.decides sample then ⟨if watch.hits sample then effects else [], some rest⟩
    else poll watch effects rest

variable {watch first second : Watch σ} {effects firstEffects secondEffects : List ε}

theorem poll_cons_of_decides {sample : σ} {rest : List σ} (h : watch.decides sample = true) :
    poll watch effects (sample :: rest) =
      ⟨if watch.hits sample then effects else [], some rest⟩ := by
  simp [poll, h]

theorem poll_cons_of_undecided {sample : σ} {rest : List σ} (h : watch.decides sample = false) :
    poll watch effects (sample :: rest) = poll watch effects rest := by
  simp [poll, h]

/-- The loop runs on as long as no sample decides. -/
theorem poll_of_forall_undecided {past : List σ}
    (hpast : ∀ sample ∈ past, watch.decides sample = false) :
    poll watch effects past = ⟨[], none⟩ := by
  induction past with
  | nil => rfl
  | cons sample past ih =>
    rw [poll_cons_of_undecided (hpast sample List.mem_cons_self)]
    exact ih fun other hother ↦ hpast other (List.mem_cons_of_mem sample hother)

/-- The loop passes over the samples that do not decide, and returns at the one that does. -/
theorem poll_append_cons {past rest : List σ} {now : σ}
    (hpast : ∀ sample ∈ past, watch.decides sample = false) (hnow : watch.decides now = true) :
    poll watch effects (past ++ now :: rest) =
      ⟨if watch.hits now then effects else [], some rest⟩ := by
  induction past with
  | nil => exact poll_cons_of_decides hnow
  | cons sample past ih =>
    rw [List.cons_append, poll_cons_of_undecided (hpast sample List.mem_cons_self)]
    exact ih fun other hother ↦ hpast other (List.mem_cons_of_mem sample hother)

theorem poll_of_hit {samples : List σ} (h : watch.Hit samples) :
    (poll watch effects samples).effects = effects ∧ (poll watch effects samples).Returns := by
  obtain ⟨now, hfind, hhit⟩ := h
  obtain ⟨hnow, past, rest, rfl, hpast⟩ := List.find?_eq_some_iff_append.mp hfind
  rw [poll_append_cons (fun sample hsample ↦ by simpa using hpast sample hsample) hnow]
  simp [hhit, Outcome.Returns]

theorem poll_of_missed {samples : List σ} (h : watch.Missed samples) :
    (poll watch effects samples).effects = [] ∧ (poll watch effects samples).Returns := by
  obtain ⟨now, hfind, hmiss⟩ := h
  obtain ⟨hnow, past, rest, rfl, hpast⟩ := List.find?_eq_some_iff_append.mp hfind
  rw [poll_append_cons (fun sample hsample ↦ by simpa using hpast sample hsample) hnow]
  simp [hmiss, Outcome.Returns]

/-- A loop whose target is neither hit nor missed is still running and has done nothing. -/
theorem poll_of_undecided {samples : List σ} (hhit : ¬ watch.Hit samples)
    (hmissed : ¬ watch.Missed samples) : poll watch effects samples = ⟨[], none⟩ := by
  induction samples with
  | nil => rfl
  | cons sample rest ih =>
    cases hdecides : watch.decides sample with
    | true =>
      exact absurd (Watch.hit_or_missed (List.find?_cons_of_pos hdecides))
        (not_or_intro hhit hmissed)
    | false =>
      rw [poll_cons_of_undecided hdecides]
      exact ih (mt (Watch.hit_cons_of_undecided hdecides).mpr hhit)
        (mt (Watch.missed_cons_of_undecided hdecides).mpr hmissed)

/-- A loop that returns without having missed its target has hit it. -/
theorem hit_of_returns {samples : List σ} (h : (poll watch effects samples).Returns)
    (hmissed : ¬ watch.Missed samples) : watch.Hit samples := by
  by_contra hhit
  rw [poll_of_undecided hhit hmissed] at h
  exact Bool.noConfusion h

theorem effects_poll_subset (samples : List σ) :
    (poll watch effects samples).effects ⊆ effects := by
  by_cases hhit : watch.Hit samples
  · rw [(poll_of_hit hhit).1]
    exact List.Subset.refl effects
  · have hnothing : (poll watch effects samples).effects = [] := by
      by_cases hmissed : watch.Missed samples
      · exact (poll_of_missed hmissed).1
      · rw [poll_of_undecided hhit hmissed]
    rw [hnothing]
    exact List.nil_subset effects

/-- The exact condition for a loop to have achieved something when it returns, where doing nothing
does not achieve it. -/
theorem returns_imp_poll_iff {good : List ε → Prop} (hnil : ¬ good []) (samples : List σ) :
    ((poll watch effects samples).Returns → good (poll watch effects samples).effects) ↔
      ¬ watch.Missed samples ∧ (watch.Hit samples → good effects) := by
  constructor
  · intro h
    constructor
    · intro hmissed
      have hgood := h (poll_of_missed hmissed).2
      rw [(poll_of_missed hmissed).1] at hgood
      exact hnil hgood
    · intro hhit
      have hgood := h (poll_of_hit hhit).2
      rw [(poll_of_hit hhit).1] at hgood
      exact hgood
  · rintro ⟨hmissed, hgood⟩ hreturns
    have hhit := hit_of_returns hreturns hmissed
    rw [(poll_of_hit hhit).1]
    exact hgood hhit

/-! ### Two targets -/

/-- A loop that watches two targets. Once the first target is hit only the second one is left, which
is looked at from that very sample on. -/
def pollTwo (first second : Watch σ) (firstEffects secondEffects : List ε) :
    List σ → Outcome σ ε
  | [] => ⟨[], none⟩
  | sample :: rest =>
    if first.decides sample then
      if first.hits sample then
        (poll second secondEffects (sample :: rest)).prepend firstEffects
      else ⟨[], some rest⟩
    else if second.decides sample then
      ⟨if second.hits sample then secondEffects else [], some rest⟩
    else pollTwo first second firstEffects secondEffects rest

theorem pollTwo_cons_of_undecided {sample : σ} {rest : List σ}
    (hfirst : first.decides sample = false) (hsecond : second.decides sample = false) :
    pollTwo first second firstEffects secondEffects (sample :: rest) =
      pollTwo first second firstEffects secondEffects rest := by
  simp [pollTwo, hfirst, hsecond]

/-- A first target that is undecided at a sample, and decided no later than the second one, leaves
the second one undecided at that sample as well. -/
theorem undecided_of_index_le {sample : σ} {rest : List σ}
    (hle : first.index (sample :: rest) ≤ second.index (sample :: rest))
    (hfirst : first.decides sample = false) :
    second.decides sample = false ∧ first.index rest ≤ second.index rest := by
  rw [Watch.index_cons_of_undecided hfirst] at hle
  cases hsecond : second.decides sample with
  | true =>
    rw [Watch.index_cons_of_decides hsecond] at hle
    exact absurd hle (Nat.not_succ_le_zero _)
  | false =>
    rw [Watch.index_cons_of_undecided hsecond] at hle
    exact ⟨rfl, Nat.succ_le_succ_iff.mp hle⟩

/-- Assumes: the first target is hit, no later than the second one is decided. The loop goes on as
a loop for the second target alone. -/
theorem pollTwo_of_hit {samples : List σ} (hhit : first.Hit samples)
    (hle : first.index samples ≤ second.index samples) :
    pollTwo first second firstEffects secondEffects samples =
      (poll second secondEffects samples).prepend firstEffects := by
  induction samples with
  | nil =>
    obtain ⟨sample, hfind, -⟩ := hhit
    simp at hfind
  | cons sample rest ih =>
    cases hfirst : first.decides sample with
    | true =>
      have hhits := (Watch.hit_cons_of_decides hfirst).mp hhit
      simp [pollTwo, hfirst, hhits]
    | false =>
      obtain ⟨hsecond, hrest⟩ := undecided_of_index_le hle hfirst
      rw [pollTwo_cons_of_undecided hfirst hsecond, poll_cons_of_undecided hsecond]
      exact ih ((Watch.hit_cons_of_undecided hfirst).mp hhit) hrest

/-- Assumes: the first target is missed, no later than the second one is decided. The loop returns
without any effect. -/
theorem pollTwo_of_missed {samples : List σ} (hmissed : first.Missed samples)
    (hle : first.index samples ≤ second.index samples) :
    (pollTwo first second firstEffects secondEffects samples).effects = [] ∧
      (pollTwo first second firstEffects secondEffects samples).Returns := by
  induction samples with
  | nil =>
    obtain ⟨sample, hfind, -⟩ := hmissed
    simp at hfind
  | cons sample rest ih =>
    cases hfirst : first.decides sample with
    | true =>
      have hmiss := (Watch.missed_cons_of_decides hfirst).mp hmissed
      simp [pollTwo, hfirst, hmiss, Outcome.Returns]
    | false =>
      obtain ⟨hsecond, hrest⟩ := undecided_of_index_le hle hfirst
      rw [pollTwo_cons_of_undecided hfirst hsecond]
      exact ih ((Watch.missed_cons_of_undecided hfirst).mp hmissed) hrest

/-- Assumes: the second target is decided before the first one. The loop is a loop for the second
target alone. -/
theorem pollTwo_of_lt {samples : List σ} (hlt : second.index samples < first.index samples) :
    pollTwo first second firstEffects secondEffects samples =
      poll second secondEffects samples := by
  induction samples with
  | nil => rfl
  | cons sample rest ih =>
    cases hfirst : first.decides sample with
    | true =>
      rw [Watch.index_cons_of_decides hfirst] at hlt
      exact absurd hlt (Nat.not_lt_zero _)
    | false =>
      rw [Watch.index_cons_of_undecided hfirst] at hlt
      cases hsecond : second.decides sample with
      | true => simp [pollTwo, poll, hfirst, hsecond]
      | false =>
        rw [Watch.index_cons_of_undecided hsecond] at hlt
        rw [pollTwo_cons_of_undecided hfirst hsecond, poll_cons_of_undecided hsecond]
        exact ih (Nat.succ_lt_succ_iff.mp hlt)

/-- Assumes: the first target is neither hit nor missed, and the second one is not decided before
it. The loop is still running and has done nothing. -/
theorem pollTwo_of_undecided {samples : List σ} (hhit : ¬ first.Hit samples)
    (hmissed : ¬ first.Missed samples) (hle : first.index samples ≤ second.index samples) :
    pollTwo first second firstEffects secondEffects samples = ⟨[], none⟩ := by
  induction samples with
  | nil => rfl
  | cons sample rest ih =>
    cases hfirst : first.decides sample with
    | true =>
      exact absurd (Watch.hit_or_missed (List.find?_cons_of_pos hfirst)) (not_or_intro hhit hmissed)
    | false =>
      obtain ⟨hsecond, hrest⟩ := undecided_of_index_le hle hfirst
      rw [pollTwo_cons_of_undecided hfirst hsecond]
      exact ih (mt (Watch.hit_cons_of_undecided hfirst).mpr hhit)
        (mt (Watch.missed_cons_of_undecided hfirst).mpr hmissed) hrest

/-- The second target gets nothing: it is missed, or the first target is, no later than the second
one is decided. -/
def Abandoned (first second : Watch σ) (samples : List σ) : Prop :=
  second.Missed samples ∨ first.Missed samples ∧ first.index samples ≤ second.index samples

/-- The first target is hit, and the second one is missed at the same sample or later. -/
def HalfDone (first second : Watch σ) (samples : List σ) : Prop :=
  first.Hit samples ∧ second.Missed samples ∧ first.index samples ≤ second.index samples

theorem returns_pollTwo_of_abandoned {samples : List σ} (h : Abandoned first second samples) :
    (pollTwo first second firstEffects secondEffects samples).Returns := by
  by_cases hle : first.index samples ≤ second.index samples
  · by_cases hmissed : first.Missed samples
    · exact (pollTwo_of_missed hmissed hle).2
    · have hsecond := h.resolve_right fun hfirst ↦ hmissed hfirst.1
      by_cases hhit : first.Hit samples
      · rw [pollTwo_of_hit hhit hle]
        exact (poll_of_missed hsecond).2
      · have hindex := Watch.index_lt_length_of_missed hsecond
        rw [Watch.index_eq_length hhit hmissed] at hle
        exact absurd hindex (Nat.not_lt.mpr hle)
  · have hsecond := h.resolve_right fun hfirst ↦ hle hfirst.2
    rw [pollTwo_of_lt (Nat.not_le.mp hle)]
    exact (poll_of_missed hsecond).2

/-- The three ways a loop for two targets can return: it has done half of its work, none of it, or
all that was left to do for the second target. -/
theorem pollTwo_of_returns {samples : List σ}
    (h : (pollTwo first second firstEffects secondEffects samples).Returns) :
    (HalfDone first second samples ∧
      (pollTwo first second firstEffects secondEffects samples).effects = firstEffects) ∨
    (Abandoned first second samples ∧ ¬ HalfDone first second samples ∧
      (pollTwo first second firstEffects secondEffects samples).effects = []) ∨
    (¬ Abandoned first second samples ∧
      ((pollTwo first second firstEffects secondEffects samples).effects = secondEffects ∨
        (pollTwo first second firstEffects secondEffects samples).effects =
          firstEffects ++ secondEffects)) := by
  by_cases hle : first.index samples ≤ second.index samples
  · by_cases hhit : first.Hit samples
    · rw [pollTwo_of_hit hhit hle] at h ⊢
      have hfirst : ¬ first.Missed samples := fun hmissed ↦ Watch.not_hit_of_missed hmissed hhit
      by_cases hsecond : second.Missed samples
      · refine Or.inl ⟨⟨hhit, hsecond, hle⟩, ?_⟩
        rw [Outcome.effects_prepend, (poll_of_missed hsecond).1, List.append_nil]
      · have hsecond_hit := hit_of_returns h hsecond
        refine Or.inr (Or.inr ⟨not_or.mpr ⟨hsecond, fun hboth ↦ hfirst hboth.1⟩, Or.inr ?_⟩)
        rw [Outcome.effects_prepend, (poll_of_hit hsecond_hit).1]
    · by_cases hmissed : first.Missed samples
      · exact Or.inr (Or.inl ⟨Or.inr ⟨hmissed, hle⟩, fun hhalf ↦ hhit hhalf.1,
          (pollTwo_of_missed hmissed hle).1⟩)
      · rw [pollTwo_of_undecided hhit hmissed hle] at h
        exact Bool.noConfusion h
  · have hnot : ¬ HalfDone first second samples := fun hhalf ↦ hle hhalf.2.2
    rw [pollTwo_of_lt (Nat.not_le.mp hle)] at h ⊢
    by_cases hsecond : second.Missed samples
    · exact Or.inr (Or.inl ⟨Or.inl hsecond, hnot, (poll_of_missed hsecond).1⟩)
    · refine Or.inr (Or.inr ⟨not_or.mpr ⟨hsecond, fun hboth ↦ hle hboth.2⟩, Or.inl ?_⟩)
      exact (poll_of_hit (hit_of_returns h hsecond)).1

theorem effects_pollTwo_subset (samples : List σ) :
    (pollTwo first second firstEffects secondEffects samples).effects ⊆
      firstEffects ++ secondEffects := by
  have hpoll : (poll second secondEffects samples).effects ⊆ secondEffects :=
    effects_poll_subset samples
  by_cases hle : first.index samples ≤ second.index samples
  · by_cases hhit : first.Hit samples
    · rw [pollTwo_of_hit hhit hle]
      exact List.append_subset.mpr ⟨List.subset_append_left _ _,
        List.Subset.trans hpoll (List.subset_append_right _ _)⟩
    · have hnothing : (pollTwo first second firstEffects secondEffects samples).effects = [] := by
        by_cases hmissed : first.Missed samples
        · exact (pollTwo_of_missed hmissed hle).1
        · rw [pollTwo_of_undecided hhit hmissed hle]
      rw [hnothing]
      exact List.nil_subset _
  · rw [pollTwo_of_lt (Nat.not_le.mp hle)]
    exact List.Subset.trans hpoll (List.subset_append_right _ _)

/-- The exact condition for a loop for two targets to have achieved something when it returns, where
the effects of the second target are what it takes. -/
theorem returns_imp_pollTwo_iff {good : List ε → Prop} (hnil : ¬ good [])
    (hfirst : ¬ good firstEffects) (hsecond : good secondEffects)
    (hboth : good (firstEffects ++ secondEffects)) (samples : List σ) :
    ((pollTwo first second firstEffects secondEffects samples).Returns →
      good (pollTwo first second firstEffects secondEffects samples).effects) ↔
      ¬ Abandoned first second samples := by
  constructor
  · intro h habandoned
    have hreturns : (pollTwo first second firstEffects secondEffects samples).Returns :=
      returns_pollTwo_of_abandoned habandoned
    have hgood := h hreturns
    rcases pollTwo_of_returns hreturns with ⟨-, heffects⟩ | ⟨-, -, heffects⟩ | ⟨hnot, -⟩
    · exact hfirst (heffects ▸ hgood)
    · exact hnil (heffects ▸ hgood)
    · exact hnot habandoned
  · intro hnot hreturns
    rcases pollTwo_of_returns hreturns with ⟨hhalf, -⟩ | ⟨habandoned, -⟩ | ⟨-, heffects | heffects⟩
    · exact absurd (Or.inl hhalf.2.1) hnot
    · exact absurd habandoned hnot
    · rw [heffects]
      exact hsecond
    · rw [heffects]
      exact hboth

end Tanos.Library.Polling
