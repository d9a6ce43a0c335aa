import Mathlib.Algebra.BigOperators.Group.Finset.Piecewise
import Mathlib.Data.Fintype.Basic
import Tanos.Library.Runs

/-!
# The thread safe queue

`SafeQueue` is a `std::queue` with a mutex and a condition variable. Any number of threads call
`enqueue`, `dequeue` and `empty` at any time, and a run interleaves their steps: a thread takes the
mutex when it is free, works on the queue while it holds it, blocks in `wait`, is woken by
`notify_one` or for no reason, and takes the mutex again.

A thread that is on its way to an element of the queue, and a producer that has pushed one and not
notified yet, are counted in `claims`. While a thread is blocked there are at least as many of them
as elements (`Covered`), so that none of the elements is forgotten.

`lossless_and_awake` has the properties of a run: what has been enqueued is what has been returned
and behind it what is still there, no thread takes from an empty queue, and no element waits for a
blocked thread alone.
-/

set_option autoImplicit false
set_option relaxedAutoImplicit false

namespace Tanos

open Library.Runs

namespace SafeQueue

/-- The calls of a thread. -/
inductive Operation (α : Type) where
  | enqueue (value : α)
  | dequeue
  | empty
deriving DecidableEq, Repr

/-- Where a thread is in its call. A thread between a `Locking` and an `Unlocking` holds the mutex,
apart from one in `wait`, which is blocked first and then takes the mutex again. -/
inductive Phase (α : Type) where
  | idle
  | enqueueLocking (value : α)
  | pushing (value : α)
  | notifying
  | enqueueUnlocking
  | dequeueLocking
  | testing
  | waiting
  | relocking
  | taking
  | dequeueUnlocking (value : α)
  | emptyLocking
  | asking
  | emptyUnlocking (result : Bool)
deriving DecidableEq, Repr

/-- What a run shows: an element behind the others, and the results of the calls. -/
inductive Effect (α : Type) where
  | enqueued (value : α)
  | returned (value : α)
  | answered (result : Bool)
deriving DecidableEq, Repr

/-- What a step of a thread does with the mutex. -/
inductive LockUse where
  | acquires
  | keeps
  | releases
deriving DecidableEq, Repr

/-- A step of a thread: where it is then, what it does with the mutex, the queue behind the step. -/
structure Move (α : Type) where
  phase : Phase α
  lock : LockUse
  queue : List α
  effects : List (Effect α)
deriving DecidableEq, Repr

/-- The first phase of a call. -/
def Operation.start {α : Type} : Operation α → Phase α
  | .enqueue value => .enqueueLocking value
  | .dequeue => .dequeueLocking
  | .empty => .emptyLocking

/-- The next step of a thread. `notify_one` is not among them, since it has a choice; `front` of an
empty queue has no meaning. -/
def Phase.move {α : Type} (queue : List α) : Phase α → Option (Move α)
  | .idle | .notifying | .waiting => none
  -- `enqueue`
  | .enqueueLocking value => some ⟨.pushing value, .acquires, queue, []⟩
  | .pushing value => some ⟨.notifying, .keeps, queue ++ [value], [.enqueued value]⟩
  | .enqueueUnlocking => some ⟨.idle, .releases, queue, []⟩
  -- `dequeue`
  | .dequeueLocking | .relocking => some ⟨.testing, .acquires, queue, []⟩
  | .testing =>
    if queue.isEmpty then some ⟨.waiting, .releases, queue, []⟩
    else some ⟨.taking, .keeps, queue, []⟩
  | .taking => match queue with
    | [] => none
    | value :: rest => some ⟨.dequeueUnlocking value, .keeps, rest, []⟩
  | .dequeueUnlocking value => some ⟨.idle, .releases, queue, [.returned value]⟩
  -- `empty`
  | .emptyLocking => some ⟨.asking, .acquires, queue, []⟩
  | .asking => some ⟨.emptyUnlocking queue.isEmpty, .keeps, queue, []⟩
  | .emptyUnlocking result => some ⟨.idle, .releases, queue, [.answered result]⟩

/-- The thread is blocked in `wait`. -/
def Phase.isWaiting {α : Type} : Phase α → Bool
  | .waiting => true
  | _ => false

/-- The thread is about to call `notify_one`. -/
def Phase.isNotifying {α : Type} : Phase α → Bool
  | .notifying => true
  | _ => false

theorem Phase.isWaiting_iff {α : Type} {phase : Phase α} :
    phase.isWaiting = true ↔ phase = .waiting := by
  cases phase <;> simp [isWaiting]

theorem Phase.isNotifying_iff {α : Type} {phase : Phase α} :
    phase.isNotifying = true ↔ phase = .notifying := by
  cases phase <;> simp [isNotifying]

/-- The thread is on its way to an element: in `dequeue`, awake, and without one. -/
def Phase.isFetching {α : Type} : Phase α → Bool
  | .dequeueLocking | .testing | .relocking | .taking => true
  | _ => false

/-- The thread holds the mutex. -/
def Phase.holdsLock {α : Type} : Phase α → Bool
  | .pushing _ | .notifying | .enqueueUnlocking | .testing | .taking | .dequeueUnlocking _
  | .asking | .emptyUnlocking _ => true
  | _ => false

end SafeQueue

/-- `SafeQueue`, with the owner of its mutex and the threads that use it. -/
structure SafeQueue (ι α : Type) where
  phase : ι → SafeQueue.Phase α
  queueLock : Option ι
  safeQueue : List α

namespace SafeQueue

variable {ι α : Type}

/-- The constructor. No thread has called anything. -/
def new : SafeQueue ι α := ⟨fun _ ↦ .idle, none, []⟩

/-- What happens next. `notify_one` wakes one of the blocked threads, and none if there are none. -/
inductive Event (ι α : Type) where
  | call (thread : ι) (operation : Operation α)
  | run (thread : ι)
  | notifyOne (thread : ι) (woken : Option ι)
  | wakeSpuriously (thread : ι)
deriving DecidableEq, Repr

/-- What `notify_one` may wake. -/
def CanWake (state : SafeQueue ι α) : Option ι → Prop
  | some woken => (state.phase woken).isWaiting = true
  | none => ∀ thread, (state.phase thread).isWaiting = false

instance [Fintype ι] (state : SafeQueue ι α) (woken : Option ι) : Decidable (state.CanWake woken) :=
  match woken with
  | some woken => inferInstanceAs (Decidable ((state.phase woken).isWaiting = true))
  | none => inferInstanceAs (Decidable (∀ thread, (state.phase thread).isWaiting = false))

variable [DecidableEq ι]

/-- A thread is somewhere else. -/
def setPhase (state : SafeQueue ι α) (thread : ι) (phase : Phase α) : SafeQueue ι α :=
  { state with phase := Function.update state.phase thread phase }

@[simp] theorem phase_setPhase_self (state : SafeQueue ι α) (thread : ι) (phase : Phase α) :
    (state.setPhase thread phase).phase thread = phase := Function.update_self ..

theorem phase_setPhase_of_ne (state : SafeQueue ι α) {thread other : ι} (hother : other ≠ thread)
    (phase : Phase α) : (state.setPhase thread phase).phase other = state.phase other :=
  Function.update_of_ne hother ..

/-- The owner of the mutex behind a step of a thread. -/
def LockUse.owner (thread : ι) (before : Option ι) : LockUse → Option ι
  | .acquires => some thread
  | .keeps => before
  | .releases => none

/-- The state behind a step of a thread. -/
def apply (state : SafeQueue ι α) (thread : ι) (move : Move α) : SafeQueue ι α where
  phase := Function.update state.phase thread move.phase
  queueLock := move.lock.owner thread state.queueLock
  safeQueue := move.queue

@[simp] theorem phase_apply_self (state : SafeQueue ι α) (thread : ι) (move : Move α) :
    (state.apply thread move).phase thread = move.phase := Function.update_self ..

theorem phase_apply_of_ne (state : SafeQueue ι α) {thread other : ι} (hother : other ≠ thread)
    (move : Move α) : (state.apply thread move).phase other = state.phase other :=
  Function.update_of_ne hother ..

/-- The next step of a thread, if it has one and does not have to wait for the mutex. -/
def run (state : SafeQueue ι α) (thread : ι) : SafeQueue ι α × List (Effect α) :=
  match (state.phase thread).move state.safeQueue with
  | none => (state, [])
  | some move =>
    if move.lock = .acquires ∧ state.queueLock ≠ none then (state, [])
    else (state.apply thread move, move.effects)

/-- `notify_one`. The woken thread has to take the mutex again. -/
def notifyOne [Fintype ι] (state : SafeQueue ι α) (thread : ι) (woken : Option ι) :
    SafeQueue ι α :=
  if (state.phase thread).isNotifying = true ∧ state.CanWake woken then
    match woken with
    | some woken => (state.setPhase woken .relocking).setPhase thread .enqueueUnlocking
    | none => state.setPhase thread .enqueueUnlocking
  else state

/-- One event. An event that cannot happen changes nothing. -/
def step [Fintype ι] (state : SafeQueue ι α) : Event ι α → SafeQueue ι α × List (Effect α)
  | .call thread operation => match state.phase thread with
    | .idle => (state.setPhase thread operation.start, [])
    | _ => (state, [])
  | .run thread => state.run thread
  | .notifyOne thread woken => (state.notifyOne thread woken, [])
  | .wakeSpuriously thread =>
    if (state.phase thread).isWaiting = true then (state.setPhase thread .relocking, [])
    else (state, [])

/-! ### The steps of a thread -/

/-- The value a thread has taken and not returned yet. -/
def Phase.taken : Phase α → List α
  | .dequeueUnlocking value => [value]
  | _ => []

/-- The thread will take an element, or wake another one for it. -/
def Phase.claims (phase : Phase α) : Bool := phase.isFetching || phase.isNotifying

/-- The value that an effect puts behind the others. -/
def Effect.entering : Effect α → Option α
  | .enqueued value => some value
  | _ => none

/-- The value that an effect gives back. -/
def Effect.leaving : Effect α → Option α
  | .returned value => some value
  | _ => none

/-- What every step of a thread does. -/
structure Move.Follows (queue : List α) (phase : Phase α) (move : Move α) : Prop where
  changes : move.phase ≠ phase
  before : phase.holdsLock = true ↔ move.lock ≠ .acquires
  after : move.phase.holdsLock = true ↔ move.lock ≠ .releases
  nonempty : move.phase = .taking → move.queue ≠ []
  blocked : move.phase.isWaiting = true → move.queue = []
  covers : move.phase.isWaiting = false →
    move.queue.length + phase.claims.toNat ≤ queue.length + move.phase.claims.toNat
  content : phase.taken ++ queue ++ move.effects.filterMap Effect.entering =
    move.effects.filterMap Effect.leaving ++ (move.phase.taken ++ move.queue)

omit [DecidableEq ι] in
theorem follows_of_move {queue : List α} {phase : Phase α} {move : Move α}
    (hmove : phase.move queue = some move) : move.Follows queue phase := by
  revert hmove
  fun_cases Phase.move queue phase <;> intro hmove <;> cases hmove <;> constructor
  all_goals
    simp_all [Phase.holdsLock, Phase.isWaiting, Phase.claims, Phase.isFetching, Phase.isNotifying,
      Phase.taken, Effect.entering, Effect.leaving, List.filterMap_cons]

/-! ### Counting -/

/-- How many threads have a property, where one of them is somewhere else. -/
theorem card_filter_update {β : Type} [Fintype ι] (counted : β → Bool) (value : ι → β) (thread : ι)
    (new : β) :
    (Finset.univ.filter fun other ↦ counted (Function.update value thread new other) = true).card +
        (counted (value thread)).toNat =
      (Finset.univ.filter fun other ↦ counted (value other) = true).card +
        (counted new).toNat := by
  have hweight (weight : ι → β) :
      (Finset.univ.filter fun other ↦ counted (weight other) = true).card =
        ∑ other, (counted (weight other)).toNat := by
    rw [Finset.card_filter]
    refine Finset.sum_congr rfl fun other _ ↦ ?_
    cases counted (weight other) <;> rfl
  have hupdate : (fun other ↦ (counted (Function.update value thread new other)).toNat) =
      Function.update (fun other ↦ (counted (value other)).toNat) thread (counted new).toNat :=
    Function.comp_update (fun phase ↦ (counted phase).toNat) value thread new
  rw [hweight, hweight, hupdate, Finset.sum_update_of_mem (Finset.mem_univ thread),
    ← Finset.sum_sdiff (Finset.singleton_subset_iff.mpr (Finset.mem_univ thread)),
    Finset.sum_singleton]
  omega

/-- How many threads are on their way to an element, or will wake another one. -/
def claims [Fintype ι] (state : SafeQueue ι α) : ℕ :=
  (Finset.univ.filter fun thread ↦ (state.phase thread).claims = true).card

theorem claims_setPhase [Fintype ι] (state : SafeQueue ι α) (thread : ι) (phase : Phase α) :
    (state.setPhase thread phase).claims + (state.phase thread).claims.toNat =
      state.claims + phase.claims.toNat :=
  card_filter_update Phase.claims state.phase thread phase

theorem claims_apply [Fintype ι] (state : SafeQueue ι α) (thread : ι) (move : Move α) :
    (state.apply thread move).claims + (state.phase thread).claims.toNat =
      state.claims + move.phase.claims.toNat :=
  card_filter_update Phase.claims state.phase thread move.phase

/-! ### What holds in every state of a run -/

/-- The mutex is owned by the thread that holds it, and a thread takes only what is there. -/
structure Sound (state : SafeQueue ι α) : Prop where
  owner : ∀ thread, (state.phase thread).holdsLock = true ↔ state.queueLock = some thread
  nonempty : ∀ thread, state.phase thread = .taking → state.safeQueue ≠ []

/-- While a thread is blocked, every element is claimed. -/
def Covered [Fintype ι] (state : SafeQueue ι α) : Prop :=
  (∃ thread, (state.phase thread).isWaiting = true) → state.safeQueue.length ≤ state.claims

/-- What has been enqueued and not returned: the value of the thread that holds the mutex, and the
queue. -/
def content (state : SafeQueue ι α) : List α :=
  (match state.queueLock with
    | some owner => (state.phase owner).taken
    | none => []) ++ state.safeQueue

omit [DecidableEq ι] in
theorem sound_new : (new : SafeQueue ι α).Sound := by
  refine ⟨fun thread ↦ ?_, fun thread htaking ↦ ?_⟩
  · simp [new, Phase.holdsLock]
  · exact absurd htaking (by simp [new])

omit [DecidableEq ι] in
theorem covered_new [Fintype ι] : (new : SafeQueue ι α).Covered :=
  fun _ ↦ Nat.zero_le _

/-- A thread that does not hold the mutex before and behind a step leaves the state sound. -/
theorem Sound.setPhase {state : SafeQueue ι α} (hsound : state.Sound) {thread : ι}
    {phase : Phase α} (hlock : phase.holdsLock = (state.phase thread).holdsLock)
    (htaking : phase ≠ .taking) : (state.setPhase thread phase).Sound := by
  constructor
  · intro other
    by_cases hother : other = thread
    · subst hother
      rw [phase_setPhase_self, hlock]
      exact hsound.owner other
    · rw [phase_setPhase_of_ne _ hother]
      exact hsound.owner other
  · intro other hphase
    by_cases hother : other = thread
    · subst hother
      rw [phase_setPhase_self] at hphase
      exact absurd hphase htaking
    · rw [phase_setPhase_of_ne _ hother] at hphase
      exact hsound.nonempty other hphase

omit [DecidableEq ι] in
/-- Only the thread that has the mutex, or takes it, makes a step. -/
theorem Sound.not_holdsLock_of_ne {state : SafeQueue ι α} (hsound : state.Sound) {thread : ι}
    {move : Move α} (hfollows : move.Follows state.safeQueue (state.phase thread))
    (hfree : move.lock = .acquires → state.queueLock = none) {other : ι} (hother : other ≠ thread) :
    ¬ (state.phase other).holdsLock = true := by
  intro hholds
  have howner := (hsound.owner other).mp hholds
  by_cases hacquires : move.lock = .acquires
  · rw [hfree hacquires] at howner
    exact absurd howner (by simp)
  · rw [(hsound.owner thread).mp (hfollows.before.mpr hacquires), Option.some.injEq] at howner
    exact hother howner.symm

omit [DecidableEq ι] in
/-- A thread has the mutex behind its step, unless it releases it. -/
theorem Sound.owner_move {state : SafeQueue ι α} (hsound : state.Sound) {thread : ι}
    {move : Move α} (hfollows : move.Follows state.safeQueue (state.phase thread)) :
    move.lock.owner thread state.queueLock =
      if move.lock = .releases then none else some thread := by
  cases hlock : move.lock with
  | acquires => rfl
  | releases => rfl
  | keeps =>
    have hholds := hfollows.before.mpr (by rw [hlock]; decide)
    exact (hsound.owner thread).mp hholds

theorem Sound.apply {state : SafeQueue ι α} (hsound : state.Sound) {thread : ι} {move : Move α}
    (hfollows : move.Follows state.safeQueue (state.phase thread))
    (hfree : move.lock = .acquires → state.queueLock = none) :
    (state.apply thread move).Sound := by
  have howner : (state.apply thread move).queueLock = _ := hsound.owner_move hfollows
  constructor
  · intro other
    by_cases hother : other = thread
    · subst hother
      rw [phase_apply_self, hfollows.after, howner]
      split_ifs with hreleases <;> simp [hreleases]
    · rw [phase_apply_of_ne _ hother]
      refine iff_of_false (hsound.not_holdsLock_of_ne hfollows hfree hother) ?_
      rw [howner]
      split_ifs with hreleases
      · exact nofun
      · exact fun hsame ↦ hother (Option.some.inj hsame).symm
  · intro other hphase
    by_cases hother : other = thread
    · subst hother
      rw [phase_apply_self] at hphase
      exact hfollows.nonempty hphase
    · rw [phase_apply_of_ne _ hother] at hphase
      refine absurd ?_ (hsound.not_holdsLock_of_ne hfollows hfree hother)
      rw [hphase]
      rfl

/-- A thread that has had no claim, and is not blocked, keeps the elements covered. -/
theorem Covered.setPhase [Fintype ι] {state : SafeQueue ι α} (hcovered : state.Covered)
    {thread : ι} {phase : Phase α} (hwaiting : phase.isWaiting = false)
    (hclaims : (state.phase thread).claims = false) : (state.setPhase thread phase).Covered := by
  rintro ⟨other, hother⟩
  have hne : other ≠ thread := by
    rintro rfl
    rw [phase_setPhase_self, hwaiting] at hother
    exact absurd hother (by decide)
  rw [phase_setPhase_of_ne _ hne] at hother
  have hbefore := hcovered ⟨other, hother⟩
  have hcount := state.claims_setPhase thread phase
  rw [hclaims] at hcount
  calc state.safeQueue.length ≤ state.claims := hbefore
    _ ≤ (state.setPhase thread phase).claims := by
      rw [Bool.toNat_false] at hcount
      omega

theorem Covered.apply [Fintype ι] {state : SafeQueue ι α} (hcovered : state.Covered) {thread : ι}
    {move : Move α} (hfollows : move.Follows state.safeQueue (state.phase thread)) :
    (state.apply thread move).Covered := by
  rintro ⟨other, hother⟩
  show move.queue.length ≤ _
  cases hwaiting : move.phase.isWaiting with
  | true =>
    rw [hfollows.blocked hwaiting]
    exact Nat.zero_le _
  | false =>
    have hne : other ≠ thread := by
      rintro rfl
      rw [phase_apply_self, hwaiting] at hother
      exact absurd hother (by decide)
    rw [phase_apply_of_ne _ hne] at hother
    have hbefore := hcovered ⟨other, hother⟩
    have hcount := state.claims_apply thread move
    have hstep := hfollows.covers hwaiting
    omega

/-- The claim of the thread that notifies goes to the woken one. -/
theorem covered_notify_some [Fintype ι] {state : SafeQueue ι α} (hcovered : state.Covered)
    {thread woken : ι} (hnotifying : state.phase thread = .notifying)
    (hwaiting : state.phase woken = .waiting) (hne : thread ≠ woken) :
    ((state.setPhase woken .relocking).setPhase thread .enqueueUnlocking).Covered := by
  intro _
  have hbefore : state.safeQueue.length ≤ state.claims :=
    hcovered ⟨woken, Phase.isWaiting_iff.mpr hwaiting⟩
  have hwoken := state.claims_setPhase woken .relocking
  have hnotified :=
    (state.setPhase woken .relocking).claims_setPhase thread .enqueueUnlocking
  rw [hwaiting] at hwoken
  rw [phase_setPhase_of_ne _ hne, hnotifying] at hnotified
  calc state.safeQueue.length ≤ state.claims := hbefore
    _ ≤ ((state.setPhase woken .relocking).setPhase thread .enqueueUnlocking).claims := by
      simp only [Phase.claims, Phase.isFetching, Phase.isNotifying, Bool.or_false, Bool.or_true,
        Bool.toNat_false, Bool.toNat_true] at hwoken hnotified
      omega

/-- A notification that wakes nobody leaves nobody blocked. -/
theorem covered_notify_none [Fintype ι] {state : SafeQueue ι α} {thread : ι}
    (hnobody : ∀ other, (state.phase other).isWaiting = false) :
    (state.setPhase thread .enqueueUnlocking).Covered := by
  rintro ⟨other, hother⟩
  by_cases hsame : other = thread
  · subst hsame
    rw [phase_setPhase_self] at hother
    exact absurd hother (by simp [Phase.isWaiting])
  · rw [phase_setPhase_of_ne _ hsame, hnobody other] at hother
    exact absurd hother (by decide)

/-- What `notify_one` does: nothing, or it wakes a blocked thread, or there is none. -/
theorem notifyOne_cases [Fintype ι] (state : SafeQueue ι α) (thread : ι) (woken : Option ι) :
    state.notifyOne thread woken = state ∨ state.phase thread = .notifying ∧
      ((∃ blocked, state.phase blocked = .waiting ∧ thread ≠ blocked ∧
          state.notifyOne thread woken =
            (state.setPhase blocked .relocking).setPhase thread .enqueueUnlocking) ∨
        (∀ other, (state.phase other).isWaiting = false) ∧
          state.notifyOne thread woken = state.setPhase thread .enqueueUnlocking) := by
  by_cases hnotify : (state.phase thread).isNotifying = true ∧ state.CanWake woken
  · have hphase := Phase.isNotifying_iff.mp hnotify.1
    refine Or.inr ⟨hphase, ?_⟩
    cases woken with
    | some blocked =>
      have hblocked := Phase.isWaiting_iff.mp hnotify.2
      refine Or.inl ⟨blocked, hblocked, ?_, if_pos hnotify⟩
      rintro rfl
      rw [hphase] at hblocked
      exact absurd hblocked (by simp)
    | none => exact Or.inr ⟨hnotify.2, if_pos hnotify⟩
  · exact Or.inl (if_neg hnotify)

theorem Sound.notifyOne [Fintype ι] {state : SafeQueue ι α} (hsound : state.Sound)
    (thread : ι) (woken : Option ι) : (state.notifyOne thread woken).Sound := by
  rcases state.notifyOne_cases thread woken with hstays | ⟨hphase, hwakes | hnobody⟩
  · rwa [hstays]
  · obtain ⟨blocked, hblocked, hne, hwakes⟩ := hwakes
    have hwoken : (state.setPhase blocked .relocking).Sound := by
      refine hsound.setPhase ?_ (by simp)
      rw [hblocked]
      rfl
    rw [hwakes]
    refine hwoken.setPhase ?_ (by simp)
    rw [phase_setPhase_of_ne _ hne, hphase]
    rfl
  · rw [hnobody.2]
    refine hsound.setPhase ?_ (by simp)
    rw [hphase]
    rfl

theorem Covered.notifyOne [Fintype ι] {state : SafeQueue ι α} (hcovered : state.Covered)
    (thread : ι) (woken : Option ι) : (state.notifyOne thread woken).Covered := by
  rcases state.notifyOne_cases thread woken with hstays | ⟨hphase, hwakes | hnobody⟩
  · rwa [hstays]
  · obtain ⟨blocked, hblocked, hne, hwakes⟩ := hwakes
    rw [hwakes]
    exact covered_notify_some hcovered hphase hblocked hne
  · rw [hnobody.2]
    exact covered_notify_none hnobody.1

/-- What the threads keep, whatever happens. -/
structure Invariant [Fintype ι] (state : SafeQueue ι α) : Prop extends Sound state where
  covered : state.Covered

/-- What a thread that calls something or wakes up for no reason leaves and where it is then. -/
structure Enters (before after : Phase α) : Prop where
  unlocked : before.holdsLock = false
  unclaimed : before.claims = false
  locking : after.holdsLock = false
  awake : after.isWaiting = false
  taken : after.taken = before.taken

theorem Invariant.setPhase [Fintype ι] {state : SafeQueue ι α} (hinvariant : state.Invariant)
    {thread : ι} {phase : Phase α} (henters : Enters (state.phase thread) phase) :
    (state.setPhase thread phase).Invariant := by
  refine ⟨hinvariant.toSound.setPhase (henters.locking.trans henters.unlocked.symm) ?_,
    hinvariant.covered.setPhase henters.awake henters.unclaimed⟩
  rintro rfl
  exact absurd henters.locking (by simp [Phase.holdsLock])

/-- A thread makes the step it is at, or waits for the mutex. -/
theorem run_cases (state : SafeQueue ι α) (thread : ι) :
    state.run thread = (state, []) ∨
      ∃ move : Move α, move.Follows state.safeQueue (state.phase thread) ∧
        (move.lock = .acquires → state.queueLock = none) ∧
          state.run thread = (state.apply thread move, move.effects) := by
  unfold run
  cases hmove : (state.phase thread).move state.safeQueue with
  | none => exact Or.inl rfl
  | some move =>
    by_cases hbusy : move.lock = .acquires ∧ state.queueLock ≠ none
    · exact Or.inl (if_pos hbusy)
    · refine Or.inr ⟨move, follows_of_move hmove, fun hacquires ↦ ?_, if_neg hbusy⟩
      by_contra howned
      exact hbusy ⟨hacquires, howned⟩

/-- What an event does: nothing, or a thread calls something or wakes up, makes the step it is at,
or notifies. -/
theorem step_cases [Fintype ι] (state : SafeQueue ι α) (event : Event ι α) :
    state.step event = (state, []) ∨
      (∃ thread phase, Enters (state.phase thread) phase ∧
        state.step event = (state.setPhase thread phase, [])) ∨
      (∃ thread, ∃ move : Move α, move.Follows state.safeQueue (state.phase thread) ∧
        (move.lock = .acquires → state.queueLock = none) ∧
          state.step event = (state.apply thread move, move.effects)) ∨
      ∃ thread woken, state.step event = (state.notifyOne thread woken, []) := by
  cases event with
  | call thread operation =>
    cases hphase : state.phase thread with
    | idle =>
      refine Or.inr (Or.inl ⟨thread, operation.start, ?_, by simp only [step, hphase]⟩)
      rw [hphase]
      cases operation <;> exact ⟨rfl, rfl, rfl, rfl, rfl⟩
    | _ => exact Or.inl (by simp only [step, hphase])
  | run thread =>
    rcases state.run_cases thread with hstays | ⟨move, hfollows, hfree, hmoves⟩
    · exact Or.inl hstays
    · exact Or.inr (Or.inr (Or.inl ⟨thread, move, hfollows, hfree, hmoves⟩))
  | notifyOne thread woken => exact Or.inr (Or.inr (Or.inr ⟨thread, woken, rfl⟩))
  | wakeSpuriously thread =>
    by_cases hwaiting : (state.phase thread).isWaiting = true
    · refine Or.inr (Or.inl ⟨thread, .relocking, ?_, if_pos hwaiting⟩)
      rw [Phase.isWaiting_iff.mp hwaiting]
      exact ⟨rfl, rfl, rfl, rfl, rfl⟩
    · exact Or.inl (if_neg hwaiting)

theorem invariant_step [Fintype ι] {state : SafeQueue ι α} (hinvariant : state.Invariant)
    (event : Event ι α) : (state.step event).1.Invariant := by
  rcases state.step_cases event with hstays | ⟨thread, phase, henters, harrives⟩ |
    ⟨thread, move, hfollows, hfree, hmoves⟩ | ⟨thread, woken, hnotifies⟩
  · rw [hstays]
    exact hinvariant
  · rw [harrives]
    exact hinvariant.setPhase henters
  · rw [hmoves]
    exact ⟨hinvariant.toSound.apply hfollows hfree, hinvariant.covered.apply hfollows⟩
  · rw [hnotifies]
    exact ⟨hinvariant.toSound.notifyOne thread woken, hinvariant.covered.notifyOne thread woken⟩

/-! ### First in, first out -/

omit [DecidableEq ι] in
/-- Only the thread with the mutex has taken a value. -/
theorem Sound.content_eq {state : SafeQueue ι α} (hsound : state.Sound) {thread : ι}
    (hothers : ∀ other, other ≠ thread → ¬ (state.phase other).holdsLock = true) :
    state.content = (state.phase thread).taken ++ state.safeQueue := by
  unfold content
  cases howner : state.queueLock with
  | none =>
    have hfree : ¬ (state.phase thread).holdsLock = true := by
      rw [hsound.owner thread, howner]
      exact nofun
    have htaken : (state.phase thread).taken = [] := by
      cases hphase : state.phase thread <;> rw [hphase] at hfree <;>
        first | rfl | exact absurd rfl hfree
    rw [htaken]
  | some owner =>
    by_cases hsame : owner = thread
    · rw [hsame]
    · exact absurd ((hsound.owner owner).mpr howner) (hothers owner hsame)

theorem content_setPhase (state : SafeQueue ι α) {thread : ι} {phase : Phase α}
    (htaken : phase.taken = (state.phase thread).taken) :
    (state.setPhase thread phase).content = state.content := by
  unfold content
  show (match state.queueLock with
    | some owner => ((state.setPhase thread phase).phase owner).taken
    | none => []) ++ state.safeQueue = _
  cases state.queueLock with
  | none => rfl
  | some owner =>
    by_cases hsame : owner = thread
    · subst hsame
      simp only [phase_setPhase_self, htaken]
    · simp only [phase_setPhase_of_ne state hsame]

theorem content_notifyOne [Fintype ι] (state : SafeQueue ι α) (thread : ι) (woken : Option ι) :
    (state.notifyOne thread woken).content = state.content := by
  rcases state.notifyOne_cases thread woken with hstays | ⟨hphase, hwakes | hnobody⟩
  · rw [hstays]
  · obtain ⟨blocked, hblocked, hne, hwakes⟩ := hwakes
    have hwoken : (state.setPhase blocked .relocking).content = state.content := by
      apply content_setPhase
      rw [hblocked]
      rfl
    rw [hwakes, ← hwoken]
    apply content_setPhase
    rw [phase_setPhase_of_ne _ hne, hphase]
    rfl
  · rw [hnobody.2]
    apply content_setPhase
    rw [hphase]
    rfl

theorem Sound.content_apply {state : SafeQueue ι α} (hsound : state.Sound) {thread : ι}
    {move : Move α} (hfollows : move.Follows state.safeQueue (state.phase thread))
    (hfree : move.lock = .acquires → state.queueLock = none) :
    state.content ++ move.effects.filterMap Effect.entering =
      move.effects.filterMap Effect.leaving ++ (state.apply thread move).content := by
  have hothers : ∀ other, other ≠ thread → ¬ (state.phase other).holdsLock = true :=
    fun other hother ↦ hsound.not_holdsLock_of_ne hfollows hfree hother
  have hafter : (state.apply thread move).content =
      ((state.apply thread move).phase thread).taken ++ move.queue := by
    refine (hsound.apply hfollows hfree).content_eq fun other hother ↦ ?_
    rw [phase_apply_of_ne _ hother]
    exact hothers other hother
  rw [hsound.content_eq hothers, hafter, phase_apply_self]
  exact hfollows.content

/-- What enters the queue in a step comes behind its content, what leaves it comes from the
front. -/
theorem content_step [Fintype ι] {state : SafeQueue ι α} (hsound : state.Sound)
    (event : Event ι α) :
    state.content ++ (state.step event).2.filterMap Effect.entering =
      (state.step event).2.filterMap Effect.leaving ++ (state.step event).1.content := by
  rcases state.step_cases event with hstays | ⟨thread, phase, henters, harrives⟩ |
    ⟨thread, move, hfollows, hfree, hmoves⟩ | ⟨thread, woken, hnotifies⟩
  · rw [hstays]
    exact List.append_nil _
  · rw [harrives, content_setPhase state henters.taken]
    exact List.append_nil _
  · rw [hmoves]
    exact hsound.content_apply hfollows hfree
  · rw [hnotifies, content_notifyOne]
    exact List.append_nil _

/-! ### Threads that can go on -/

/-- The thread has an event that changes the state. -/
def CanStep [Fintype ι] (state : SafeQueue ι α) (thread : ι) : Prop :=
  (state.run thread).1 ≠ state ∨ ∃ woken, state.notifyOne thread woken ≠ state

/-- The thread is in `dequeue` and awake, and it can make a step, unless another thread has the
mutex, which can then make one. -/
def AbleToProceed [Fintype ι] (state : SafeQueue ι α) (thread : ι) : Prop :=
  (state.phase thread).isFetching = true ∧
    (state.CanStep thread ∨ ∃ owner, state.queueLock = some owner ∧ state.CanStep owner)

/-- There are elements and a blocked thread, but nobody is about to notify, and no thread in
`dequeue` is able to proceed. -/
def Stuck [Fintype ι] (state : SafeQueue ι α) : Prop :=
  state.safeQueue ≠ [] ∧ (∃ thread, (state.phase thread).isWaiting = true) ∧
    (¬ ∃ thread, (state.phase thread).isNotifying = true) ∧ ¬ ∃ thread, state.AbleToProceed thread

omit [DecidableEq ι] in
/-- Assumes: a thread that takes an element finds one. Only a thread without a call, in `wait` or
about to notify has no next step. -/
theorem exists_move {queue : List α} {phase : Phase α} (hidle : phase ≠ .idle)
    (hwaiting : phase ≠ .waiting) (hnotifying : phase ≠ .notifying)
    (htaking : phase = .taking → queue ≠ []) : ∃ move, phase.move queue = some move := by
  fun_cases Phase.move queue phase
  all_goals simp_all

/-- A thread that has a step and does not have to wait for the mutex changes the state. -/
theorem canStep_of_move [Fintype ι] {state : SafeQueue ι α} {thread : ι} {move : Move α}
    (hmove : (state.phase thread).move state.safeQueue = some move)
    (hfree : move.lock = .acquires → state.queueLock = none) : state.CanStep thread := by
  have hrun : state.run thread = (state.apply thread move, move.effects) := by
    simp only [run, hmove]
    exact if_neg fun hbusy ↦ hbusy.2 (hfree hbusy.1)
  refine Or.inl fun hsame ↦ (follows_of_move hmove).changes ?_
  rw [hrun] at hsame
  rw [← state.phase_apply_self thread move]
  exact congrArg (fun next : SafeQueue ι α ↦ next.phase thread) hsame

theorem canStep_of_isNotifying [Fintype ι] {state : SafeQueue ι α} {thread : ι}
    (hnotifying : (state.phase thread).isNotifying = true) : state.CanStep thread := by
  have hchanges : ∀ next : SafeQueue ι α, next.phase thread = .enqueueUnlocking → next ≠ state := by
    rintro next hnext rfl
    rw [hnext] at hnotifying
    exact absurd hnotifying (by simp [Phase.isNotifying])
  by_cases hwaiting : ∃ woken, (state.phase woken).isWaiting = true
  · obtain ⟨woken, hwoken⟩ := hwaiting
    refine Or.inr ⟨some woken, hchanges _ ?_⟩
    rw [notifyOne, if_pos ⟨hnotifying, hwoken⟩, phase_setPhase_self]
  · have hnone : state.CanWake none := fun thread ↦ by
      simpa using not_exists.mp hwaiting thread
    refine Or.inr ⟨none, hchanges _ ?_⟩
    rw [notifyOne, if_pos ⟨hnotifying, hnone⟩, phase_setPhase_self]

/-- The owner of the mutex can always make a step. -/
theorem Sound.canStep_owner [Fintype ι] {state : SafeQueue ι α} (hsound : state.Sound) {owner : ι}
    (howner : state.queueLock = some owner) : state.CanStep owner := by
  have hholds := (hsound.owner owner).mpr howner
  by_cases hnotifying : (state.phase owner).isNotifying = true
  · exact canStep_of_isNotifying hnotifying
  · obtain ⟨move, hmove⟩ : ∃ move, (state.phase owner).move state.safeQueue = some move := by
      refine exists_move ?_ ?_ ?_ (hsound.nonempty owner)
      · intro hidle
        rw [hidle] at hholds
        exact absurd hholds (by simp [Phase.holdsLock])
      · intro hwaiting
        rw [hwaiting] at hholds
        exact absurd hholds (by simp [Phase.holdsLock])
      · exact fun hphase ↦ hnotifying (Phase.isNotifying_iff.mpr hphase)
    refine canStep_of_move hmove fun hacquires ↦ ?_
    exact absurd hacquires ((follows_of_move hmove).before.mp hholds)

/-- A thread on its way to an element is able to proceed. -/
theorem Sound.ableToProceed [Fintype ι] {state : SafeQueue ι α} (hsound : state.Sound) {thread : ι}
    (hfetching : (state.phase thread).isFetching = true) : state.AbleToProceed thread := by
  refine ⟨hfetching, ?_⟩
  cases howner : state.queueLock with
  | some owner => exact Or.inr ⟨owner, rfl, hsound.canStep_owner howner⟩
  | none =>
    obtain ⟨move, hmove⟩ : ∃ move, (state.phase thread).move state.safeQueue = some move := by
      refine exists_move ?_ ?_ ?_ (hsound.nonempty thread) <;>
        · intro hphase
          rw [hphase] at hfetching
          exact absurd hfetching (by simp [Phase.isFetching])
    exact Or.inl (canStep_of_move hmove fun _ ↦ howner)

theorem Invariant.not_stuck [Fintype ι] {state : SafeQueue ι α} (hinvariant : state.Invariant) :
    ¬ state.Stuck := by
  rintro ⟨hqueue, hwaiting, hnotifying, hproceed⟩
  have hclaims : 0 < state.claims :=
    (List.length_pos_of_ne_nil hqueue).trans_le (hinvariant.covered hwaiting)
  obtain ⟨thread, hthread⟩ := Finset.card_pos.mp hclaims
  have hclaim := (Finset.mem_filter.mp hthread).2
  rcases Bool.or_eq_true_iff.mp hclaim with hfetching | hnotifies
  · exact hproceed ⟨thread, hinvariant.toSound.ableToProceed hfetching⟩
  · exact hnotifying ⟨thread, hnotifies⟩

omit [DecidableEq ι] in
theorem invariant_new [Fintype ι] : (new : SafeQueue ι α).Invariant :=
  ⟨sound_new, covered_new⟩

/-- What has been enqueued in a run is what has been returned, in the same order, and behind it what
the queue still holds. -/
theorem enqueued_eq [Fintype ι] (events : List (Event ι α)) :
    (outputs step new events).filterMap Effect.entering =
      (outputs step new events).filterMap Effect.leaving ++
        (finalState step new events).content := by
  have hkeep : ∀ (current : SafeQueue ι α) (event : Event ι α), current.Invariant →
      (current.step event).1.Invariant :=
    fun _ event hcurrent ↦ invariant_step hcurrent event
  exact content_outputs_of_step hkeep (fun _ event hcurrent ↦ content_step hcurrent.toSound event)
    invariant_new

/-- In every run of any number of threads, in any order: what has been enqueued is what `dequeue`
has returned, in order, and behind it what is still there, no thread takes from an empty queue, and
no state is stuck. -/
theorem lossless_and_awake [Fintype ι] (events : List (Event ι α)) :
    (outputs step new events).filterMap Effect.entering =
        (outputs step new events).filterMap Effect.leaving ++
          (finalState step new events).content ∧
      (outputs step new events).filterMap Effect.leaving <+:
        (outputs step new events).filterMap Effect.entering ∧
      Always step (fun state ↦ ∀ thread, state.phase thread = .taking → state.safeQueue ≠ []) new
        events ∧
      Always step (fun state ↦ ¬ state.Stuck) new events := by
  have hinvariant : Always step Invariant (new : SafeQueue ι α) events :=
    always_of_step (fun _ event _ hstate ↦ invariant_step hstate event) invariant_new
  refine ⟨enqueued_eq events, ?_, fun past hpast ↦ (hinvariant past hpast).nonempty,
    fun past hpast ↦ (hinvariant past hpast).not_stuck⟩
  rw [enqueued_eq]
  exact List.prefix_append _ _

/-- A thread blocks on the empty queue, and another one enqueues an element and wakes it. -/
def wokenWaiter : List (Event Bool ℕ) :=
  [.call true .dequeue, .run true, .run true, .call false (.enqueue 5), .run false, .run false,
    .notifyOne false (some true), .run false, .run true, .run true, .run true, .run true]

/-- The blocked thread returns the element. -/
example : outputs step new wokenWaiter = [.enqueued 5, .returned 5] := by decide

end SafeQueue

end Tanos
