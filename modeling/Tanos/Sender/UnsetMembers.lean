import Tanos.Sender.Objects

/-!
# What a sender reads before it is set

Two variables of a sender have no value at first: the member `traffic_generator_control`, which the
constructor leaves out, and the local `local_timestamp`. The control value is set by the first
notification, the timestamp when a notified one is taken over.

`TrackedSender` notes which of the two are set. What can be observed of a run, its packets and its
release times, does not depend on the unset values as long as the gate is not passed on one of them
and no release time is computed from one (`observations_determined`). The proof runs two senders
side by side that differ in the unset variables only (`SameButUnset`).
-/

set_option autoImplicit false
set_option relaxedAutoImplicit false

namespace Tanos

open Library.Runs

/-- What is observed of a sender: a packet, or the time the next object is released at. -/
inductive Observation where
  | packet (packet : SentPacket)
  | release (time : Timespec)
deriving DecidableEq, Repr

/-- A sender, and which of the variables without an initial value are set. -/
structure TrackedSender where
  sender : Sender
  controlSet : Bool
  timestampSet : Bool

/-- The event is a command to the generator. -/
def SenderEvent.isCommand : SenderEvent → Bool
  | .notify _ | .stop => true
  | .run _ => false

namespace TrackedSender

/-- The thread is created. What the constructor and the function leave uninitialised are
parameters. -/
def start (serviceSettings : StdMap UInt32 ServiceSettings) (clientId : UInt32)
    (control : TrafficSourceControl) (uninitialised : Timespec) : TrackedSender :=
  ⟨Sender.start serviceSettings clientId control uninitialised, false, false⟩

/-- The packets of a step. -/
def packets (outputs : List SenderOutput) : List Observation :=
  outputs.filterMap fun output ↦
    match output with
    | .packet packet => some (.packet packet)
    | _ => none

/-- The release time that a step from a state behind an object has computed. -/
def releases (sender next : Sender) : List Observation :=
  if sender.phase = .afterObject ∧ next.phase = .waiting then [.release next.targetTime] else []

/-- The thread is about to take over a notified timestamp. -/
def adopts : SenderPhase → Bool
  | .adoptTimestamp _ => true
  | _ => false

/-- A step of the sender, with what is observed of it. -/
def step (kind : SenderKind) (tracked : TrackedSender) :
    SenderEvent → TrackedSender × List Observation
  | .run clock =>
    let next := tracked.sender.run kind clock
    ({ tracked with
      sender := next.1
      timestampSet := tracked.timestampSet || adopts tracked.sender.phase },
      packets next.2 ++ releases tracked.sender next.1)
  | command =>
    ({ tracked with sender := (tracked.sender.step kind command).1, controlSet := true }, [])

/-- The step does not pass the start gate on an unset control value, and does not compute a release
time from an unset timestamp. -/
def ReadsSet (tracked : TrackedSender) : SenderEvent → Prop
  | .run _ =>
    (tracked.sender.phase = .startGate → tracked.controlSet = false →
      tracked.sender.generator.trafficGeneratorControl ≠ .threadTransmission) ∧
    (tracked.sender.phase = .afterObject → tracked.sender.stopThread = false →
      tracked.timestampSet = true)
  | _ => True

instance (tracked : TrackedSender) : DecidablePred tracked.ReadsSet
  | .run _ => inferInstanceAs (Decidable (_ ∧ _))
  | .notify _ => instDecidableTrue
  | .stop => instDecidableTrue

/-- The sender with other values in the variables that are unset at first. -/
def withUnset (sender : Sender) (control : TrafficSourceControl) (timestamp : Timespec) : Sender :=
  { sender with
    generator := { sender.generator with trafficGeneratorControl := control }
    localTimestamp := timestamp }

/-- The senders differ in unset variables at most, and one without a control value has not passed
its gate. -/
structure SameButUnset (first second : TrackedSender) : Prop where
  controlSet_eq : second.controlSet = first.controlSet
  timestampSet_eq : second.timestampSet = first.timestampSet
  sender_eq : ∃ control timestamp, second.sender = withUnset first.sender control timestamp ∧
    (first.controlSet = true → control = first.sender.generator.trafficGeneratorControl) ∧
    (first.timestampSet = true → timestamp = first.sender.localTimestamp)
  atGate : first.controlSet = false → first.sender.phase = .startGate

/-- The step of a thread that does not compute a release time does not read the local timestamp. -/
theorem run_localTimestamp (kind : SenderKind) (sender : Sender) (timestamp : Timespec)
    (clock : Timespec) (hafter : sender.phase = .afterObject → sender.stopThread = true) :
    ∃ next, Sender.run kind { sender with localTimestamp := timestamp } clock =
      ({ (sender.run kind clock).1 with localTimestamp := next }, (sender.run kind clock).2) := by
  cases hphase : sender.phase with
  | changeMode place =>
    simp only [Sender.run, hphase, Sender.changeMode]
    split
    · exact ⟨_, rfl⟩
    · cases place <;> exact ⟨_, rfl⟩
  | afterObject =>
    simp only [Sender.run, hphase, hafter hphase]
    exact ⟨_, rfl⟩
  | startGate | packetGate | closed | crashed =>
    simp only [Sender.run, hphase]
    repeat' split
    all_goals first | exact ⟨_, rfl⟩ | exact ⟨timestamp, by rw [hphase]⟩
  | _ =>
    simp only [Sender.run, hphase, Sender.buildObject, Sender.sendPacket, Sender.withSettings]
    repeat' split
    all_goals exact ⟨_, rfl⟩

/-- A thread that takes over a notified timestamp does not read the local timestamp. -/
theorem run_of_adopts (kind : SenderKind) {sender : Sender} (timestamp : Timespec)
    (clock : Timespec) (hadopts : adopts sender.phase = true) :
    Sender.run kind { sender with localTimestamp := timestamp } clock = sender.run kind clock := by
  cases hphase : sender.phase with
  | adoptTimestamp place => simp only [Sender.run, hphase]
  | _ =>
    rw [hphase] at hadopts
    exact absurd hadopts (by simp [adopts])

variable {first second : TrackedSender}

/-- A command sets the control value. -/
theorem sameButUnset_command (kind : SenderKind) (h : SameButUnset first second)
    {event : SenderEvent} (hcommand : event.isCommand = true) :
    SameButUnset (step kind first event).1 (step kind second event).1 ∧
      (step kind first event).2 = (step kind second event).2 := by
  obtain ⟨sender, controlSet, timestampSet⟩ := second
  obtain ⟨rfl, rfl, ⟨control, timestamp, rfl, -, htimestamp⟩, -⟩ := h
  cases event with
  | notify notification =>
    refine ⟨⟨rfl, rfl, ?_, nofun⟩, rfl⟩
    cases notification with
    | generator state => exact ⟨state, timestamp, rfl, fun _ ↦ rfl, htimestamp⟩
    | modeChange state mode => exact ⟨state, timestamp, rfl, fun _ ↦ rfl, htimestamp⟩
    | timestamp state time mode updatePeriod =>
      exact ⟨state, timestamp, rfl, fun _ ↦ rfl, htimestamp⟩
  | stop => exact ⟨⟨rfl, rfl, ⟨.threadStop, timestamp, rfl, fun _ ↦ rfl, htimestamp⟩, nofun⟩, rfl⟩
  | run clock => exact absurd hcommand (by simp [SenderEvent.isCommand])

/-- A thread whose control value is not set does not pass its gate. -/
theorem step_of_unset (kind : SenderKind) {tracked : TrackedSender} {clock : Timespec}
    (hgate : tracked.sender.phase = .startGate) (hunset : tracked.controlSet = false)
    (hreads : tracked.ReadsSet (.run clock)) :
    step kind tracked (.run clock) = (tracked, []) := by
  have hrun : tracked.sender.run kind clock = (tracked.sender, []) := by
    simp only [Sender.run, hgate, if_neg (hreads.1 hgate hunset)]
  simp only [step, hrun, packets, releases, hgate, adopts, Bool.or_false]
  simp

theorem sameButUnset_refl {tracked : TrackedSender} (hset : tracked.controlSet = true) :
    SameButUnset tracked tracked :=
  ⟨rfl, rfl, ⟨_, _, rfl, fun _ ↦ rfl, fun _ ↦ rfl⟩,
    fun hunset ↦ absurd (hset.symm.trans hunset) (by decide)⟩

/-- A thread whose control value is set, and whose local timestamp need not be. -/
theorem sameButUnset_run (kind : SenderKind) (h : SameButUnset first second)
    (hset : first.controlSet = true) {clock : Timespec} (hreads : first.ReadsSet (.run clock)) :
    SameButUnset (step kind first (.run clock)).1 (step kind second (.run clock)).1 ∧
      (step kind first (.run clock)).2 = (step kind second (.run clock)).2 := by
  obtain ⟨sender, controlSet, timestampSet⟩ := second
  obtain ⟨rfl, rfl, ⟨control, timestamp, rfl, hcontrol, htimestamp⟩, -⟩ := h
  have hsender : withUnset first.sender control timestamp =
      { first.sender with localTimestamp := timestamp } := by
    rw [withUnset, hcontrol hset]
  rw [hsender]
  cases hadopted : first.timestampSet with
  | true =>
    rw [htimestamp hadopted, ← hadopted]
    exact ⟨sameButUnset_refl hset, rfl⟩
  | false =>
    cases hadopts : adopts first.sender.phase with
    | true =>
      have hrun := run_of_adopts kind timestamp clock hadopts
      have hsame : step kind
          ⟨{ first.sender with localTimestamp := timestamp }, first.controlSet, false⟩
          (.run clock) = step kind first (.run clock) := by
        simp only [step, hrun, releases, hadopted]
      rw [hsame]
      exact ⟨sameButUnset_refl hset, rfl⟩
    | false =>
      have hafter : first.sender.phase = .afterObject → first.sender.stopThread = true := by
        intro hphase
        by_contra hstop
        have hread := hreads.2 hphase (Bool.eq_false_of_not_eq_true hstop)
        exact absurd (hadopted.symm.trans hread) (by decide)
      obtain ⟨next, hrun⟩ := run_localTimestamp kind first.sender timestamp clock hafter
      simp only [step, hrun, hadopted, hadopts]
      refine ⟨⟨rfl, rfl, ⟨_, next, rfl, fun _ ↦ rfl, nofun⟩, ?_⟩, rfl⟩
      exact fun hunset ↦ absurd (hset.symm.trans hunset) (by decide)

/-- Steps that do not read an unset variable keep the senders the same up to these. -/
theorem sameButUnset_step (kind : SenderKind) {event : SenderEvent} (hfirst : first.ReadsSet event)
    (hsecond : second.ReadsSet event) (h : SameButUnset first second) :
    SameButUnset (step kind first event).1 (step kind second event).1 ∧
      (step kind first event).2 = (step kind second event).2 := by
  cases event with
  | notify notification => exact sameButUnset_command kind h rfl
  | stop => exact sameButUnset_command kind h rfl
  | run clock =>
    cases hset : first.controlSet with
    | true => exact sameButUnset_run kind h hset hfirst
    | false =>
      have hgate := h.atGate hset
      have hgate' : second.sender.phase = .startGate := by
        obtain ⟨control, timestamp, hsender, -⟩ := h.sender_eq
        rw [hsender]
        exact hgate
      rw [step_of_unset kind hgate hset hfirst,
        step_of_unset kind hgate' (h.controlSet_eq.trans hset) hsecond]
      exact ⟨h, rfl⟩

/-- What is observed of a run. -/
def observations (kind : SenderKind) (tracked : TrackedSender) (events : List SenderEvent) :
    List Observation :=
  outputs (step kind) tracked events

/-- Without a command, nothing is observed of a run that does not read an unset variable. -/
theorem observations_of_not_isCommand (kind : SenderKind) {tracked : TrackedSender}
    (hgate : tracked.sender.phase = .startGate) (hunset : tracked.controlSet = false)
    {events : List SenderEvent} (hevents : ∀ event ∈ events, event.isCommand = false)
    (hreads : EveryStep (step kind) ReadsSet tracked events) :
    observations kind tracked events = [] := by
  induction events with
  | nil => rfl
  | cons event rest ih =>
    obtain ⟨hevent, hrest⟩ := List.forall_mem_cons.mp hevents
    obtain ⟨hnow, hlater⟩ := (everyStep_cons tracked event rest).mp hreads
    cases event with
    | notify notification => exact absurd hevent (by simp [SenderEvent.isCommand])
    | stop => exact absurd hevent (by simp [SenderEvent.isCommand])
    | run clock =>
      have hstep := step_of_unset kind hgate hunset hnow
      rw [hstep] at hlater
      rw [observations, outputs_cons, hstep]
      exact ih hrest hlater

/-- Two runs with the same commands at the same points and the same clock, in which no unset
variable is read, send the same packets and use the same release times, and none before the first
command, where a stop counts as a command. -/
theorem observations_determined (kind : SenderKind)
    (serviceSettings : StdMap UInt32 ServiceSettings) (clientId : UInt32)
    {control control' : TrafficSourceControl} {uninitialised uninitialised' : Timespec}
    {events : List SenderEvent}
    (hreads : EveryStep (step kind) ReadsSet
      (start serviceSettings clientId control uninitialised) events)
    (hreads' : EveryStep (step kind) ReadsSet
      (start serviceSettings clientId control' uninitialised') events) :
    observations kind (start serviceSettings clientId control uninitialised) events =
        observations kind (start serviceSettings clientId control' uninitialised') events ∧
      ∀ past, past <+: events → (∀ event ∈ past, event.isCommand = false) →
        observations kind (start serviceSettings clientId control uninitialised) past = [] := by
  have hstart : SameButUnset (start serviceSettings clientId control uninitialised)
      (start serviceSettings clientId control' uninitialised') :=
    ⟨rfl, rfl, ⟨control', uninitialised', rfl, nofun, nofun⟩, fun _ ↦ rfl⟩
  constructor
  · refine outputs_eq_outputs_of_lockstep ?_ hreads hreads' hstart
    intro first second event hfirst hsecond hsame
    exact sameButUnset_step kind hfirst hsecond hsame
  · intro past hpast hcommands
    refine observations_of_not_isCommand kind rfl rfl hcommands fun earlier event hevent ↦ ?_
    exact hreads earlier event (hevent.trans hpast)

/-- A timed start in mode zero, and one object to its release. -/
def startedEvents : List SenderEvent :=
  .run ⟨0, 0⟩ :: .notify (.timestamp .threadTransmission ⟨10, 0⟩ 0 true) ::
    List.replicate 20 (.run ⟨10, 0⟩)

theorem observations_determined_started :
    let serviceSettings := (∅ : StdMap UInt32 ServiceSettings).insert 0 Sender.twoPackets
    observations .synchronous (start serviceSettings 9 .threadPaused ⟨0, 0⟩) startedEvents =
        observations .synchronous (start serviceSettings 9 .threadStop ⟨5, 0⟩) startedEvents ∧
      observations .synchronous (start serviceSettings 9 .threadPaused ⟨0, 0⟩)
        [.run ⟨0, 0⟩] = [] := by
  intro serviceSettings
  have hreads : EveryStep (step .synchronous) ReadsSet
      (start serviceSettings 9 .threadPaused ⟨0, 0⟩) startedEvents := by decide
  have hreads' : EveryStep (step .synchronous) ReadsSet
      (start serviceSettings 9 .threadStop ⟨5, 0⟩) startedEvents := by decide
  obtain ⟨hsame, hsilent⟩ := observations_determined .synchronous serviceSettings 9 hreads hreads'
  exact ⟨hsame, hsilent [.run ⟨0, 0⟩] ⟨_, rfl⟩ (by decide)⟩

/-- A control value that happens to be `THREAD_TRANSMISSION` sends objects of mode zero without a
notification, and behind the object of a start without a timestamp the release times differ. -/
theorem not_determined_unset :
    let serviceSettings := (∅ : StdMap UInt32 ServiceSettings).insert 0 Sender.twoPackets
    let started : List SenderEvent :=
      .notify (.modeChange .threadTransmission 0) :: List.replicate 20 (.run ⟨10, 0⟩)
    observations .synchronous (start serviceSettings 9 .threadTransmission ⟨0, 0⟩)
        (List.replicate 9 (.run ⟨10, 0⟩)) ≠
      observations .synchronous (start serviceSettings 9 .threadPaused ⟨0, 0⟩)
        (List.replicate 9 (.run ⟨10, 0⟩)) ∧
    observations .asynchronous (start serviceSettings 9 .threadPaused ⟨0, 0⟩) started ≠
      observations .asynchronous (start serviceSettings 9 .threadPaused ⟨5, 0⟩) started := by
  intro serviceSettings started
  refine ⟨by decide, fun hsame ↦ ?_⟩
  exact absurd (congrArg List.getLast? hsame) (by decide)

end TrackedSender

end Tanos
