import Tanos.Sender.AdoptedSettings
import Tanos.Sender.PeriodAnchor

/-!
# The rate of the objects

Behind an object the sending functions wait for the local timestamp plus the deadline of the mode,
and this becomes the next local timestamp. However its modes change, and however long it is paused,
a sender that nothing gives a new period therefore starts one object for each of the least of the
deadlines in force at most, counted from the timestamp it starts with (`passedGate_le`). It may make
up for a pause, but it never gets ahead of its grid. The wait has no end only where it asks for
`THREAD_TRANSMISSION_FINISH_OBJECT`, which ends it early.
-/

set_option autoImplicit false
set_option relaxedAutoImplicit false

namespace Tanos

open Library.Runs

/-- The output says that an object passes its gate. -/
def SenderOutput.isPassedGate : SenderOutput → Bool
  | .passedGate => true
  | _ => false

/-- The event ends no wait, gives no new period, and reads a clock before a limit. -/
def SenderEvent.KeepsPace (limit : ℤ) : SenderEvent → Prop
  | .notify notification => notification.control ≠ .threadTransmissionFinishObject ∧
      (SenderEvent.notify notification).KeepsPeriod
  | .stop => True
  | .run clock => clock.Normalised ∧ clock.nanoseconds < limit

/-- The next local timestamp is normalised when the last one is. -/
theorem TrafficGenerator.normalised_nextLocalTimestamp (deadline : ℕ) {localTimestamp : Timespec}
    (h : localTimestamp.Normalised) : (nextLocalTimestamp deadline localTimestamp).Normalised := by
  obtain ⟨hnonneg, hlt⟩ := h
  unfold nextLocalTimestamp Timespec.Normalised
  simp only
  split_ifs with hcarry
  · exact ⟨Int.emod_nonneg _ (by decide), Int.emod_lt_of_pos _ (by decide)⟩
  · show 0 ≤ localTimestamp.tvNsec + deadline * 1000000 ∧
      localTimestamp.tvNsec + deadline * 1000000 < 1000000000
    omega

namespace Sender

/-- A wait that is over has come to its target. -/
theorem nanoseconds_le_of_reached {timeNow targetTime : Timespec} (hnow : timeNow.Normalised)
    (htarget : targetTime.Normalised) (h : reached timeNow targetTime = true) :
    targetTime.nanoseconds ≤ timeNow.nanoseconds := by
  obtain ⟨hnow_nonneg, hnow_lt⟩ := hnow
  obtain ⟨htarget_nonneg, htarget_lt⟩ := htarget
  simp only [reached, Bool.or_eq_true, decide_eq_true_eq, Bool.and_eq_true, beq_iff_eq] at h
  rw [Timespec.nanoseconds, Timespec.nanoseconds]
  omega

/-- The settings in force have a deadline at least. -/
def DeadlineAtLeast (deadline : ℕ) (sender : Sender) : Prop :=
  ∀ settings ∈ sender.currentSettings, deadline ≤ settings.deadline.toNat

section

variable (origin : ℤ) (deadline bound : ℕ)

/-- The time behind so many deadlines. -/
def gridTime (periods : ℕ) : ℤ := origin + periods * (deadline * 1000000)

/-- What holds in a phase when so many objects have passed the gate. -/
def RatedAt (sender : Sender) (passes : ℕ) : SenderPhase → Prop
  | .startGate => passes ≤ bound ∧ sender.localTimestamp.Normalised ∧
    gridTime origin deadline passes ≤ sender.localTimestamp.nanoseconds
  | .waiting | .pollClock => passes ≤ bound + 1 ∧ sender.targetTime.Normalised ∧
    gridTime origin deadline passes ≤ sender.targetTime.nanoseconds
  | .closed | .crashed => passes ≤ bound + 1
  | .adoptTimestamp _ | .clearUpdate _ => False
  | _ => passes ≤ bound + 1 ∧ sender.localTimestamp.Normalised ∧
    gridTime origin deadline passes ≤ sender.localTimestamp.nanoseconds + deadline * 1000000

/-- What holds when so many objects have passed the gate. -/
structure Rated (sender : Sender) (passes : ℕ) : Prop where
  globalUpdatePeriod_eq : sender.generator.globalUpdatePeriod = false
  control_ne : sender.generator.trafficGeneratorControl ≠ .threadTransmissionFinishObject
  atPhase : RatedAt origin deadline bound sender passes sender.phase

end

variable {origin : ℤ} {deadline bound : ℕ} {sender : Sender} {passes : ℕ}

theorem gridTime_succ (periods : ℕ) : gridTime origin deadline (periods + 1) =
    gridTime origin deadline periods + deadline * 1000000 := by
  unfold gridTime
  push_cast
  ring

/-- One object is still to come before the end of the last period. -/
theorem le_of_gridTime_lt (hpasses : passes ≤ bound + 1)
    (hlimit : gridTime origin deadline passes < gridTime origin deadline (bound + 1)) :
    passes ≤ bound := by
  by_contra hlast
  rw [Nat.le_antisymm hpasses (Nat.lt_of_not_le hlast)] at hlimit
  exact absurd hlimit (lt_irrefl _)

/-- The next period begins behind the deadline of the object. -/
theorem gridTime_le_nextLocalTimestamp {settings : ServiceSettings} {localTimestamp : Timespec}
    (hgrid : gridTime origin deadline passes ≤ localTimestamp.nanoseconds + deadline * 1000000)
    (hdeadline : deadline ≤ settings.deadline.toNat) :
    gridTime origin deadline passes ≤
      (TrafficGenerator.nextLocalTimestamp settings.deadline.toNat localTimestamp).nanoseconds := by
  rw [TrafficGenerator.nanoseconds_nextLocalTimestamp]
  omega

/-- A step of the sending thread: the start gate counts an object, the end of its period adds a
deadline to the local timestamp, and the wait ends before the last period does. -/
theorem rated_run (h : Rated origin deadline bound sender passes)
    (hcurrent : sender.DeadlineAtLeast deadline) (kind : SenderKind) {clock : Timespec}
    (hclock : clock.Normalised)
    (hlimit : clock.nanoseconds < gridTime origin deadline (bound + 1)) :
    Rated origin deadline bound (sender.run kind clock).1
      (passes + (sender.run kind clock).2.countP SenderOutput.isPassedGate) := by
  obtain ⟨hflag, hcontrol, hphased⟩ := h
  cases hphase : sender.phase with
  | startGate =>
    simp only [run, hphase]
    rw [hphase] at hphased
    obtain ⟨hpasses, hnormalised, hgrid⟩ := hphased
    split_ifs with hopen
    · refine ⟨hflag, hcontrol, Nat.succ_le_succ hpasses, hnormalised, ?_⟩
      show gridTime origin deadline (passes + 1) ≤ _
      rw [gridTime_succ]
      exact Int.add_le_add_right hgrid _
    · refine ⟨hflag, hcontrol, ?_⟩
      rw [hphase]
      exact ⟨hpasses, hnormalised, hgrid⟩
  | packetGate =>
    simp only [run, hphase]
    rw [hphase] at hphased
    split_ifs with hopen
    · exact ⟨hflag, hcontrol, hphased⟩
    · refine ⟨hflag, hcontrol, ?_⟩
      rw [hphase]
      exact hphased
  | checkMode place =>
    simp only [run, hphase]
    rw [hphase] at hphased
    split_ifs with hmode
    · exact ⟨hflag, hcontrol, hphased⟩
    · cases place <;> exact ⟨hflag, hcontrol, hphased⟩
  | changeMode place =>
    simp only [run, hphase, changeMode]
    rw [hphase] at hphased
    cases hsettings : sender.serviceSettingsStruct[sender.generator.modeGlobal]? with
    | some settings => exact ⟨hflag, hcontrol, hphased⟩
    | none =>
      cases place with
      | object => exact ⟨hflag, hcontrol, hphased.1⟩
      | packet => exact ⟨hflag, hcontrol, hphased⟩
  | checkUpdate place =>
    simp only [run, hphase, hflag]
    rw [hphase] at hphased
    cases place <;> exact ⟨hflag, hcontrol, hphased⟩
  | adoptTimestamp place =>
    rw [hphase] at hphased
    exact hphased.elim
  | clearUpdate place =>
    rw [hphase] at hphased
    exact hphased.elim
  | objectEnd =>
    simp only [run, hphase]
    rw [hphase] at hphased
    split_ifs with hlast
    · exact ⟨hflag, hcontrol, hphased.1⟩
    · exact ⟨hflag, hcontrol, hphased⟩
  | afterObject =>
    simp only [run, hphase, withSettings]
    rw [hphase] at hphased
    obtain ⟨hpasses, hnormalised, hgrid⟩ := hphased
    split_ifs with hstop
    · exact ⟨hflag, hcontrol, hpasses⟩
    · cases hsettings : sender.currentSettings with
      | none => exact ⟨hflag, hcontrol, hpasses⟩
      | some settings =>
        exact ⟨hflag, hcontrol, hpasses,
          TrafficGenerator.normalised_nextLocalTimestamp _ hnormalised,
          gridTime_le_nextLocalTimestamp hgrid (hcurrent settings hsettings)⟩
  | waiting =>
    simp only [run, hphase]
    rw [if_neg hcontrol]
    rw [hphase] at hphased
    exact ⟨hflag, hcontrol, hphased⟩
  | pollClock =>
    simp only [run, hphase]
    rw [hphase] at hphased
    split_ifs with hreached
    · obtain ⟨hpasses, hnormalised, hgrid⟩ := hphased
      have hnow := nanoseconds_le_of_reached hclock hnormalised hreached
      have hlast : passes ≤ bound :=
        le_of_gridTime_lt hpasses (hgrid.trans_lt (hnow.trans_lt hlimit))
      exact ⟨hflag, hcontrol, hlast, hnormalised, hgrid⟩
    · exact ⟨hflag, hcontrol, hphased⟩
  | buildObject =>
    simp only [run, hphase, buildObject, withSettings]
    rw [hphase] at hphased
    cases hsettings : sender.currentSettings with
    | none => exact ⟨hflag, hcontrol, hphased.1⟩
    | some settings => exact ⟨hflag, hcontrol, hphased⟩
  | packetLoop =>
    simp only [run, hphase, withSettings]
    rw [hphase] at hphased
    cases hsettings : sender.currentSettings with
    | none => exact ⟨hflag, hcontrol, hphased.1⟩
    | some settings =>
      simp only
      split_ifs with hmore
      · cases kind <;> exact ⟨hflag, hcontrol, hphased⟩
      · exact ⟨hflag, hcontrol, hphased⟩
  | sending =>
    simp only [run, hphase, sendPacket, withSettings]
    rw [hphase] at hphased
    cases hsettings : sender.currentSettings with
    | none => exact ⟨hflag, hcontrol, hphased.1⟩
    | some settings => exact ⟨hflag, hcontrol, hphased⟩
  | stopCheck =>
    simp only [run, hphase]
    rw [hphase] at hphased
    split_ifs with hstop
    · exact ⟨hflag, hcontrol, hphased⟩
    · exact ⟨hflag, hcontrol, hphased⟩
  | closed =>
    simp only [run, hphase]
    exact ⟨hflag, hcontrol, hphased⟩
  | crashed =>
    simp only [run, hphase]
    exact ⟨hflag, hcontrol, hphased⟩

/-- A step of the client. -/
theorem rated_step (h : Rated origin deadline bound sender passes)
    (hcurrent : sender.DeadlineAtLeast deadline) (kind : SenderKind) {event : SenderEvent}
    (hevent : event.KeepsPace (gridTime origin deadline (bound + 1))) :
    Rated origin deadline bound (sender.step kind event).1
      (passes + (sender.step kind event).2.countP SenderOutput.isPassedGate) := by
  cases event with
  | notify notification =>
    refine ⟨?_, ?_, h.atPhase⟩
    · cases notification with
      | timestamp state time mode updatePeriod => exact hevent.2
      | _ => exact h.globalUpdatePeriod_eq
    · show (sender.generator.notify notification).trafficGeneratorControl ≠ _
      rw [TrafficGenerator.trafficGeneratorControl_notify]
      exact hevent.1
  | stop =>
    exact ⟨h.globalUpdatePeriod_eq, by simp [step, TrafficGenerator.notifyGenerator], h.atPhase⟩
  | run clock => exact rated_run h hcurrent kind hevent.1 hevent.2

/-- At most `bound + 1` objects. -/
theorem Rated.passes_le (h : Rated origin deadline bound sender passes) : passes ≤ bound + 1 := by
  have hphased := h.atPhase
  cases hphase : sender.phase with
  | startGate =>
    rw [hphase] at hphased
    exact Nat.le_succ_of_le hphased.1
  | adoptTimestamp place =>
    rw [hphase] at hphased
    exact hphased.elim
  | clearUpdate place =>
    rw [hphase] at hphased
    exact hphased.elim
  | closed =>
    rw [hphase] at hphased
    exact hphased
  | crashed =>
    rw [hphase] at hphased
    exact hphased
  | _ =>
    rw [hphase] at hphased
    exact hphased.1

/-- The settings in force have a deadline that all configured ones have. -/
theorem always_deadlineAtLeast (kind : SenderKind)
    (hconfigured : ∀ (mode : UInt32) (settings : ServiceSettings),
      sender.serviceSettingsStruct[mode]? = some settings → deadline ≤ settings.deadline.toNat)
    (hcurrent : sender.DeadlineAtLeast deadline) (events : List SenderEvent) :
    Always (step kind) (DeadlineAtLeast deadline) sender events := by
  have hkeep : ∀ current : Sender, ∀ event ∈ events,
      current.serviceSettingsStruct = sender.serviceSettingsStruct ∧
        current.DeadlineAtLeast deadline →
      (current.step kind event).1.serviceSettingsStruct = sender.serviceSettingsStruct ∧
        (current.step kind event).1.DeadlineAtLeast deadline := by
    rintro current event - ⟨hstruct, hdeadline⟩
    cases event with
    | notify notification => exact ⟨hstruct, hdeadline⟩
    | stop => exact ⟨hstruct, hdeadline⟩
    | run clock =>
      refine ⟨(current.run_frame kind clock).2.2.2.trans hstruct, fun settings hsettings ↦ ?_⟩
      rcases (adopting_run kind current clock).adopted settings hsettings with
        hbefore | ⟨-, hadopted⟩
      · exact hdeadline settings hbefore
      · rw [hstruct] at hadopted
        exact hconfigured _ settings hadopted
  exact fun past hpast ↦ (always_of_step hkeep ⟨rfl, hcurrent⟩ past hpast).2

/-- Assumes: the sender is at the gate of an object and has adopted its period, the settings in
force have some deadline at least throughout a run, and its events give it no new period, end no
wait and read clocks before the end of the grid cell behind so many deadlines. It starts one object
more than deadlines at most. -/
theorem passedGate_le (kind : SenderKind) {events : List SenderEvent}
    (hphase : sender.phase = .startGate) (hnormalised : sender.localTimestamp.Normalised)
    (hflag : sender.generator.globalUpdatePeriod = false)
    (hcontrol : sender.generator.trafficGeneratorControl ≠ .threadTransmissionFinishObject)
    (hdeadline : Always (step kind) (DeadlineAtLeast deadline) sender events)
    (hevents : ∀ event ∈ events, event.KeepsPace
      (gridTime sender.localTimestamp.nanoseconds deadline (bound + 1))) :
    (outputs (step kind) sender events).countP SenderOutput.isPassedGate ≤ bound + 1 := by
  have hstart : Rated sender.localTimestamp.nanoseconds deadline bound sender
      (([] : List SenderOutput).countP SenderOutput.isPassedGate) := by
    refine ⟨hflag, hcontrol, ?_⟩
    rw [hphase]
    refine ⟨Nat.zero_le _, hnormalised, ?_⟩
    show _ + ((0 : ℕ) : ℤ) * _ ≤ _
    omega
  have hsteps : EveryStep (step kind) (fun current event ↦ current.DeadlineAtLeast deadline ∧
      event.KeepsPace (gridTime sender.localTimestamp.nanoseconds deadline (bound + 1))) sender
      events :=
    (everyStep_and sender events).mpr
      ⟨fun past event hpast ↦ hdeadline past ((List.prefix_append past [event]).trans hpast),
        (everyStep_iff_forall_mem sender events).mpr hevents⟩
  refine (finalState_outputs_of_everyStep
    (fun current past ↦ Rated sender.localTimestamp.nanoseconds deadline bound current
      (past.countP SenderOutput.isPassedGate)) (fun current past event hevent h ↦ ?_) hsteps
    hstart).passes_le
  rw [List.countP_append]
  exact rated_step h hevent.1 kind hevent.2

/-- A sender whose clock is stopped before its second deadline. -/
def hurriedEvents : List SenderEvent :=
  .notify (.modeChange .threadTransmission 1) :: List.replicate 40 (.run ⟨0, 79999999⟩)

/-- It starts its second object at once, and no third one. -/
theorem passedGate_le_hurried :
    (outputs (step .synchronous) singleModeSender hurriedEvents).countP
      SenderOutput.isPassedGate ≤ 2 := by
  have hconfigured : ∀ (mode : UInt32) (settings : ServiceSettings),
      singleModeSender.serviceSettingsStruct[mode]? = some settings →
        40 ≤ settings.deadline.toNat := by
    intro mode settings hmode
    have hmode' : ((∅ : StdMap UInt32 ServiceSettings).insert 1 twoPackets)[mode]? =
        some settings := hmode
    rw [StdMap.getElem?_insert] at hmode'
    split_ifs at hmode' with hone
    · rw [← Option.some.inj hmode']
      decide
    · simp at hmode'
  have hevents : ∀ event ∈ hurriedEvents, event.KeepsPace
      (gridTime singleModeSender.localTimestamp.nanoseconds 40 (1 + 1)) := by
    refine List.forall_mem_cons.mpr ⟨⟨by decide, trivial⟩, fun event hevent ↦ ?_⟩
    rw [List.eq_of_mem_replicate hevent]
    exact ⟨by decide, by decide⟩
  exact passedGate_le .synchronous rfl (by decide) rfl (by decide)
    (always_deadlineAtLeast .synchronous hconfigured (by simp [DeadlineAtLeast, singleModeSender,
      start]) hurriedEvents) hevents

end Sender

end Tanos
