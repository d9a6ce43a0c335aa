import Tanos.Sender.SendingGate

/-!
# Stopping a sender

`stop` sets the control value to `THREAD_STOP`, which neither gate lets through, and a flag that the
thread only looks at behind a packet and behind an object. A thread that waits at a gate for a
predicate that is false has no step (`blocked_iff_run_eq`). After `stop` everything depends on what
the thread comes to first. `ReachesFlag` is the condition that this is the flag, or its end, and not
a gate. No step of a stopped thread changes this (`reachesFlag_run`), and a thread that does not
meet the condition gets closer to a gate with every step (`gateDistance_run`), so that it can wait
there for good exactly if it does not meet the condition (`cannotHang_iff`).
-/

set_option autoImplicit false
set_option relaxedAutoImplicit false

namespace Tanos

open Library.Runs

/-- A step of the thread. -/
def SenderEvent.OfThread : SenderEvent → Prop
  | .run _ => True
  | .notify _ | .stop => False

namespace Sender

/-- The thread waits at a gate for a predicate that is false. -/
def Blocked (sender : Sender) : Prop :=
  sender.phase = .startGate ∧ sender.generator.trafficGeneratorControl ≠ .threadTransmission ∨
    sender.phase = .packetGate ∧ sender.generator.trafficGeneratorControl.Blocks

/-- Whatever the thread does after `stop`, it does not come to wait for a predicate that is
false. -/
def CannotHang (kind : SenderKind) (sender : Sender) : Prop :=
  ∀ events, (∀ event ∈ events, event.OfThread) →
    ¬ (finalState (step kind) (step kind sender .stop).1 events).Blocked

/-- The thread looks for a new mode and finds one that is not configured. -/
def FindsUnknownMode (sender : Sender) : Prop :=
  sender.currentMode ≠ sender.generator.modeGlobal ∧
    sender.serviceSettingsStruct[sender.generator.modeGlobal]? = none

/-- No packet of an object with the current settings makes the thread wait, from the one with the
given number on: there is none, or an unknown mode ends the object in front of it. -/
def LeavesObject (kind : SenderKind) (sender : Sender) (numberPacket : UInt32) : Prop :=
  ∀ settings ∈ sender.currentSettings, numberPacket < settings.numberPackets →
    kind = .asynchronous ∧ sender.FindsUnknownMode

/-- Objects of the notified mode have no packets, if it is configured. -/
def NotifiedObjectEmpty (sender : Sender) : Prop :=
  ∀ settings ∈ sender.serviceSettingsStruct[sender.generator.modeGlobal]?,
    settings.numberPackets ≤ 0

/-- From the phase on, a stopped thread comes to the stop flag or to its end before it comes to a
gate. -/
def ReachesFlag (kind : SenderKind) (sender : Sender) : SenderPhase → Prop
  | .sending | .stopCheck | .objectEnd | .afterObject | .closed | .crashed => True
  | .startGate | .packetGate | .waiting | .pollClock => False
  | .checkMode .packet => sender.FindsUnknownMode
  | .changeMode .packet => sender.serviceSettingsStruct[sender.generator.modeGlobal]? = none
  | .checkUpdate .packet | .adoptTimestamp .packet | .clearUpdate .packet => False
  | .packetLoop => sender.LeavesObject kind sender.numberPacket
  | .checkUpdate .object | .adoptTimestamp .object | .clearUpdate .object | .buildObject =>
    sender.LeavesObject kind 0
  | .changeMode .object => sender.NotifiedObjectEmpty
  | .checkMode .object =>
    (sender.currentMode ≠ sender.generator.modeGlobal → sender.NotifiedObjectEmpty) ∧
      (sender.currentMode = sender.generator.modeGlobal → sender.LeavesObject kind 0)

/-- The thread has been stopped. -/
structure Stopped (sender : Sender) : Prop where
  control_eq : sender.generator.trafficGeneratorControl = .threadStop
  stopThread_eq : sender.stopThread = true

variable {kind : SenderKind} {sender : Sender}

/-! ### Waiting -/

/-- A thread that waits stays where it is. -/
theorem run_of_blocked (h : sender.Blocked) (clock : Timespec) :
    sender.run kind clock = (sender, []) := by
  rcases h with ⟨hphase, hcontrol⟩ | ⟨hphase, hcontrol⟩
  · simp only [run, hphase]
    exact if_neg hcontrol
  · simp only [run, hphase]
    exact if_neg (not_or.mpr hcontrol)

/-- Any other thread that has not come to its end goes on. -/
theorem phase_run_ne (h : ¬ sender.Blocked) (hclosed : sender.phase ≠ .closed)
    (hcrashed : sender.phase ≠ .crashed) (clock : Timespec) :
    (sender.run kind clock).1.phase ≠ sender.phase := by
  obtain ⟨hstart, hpacket⟩ := not_or.mp h
  cases hphase : sender.phase with
  | startGate =>
    have hopen : sender.generator.trafficGeneratorControl = .threadTransmission :=
      not_not.mp fun hcontrol ↦ hstart ⟨hphase, hcontrol⟩
    simp only [run, hphase]
    rw [if_pos hopen]
    simp
  | packetGate =>
    have hopen := not_not.mp fun hnot ↦ hpacket ⟨hphase, not_or.mp hnot⟩
    simp only [run, hphase]
    rw [if_pos hopen]
    simp
  | changeMode place =>
    simp only [run, hphase, changeMode]
    cases place <;> split <;> simp
  | closed => exact absurd hphase hclosed
  | crashed => exact absurd hphase hcrashed
  | checkMode place =>
    simp only [run, hphase]
    cases place <;> split_ifs <;> simp [Place.next]
  | checkUpdate place =>
    simp only [run, hphase]
    cases place <;> split_ifs <;> simp [Place.next]
  | clearUpdate place =>
    simp only [run, hphase]
    cases place <;> simp [Place.next]
  | _ =>
    simp only [run, hphase, buildObject, sendPacket, withSettings]
    repeat' split
    all_goals simp

/-- To wait at a gate is to have no step. Assumes: the thread has not come to its end. -/
theorem blocked_iff_run_eq (hclosed : sender.phase ≠ .closed) (hcrashed : sender.phase ≠ .crashed)
    (clock : Timespec) : sender.Blocked ↔ sender.run kind clock = (sender, []) := by
  constructor
  · exact fun hblocked ↦ run_of_blocked hblocked clock
  · intro hstays
    by_contra hblocked
    have hmoves : (sender.run kind clock).1.phase ≠ sender.phase :=
      phase_run_ne hblocked hclosed hcrashed clock
    rw [hstays] at hmoves
    exact hmoves rfl

/-! ### What a stopped thread comes to -/

theorem stopped_stop (kind : SenderKind) (sender : Sender) : (step kind sender .stop).1.Stopped :=
  ⟨rfl, rfl⟩

theorem stopped_run (h : sender.Stopped) (clock : Timespec) :
    (sender.run kind clock).1.Stopped := by
  obtain ⟨hstop, -, hcontrol, -⟩ := run_frame kind sender clock
  exact ⟨hcontrol.trans h.control_eq, hstop.trans h.stopThread_eq⟩

/-- Behind the adoption of a mode only the size of its objects matters. -/
theorem leavesObject_changed {settings : ServiceSettings}
    (hmode : sender.currentMode = sender.generator.modeGlobal)
    (hsettings : sender.currentSettings = some settings) :
    sender.LeavesObject kind 0 ↔ settings.numberPackets ≤ 0 := by
  constructor
  · intro h
    by_contra hmore
    exact (h settings hsettings (UInt32.not_le.mp hmore)).2.1 hmode
  · intro hempty other hother hmore
    rw [Option.mem_def, hsettings] at hother
    rw [← Option.some.inj hother] at hmore
    exact absurd hmore (UInt32.not_lt.mpr hempty)

theorem reachesFlag_packetLoop (hphase : sender.phase = .packetLoop) (clock : Timespec) :
    ReachesFlag kind (sender.run kind clock).1 (sender.run kind clock).1.phase ↔
      sender.LeavesObject kind sender.numberPacket := by
  simp only [run, hphase]
  cases hsettings : sender.currentSettings with
  | none => simp [withSettings, hsettings, ReachesFlag, LeavesObject]
  | some settings =>
    rw [withSettings_of_some hsettings]
    split_ifs with hmore
    · cases kind with
      | synchronous => simp [ReachesFlag, LeavesObject, hsettings, hmore]
      | asynchronous => simp [ReachesFlag, LeavesObject, FindsUnknownMode, hsettings, hmore]
    · simp [ReachesFlag, LeavesObject, hsettings, hmore]

theorem reachesFlag_changeMode {place : Place} (hphase : sender.phase = .changeMode place)
    (clock : Timespec) :
    ReachesFlag kind (sender.run kind clock).1 (sender.run kind clock).1.phase ↔
      ReachesFlag kind sender (.changeMode place) := by
  simp only [run, hphase]
  cases hsettings : sender.serviceSettingsStruct[sender.generator.modeGlobal]? with
  | none => cases place <;> simp [changeMode, hsettings, ReachesFlag, NotifiedObjectEmpty]
  | some settings =>
    simp only [changeMode, hsettings]
    cases place with
    | object =>
      have hempty : sender.NotifiedObjectEmpty ↔ settings.numberPackets ≤ 0 := by
        simp [NotifiedObjectEmpty, hsettings]
      exact (leavesObject_changed rfl rfl).trans hempty.symm
    | packet => simp [ReachesFlag, hsettings]

/-- No step of a stopped thread changes what it comes to first. -/
theorem reachesFlag_run (h : sender.Stopped) (clock : Timespec) :
    ReachesFlag kind (sender.run kind clock).1 (sender.run kind clock).1.phase ↔
      ReachesFlag kind sender sender.phase := by
  obtain ⟨hcontrol, hstop⟩ := h
  cases hphase : sender.phase with
  | startGate => simp [run, hphase, hcontrol]
  | checkMode place =>
    simp only [run, hphase]
    by_cases hmode : sender.currentMode = sender.generator.modeGlobal
    · rw [if_neg (not_not.mpr hmode)]
      cases place with
      | object => simp [ReachesFlag, Place.next, hmode, LeavesObject, FindsUnknownMode]
      | packet => simp [ReachesFlag, Place.next, hmode, FindsUnknownMode]
    · rw [if_pos hmode]
      cases place with
      | object => simp [ReachesFlag, hmode, NotifiedObjectEmpty]
      | packet => simp [ReachesFlag, hmode, FindsUnknownMode]
  | changeMode place => exact reachesFlag_changeMode hphase clock
  | checkUpdate place =>
    simp only [run, hphase]
    cases place <;> split_ifs <;> rfl
  | adoptTimestamp place =>
    simp only [run, hphase]
    cases place <;> rfl
  | clearUpdate place =>
    simp only [run, hphase]
    cases place <;> rfl
  | buildObject =>
    simp only [run, hphase, buildObject]
    cases hsettings : sender.currentSettings with
    | none => simp [withSettings, hsettings, ReachesFlag, LeavesObject]
    | some settings =>
      rw [withSettings_of_some hsettings]
      simp [ReachesFlag, LeavesObject, FindsUnknownMode, hsettings]
  | packetLoop => exact reachesFlag_packetLoop hphase clock
  | packetGate => simp [run, hphase, hcontrol]
  | sending =>
    simp only [run, hphase, sendPacket, withSettings]
    split <;> rfl
  | stopCheck => simp [run, hphase, hstop, ReachesFlag]
  | objectEnd =>
    simp only [run, hphase]
    split_ifs <;> rfl
  | afterObject => simp [run, hphase, hstop, ReachesFlag]
  | waiting => simp [run, hphase, hcontrol, ReachesFlag]
  | pollClock =>
    simp only [run, hphase]
    split_ifs <;> rfl
  | closed => simp [run, hphase]
  | crashed => simp [run, hphase]

/-- A bound on the steps from a phase to a gate. -/
def gateDistance : SenderPhase → ℕ
  | .checkMode .object => 12
  | .changeMode .object => 11
  | .checkUpdate .object => 10
  | .adoptTimestamp .object => 9
  | .clearUpdate .object => 8
  | .buildObject => 7
  | .packetLoop => 6
  | .checkMode .packet => 5
  | .changeMode .packet => 4
  | .checkUpdate .packet => 3
  | .adoptTimestamp .packet => 2
  | .clearUpdate .packet => 1
  | .waiting => 2
  | .pollClock => 1
  | .startGate | .packetGate | .sending | .stopCheck | .objectEnd | .afterObject | .closed
  | .crashed => 0

theorem reached_self (time : Timespec) : reached time time = true := by
  simp [reached]

/-- A stopped thread that comes to a gate first gets closer to it, if its clock shows the end of the
period. -/
theorem gateDistance_run (h : sender.Stopped) (hgate : ¬ ReachesFlag kind sender sender.phase)
    (hblocked : ¬ sender.Blocked) :
    gateDistance (sender.run kind sender.targetTime).1.phase < gateDistance sender.phase := by
  obtain ⟨hcontrol, -⟩ := h
  cases hphase : sender.phase with
  | startGate =>
    refine absurd (Or.inl ⟨hphase, ?_⟩) hblocked
    rw [hcontrol]
    decide
  | packetGate =>
    refine absurd (Or.inr ⟨hphase, ?_⟩) hblocked
    rw [hcontrol]
    decide
  | checkMode place =>
    simp only [run, hphase]
    cases place <;> split_ifs <;> simp [gateDistance, Place.next]
  | changeMode place =>
    simp only [run, hphase, changeMode]
    cases place <;> split <;> simp [gateDistance]
  | checkUpdate place =>
    simp only [run, hphase]
    cases place <;> split_ifs <;> simp [gateDistance, Place.next]
  | adoptTimestamp place =>
    simp only [run, hphase]
    cases place <;> simp [gateDistance]
  | clearUpdate place =>
    simp only [run, hphase]
    cases place <;> simp [gateDistance, Place.next]
  | buildObject =>
    simp only [run, hphase, buildObject, withSettings]
    split <;> simp [gateDistance]
  | packetLoop =>
    simp only [run, hphase, withSettings]
    split
    · split_ifs
      · cases kind <;> simp [gateDistance]
      · simp [gateDistance]
    · simp [gateDistance]
  | waiting =>
    simp only [run, hphase]
    split_ifs <;> simp [gateDistance]
  | pollClock =>
    simp only [run, hphase]
    rw [if_pos (reached_self sender.targetTime)]
    exact Nat.zero_lt_one
  | _ =>
    rw [hphase] at hgate
    exact absurd trivial hgate

/-- A stopped thread that comes to the stop flag or to its end first does so in every run of its
own. -/
theorem reachesFlag_ofThread (hstopped : sender.Stopped)
    (hflag : ReachesFlag kind sender sender.phase) {events : List SenderEvent}
    (hevents : ∀ event ∈ events, event.OfThread) :
    ReachesFlag kind (finalState (step kind) sender events)
      (finalState (step kind) sender events).phase := by
  have hlast : Always (step kind)
      (fun current ↦ current.Stopped ∧ ReachesFlag kind current current.phase) sender events := by
    refine always_of_step (fun current event hevent ⟨hcurrent, hreaches⟩ ↦ ?_) ⟨hstopped, hflag⟩
    cases event with
    | notify notification => exact (hevents _ hevent).elim
    | stop => exact (hevents _ hevent).elim
    | run clock => exact ⟨stopped_run hcurrent clock, (reachesFlag_run hcurrent clock).mpr hreaches⟩
  exact (hlast events (List.prefix_refl events)).2

/-- A stopped thread that comes to a gate first waits there in some run of its own. -/
theorem exists_blocked (hstopped : sender.Stopped)
    (hgate : ¬ ReachesFlag kind sender sender.phase) :
    ∃ events, (∀ event ∈ events, event.OfThread) ∧
      (finalState (step kind) sender events).Blocked := by
  have hrun : ∃ events, (∀ event ∈ events, event.OfThread) ∧
      Always (step kind) (fun current ↦ current.Stopped ∧
        ¬ ReachesFlag kind current current.phase) sender events ∧
      (finalState (step kind) sender events).Blocked := by
    refine exists_run_of_rank (fun current ↦ gateDistance current.phase) ?_ ⟨hstopped, hgate⟩
    rintro current ⟨hcurrent, hcomes⟩ hblocked
    refine ⟨.run current.targetTime, trivial, ⟨stopped_run hcurrent _, ?_⟩,
      gateDistance_run hcurrent hcomes hblocked⟩
    exact (reachesFlag_run hcurrent _).not.mpr hcomes
  obtain ⟨events, hevents, -, hblocked⟩ := hrun
  exact ⟨events, hevents, hblocked⟩

/-- `stop` cannot leave the thread waiting at a gate exactly if the thread comes to the stop flag or
to its end before it comes to a gate. -/
theorem cannotHang_iff (kind : SenderKind) (sender : Sender) :
    sender.CannotHang kind ↔ sender.ReachesFlag kind sender.phase := by
  -- The condition does not read what `stop` writes.
  have hbefore : ReachesFlag kind (step kind sender .stop).1 (step kind sender .stop).1.phase ↔
      ReachesFlag kind sender sender.phase := Iff.rfl
  have hstopped := stopped_stop kind sender
  constructor
  · intro hfree
    by_contra hgate
    obtain ⟨events, hevents, hblocked⟩ := exists_blocked hstopped (hbefore.not.mpr hgate)
    exact hfree events hevents hblocked
  · intro hflag events hevents hblocked
    have hreaches := reachesFlag_ofThread hstopped (hbefore.mpr hflag) hevents
    rcases hblocked with ⟨hphase, -⟩ | ⟨hphase, -⟩
    · rw [hphase] at hreaches
      exact hreaches
    · rw [hphase] at hreaches
      exact hreaches

/-- A thread that has not been told to send yet hangs. -/
theorem not_cannotHang_started :
    ¬ (start ((∅ : StdMap UInt32 ServiceSettings).insert 1 twoPackets) 9 .threadPaused
      ⟨0, 0⟩).CannotHang .synchronous := by
  intro h
  refine h [] (List.forall_mem_nil _) (Or.inl ⟨rfl, ?_⟩)
  decide

end Sender

end Tanos
