import Tanos.Sender.Objects

/-!
# The period behind a timed start

With `update_period`, `notify_generator_timestamp` hands the sender a time to count its periods
from. The sender takes this time over only where it also finds a new mode. From a sender that is
blocked at its start gate, a timed start therefore anchors the period exactly when the notified mode
is not the one in use (`reanchors_iff`). A restart in the same mode goes on with the old period, and
leaves the flag to the next change of the mode.

An object that is started with a local timestamp is followed by a wait for this time plus the
deadline of its mode (`paced_step`), and the flag is only set by a notification
(`globalUpdatePeriod_step`).
-/

set_option autoImplicit false
set_option relaxedAutoImplicit false

namespace Tanos

open Library.Runs

/-- The event asks for no update of the period. -/
def SenderEvent.KeepsPeriod : SenderEvent → Prop
  | .notify (.timestamp _ _ _ updatePeriod) => updatePeriod = false
  | _ => True

/-- The output is the start of an object. -/
def SenderOutput.isStarted : SenderOutput → Bool
  | .started _ => true
  | _ => false

namespace Sender

/-- The state in which the thread has started its next object, if it is left alone. -/
def untilObject (sender : Sender) : List Timespec → Option Sender
  | [] => none
  | clock :: clocks =>
    let next := sender.run .synchronous clock
    if next.2.any SenderOutput.isStarted then some next.1 else untilObject next.1 clocks

/-- The object has been started in its mode with the timestamp, its release is followed by the one a
deadline later, and the timestamp is not taken over again. -/
structure Anchored (sender : Sender) (settings : ServiceSettings) (timestamp : Timespec) :
    Prop where
  currentSettings_eq : sender.currentSettings = some settings
  localTimestamp_eq : sender.localTimestamp = timestamp
  targetTime_eq : ∀ events, let last := finalState sendObjectsDynamicChange sender events
    last.numberObject = sender.numberObject + 1 → last.phase = .waiting →
      last.targetTime.nanoseconds = timestamp.nanoseconds + settings.deadline.toNat * 1000000
  globalUpdatePeriod_eq : ∀ events, (∀ event ∈ events, event.KeepsPeriod) →
    (finalState sendObjectsDynamicChange sender events).generator.globalUpdatePeriod = false

/-- The next object of the thread, if it is left alone, is anchored. -/
def Reanchors (sender : Sender) (settings : ServiceSettings) (timestamp : Timespec) : Prop :=
  ∃ steps, ∀ clocks : List Timespec, steps ≤ clocks.length →
    ∃ started ∈ sender.untilObject clocks, Anchored started settings timestamp

variable {sender : Sender}

/-! ### What follows a start -/

/-- What holds in a phase behind the start of an object with the given number, in the mode and with
the local timestamp of the start. -/
def PacedAt (number : ℕ) (settings : ServiceSettings) (timestamp : Timespec) (sender : Sender) :
    SenderPhase → Prop
  | .packetLoop | .packetGate | .sending | .stopCheck | .objectEnd =>
    number ≤ sender.numberObject ∧ (sender.numberObject = number →
      sender.localTimestamp = timestamp ∧ sender.currentSettings = some settings)
  | .afterObject =>
    number < sender.numberObject ∧ (sender.numberObject = number + 1 →
      sender.localTimestamp = timestamp ∧ sender.currentSettings = some settings)
  | .waiting | .pollClock =>
    number < sender.numberObject ∧ (sender.numberObject = number + 1 →
      sender.targetTime =
        TrafficGenerator.nextLocalTimestamp settings.deadline.toNat timestamp)
  | .closed | .crashed => True
  | _ => number < sender.numberObject

/-- The object is a later one. -/
theorem pacedAt_of_lt {number : ℕ} {anchored : Prop} (h : number < sender.numberObject) :
    number ≤ sender.numberObject ∧ (sender.numberObject = number → anchored) :=
  ⟨le_of_lt h, fun heq ↦ absurd heq (Nat.ne_of_gt h)⟩

theorem paced_step {number : ℕ} {settings : ServiceSettings} {timestamp : Timespec}
    (h : PacedAt number settings timestamp sender sender.phase) (event : SenderEvent) :
    PacedAt number settings timestamp (sendObjectsDynamicChange sender event).1
      (sendObjectsDynamicChange sender event).1.phase := by
  cases event with
  | notify notification => exact h
  | stop => exact h
  | run clock =>
    show PacedAt number settings timestamp (sender.run .synchronous clock).1
      (sender.run .synchronous clock).1.phase
    cases hphase : sender.phase with
    | startGate | packetGate =>
      simp only [run, hphase]
      rw [hphase] at h
      split_ifs with hcontrol
      · exact h
      · rw [hphase]
        exact h
    | checkMode place | checkUpdate place =>
      simp only [run, hphase]
      rw [hphase] at h
      split_ifs with hread
      · exact h
      · cases place with
        | object => exact h
        | packet => exact pacedAt_of_lt h
    | changeMode place =>
      simp only [run, hphase, changeMode]
      rw [hphase] at h
      cases place with
      | object => split <;> first | exact h | trivial
      | packet =>
        split
        · exact h
        · exact pacedAt_of_lt h
    | adoptTimestamp place =>
      simp only [run, hphase]
      rw [hphase] at h
      exact h
    | clearUpdate place =>
      simp only [run, hphase]
      rw [hphase] at h
      cases place with
      | object => exact h
      | packet => exact pacedAt_of_lt h
    | buildObject =>
      simp only [run, hphase, buildObject, withSettings]
      rw [hphase] at h
      split
      · exact pacedAt_of_lt h
      · trivial
    | packetLoop =>
      simp only [run, hphase, withSettings]
      rw [hphase] at h
      split
      · split_ifs with hmore
        · exact h
        · exact h
      · trivial
    | sending =>
      simp only [run, hphase, sendPacket, withSettings]
      rw [hphase] at h
      split
      · exact h
      · trivial
    | stopCheck =>
      simp only [run, hphase]
      rw [hphase] at h
      split_ifs with hstop
      · exact h
      · exact h
    | objectEnd =>
      simp only [run, hphase]
      rw [hphase] at h
      split_ifs with hlast
      · trivial
      · exact ⟨Nat.lt_succ_of_le h.1, fun heq ↦ h.2 (Nat.succ.inj heq)⟩
    | afterObject =>
      simp only [run, hphase, withSettings]
      rw [hphase] at h
      split_ifs with hstop
      · trivial
      · split
        · next current hcurrent =>
          refine ⟨h.1, fun hnumber ↦ ?_⟩
          obtain ⟨htimestamp, hsettings⟩ := h.2 hnumber
          have hsame : current = settings := Option.some.inj (hcurrent.symm.trans hsettings)
          show TrafficGenerator.nextLocalTimestamp current.deadline.toNat sender.localTimestamp = _
          rw [hsame, htimestamp]
        · trivial
    | waiting | pollClock =>
      simp only [run, hphase]
      rw [hphase] at h
      split_ifs with hover
      · exact h.1
      · exact h
    | closed | crashed =>
      simp only [run, hphase]
      trivial

/-- The flag is only set by a notification that asks for it. -/
theorem globalUpdatePeriod_step (h : sender.generator.globalUpdatePeriod = false)
    {event : SenderEvent} (hevent : event.KeepsPeriod) :
    (sendObjectsDynamicChange sender event).1.generator.globalUpdatePeriod = false := by
  cases event with
  | notify notification =>
    cases notification with
    | generator state => exact h
    | modeChange state mode => exact h
    | timestamp state time mode updatePeriod => exact hevent
  | stop => exact h
  | run clock =>
    show (sender.run .synchronous clock).1.generator.globalUpdatePeriod = false
    cases hphase : sender.phase with
    | changeMode place =>
      simp only [run, hphase, changeMode]
      cases place <;> split <;> exact h
    | clearUpdate place =>
      simp only [run, hphase]
    | _ =>
      simp only [run, hphase, buildObject, sendPacket, withSettings]
      repeat' split
      all_goals exact h

/-- An object that is started with the timestamp, in its mode and with the flag cleared, is
anchored. -/
theorem anchored_of_started {settings : ServiceSettings} {timestamp : Timespec}
    (hphase : sender.phase = .packetLoop) (hsettings : sender.currentSettings = some settings)
    (htimestamp : sender.localTimestamp = timestamp)
    (hflag : sender.generator.globalUpdatePeriod = false) : Anchored sender settings timestamp := by
  refine ⟨hsettings, htimestamp, fun events hnumber hwaiting ↦ ?_, fun events hevents ↦ ?_⟩
  · have hpaced : PacedAt sender.numberObject settings timestamp sender sender.phase := by
      rw [hphase]
      exact ⟨le_refl _, fun _ ↦ ⟨htimestamp, hsettings⟩⟩
    have halways : Always sendObjectsDynamicChange
        (fun current ↦ PacedAt sender.numberObject settings timestamp current current.phase)
        sender events :=
      always_of_step (fun current event _ hcurrent ↦ paced_step hcurrent event) hpaced
    have hlast : PacedAt sender.numberObject settings timestamp
        (finalState sendObjectsDynamicChange sender events)
        (finalState sendObjectsDynamicChange sender events).phase :=
      halways events (List.prefix_refl events)
    rw [hwaiting] at hlast
    rw [hlast.2 hnumber]
    exact TrafficGenerator.nanoseconds_nextLocalTimestamp _ _
  · have halways : Always sendObjectsDynamicChange
        (fun current ↦ current.generator.globalUpdatePeriod = false) sender events :=
      always_of_step (fun current event hmem hcurrent ↦
        globalUpdatePeriod_step hcurrent (hevents event hmem)) hflag
    exact halways events (List.prefix_refl events)

/-! ### What leads to a start -/

/-- The sender is on its way to an object in the mode in use, with the flag set. -/
def KeepsMode (sender : Sender) : Prop :=
  sender.generator.globalUpdatePeriod = true ∧
    sender.currentMode = sender.generator.modeGlobal ∧
    (sender.phase = .startGate ∨ sender.phase = .checkMode .object ∨
      sender.phase = .buildObject ∨ sender.phase = .crashed)

theorem keepsMode_run (h : sender.KeepsMode) (clock : Timespec) :
    (sender.run .synchronous clock).1.generator.globalUpdatePeriod = true ∧
      ((sender.run .synchronous clock).2.any SenderOutput.isStarted = false →
        (sender.run .synchronous clock).1.KeepsMode) := by
  rcases h with ⟨hflag, hmode, hphase | hphase | hphase | hphase⟩
  · simp only [run, hphase]
    split_ifs with hcontrol
    · exact ⟨hflag, fun _ ↦ ⟨hflag, hmode, Or.inr (Or.inl rfl)⟩⟩
    · exact ⟨hflag, fun _ ↦ ⟨hflag, hmode, Or.inl hphase⟩⟩
  · simp only [run, hphase]
    rw [if_neg (not_not.mpr hmode)]
    exact ⟨hflag, fun _ ↦ ⟨hflag, hmode, Or.inr (Or.inr (Or.inl rfl))⟩⟩
  · simp only [run, hphase, buildObject, withSettings]
    split
    · exact ⟨hflag, fun hnone ↦ absurd hnone (by simp [SenderOutput.isStarted])⟩
    · exact ⟨hflag, fun _ ↦ ⟨hflag, hmode, Or.inr (Or.inr (Or.inr rfl))⟩⟩
  · simp only [run, hphase]
    exact ⟨hflag, fun _ ↦ ⟨hflag, hmode, Or.inr (Or.inr (Or.inr hphase))⟩⟩

/-- An object in the mode in use leaves the flag set. -/
theorem globalUpdatePeriod_of_keepsMode (h : sender.KeepsMode) {started : Sender}
    {clocks : List Timespec} (hstarted : started ∈ sender.untilObject clocks) :
    started.generator.globalUpdatePeriod = true := by
  induction clocks generalizing sender with
  | nil => exact absurd hstarted (Option.not_mem_none started)
  | cons clock clocks ih =>
    obtain ⟨hflag, hkeeps⟩ := keepsMode_run h clock
    simp only [untilObject] at hstarted
    split_ifs at hstarted with hnext
    · rw [← Option.some.inj hstarted]
      exact hflag
    · exact ih (hkeeps (Bool.eq_false_of_not_eq_true hnext)) hstarted

theorem not_reanchors_of_keepsMode (h : sender.KeepsMode) (settings : ServiceSettings)
    (timestamp : Timespec) : ¬ Reanchors sender settings timestamp := by
  intro ⟨steps, hsteps⟩
  obtain ⟨started, hstarted, hanchored⟩ :=
    hsteps (List.replicate steps ⟨0, 0⟩) (List.length_replicate ▸ le_refl _)
  have hflag := globalUpdatePeriod_of_keepsMode h hstarted
  have hcleared := hanchored.globalUpdatePeriod_eq [] (List.forall_mem_nil _)
  exact absurd (hflag.symm.trans hcleared) (by decide)

/-- The steps to the next object in a new mode. -/
theorem reanchors_of_ne {mode : UInt32} {settings : ServiceSettings} {timestamp : Timespec}
    (hphase : sender.phase = .startGate)
    (hcontrol : sender.generator = ⟨.threadTransmission, mode, true, timestamp⟩)
    (hsettings : sender.serviceSettingsStruct[mode]? = some settings)
    (hmode : mode ≠ sender.currentMode) : Reanchors sender settings timestamp := by
  refine ⟨7, fun clocks hlength ↦ ?_⟩
  match clocks, hlength with
  | gate :: check :: change :: look :: adopt :: clear :: build :: rest, _ =>
    have hchange : ¬ sender.currentMode = mode := fun heq ↦ hmode heq.symm
    simp only [untilObject, run, hphase, hcontrol, changeMode, hsettings, hchange, buildObject,
      withSettings, Place.next, if_true, ne_eq, not_false_eq_true, List.any_nil, List.any_cons,
      SenderOutput.isStarted]
    exact ⟨_, rfl, anchored_of_started rfl rfl rfl rfl⟩

/-- After a timed start, in any state in which the sender is at its start gate, the next object is
anchored exactly when the notified mode is not the one in use. Assumes: the mode is configured. -/
theorem reanchors_iff {mode : UInt32} {settings : ServiceSettings} (timestamp : Timespec)
    (hphase : sender.phase = .startGate)
    (hsettings : sender.serviceSettingsStruct[mode]? = some settings) :
    Reanchors (sendObjectsDynamicChange sender
      (.notify (.timestamp .threadTransmission timestamp mode true))).1 settings timestamp ↔
        mode ≠ sender.currentMode := by
  constructor
  · intro hreanchors heq
    have hkeeps : KeepsMode (sendObjectsDynamicChange sender
        (.notify (.timestamp .threadTransmission timestamp mode true))).1 :=
      ⟨rfl, heq.symm, Or.inl hphase⟩
    exact not_reanchors_of_keepsMode hkeeps settings timestamp hreanchors
  · intro hmode
    exact reanchors_of_ne hphase rfl hsettings hmode

/-- A sender with one mode. -/
def singleModeSender : Sender :=
  start ((∅ : StdMap UInt32 ServiceSettings).insert 1 twoPackets) 9 .threadPaused ⟨0, 0⟩

/-- The very first start. -/
theorem reanchors_firstStart :
    Reanchors (sendObjectsDynamicChange singleModeSender
      (.notify (.timestamp .threadTransmission ⟨100, 0⟩ 1 true))).1 twoPackets ⟨100, 0⟩ :=
  (reanchors_iff ⟨100, 0⟩ rfl (by decide)).mpr (by decide)

/-- A timed start, an object, and a reconfiguration that waits for its end. -/
def interruptedEvents : List SenderEvent :=
  .notify (.timestamp .threadTransmission ⟨100, 0⟩ 1 true) :: List.replicate 18 (.run ⟨100, 0⟩) ++
    [.notify (.generator .threadTransmissionFinishObject), .run ⟨100, 0⟩]

/-- A timed restart in the same mode. -/
theorem not_reanchors_restart :
    let sender := finalState sendObjectsDynamicChange singleModeSender interruptedEvents
    sender.phase = .startGate ∧
      sender.generator.trafficGeneratorControl = .threadTransmissionFinishObject ∧
      sender.serviceSettingsStruct[(1 : UInt32)]? = some twoPackets ∧
      ¬ Reanchors (sendObjectsDynamicChange sender
        (.notify (.timestamp .threadTransmission ⟨200, 0⟩ 1 true))).1 twoPackets ⟨200, 0⟩ := by
  intro sender
  have hphase : sender.phase = .startGate := by decide
  have hmode : sender.currentMode = 1 := by decide
  have hkeeps : KeepsMode (sendObjectsDynamicChange sender
      (.notify (.timestamp .threadTransmission ⟨200, 0⟩ 1 true))).1 :=
    ⟨rfl, hmode, Or.inl hphase⟩
  exact ⟨hphase, by decide, by decide, not_reanchors_of_keepsMode hkeeps twoPackets ⟨200, 0⟩⟩

end Sender

end Tanos
