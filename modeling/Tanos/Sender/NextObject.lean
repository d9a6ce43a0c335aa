import Tanos.Sender.PeriodAnchor
import Tanos.Sender.StopProgress

/-!
# The way to the next object

A thread that has settings and is not stopped comes to its next object, although the notified mode
is not configured, from every place behind the lookup of a mode. `Heading` is the invariant of this
way, `objectDistance` a bound on its steps (`advances_run`), and `exists_started` the run that
starts the object. Before the first object the thread may have no settings, in which case it has not
left the places in front of an object (`beforeSettings_finalState`).
-/

set_option autoImplicit false
set_option relaxedAutoImplicit false

namespace Tanos

open Library.Runs

namespace Sender

/-- The mode notified last is not configured. -/
def ModeUnknown (sender : Sender) : Prop :=
  sender.serviceSettingsStruct[sender.generator.modeGlobal]? = none

variable {kind : SenderKind} {sender : Sender}

/-- A step of the thread does not configure a mode. -/
theorem modeUnknown_run (kind : SenderKind) (h : sender.ModeUnknown) (clock : Timespec) :
    (sender.run kind clock).1.ModeUnknown := by
  obtain ⟨-, hmode, -, hsettings⟩ := run_frame kind sender clock
  rw [ModeUnknown, hsettings, hmode]
  exact h

/-! ### Before the first object -/

/-- The thread has no settings before it has found its first mode. -/
def BeforeSettings : SenderPhase → Prop
  | .startGate | .checkMode .object | .changeMode .object | .buildObject | .closed | .crashed =>
    True
  | _ => False

theorem beforeSettings_step (h : sender.currentSettings = none → BeforeSettings sender.phase)
    (event : SenderEvent) (hnext : (sender.step kind event).1.currentSettings = none) :
    BeforeSettings (sender.step kind event).1.phase := by
  cases event with
  | notify notification => exact h hnext
  | stop => exact h hnext
  | run clock =>
    change BeforeSettings (sender.run kind clock).1.phase
    change (sender.run kind clock).1.currentSettings = none at hnext
    cases hphase : sender.phase with
    | changeMode place =>
      rw [hphase] at h
      simp only [run, hphase, changeMode] at hnext ⊢
      cases place with
      | object =>
        split at hnext
        · simp at hnext
        · trivial
      | packet =>
        split at hnext
        · simp at hnext
        · exact h hnext
    | checkMode place =>
      rw [hphase] at h
      simp only [run, hphase] at hnext ⊢
      split_ifs at hnext ⊢ <;> cases place
      · trivial
      · exact h hnext
      · trivial
      · exact h hnext
    | checkUpdate place =>
      rw [hphase] at h
      simp only [run, hphase] at hnext ⊢
      split_ifs at hnext ⊢ <;> cases place
      · exact h hnext
      · exact h hnext
      · trivial
      · exact h hnext
    | clearUpdate place =>
      rw [hphase] at h
      simp only [run, hphase] at hnext ⊢
      cases place with
      | object => trivial
      | packet => exact h hnext
    | startGate =>
      simp only [run, hphase]
      split_ifs
      · trivial
      · rw [hphase]
        trivial
    | buildObject =>
      simp only [run, hphase, buildObject, withSettings] at hnext ⊢
      split at hnext
      · next settings hsettings =>
        exact absurd (hsettings.symm.trans hnext) (Option.some_ne_none settings)
      · trivial
    | closed | crashed =>
      simp only [run, hphase]
      trivial
    | _ =>
      rw [hphase] at h
      simp only [run, hphase, sendPacket, withSettings] at hnext ⊢
      repeat' split at hnext
      all_goals exact (h hnext).elim

theorem beforeSettings_finalState (kind : SenderKind)
    (h : sender.currentSettings = none → BeforeSettings sender.phase) (events : List SenderEvent) :
    (finalState (step kind) sender events).currentSettings = none →
      BeforeSettings (finalState (step kind) sender events).phase := by
  have halways : Always (step kind)
      (fun current ↦ current.currentSettings = none → BeforeSettings current.phase) sender events :=
    always_of_step (fun current event _ hcurrent ↦ beforeSettings_step hcurrent event) h
  exact halways events (List.prefix_refl events)

/-! ### On the way -/

/-- The packets of an object with the given settings that are still to come. -/
def packetsLeft (sender : Sender) : ℕ :=
  (sender.currentSettings.elim 0 fun settings ↦ settings.numberPackets.toNat) -
    sender.numberPacket.toNat

/-- Places from which the thread comes to the next object. -/
def HeadingAt (sender : Sender) : SenderPhase → Prop
  | .checkMode .packet | .changeMode .packet =>
    sender.numberObject < autoTrafficTermination ∧ sender.numberPacket.toNat + 1 < 2 ^ 32
  | .packetGate | .sending =>
    sender.currentMode = sender.generator.modeGlobal ∧
      sender.numberObject < autoTrafficTermination ∧ sender.numberPacket.toNat + 1 < 2 ^ 32
  | .packetLoop | .stopCheck | .objectEnd =>
    sender.currentMode = sender.generator.modeGlobal ∧
      sender.numberObject < autoTrafficTermination
  | .afterObject | .waiting | .pollClock | .startGate | .checkMode .object | .buildObject =>
    sender.currentMode = sender.generator.modeGlobal
  | _ => False

/-- The thread is on its way to another object, although the notified mode is unknown. -/
structure Heading (sender : Sender) : Prop where
  control_eq : sender.generator.trafficGeneratorControl = .threadTransmission
  stopThread_eq : sender.stopThread = false
  modeUnknown : sender.ModeUnknown
  currentSettings_ne : sender.currentSettings ≠ none
  headingAt : HeadingAt sender sender.phase

/-- A bound on the steps to the next object. -/
def objectDistance (sender : Sender) : SenderPhase → ℕ
  | .checkMode .packet => 10 * (sender.packetsLeft - 1) + 16
  | .changeMode .packet => 10 * (sender.packetsLeft - 1) + 15
  | .packetGate => 10 * (sender.packetsLeft - 1) + 14
  | .sending => 10 * (sender.packetsLeft - 1) + 13
  | .stopCheck => 10 * sender.packetsLeft + 12
  | .packetLoop => 10 * sender.packetsLeft + 11
  | .objectEnd => 7
  | .afterObject => 6
  | .waiting => 5
  | .pollClock => 4
  | .startGate => 3
  | .checkMode .object => 2
  | _ => 1

/-- The thread is about to build an object. -/
def BuildsObject (sender : Sender) : Prop := sender.phase = .buildObject

/-- A sender with settings has them. -/
theorem Heading.exists_settings (h : sender.Heading) :
    ∃ settings, sender.currentSettings = some settings :=
  Option.ne_none_iff_exists'.mp h.currentSettings_ne

theorem packetsLeft_of_some {settings : ServiceSettings}
    (hsettings : sender.currentSettings = some settings) :
    sender.packetsLeft = settings.numberPackets.toNat - sender.numberPacket.toNat := by
  rw [packetsLeft, hsettings]
  rfl

theorem packetsLeft_sendPacket {settings : ServiceSettings}
    (hsettings : sender.currentSettings = some settings)
    (hbound : sender.numberPacket.toNat + 1 < 2 ^ 32) (clock : Timespec) :
    (sender.sendPacket clock).1.packetsLeft = sender.packetsLeft - 1 := by
  have hcurrent : (sender.sendPacket clock).1.currentSettings = some settings := by
    rw [sendPacket, withSettings_of_some hsettings]
    exact hsettings
  have hcounted : (sender.sendPacket clock).1.numberPacket = sender.numberPacket + 1 := by
    rw [sendPacket, withSettings_of_some hsettings]
  rw [packetsLeft_of_some hcurrent, packetsLeft_of_some hsettings, hcounted, toNat_succ hbound]
  omega

/-- The thread is still on its way, with the same settings, and nearer to the next object. -/
structure Advances (sender : Sender) (distance : ℕ) (next : Sender) : Prop where
  headingAt : HeadingAt next next.phase
  currentSettings_eq : next.currentSettings = sender.currentSettings
  distance_lt : objectDistance next next.phase < distance

/-- Whatever mode the thread has noted, it goes on within the object. -/
theorem advances_checkMode (kind : SenderKind) {place : Place}
    (hphase : sender.phase = .checkMode place) (hat : HeadingAt sender (.checkMode place))
    (clock : Timespec) :
    Advances sender (objectDistance sender (.checkMode place)) (sender.run kind clock).1 := by
  simp only [run, hphase]
  cases place with
  | object =>
    have hmode : sender.currentMode = sender.generator.modeGlobal := hat
    rw [if_neg (not_not.mpr hmode)]
    exact ⟨hmode, rfl, Nat.lt_succ_self 1⟩
  | packet =>
    split_ifs with hmode
    · exact ⟨hat, rfl, Nat.lt_succ_self _⟩
    · refine ⟨⟨not_not.mp hmode, hat⟩, rfl, ?_⟩
      show 10 * (sender.packetsLeft - 1) + 14 < 10 * (sender.packetsLeft - 1) + 16
      omega

/-- The loop over the packets comes to the next packet or to the end of the object. -/
theorem advances_packetLoop (kind : SenderKind) {settings : ServiceSettings}
    (hsettings : sender.currentSettings = some settings) (hphase : sender.phase = .packetLoop)
    (hat : HeadingAt sender .packetLoop) (clock : Timespec) :
    Advances sender (objectDistance sender .packetLoop) (sender.run kind clock).1 := by
  obtain ⟨hmode, hnumber⟩ := hat
  have hleft := packetsLeft_of_some hsettings
  simp only [run, hphase]
  rw [withSettings_of_some hsettings]
  split_ifs with hmore
  · have hpacket := UInt32.lt_iff_toNat_lt.mp hmore
    have hbound : sender.numberPacket.toNat + 1 < 2 ^ 32 :=
      (Nat.succ_le_of_lt hpacket).trans_lt settings.numberPackets.toNat_lt
    have hpositive : 1 ≤ sender.packetsLeft := by omega
    cases kind with
    | synchronous =>
      refine ⟨⟨hmode, hnumber, hbound⟩, rfl, ?_⟩
      show 10 * (sender.packetsLeft - 1) + 14 < 10 * sender.packetsLeft + 11
      omega
    | asynchronous =>
      refine ⟨⟨hnumber, hbound⟩, rfl, ?_⟩
      show 10 * (sender.packetsLeft - 1) + 16 < 10 * sender.packetsLeft + 11
      omega
  · refine ⟨⟨hmode, hnumber⟩, rfl, ?_⟩
    show 7 < 10 * sender.packetsLeft + 11
    omega

/-- A packet that is sent is no longer to come. -/
theorem advances_sending (kind : SenderKind) {settings : ServiceSettings}
    (hsettings : sender.currentSettings = some settings) (hphase : sender.phase = .sending)
    (hat : HeadingAt sender .sending) (clock : Timespec) :
    Advances sender (objectDistance sender .sending) (sender.run kind clock).1 := by
  obtain ⟨hmode, hnumber, hbound⟩ := hat
  have hnext := packetsLeft_sendPacket hsettings hbound clock
  simp only [run, hphase]
  rw [sendPacket, withSettings_of_some hsettings] at hnext ⊢
  refine ⟨⟨hmode, hnumber⟩, rfl, ?_⟩
  show 10 * _ + 12 < 10 * (sender.packetsLeft - 1) + 13
  rw [hnext]
  exact Nat.lt_succ_self _

/-- A step on the way to the next object. -/
theorem advances_run (kind : SenderKind) (h : sender.Heading)
    (hobject : sender.phase ≠ .buildObject) :
    Advances sender (objectDistance sender sender.phase)
      (sender.run kind sender.targetTime).1 := by
  obtain ⟨settings, hsettings⟩ := h.exists_settings
  obtain ⟨hcontrol, hstop, hunknown, -, hat⟩ := h
  have hunknown : sender.serviceSettingsStruct[sender.generator.modeGlobal]? = none := hunknown
  cases hphase : sender.phase with
  | startGate =>
    rw [hphase] at hat
    simp only [run, hphase]
    rw [if_pos hcontrol]
    exact ⟨hat, rfl, Nat.lt_succ_self 2⟩
  | checkMode place =>
    rw [hphase] at hat
    exact advances_checkMode kind hphase hat sender.targetTime
  | changeMode place =>
    rw [hphase] at hat
    cases place with
    | object => exact hat.elim
    | packet =>
      simp only [run, hphase, changeMode, hunknown]
      refine ⟨⟨rfl, hat.1⟩, rfl, ?_⟩
      simp only [objectDistance]
      omega
  | packetLoop =>
    rw [hphase] at hat
    exact advances_packetLoop kind hsettings hphase hat sender.targetTime
  | packetGate =>
    rw [hphase] at hat
    simp only [run, hphase]
    rw [if_pos (Or.inl hcontrol)]
    exact ⟨hat, rfl, Nat.lt_succ_self _⟩
  | sending =>
    rw [hphase] at hat
    exact advances_sending kind hsettings hphase hat sender.targetTime
  | stopCheck =>
    rw [hphase] at hat
    simp only [run, hphase]
    rw [if_neg (by rw [hstop]; decide)]
    exact ⟨hat, rfl, Nat.lt_succ_self _⟩
  | objectEnd =>
    rw [hphase] at hat
    simp only [run, hphase]
    rw [if_neg (not_le.mpr hat.2)]
    exact ⟨hat.1, rfl, Nat.lt_succ_self 6⟩
  | afterObject =>
    rw [hphase] at hat
    simp only [run, hphase]
    rw [if_neg (by rw [hstop]; decide), withSettings_of_some hsettings]
    exact ⟨hat, rfl, Nat.lt_succ_self 5⟩
  | waiting =>
    rw [hphase] at hat
    simp only [run, hphase]
    rw [if_neg (by rw [hcontrol]; decide)]
    exact ⟨hat, rfl, Nat.lt_succ_self 4⟩
  | pollClock =>
    rw [hphase] at hat
    simp only [run, hphase]
    rw [if_pos (reached_self sender.targetTime)]
    exact ⟨hat, rfl, Nat.lt_succ_self 3⟩
  | buildObject => exact absurd hphase hobject
  | checkUpdate place | adoptTimestamp place | clearUpdate place =>
    rw [hphase] at hat
    exact hat.elim
  | closed | crashed =>
    rw [hphase] at hat
    exact hat.elim

theorem heading_run (h : sender.Heading) (hobject : sender.phase ≠ .buildObject) :
    (sender.run kind sender.targetTime).1.Heading := by
  obtain ⟨hstop, -, hcontrol, -⟩ := run_frame kind sender sender.targetTime
  obtain ⟨hat, hsettings, -⟩ := advances_run kind h hobject
  exact ⟨hcontrol.trans h.control_eq, hstop.trans h.stopThread_eq,
    modeUnknown_run kind h.modeUnknown _, hsettings ▸ h.currentSettings_ne, hat⟩

/-- A thread that is about to build an object starts it. -/
theorem isStarted_of_buildObject (kind : SenderKind) (hphase : sender.phase = .buildObject)
    (hsettings : sender.currentSettings ≠ none) (clock : Timespec) :
    ∃ output ∈ (sender.run kind clock).2, output.isStarted = true := by
  obtain ⟨settings, hsome⟩ := Option.ne_none_iff_exists'.mp hsettings
  simp only [run, hphase, buildObject]
  rw [withSettings_of_some hsome]
  exact ⟨_, List.mem_singleton_self _, rfl⟩

/-- A run of a thread on its way to another object starts it. -/
theorem exists_started (kind : SenderKind) (h : sender.Heading) :
    ∃ events, Always (step kind) ModeUnknown sender events ∧
      ∃ output ∈ outputs (step kind) sender events, output.isStarted = true := by
  have hrun : ∃ events, (∀ event ∈ events, event.OfThread) ∧
      Always (step kind) Heading sender events ∧
      (finalState (step kind) sender events).BuildsObject := by
    refine exists_run_of_rank (fun current ↦ objectDistance current current.phase) ?_ h
    intro current hcurrent hobject
    exact ⟨.run current.targetTime, trivial, heading_run hcurrent hobject,
      (advances_run kind hcurrent hobject).distance_lt⟩
  obtain ⟨events, -, halways, hobject⟩ := hrun
  have hlast : (finalState (step kind) sender events).Heading :=
    halways events (List.prefix_refl events)
  obtain ⟨output, hmem, hstarted⟩ :=
    isStarted_of_buildObject kind hobject hlast.currentSettings_ne ⟨0, 0⟩
  refine ⟨events ++ [.run ⟨0, 0⟩], (always_append _ _ _).mpr ⟨?_, ?_⟩, output, ?_, hstarted⟩
  · exact fun past hpast ↦ (halways past hpast).modeUnknown
  · refine (always_cons _ _ _).mpr ⟨hlast.modeUnknown, (always_nil _).mpr ?_⟩
    exact modeUnknown_run kind hlast.modeUnknown _
  · rw [outputs_append]
    exact List.mem_append_right _ (List.mem_append_left _ hmem)

end Sender

end Tanos
