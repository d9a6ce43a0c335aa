import Tanos.Library.Stuttering
import Tanos.Sender.Objects

/-!
# The two sending functions

`send_objects_dynamic_change_asynchron` looks for a new mode in front of every packet, where
`send_objects_dynamic_change` goes on at once. As long as none of these looks finds a new mode, the
asynchronous function does what the synchronous one does: its runs are runs of the synchronous
function without the looks, with the same outputs and the same notifications in between
(`asynchron_refines`). What is known about the synchronous function therefore holds of both, unless
a mode changes within an object.
-/

set_option autoImplicit false
set_option relaxedAutoImplicit false

namespace Tanos

open Library.Runs Library.Stuttering

/-- The place of the synchronous function: it does not stop for a look in front of a packet. -/
def SenderPhase.withoutLook : SenderPhase → SenderPhase
  | checkMode .packet => packetGate
  | phase => phase

/-- The place is not behind a look in front of a packet that has found a new mode. -/
def SenderPhase.keepsMode : SenderPhase → Bool
  | changeMode .packet | checkUpdate .packet | adoptTimestamp .packet | clearUpdate .packet => false
  | _ => true

/-- The event is a step of the thread. -/
def SenderEvent.isRun : SenderEvent → Bool
  | run _ => true
  | notify _ | stop => false

namespace Sender

/-- The sender, seen from the synchronous function. -/
def withoutLook (sender : Sender) : Sender := { sender with phase := sender.phase.withoutLook }

/-- The step is a look for a new mode in front of a packet. -/
def looks (sender : Sender) (event : SenderEvent) : Bool :=
  event.isRun && decide (sender.phase = .checkMode .packet)

/-- A look in front of a packet finds the mode in use. -/
def FindsMode (sender : Sender) (event : SenderEvent) : Prop :=
  sender.looks event = true → sender.currentMode = sender.generator.modeGlobal

instance (sender : Sender) : DecidablePred sender.FindsMode := fun event ↦
  inferInstanceAs (Decidable (sender.looks event = true →
    sender.currentMode = sender.generator.modeGlobal))

variable {sender : Sender}

theorem withoutLook_of_ne (h : sender.phase ≠ .checkMode .packet) :
    sender.withoutLook = sender := by
  have hphase : sender.phase.withoutLook = sender.phase := by
    cases hphase : sender.phase with
    | checkMode place =>
      cases place with
      | object => rfl
      | packet => exact absurd hphase h
    | _ => rfl
  unfold withoutLook
  rw [hphase]

/-- Only the loop over the packets distinguishes the two functions. -/
theorem run_asynchronous (h : sender.phase ≠ .packetLoop) (clock : Timespec) :
    sender.run .asynchronous clock = sender.run .synchronous clock := by
  cases hphase : sender.phase with
  | packetLoop => exact absurd hphase h
  | _ => simp only [run, hphase]

/-- The look in front of a packet is behind the loop over the packets, and comes before the
others. -/
theorem phase_run (kind : SenderKind) (h : sender.phase.keepsMode = true) (clock : Timespec)
    (hmode : sender.phase = .checkMode .packet →
      sender.currentMode = sender.generator.modeGlobal) :
    (sender.run kind clock).1.phase.keepsMode = true ∧
      (sender.phase ≠ .packetLoop → (sender.run kind clock).1.phase ≠ .checkMode .packet) := by
  cases hphase : sender.phase with
  | checkMode place =>
    cases place with
    | object =>
      simp only [run, hphase]
      split_ifs <;> exact ⟨rfl, fun _ ↦ by simp [Place.next]⟩
    | packet =>
      have hsame : ¬ sender.currentMode ≠ sender.generator.modeGlobal := not_not.mpr (hmode hphase)
      simp only [run, hphase]
      rw [if_neg hsame]
      exact ⟨rfl, fun _ ↦ by simp [Place.next]⟩
  | changeMode place =>
    cases place with
    | object =>
      simp only [run, hphase, changeMode]
      split <;> exact ⟨rfl, fun _ ↦ by simp⟩
    | packet => exact absurd h (by simp [hphase, SenderPhase.keepsMode])
  | checkUpdate place =>
    cases place with
    | object =>
      simp only [run, hphase]
      split_ifs <;> exact ⟨rfl, fun _ ↦ by simp [Place.next]⟩
    | packet => exact absurd h (by simp [hphase, SenderPhase.keepsMode])
  | adoptTimestamp place =>
    cases place with
    | object =>
      simp only [run, hphase]
      exact ⟨rfl, fun _ ↦ by simp⟩
    | packet => exact absurd h (by simp [hphase, SenderPhase.keepsMode])
  | clearUpdate place =>
    cases place with
    | object =>
      simp only [run, hphase]
      exact ⟨rfl, fun _ ↦ by simp [Place.next]⟩
    | packet => exact absurd h (by simp [hphase, SenderPhase.keepsMode])
  | packetLoop =>
    simp only [run, hphase, withSettings]
    repeat' split
    all_goals exact ⟨rfl, fun hne ↦ absurd rfl hne⟩
  | _ =>
    simp only [run, hphase, buildObject, sendPacket, withSettings]
    repeat' split
    all_goals first
      | exact ⟨rfl, fun _ ↦ by simp⟩
      | exact ⟨by rw [hphase]; rfl, fun _ ↦ by rw [hphase]; simp⟩

/-- At another place than a look in front of a packet, the two functions make the same step. -/
theorem withoutLook_run (hlook : sender.phase ≠ .checkMode .packet)
    (hkeeps : sender.phase.keepsMode = true) (clock : Timespec) :
    sender.run .synchronous clock =
      ((sender.run .asynchronous clock).1.withoutLook, (sender.run .asynchronous clock).2) := by
  by_cases hloop : sender.phase = .packetLoop
  · simp only [run, hloop, withSettings]
    cases sender.currentSettings with
    | none => rfl
    | some settings =>
      simp only
      split_ifs with hmore
      · rfl
      · rfl
  · obtain ⟨-, hnext⟩ := phase_run .asynchronous hkeeps clock fun hphase ↦ absurd hphase hlook
    rw [withoutLook_of_ne (hnext hloop), run_asynchronous hloop]

theorem simulates : Simulates (step .asynchronous) (step .synchronous) withoutLook looks FindsMode
    (fun sender ↦ sender.phase.keepsMode = true) where
  keeps sender event hmode hkeeps := by
    cases event with
    | run clock =>
      refine (phase_run .asynchronous hkeeps clock fun hphase ↦ hmode ?_).1
      simp [looks, SenderEvent.isRun, hphase]
    | notify notification => exact hkeeps
    | stop => exact hkeeps
  matched sender event hmode hkeeps hlooks := by
    cases event with
    | run clock =>
      have hlook : sender.phase ≠ .checkMode .packet := by
        simpa [looks, SenderEvent.isRun] using hlooks
      rw [withoutLook_of_ne hlook]
      exact withoutLook_run hlook hkeeps clock
    | notify notification => rfl
    | stop => rfl
  skipped sender event hmode hkeeps hlooks := by
    cases event with
    | run clock =>
      have hphase : sender.phase = .checkMode .packet := by
        simpa [looks, SenderEvent.isRun] using hlooks
      have hsame : ¬ sender.currentMode ≠ sender.generator.modeGlobal :=
        not_not.mpr (hmode hlooks)
      have hrun : sender.run .asynchronous clock = ({ sender with phase := .packetGate }, []) := by
        simp only [run, hphase]
        exact if_neg hsame
      show (sender.run .asynchronous clock).1.withoutLook = _ ∧ (sender.run _ _).2 = []
      rw [hrun]
      refine ⟨?_, rfl⟩
      unfold withoutLook
      rw [hphase]
      rfl
    | notify notification => exact absurd hlooks Bool.false_ne_true
    | stop => exact absurd hlooks Bool.false_ne_true

/-- Assumes: no look in front of a packet finds a new mode. A run of the asynchronous function is a
run of the synchronous one on some of the readings of the clock, with the same notifications and
stops between the others and with the same outputs. -/
theorem asynchron_refines (serviceSettings : StdMap UInt32 ServiceSettings) (clientId : UInt32)
    (control : TrafficSourceControl) (uninitialised : Timespec) {events : List SenderEvent}
    (hmode : EveryStep sendObjectsDynamicChangeAsynchron FindsMode
      (start serviceSettings clientId control uninitialised) events) :
    ∃ seen : List SenderEvent, seen.Sublist events ∧
      seen.filter (fun event ↦ !event.isRun) = events.filter (fun event ↦ !event.isRun) ∧
      let sender := start serviceSettings clientId control uninitialised
      outputs sendObjectsDynamicChange sender seen =
          outputs sendObjectsDynamicChangeAsynchron sender events ∧
        finalState sendObjectsDynamicChange sender seen =
          (finalState sendObjectsDynamicChangeAsynchron sender events).withoutLook := by
  obtain ⟨hfinal, houtputs⟩ := simulates.run hmode rfl
  refine ⟨_, seen_sublist _ _, filter_seen ?_ _ _, houtputs, hfinal⟩
  intro sender event hnot
  have hrun : event.isRun = false := by simpa using hnot
  rw [looks, hrun, Bool.false_and]

/-- A mode change between two objects. -/
def changedBetween : List SenderEvent :=
  .notify (.modeChange .threadTransmission 1) :: List.replicate 17 (.run ⟨0, 0⟩) ++
    .notify (.modeChange .threadTransmission 2) :: List.replicate 25 (.run ⟨1, 0⟩)

theorem asynchron_refines_changedBetween :
    let settings := ((∅ : StdMap UInt32 ServiceSettings).insert 1 twoPackets).insert 2 twoPackets
    let sender := start settings 9 .threadPaused ⟨0, 0⟩
    ∃ seen : List SenderEvent, seen.Sublist changedBetween ∧
      seen.filter (fun event ↦ !event.isRun) = changedBetween.filter (fun event ↦ !event.isRun) ∧
      outputs sendObjectsDynamicChange sender seen =
          outputs sendObjectsDynamicChangeAsynchron sender changedBetween ∧
        finalState sendObjectsDynamicChange sender seen =
          (finalState sendObjectsDynamicChangeAsynchron sender changedBetween).withoutLook :=
  asynchron_refines _ 9 .threadPaused ⟨0, 0⟩ (by decide +kernel)

end Sender

end Tanos
