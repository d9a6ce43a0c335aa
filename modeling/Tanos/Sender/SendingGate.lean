import Tanos.Sender.Objects

/-!
# The gates of the synchronous sender

The sender waits at two gates: at the one in front of an object for `THREAD_TRANSMISSION`, and at
the one in front of a packet for this value or `THREAD_TRANSMISSION_FINISH_OBJECT`. It reads the
control value while it holds the lock and sends behind it. A control value that closes the gate in
front of a packet therefore lets one packet slip through at most (`budget`), and one that only lets
objects be finished lets the packets of a single object through, the one that is past its gate
(`pastGate_step`). `sendingGate` puts this together for all interleavings.
-/

set_option autoImplicit false
set_option relaxedAutoImplicit false

namespace Tanos

open Library.Runs

/-- The control value closes the gate in front of a packet. -/
def TrafficSourceControl.Blocks (control : TrafficSourceControl) : Prop :=
  control ≠ .threadTransmission ∧ control ≠ .threadTransmissionFinishObject

instance : DecidablePred TrafficSourceControl.Blocks := fun control ↦
  inferInstanceAs (Decidable (control ≠ .threadTransmission ∧
    control ≠ .threadTransmissionFinishObject))

/-- The sender is behind the gate of an object and has not left the inner loop. -/
def SenderPhase.PastGate : SenderPhase → Prop
  | .checkMode _ | .changeMode _ | .checkUpdate _ | .adoptTimestamp _ | .clearUpdate _
  | .buildObject | .packetLoop | .packetGate | .sending | .stopCheck => True
  | .startGate | .objectEnd | .afterObject | .waiting | .pollClock | .closed | .crashed => False

/-- The output is a packet. -/
def SenderOutput.isPacket : SenderOutput → Bool
  | .packet _ => true
  | _ => false

namespace Sender

/-- The packets that a sender may still send behind a closed gate. -/
def budget (sender : Sender) : ℕ := if sender.phase = .sending then 1 else 0

variable {kind : SenderKind} {sender : Sender} {clock : Timespec}

theorem budget_le_one : sender.budget ≤ 1 := by
  unfold budget
  split_ifs
  · exact le_refl 1
  · exact Nat.zero_le 1

/-! ### What a step does at the gates -/

/-- The outputs of a step, and where those that matter here come from. -/
theorem outputs_run (kind : SenderKind) (sender : Sender) (clock : Timespec) :
    (sender.run kind clock).2 = [] ∨
    (sender.phase = .startGate ∧ sender.generator.trafficGeneratorControl = .threadTransmission ∧
      (sender.run kind clock).2 = [.passedGate]) ∨
    (sender.phase = .sending ∧ ∃ settings, (sender.run kind clock).2 = [.packet
      ⟨sender.trafficEndpointTarget, settings, sender.dataMessage.setTimestamp clock⟩]) ∨
    (∃ settings, (sender.run kind clock).2 = [.started settings]) ∨
    ∃ stopped, (sender.run kind clock).2 = [.ended stopped] := by
  cases hphase : sender.phase with
  | changeMode place =>
    simp only [run, hphase, changeMode]
    cases place <;> split <;> simp
  | _ =>
    simp only [run, hphase, buildObject, sendPacket, withSettings]
    repeat' split
    all_goals simp [*]

/-- A step to a packet passes the gate in front of it. -/
theorem not_blocks_of_run (h : (sender.run kind clock).1.phase = .sending) :
    ¬ sender.generator.trafficGeneratorControl.Blocks := by
  cases hphase : sender.phase with
  | packetGate =>
    intro hblocks
    simp only [run, hphase] at h
    rw [if_neg (not_or.mpr hblocks), hphase] at h
    exact absurd h (by decide)
  | changeMode place =>
    simp only [run, hphase, changeMode] at h
    cases place <;> split at h <;> simp at h
  | checkMode place =>
    simp only [run, hphase] at h
    cases place <;> split_ifs at h <;> simp [Place.next] at h
  | checkUpdate place =>
    simp only [run, hphase] at h
    cases place <;> split_ifs at h <;> simp [Place.next] at h
  | clearUpdate place =>
    simp only [run, hphase] at h
    cases place <;> simp [Place.next] at h
  | _ =>
    simp only [run, hphase, buildObject, sendPacket, withSettings] at h
    repeat' split at h
    all_goals simp [hphase] at h

/-- A step to a place behind the gate of an object passes it or comes from there. -/
theorem pastGate_of_run (hcontrol : sender.generator.trafficGeneratorControl ≠ .threadTransmission)
    (h : (sender.run kind clock).1.phase.PastGate) : sender.phase.PastGate := by
  cases hphase : sender.phase with
  | startGate =>
    simp only [run, hphase] at h
    rw [if_neg hcontrol, hphase] at h
    exact h
  | objectEnd =>
    simp only [run, hphase] at h
    split_ifs at h <;> exact h
  | afterObject =>
    simp only [run, hphase, withSettings] at h
    split_ifs at h
    · exact h
    · split at h <;> exact h
  | waiting =>
    simp only [run, hphase] at h
    split_ifs at h <;> exact h
  | pollClock =>
    simp only [run, hphase] at h
    split_ifs at h <;> exact h
  | closed =>
    simp only [run, hphase] at h
    exact h
  | crashed =>
    simp only [run, hphase] at h
    exact h
  | _ => trivial

/-- The sender counts its objects behind the inner loop. -/
theorem numberObject_run (h : sender.phase.PastGate) :
    (sender.run kind clock).1.numberObject = sender.numberObject := by
  cases hphase : sender.phase with
  | objectEnd =>
    rw [hphase] at h
    exact h.elim
  | changeMode place =>
    simp only [run, hphase, changeMode]
    cases place <;> split <;> rfl
  | _ =>
    simp only [run, hphase, buildObject, sendPacket, withSettings]
    repeat' split
    all_goals rfl

/-! ### What a run does behind the gates -/

/-- A step behind a closed gate pays for its packet. -/
theorem budget_step (event : SenderEvent)
    (hblocks : sender.generator.trafficGeneratorControl.Blocks) :
    (sender.step kind event).2.countP SenderOutput.isPacket + (sender.step kind event).1.budget ≤
      sender.budget := by
  cases event with
  | notify notification => exact le_of_eq (Nat.zero_add _)
  | stop => exact le_of_eq (Nat.zero_add _)
  | run clock =>
    have hnext : (sender.run kind clock).1.budget = 0 :=
      if_neg fun hsending ↦ not_blocks_of_run hsending hblocks
    rw [step, hnext, Nat.add_zero]
    obtain hnone | ⟨-, -, hgate⟩ | ⟨hphase, settings, hpacket⟩ | ⟨settings, hstarted⟩ |
      ⟨stopped, hended⟩ := outputs_run kind sender clock
    · rw [hnone]
      exact Nat.zero_le _
    · rw [hgate]
      exact Nat.zero_le _
    · have hbudget : sender.budget = 1 := if_pos hphase
      rw [hpacket, hbudget]
      exact le_refl 1
    · rw [hstarted]
      exact Nat.zero_le _
    · rw [hended]
      exact Nat.zero_le _

/-- The output of a sender that finishes the object which another one, earlier in its run, was
sending: no other object passes the gate, and all packets are of this object. -/
def FinishesObject (first : Sender) : SenderOutput → Prop
  | .passedGate => False
  | .packet packet =>
    first.phase.PastGate ∧ packet.message.objectNumber.toNat = first.numberObject
  | .started _ | .ended _ => True

/-- The sender goes with some history, and behind its gate it is still at the object which another
one, earlier in its run, was sending. -/
def Finishing (first sender : Sender) : Prop :=
  (∃ history, Consistent sender history) ∧
    (sender.phase.PastGate →
      first.phase.PastGate ∧ sender.numberObject = first.numberObject)

theorem finishing_step {first : Sender} (h : Finishing first sender) (event : SenderEvent)
    (hcontrol : sender.generator.trafficGeneratorControl ≠ .threadTransmission) :
    Finishing first (sender.step kind event).1 := by
  obtain ⟨⟨history, hconsistent⟩, hobject⟩ := h
  refine ⟨⟨_, consistent_step kind hconsistent event⟩, fun hpast ↦ ?_⟩
  cases event with
  | notify notification => exact hobject hpast
  | stop => exact hobject hpast
  | run clock =>
    have hbefore := pastGate_of_run hcontrol hpast
    obtain ⟨hfirst, hnumber⟩ := hobject hbefore
    exact ⟨hfirst, (numberObject_run hbefore).trans hnumber⟩

/-- The packet that a sender is about to send carries the number of its object. -/
theorem objectNumber_of_sending {history : History} (h : Consistent sender history)
    (hphase : sender.phase = .sending) :
    sender.dataMessage.objectNumber.toNat = sender.numberObject := by
  have hatStage := h.atStage
  rw [hphase] at hatStage
  have hnumber : sender.dataMessage.objectNumber = UInt32.ofNat sender.numberObject :=
    hatStage.1.describes.objectNumber_eq
  have hle : sender.numberObject ≤ 5000 := h.numberObject_le
  rw [hnumber]
  exact Nat.mod_eq_of_lt (by omega)

theorem finishesObject_of_mem {first : Sender} (h : Finishing first sender) (event : SenderEvent)
    (hcontrol : sender.generator.trafficGeneratorControl ≠ .threadTransmission) :
    ∀ output ∈ (sender.step kind event).2, FinishesObject first output := by
  intro output hmem
  cases event with
  | notify notification => exact absurd hmem List.not_mem_nil
  | stop => exact absurd hmem List.not_mem_nil
  | run clock =>
    rw [step] at hmem
    obtain hnone | ⟨-, hopen, -⟩ | ⟨hphase, settings, hpacket⟩ | ⟨settings, hstarted⟩ |
      ⟨stopped, hended⟩ := outputs_run kind sender clock
    · rw [hnone] at hmem
      exact absurd hmem List.not_mem_nil
    · exact absurd hopen hcontrol
    · rw [hpacket] at hmem
      obtain ⟨⟨history, hconsistent⟩, hobject⟩ := h
      have hpast : sender.phase.PastGate := by
        rw [hphase]
        trivial
      obtain ⟨hfirst, hnumber⟩ := hobject hpast
      rw [List.mem_singleton.mp hmem]
      exact ⟨hfirst, (objectNumber_of_sending hconsistent hphase).trans hnumber⟩
    · rw [hstarted] at hmem
      rw [List.mem_singleton.mp hmem]
      trivial
    · rw [hended] at hmem
      rw [List.mem_singleton.mp hmem]
      trivial

/-- Whatever has been notified before, an object passes its gate only while the control value is
`THREAD_TRANSMISSION`. As long as it is neither this value nor `THREAD_TRANSMISSION_FINISH_OBJECT`,
one packet is sent at most, and as long as it is the latter, at most the object that is past its
gate already. -/
theorem sendingGate (serviceSettings : StdMap UInt32 ServiceSettings) (clientId : UInt32)
    (control : TrafficSourceControl) (uninitialised : Timespec) (past : List SenderEvent) :
    let sender := finalState sendObjectsDynamicChange
      (start serviceSettings clientId control uninitialised) past
    (∀ event, SenderOutput.passedGate ∈ (sendObjectsDynamicChange sender event).2 →
      sender.generator.trafficGeneratorControl = .threadTransmission) ∧
    ∀ events,
      (Always sendObjectsDynamicChange
          (fun current ↦ current.generator.trafficGeneratorControl.Blocks) sender events →
        (outputs sendObjectsDynamicChange sender events).countP SenderOutput.isPacket ≤ 1) ∧
      (Always sendObjectsDynamicChange
          (fun current ↦ current.generator.trafficGeneratorControl =
            .threadTransmissionFinishObject) sender events →
        ∀ output ∈ outputs sendObjectsDynamicChange sender events,
          FinishesObject sender output) := by
  intro sender
  have hconsistent : Consistent sender (History.ofRun .synchronous _ past) :=
    consistent_ofRun .synchronous
      (consistent_start serviceSettings clientId control uninitialised) past
  have hfinishing : Finishing sender sender :=
    ⟨⟨_, hconsistent⟩, fun hpast ↦ ⟨hpast, rfl⟩⟩
  refine ⟨fun event hgate ↦ ?_, fun events ↦ ⟨fun hblocks ↦ ?_, fun hfinish ↦ ?_⟩⟩
  · by_contra hcontrol
    exact finishesObject_of_mem hfinishing event hcontrol _ hgate
  · have hcount := countP_outputs_le_of_potential (fun _ event h ↦ budget_step event h) hblocks
    exact hcount.trans budget_le_one
  · have hclosed : ∀ current : Sender, current.generator.trafficGeneratorControl =
        .threadTransmissionFinishObject →
          current.generator.trafficGeneratorControl ≠ .threadTransmission := by
      intro current h heq
      exact absurd (h.symm.trans heq) (by decide)
    exact forall_mem_outputs_of_always
      (fun current event h hcurrent ↦ finishing_step hcurrent event (hclosed current h))
      (fun current event h hcurrent ↦ finishesObject_of_mem hcurrent event (hclosed current h))
      hfinish hfinishing

/-- A pause between the check at the gate and the first packet. -/
theorem sendingGate_paused :
    let past := .notify (.modeChange .threadTransmission 1) :: List.replicate 7 (.run ⟨0, 0⟩) ++
      [.notify (.generator .threadPaused)]
    let sender := finalState sendObjectsDynamicChange
      (start ((∅ : StdMap UInt32 ServiceSettings).insert 1 twoPackets) 9 .threadPaused ⟨0, 0⟩) past
    (outputs sendObjectsDynamicChange sender (List.replicate 9 (.run ⟨0, 0⟩))).countP
      SenderOutput.isPacket ≤ 1 := by
  intro past sender
  have hblocks : Always sendObjectsDynamicChange
      (fun current ↦ current.generator.trafficGeneratorControl.Blocks) sender
        (List.replicate 9 (.run ⟨0, 0⟩)) := by
    decide
  exact ((sendingGate _ 9 .threadPaused ⟨0, 0⟩ past).2 _).1 hblocks

end Sender

end Tanos
