import Tanos.Sender.SendObjects

/-!
# The settings a sender takes

A sending thread takes its settings in one place, those of the mode notified last, and gets there
through the gate only. What a packet is sent with are the settings of the thread. `Adopting` says so
for one step, and is all that the rest of a system has to know of the thread to say in which modes
it sends.
-/

set_option autoImplicit false
set_option relaxedAutoImplicit false

namespace Tanos

namespace Sender

/-- What a step has to do with the settings: it leaves the gate when it is open, takes settings of
the mode notified last behind the gate, and sends with the settings it has. -/
structure Adopting (sender : Sender) (result : Sender × List SenderOutput) : Prop where
  pastGate : result.1.phase ≠ .startGate → sender.phase ≠ .startGate ∨
    sender.generator.trafficGeneratorControl = .threadTransmission
  adopted : ∀ settings ∈ result.1.currentSettings, sender.currentSettings = some settings ∨
    sender.phase ≠ .startGate ∧
      sender.serviceSettingsStruct[sender.generator.modeGlobal]? = some settings
  packet : ∀ packet, .packet packet ∈ result.2 → sender.currentSettings = some packet.settings

variable {sender : Sender}

/-- Assumes: the step keeps the settings, sends nothing, and is taken behind the gate. -/
theorem Adopting.of_quiet {next : Sender} {outputs : List SenderOutput}
    (hphase : sender.phase ≠ .startGate) (hsettings : next.currentSettings = sender.currentSettings)
    (hquiet : ∀ packet, .packet packet ∉ outputs) : Adopting sender (next, outputs) :=
  ⟨fun _ ↦ Or.inl hphase, fun _ hmem ↦ Or.inl (hsettings ▸ hmem),
    fun packet hmem ↦ absurd hmem (hquiet packet)⟩

/-- What is done with the settings. Assumes: it adopts as it should, for the settings there are. -/
theorem Adopting.withSettings (hphase : sender.phase ≠ .startGate)
    {body : ServiceSettings → Sender × List SenderOutput}
    (hbody : ∀ settings, sender.currentSettings = some settings →
      Adopting sender (body settings)) : Adopting sender (sender.withSettings body) := by
  unfold Sender.withSettings
  cases hsettings : sender.currentSettings with
  | none => exact .of_quiet hphase hsettings.symm (fun _ ↦ List.not_mem_nil)
  | some settings => exact hbody settings hsettings

theorem adopting_changeMode (place : Place) (hphase : sender.phase ≠ .startGate) :
    Adopting sender (sender.changeMode place) := by
  simp only [changeMode]
  cases hmode : sender.serviceSettingsStruct[sender.generator.modeGlobal]? with
  | some settings =>
    refine ⟨fun _ ↦ Or.inl hphase, fun adopted hadopted ↦ Or.inr ⟨hphase, ?_⟩,
      fun _ hmem ↦ absurd hmem List.not_mem_nil⟩
    rw [hmode]
    exact hadopted
  | none =>
    cases place with
    | object => exact .of_quiet hphase rfl (fun _ ↦ List.not_mem_nil)
    | packet => exact .of_quiet hphase rfl (by simp)

theorem adopting_sendPacket (hphase : sender.phase ≠ .startGate) (clock : Timespec) :
    Adopting sender (sender.sendPacket clock) := by
  refine .withSettings hphase fun settings hsettings ↦ ?_
  refine ⟨fun _ ↦ Or.inl hphase, fun _ hmem ↦ Or.inl hmem, fun packet hmem ↦ ?_⟩
  obtain rfl := SenderOutput.packet.inj (List.mem_singleton.mp hmem)
  exact hsettings

/-- Every step of the thread adopts settings as it should. -/
theorem adopting_run (kind : SenderKind) (sender : Sender) (clock : Timespec) :
    Adopting sender (sender.run kind clock) := by
  cases hphase : sender.phase with
  | startGate =>
    simp only [run, hphase]
    split_ifs with hopen
    · exact ⟨fun _ ↦ Or.inr hopen, fun _ hmem ↦ Or.inl hmem, by simp⟩
    · exact ⟨fun hnext ↦ absurd hphase hnext, fun _ hmem ↦ Or.inl hmem,
        fun _ hmem ↦ absurd hmem List.not_mem_nil⟩
  | changeMode place =>
    simp only [run, hphase]
    exact adopting_changeMode place (by simp [hphase])
  | sending =>
    simp only [run, hphase]
    exact adopting_sendPacket (by simp [hphase]) clock
  | buildObject =>
    simp only [run, hphase]
    exact .withSettings (by simp [hphase]) fun _ _ ↦ .of_quiet (by simp [hphase]) rfl (by simp)
  | packetLoop =>
    simp only [run, hphase]
    refine .withSettings (by simp [hphase]) fun _ _ ↦ ?_
    split_ifs
    · cases kind <;> exact .of_quiet (by simp [hphase]) rfl (fun _ ↦ List.not_mem_nil)
    · exact .of_quiet (by simp [hphase]) rfl (by simp)
  | afterObject =>
    simp only [run, hphase]
    split_ifs
    · exact .of_quiet (by simp [hphase]) rfl (fun _ ↦ List.not_mem_nil)
    · exact .withSettings (by simp [hphase]) fun _ _ ↦
        .of_quiet (by simp [hphase]) rfl (fun _ ↦ List.not_mem_nil)
  | _ =>
    simp only [run, hphase]
    repeat' split
    all_goals exact .of_quiet (by simp [hphase]) rfl (by simp)

end Sender

end Tanos
