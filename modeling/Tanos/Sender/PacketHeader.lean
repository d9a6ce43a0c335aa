import Tanos.Sender.Objects

/-!
# The header of a packet

A sending thread writes the header of its packets when it starts an object. While the object is on
its way only the time stamp, the payload size and the packet number are set again, so that a packet
carries the service of the mode its object was started in (`StartedIn`), whichever mode it is sent
in. `HeadedBy` is the invariant of the thread, for any property of the modes it may take.
-/

set_option autoImplicit false
set_option relaxedAutoImplicit false

namespace Tanos

/-- The message is one of an object that the client has started in the mode. -/
structure DataMessage.StartedIn (message : DataMessage) (clientId : UInt32)
    (settings : ServiceSettings) : Prop where
  sourceId_eq : message.sourceId = clientId
  serviceId_eq : message.serviceId = settings.serviceId
  priority_eq : message.priority = settings.servicePriority.toUInt8
  totalFragments_eq : message.totalFragments = settings.numberPackets
  one_le_objectNumber : 1 ≤ message.objectNumber.toNat
  objectNumber_le : message.objectNumber.toNat ≤ Sender.autoTrafficTermination
  length_eq : message.length.toNat = 41 + min settings.objectBytes maxProtocolMessageLength

namespace Sender

/-- The numbers of the objects are in their range, and the message of an object on its way is that
of an object started in a mode with the property. -/
structure HeadedBy (allowed : ServiceSettings → Prop) (sender : Sender) : Prop where
  one_le_numberObject : 1 ≤ sender.numberObject
  numberObject_le : sender.numberObject ≤ autoTrafficTermination
  started : sender.phase.stage ∈ [.looping, .transmitting] →
    ∃ settings, allowed settings ∧ sender.dataMessage.StartedIn sender.clientId settings

variable {allowed : ServiceSettings → Prop} {sender : Sender}

theorem headedBy_start (serviceSettings : StdMap UInt32 ServiceSettings) (clientId : UInt32)
    (control : TrafficSourceControl) (uninitialised : Timespec) :
    HeadedBy allowed (start serviceSettings clientId control uninitialised) where
  one_le_numberObject := le_refl 1
  numberObject_le := (by decide : 1 ≤ autoTrafficTermination)
  started hstage := absurd hstage (by simp [start, SenderPhase.stage])

/-- A property of more modes. -/
theorem HeadedBy.mono (h : HeadedBy allowed sender) {more : ServiceSettings → Prop}
    (hmore : ∀ settings, allowed settings → more settings) : HeadedBy more sender := by
  refine ⟨h.one_le_numberObject, h.numberObject_le, fun hstage ↦ ?_⟩
  obtain ⟨settings, hallowed, hstarted⟩ := h.started hstage
  exact ⟨settings, hmore settings hallowed, hstarted⟩

/-- The message of a new object. -/
theorem startedIn_ofPayloadAt (settings : ServiceSettings) (clientId : UInt32) {number : ℕ}
    (hone : 1 ≤ number) (hle : number ≤ autoTrafficTermination) (payload : List UInt8)
    (timestamp : Timespec) (now : ℤ) :
    (DataMessage.ofPayloadAt settings.servicePriority.toUInt8 clientId settings.serviceId
      (UInt32.ofNat number) 0 settings.numberPackets payload
      (min settings.objectBytes maxProtocolMessageLength) timestamp now).StartedIn clientId
        settings := by
  have hnumber : (UInt32.ofNat number).toNat = number :=
    UInt32.toNat_ofNat_of_lt' (lt_of_le_of_lt hle (by decide))
  have hsize : min settings.objectBytes maxProtocolMessageLength ≤ 1427 := min_le_right _ _
  refine ⟨rfl, rfl, rfl, rfl, ?_, ?_, ?_⟩
  · show 1 ≤ (UInt32.ofNat number).toNat
    rwa [hnumber]
  · show (UInt32.ofNat number).toNat ≤ _
    rwa [hnumber]
  · show (41 + UInt32.ofNat (min settings.objectBytes maxProtocolMessageLength)).toNat = _
    have hforty : (41 : UInt32).toNat = 41 := rfl
    rw [UInt32.toNat_add, hforty, UInt32.toNat_ofNat_of_lt' (lt_of_le_of_lt hsize (by decide))]
    exact Nat.mod_eq_of_lt (by omega)

/-- Assumes: the step leaves the message, the number of the object and the client as they are, and
gets to an object on its way from one only. -/
theorem HeadedBy.of_quiet (h : HeadedBy allowed sender) {next : Sender}
    (hmessage : next.dataMessage = sender.dataMessage) (hclient : next.clientId = sender.clientId)
    (hnumber : next.numberObject = sender.numberObject)
    (hstage : next.phase.stage ∈ [.looping, .transmitting] →
      sender.phase.stage ∈ [.looping, .transmitting]) : HeadedBy allowed next := by
  refine ⟨hnumber ▸ h.one_le_numberObject, hnumber ▸ h.numberObject_le, fun hnext ↦ ?_⟩
  rw [hmessage, hclient]
  exact h.started (hstage hnext)

theorem HeadedBy.changeMode (h : HeadedBy allowed sender) {place : Place}
    (hphase : sender.phase = .changeMode place) : HeadedBy allowed (sender.changeMode place).1 := by
  simp only [Sender.changeMode]
  cases sender.serviceSettingsStruct[sender.generator.modeGlobal]? with
  | some settings =>
    refine h.of_quiet rfl rfl rfl ?_
    cases place <;> simp [hphase, SenderPhase.stage]
  | none =>
    cases place <;> exact h.of_quiet rfl rfl rfl (by simp [SenderPhase.stage])

/-- Assumes: the property holds of the mode in force. -/
theorem HeadedBy.buildObject (h : HeadedBy allowed sender)
    (hcurrent : ∀ settings ∈ sender.currentSettings, allowed settings) (clock : Timespec) :
    HeadedBy allowed (sender.buildObject clock).1 := by
  rw [Sender.buildObject, withSettings]
  cases hsettings : sender.currentSettings with
  | none => exact ⟨h.one_le_numberObject, h.numberObject_le, by simp [SenderPhase.stage]⟩
  | some settings =>
    refine ⟨h.one_le_numberObject, h.numberObject_le, fun _ ↦
      ⟨settings, hcurrent settings hsettings, ?_⟩⟩
    exact startedIn_ofPayloadAt settings sender.clientId h.one_le_numberObject h.numberObject_le
      (List.replicate maxProtocolMessageLength 65) sender.timeSend clock.nanoseconds

/-- A packet carries the header of the object it belongs to. -/
theorem HeadedBy.sendPacket (h : HeadedBy allowed sender) (hphase : sender.phase = .sending)
    (clock : Timespec) : HeadedBy allowed (sender.sendPacket clock).1 ∧
      ∀ packet, .packet packet ∈ (sender.sendPacket clock).2 →
        ∃ settings, allowed settings ∧ packet.message.StartedIn sender.clientId settings := by
  rw [Sender.sendPacket, withSettings]
  cases sender.currentSettings with
  | none =>
    exact ⟨⟨h.one_le_numberObject, h.numberObject_le, by simp [SenderPhase.stage]⟩,
      fun _ hmem ↦ absurd hmem List.not_mem_nil⟩
  | some current =>
    obtain ⟨settings, hallowed, hstarted⟩ := h.started (by simp [hphase, SenderPhase.stage])
    refine ⟨⟨h.one_le_numberObject, h.numberObject_le, fun _ ↦ ⟨settings, hallowed, ?_⟩⟩,
      fun packet hmem ↦ ⟨settings, hallowed, ?_⟩⟩
    · exact ⟨hstarted.1, hstarted.2, hstarted.3, hstarted.4, hstarted.5, hstarted.6, hstarted.7⟩
    · obtain rfl := SenderOutput.packet.inj (List.mem_singleton.mp hmem)
      exact ⟨hstarted.1, hstarted.2, hstarted.3, hstarted.4, hstarted.5, hstarted.6, hstarted.7⟩

/-- Assumes: the property holds of the mode in force. A step of the thread keeps the invariant, and
a packet that it sends carries the header of a mode with the property. -/
theorem HeadedBy.run (h : HeadedBy allowed sender)
    (hcurrent : ∀ settings ∈ sender.currentSettings, allowed settings) (kind : SenderKind)
    (clock : Timespec) : HeadedBy allowed (sender.run kind clock).1 ∧
      ∀ packet, .packet packet ∈ (sender.run kind clock).2 →
        ∃ settings, allowed settings ∧ packet.message.StartedIn sender.clientId settings := by
  cases hphase : sender.phase with
  | changeMode place =>
    simp only [Sender.run, hphase]
    refine ⟨h.changeMode hphase, fun packet hmem ↦ ?_⟩
    simp only [Sender.changeMode] at hmem
    repeat' split at hmem
    all_goals simp at hmem
  | buildObject =>
    simp only [Sender.run, hphase]
    refine ⟨h.buildObject hcurrent clock, fun packet hmem ↦ ?_⟩
    simp only [Sender.buildObject, withSettings] at hmem
    split at hmem
    all_goals simp at hmem
  | sending =>
    simp only [Sender.run, hphase]
    exact h.sendPacket hphase clock
  | objectEnd =>
    simp only [Sender.run, hphase]
    split_ifs with hlast
    · exact ⟨⟨h.one_le_numberObject, h.numberObject_le, by simp [SenderPhase.stage]⟩,
        fun _ hmem ↦ absurd hmem List.not_mem_nil⟩
    · refine ⟨⟨Nat.succ_le_succ (Nat.zero_le _), ?_, by simp [SenderPhase.stage]⟩,
        fun _ hmem ↦ absurd hmem List.not_mem_nil⟩
      exact Nat.lt_of_not_le hlast
  | checkMode place =>
    simp only [Sender.run, hphase]
    cases place
    all_goals split_ifs
    all_goals exact ⟨h.of_quiet rfl rfl rfl (by simp [hphase, SenderPhase.stage, Place.next]),
      by simp⟩
  | checkUpdate place =>
    simp only [Sender.run, hphase]
    cases place
    all_goals split_ifs
    all_goals exact ⟨h.of_quiet rfl rfl rfl (by simp [hphase, SenderPhase.stage, Place.next]),
      by simp⟩
  | adoptTimestamp place =>
    simp only [Sender.run, hphase]
    cases place
    all_goals exact ⟨h.of_quiet rfl rfl rfl (by simp [hphase, SenderPhase.stage]), by simp⟩
  | clearUpdate place =>
    simp only [Sender.run, hphase]
    cases place
    all_goals exact ⟨h.of_quiet rfl rfl rfl (by simp [hphase, SenderPhase.stage, Place.next]),
      by simp⟩
  | _ =>
    simp only [Sender.run, hphase, withSettings]
    repeat' split
    all_goals exact ⟨h.of_quiet rfl rfl rfl (by simp [hphase, SenderPhase.stage]), by simp⟩

/-- A step of the thread leaves the id of the client as it is. -/
theorem clientId_run (kind : SenderKind) (sender : Sender) (clock : Timespec) :
    (sender.run kind clock).1.clientId = sender.clientId := by
  cases hphase : sender.phase with
  | changeMode place =>
    simp only [Sender.run, hphase, Sender.changeMode]
    repeat' split
    all_goals rfl
  | _ =>
    simp only [Sender.run, hphase, Sender.buildObject, Sender.sendPacket, withSettings]
    repeat' split
    all_goals rfl

end Sender

end Tanos
