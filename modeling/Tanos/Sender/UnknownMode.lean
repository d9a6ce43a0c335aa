import Tanos.Sender.NextObject

/-!
# Modes that are not configured

A thread that reads a mode which is not configured logs it and leaves the loop it is in. Between two
objects this is the loop over the objects, and the thread ends. Within an object it is only the loop
over the packets. The thread has noted the mode as its current one by then, so that it finds nothing
new at the next object and sends it with the settings of the mode before.

`NoObjectFollows` is the condition, on the state in which a mode is read, under which no object is
started with it. If it is met, the thread is on a way to its end that has no start of an object on
it (`Ending`), and if it is not, some run of the thread leads to such a start (`Heading`).
-/

set_option autoImplicit false
set_option relaxedAutoImplicit false

namespace Tanos

open Library.Runs

/-- The step of the thread at this place reads the notified mode. -/
def SenderPhase.ReadsMode : SenderPhase → Prop
  | .checkMode _ | .changeMode _ => True
  | _ => False

namespace Sender

/-- From the step of the thread on, no object is started as long as every mode that is notified is
unknown. -/
def NoneStarted (kind : SenderKind) (sender : Sender) : Prop :=
  ∀ clock events, Always (step kind) ModeUnknown sender (.run clock :: events) →
    ∀ output ∈ outputs (step kind) sender (.run clock :: events), output.isStarted = false

/-- The unknown mode is read between two objects, and it is not the one the thread has noted as its
current mode, or it is read within an object that is the last one. -/
def NoObjectFollows (sender : Sender) : SenderPhase → Prop
  | .checkMode .object =>
    sender.currentMode ≠ sender.generator.modeGlobal ∨ sender.currentSettings = none
  | .checkMode .packet | .changeMode .packet =>
    sender.stopThread = true ∨ autoTrafficTermination ≤ sender.numberObject
  | _ => True

variable {kind : SenderKind} {sender : Sender}

theorem place_of_readsMode (h : sender.phase.ReadsMode) :
    sender.phase = .checkMode .object ∨ sender.phase = .changeMode .object ∨
      (sender.phase = .checkMode .packet ∨ sender.phase = .changeMode .packet) := by
  cases hphase : sender.phase with
  | checkMode place => cases place <;> simp
  | changeMode place => cases place <;> simp
  | _ =>
    rw [hphase] at h
    exact h.elim

/-! ### To the end -/

/-- The thread is on a way to its end without another object. -/
def Ending (sender : Sender) : SenderPhase → Prop
  | .changeMode .object | .closed | .crashed => True
  | .buildObject => sender.currentSettings = none
  | .checkMode .packet | .changeMode .packet | .checkUpdate .packet | .adoptTimestamp .packet
  | .clearUpdate .packet | .packetLoop | .packetGate | .sending | .stopCheck | .objectEnd =>
    sender.stopThread = true ∨ autoTrafficTermination ≤ sender.numberObject
  | .afterObject => sender.stopThread = true
  | .startGate | .checkMode .object | .checkUpdate .object | .adoptTimestamp .object
  | .clearUpdate .object | .waiting | .pollClock => False

/-- The step that reads an unknown mode under the condition. -/
theorem ending_of_read (kind : SenderKind) (hreads : sender.phase.ReadsMode)
    (hunknown : sender.ModeUnknown) (hfollows : NoObjectFollows sender sender.phase)
    (clock : Timespec) :
    Ending (sender.run kind clock).1 (sender.run kind clock).1.phase ∧
      ∀ output ∈ (sender.run kind clock).2, output.isStarted = false := by
  cases hphase : sender.phase with
  | checkMode place =>
    rw [hphase] at hfollows
    simp only [run, hphase]
    split_ifs with hmode
    · cases place with
      | object => exact ⟨trivial, List.forall_mem_nil _⟩
      | packet => exact ⟨hfollows, List.forall_mem_nil _⟩
    · cases place with
      | object => exact ⟨hfollows.resolve_left hmode, List.forall_mem_nil _⟩
      | packet => exact ⟨hfollows, List.forall_mem_nil _⟩
  | changeMode place =>
    rw [hphase] at hfollows
    simp only [run, hphase, changeMode]
    rw [hunknown]
    cases place with
    | object => exact ⟨trivial, List.forall_mem_nil _⟩
    | packet => exact ⟨hfollows, List.forall_mem_singleton.mpr rfl⟩
  | _ =>
    rw [hphase] at hreads
    exact hreads.elim

theorem ending_run (h : Ending sender sender.phase) (hunknown : sender.ModeUnknown)
    (clock : Timespec) :
    Ending (sender.run kind clock).1 (sender.run kind clock).1.phase ∧
      ∀ output ∈ (sender.run kind clock).2, output.isStarted = false := by
  cases hphase : sender.phase with
  | checkMode place =>
    rw [hphase] at h
    cases place with
    | object => exact h.elim
    | packet =>
      apply ending_of_read
      · rw [hphase]
        trivial
      · exact hunknown
      · rw [hphase]
        exact h
  | changeMode place =>
    rw [hphase] at h
    apply ending_of_read
    · rw [hphase]
      trivial
    · exact hunknown
    · rw [hphase]
      cases place with
      | object => trivial
      | packet => exact h
  | checkUpdate place =>
    rw [hphase] at h
    simp only [run, hphase]
    cases place with
    | object => exact h.elim
    | packet => split_ifs <;> exact ⟨h, List.forall_mem_nil _⟩
  | adoptTimestamp place | clearUpdate place =>
    rw [hphase] at h
    simp only [run, hphase]
    cases place with
    | object => exact h.elim
    | packet => exact ⟨h, List.forall_mem_nil _⟩
  | buildObject =>
    rw [hphase] at h
    have hnone : sender.currentSettings = none := h
    simp only [run, hphase, buildObject, withSettings, hnone]
    exact ⟨trivial, List.forall_mem_nil _⟩
  | packetLoop =>
    rw [hphase] at h
    simp only [run, hphase, withSettings]
    split
    · split_ifs
      · cases kind <;> exact ⟨h, List.forall_mem_nil _⟩
      · exact ⟨h, List.forall_mem_singleton.mpr rfl⟩
    · exact ⟨trivial, List.forall_mem_nil _⟩
  | packetGate =>
    rw [hphase] at h
    simp only [run, hphase]
    split_ifs
    · exact ⟨h, List.forall_mem_nil _⟩
    · refine ⟨?_, List.forall_mem_nil _⟩
      rw [hphase]
      exact h
  | sending =>
    rw [hphase] at h
    simp only [run, hphase, sendPacket, withSettings]
    split
    · exact ⟨h, List.forall_mem_singleton.mpr rfl⟩
    · exact ⟨trivial, List.forall_mem_nil _⟩
  | stopCheck =>
    rw [hphase] at h
    simp only [run, hphase]
    split_ifs
    · exact ⟨h, List.forall_mem_singleton.mpr rfl⟩
    · exact ⟨h, List.forall_mem_nil _⟩
  | objectEnd =>
    rw [hphase] at h
    simp only [run, hphase]
    split_ifs with hlast
    · exact ⟨trivial, List.forall_mem_nil _⟩
    · exact ⟨h.resolve_right hlast, List.forall_mem_nil _⟩
  | afterObject =>
    rw [hphase] at h
    have hstop : sender.stopThread = true := h
    simp only [run, hphase]
    rw [if_pos hstop]
    exact ⟨trivial, List.forall_mem_nil _⟩
  | closed | crashed =>
    simp only [run, hphase]
    exact ⟨trivial, List.forall_mem_nil _⟩
  | startGate | waiting | pollClock =>
    rw [hphase] at h
    exact h.elim

/-- The stop flag is never taken back, and all else that matters is left to the thread. -/
theorem ending_step (h : Ending sender sender.phase) (hunknown : sender.ModeUnknown)
    (event : SenderEvent) :
    Ending (sender.step kind event).1 (sender.step kind event).1.phase ∧
      ∀ output ∈ (sender.step kind event).2, output.isStarted = false := by
  cases event with
  | notify notification => exact ⟨h, List.forall_mem_nil _⟩
  | stop =>
    refine ⟨?_, List.forall_mem_nil _⟩
    show Ending _ sender.phase
    cases hphase : sender.phase with
    | checkMode place | checkUpdate place | adoptTimestamp place | clearUpdate place =>
      rw [hphase] at h
      cases place with
      | object => exact h.elim
      | packet => exact Or.inl rfl
    | changeMode place =>
      cases place with
      | object => trivial
      | packet => exact Or.inl rfl
    | packetLoop | packetGate | sending | stopCheck | objectEnd => exact Or.inl rfl
    | afterObject => exact rfl
    | closed | crashed => trivial
    | buildObject | startGate | waiting | pollClock =>
      rw [hphase] at h
      exact h
  | run clock => exact ending_run h hunknown clock

theorem noneStarted_of_noObjectFollows (hreads : sender.phase.ReadsMode)
    (hfollows : NoObjectFollows sender sender.phase) : sender.NoneStarted kind := by
  intro clock events halways
  obtain ⟨hunknown, hrest⟩ := (always_cons sender _ events).mp halways
  obtain ⟨hnext, hnow⟩ := ending_of_read kind hreads hunknown hfollows clock
  refine List.forall_mem_append.mpr ⟨hnow, ?_⟩
  exact forall_mem_outputs_of_always
    (fun current event hcurrent h ↦ (ending_step h hcurrent event).1)
    (fun current event hcurrent h ↦ (ending_step h hcurrent event).2) hrest hnext

/-! ### To the next object -/

/-- An unknown mode that is read within an object, and a notification to go on sending. -/
theorem heading_of_read (kind : SenderKind)
    (hphase : sender.phase = .checkMode .packet ∨ sender.phase = .changeMode .packet)
    (hunknown : sender.ModeUnknown) (hsettings : sender.currentSettings ≠ none)
    (hbound : sender.numberPacket.toNat + 1 < 2 ^ 32) (hstop : sender.stopThread = false)
    (hnumber : sender.numberObject < autoTrafficTermination) (clock : Timespec) :
    (step kind (sender.run kind clock).1 (.notify (.generator .threadTransmission))).1.Heading := by
  have hstruct : sender.serviceSettingsStruct[sender.generator.modeGlobal]? = none := hunknown
  obtain ⟨hflag, -⟩ := run_frame kind sender clock
  have hat : HeadingAt (sender.run kind clock).1 (sender.run kind clock).1.phase ∧
      (sender.run kind clock).1.currentSettings = sender.currentSettings := by
    rcases hphase with hcheck | hchange
    · simp only [run, hcheck]
      split_ifs with hmode
      · exact ⟨⟨hnumber, hbound⟩, rfl⟩
      · exact ⟨⟨not_not.mp hmode, hnumber, hbound⟩, rfl⟩
    · simp only [run, hchange, changeMode, hstruct]
      exact ⟨⟨rfl, hnumber⟩, trivial⟩
  exact ⟨rfl, hflag.trans hstop, modeUnknown_run kind hunknown clock, hat.2 ▸ hsettings, hat.1⟩

/-- Within an object, only the stop flag or the last object keeps the thread from the next one. -/
theorem not_noneStarted_packet
    (hphase : sender.phase = .checkMode .packet ∨ sender.phase = .changeMode .packet)
    (hunknown : sender.ModeUnknown) (hsettings : sender.currentSettings ≠ none)
    (hbound : sender.numberPacket.toNat + 1 < 2 ^ 32) (hstop : sender.stopThread = false)
    (hnumber : sender.numberObject < autoTrafficTermination) : ¬ sender.NoneStarted kind := by
  intro hnone
  have hheading := heading_of_read kind hphase hunknown hsettings hbound hstop hnumber
    ⟨0, 0⟩
  have hnext := modeUnknown_run kind hunknown ⟨0, 0⟩
  obtain ⟨events, halways, output, hmem, hstarted⟩ := exists_started kind hheading
  have hall : Always (step kind) ModeUnknown sender
      (.run ⟨0, 0⟩ :: .notify (.generator .threadTransmission) :: events) :=
    (always_cons _ _ _).mpr ⟨hunknown, (always_cons _ _ _).mpr ⟨hnext, halways⟩⟩
  have hquiet := hnone _ _ hall output (List.mem_append_right _ hmem)
  exact absurd (hstarted.symm.trans hquiet) (by decide)

/-- Between two objects, a thread that has noted the unknown mode already starts the next one. -/
theorem not_noneStarted_object (hphase : sender.phase = .checkMode .object)
    (hunknown : sender.ModeUnknown) (hsettings : sender.currentSettings ≠ none)
    (hmode : sender.currentMode = sender.generator.modeGlobal) : ¬ sender.NoneStarted kind := by
  intro hnone
  have hbuilds : (sender.run kind ⟨0, 0⟩).1.phase = .buildObject ∧
      (sender.run kind ⟨0, 0⟩).1.currentSettings = sender.currentSettings := by
    simp only [run, hphase]
    rw [if_neg (not_not.mpr hmode)]
    exact ⟨rfl, rfl⟩
  obtain ⟨output, hmem, hstarted⟩ := isStarted_of_buildObject kind hbuilds.1
    (hbuilds.2 ▸ hsettings) ⟨0, 0⟩
  have hnext := modeUnknown_run kind hunknown ⟨0, 0⟩
  have hall : Always (step kind) ModeUnknown sender [.run ⟨0, 0⟩, .run ⟨0, 0⟩] :=
    (always_cons _ _ _).mpr ⟨hunknown, (always_cons _ _ _).mpr
      ⟨hnext, (always_nil _).mpr (modeUnknown_run kind hnext _)⟩⟩
  have hquiet := hnone _ _ hall output (List.mem_append_right _ (List.mem_append_left _ hmem))
  exact absurd (hstarted.symm.trans hquiet) (by decide)

/-- In every state in which the thread reads an unknown mode, whatever has been notified before, no
object is started from there on as long as the mode is unknown, exactly under the condition. -/
theorem noneStarted_iff (kind : SenderKind) (serviceSettings : StdMap UInt32 ServiceSettings)
    (clientId : UInt32) (control : TrafficSourceControl) (uninitialised : Timespec)
    (past : List SenderEvent) :
    let sender := finalState (step kind)
      (start serviceSettings clientId control uninitialised) past
    sender.phase.ReadsMode → sender.ModeUnknown →
      (sender.NoneStarted kind ↔ NoObjectFollows sender sender.phase) := by
  intro sender hreads hunknown
  have hstart : (start serviceSettings clientId control uninitialised).currentSettings = none →
      BeforeSettings (start serviceSettings clientId control uninitialised).phase :=
    fun _ ↦ trivial
  have hsettings : sender.currentSettings = none → BeforeSettings sender.phase :=
    beforeSettings_finalState kind hstart past
  have hconsistent : Consistent sender (History.ofRun kind _ past) :=
    consistent_ofRun kind (consistent_start serviceSettings clientId control uninitialised) past
  refine ⟨fun hnone ↦ ?_, noneStarted_of_noObjectFollows hreads⟩
  by_contra hfollows
  rcases place_of_readsMode hreads with hphase | hphase | hphase
  · rw [hphase] at hfollows
    obtain ⟨hmode, hknown⟩ := not_or.mp hfollows
    exact not_noneStarted_object hphase hunknown hknown (not_not.mp hmode) hnone
  · rw [hphase] at hfollows
    exact hfollows trivial
  · have hknown : sender.currentSettings ≠ none := by
      intro habsent
      have hbefore := hsettings habsent
      rcases hphase with hcheck | hchange
      · rw [hcheck] at hbefore
        exact hbefore
      · rw [hchange] at hbefore
        exact hbefore
    have hbound : sender.numberPacket.toNat + 1 < 2 ^ 32 := by
      have hatStage := hconsistent.atStage
      rcases hphase with hcheck | hchange
      · rw [hcheck] at hatStage
        exact hatStage.2
      · rw [hchange] at hatStage
        exact hatStage.2
    have hleft : ¬ (sender.stopThread = true ∨ autoTrafficTermination ≤ sender.numberObject) := by
      rcases hphase with hcheck | hchange
      · rw [hcheck] at hfollows
        exact hfollows
      · rw [hchange] at hfollows
        exact hfollows
    obtain ⟨hstop, hnumber⟩ := not_or.mp hleft
    exact not_noneStarted_packet hphase hunknown hknown hbound (Bool.eq_false_of_not_eq_true hstop)
      (not_le.mp hnumber) hnone

/-- A notification of an unknown mode in front of the first object. -/
theorem noneStarted_firstObject :
    (finalState (step .asynchronous)
      (start ((∅ : StdMap UInt32 ServiceSettings).insert 1 twoPackets) 9 .threadPaused ⟨0, 0⟩)
      [.notify (.modeChange .threadTransmission 2), .run ⟨0, 0⟩]).NoneStarted .asynchronous := by
  refine (noneStarted_iff .asynchronous _ 9 .threadPaused ⟨0, 0⟩ _ ?_ ?_).mpr (Or.inl ?_)
  · trivial
  · show ((∅ : StdMap UInt32 ServiceSettings).insert 1 twoPackets)[(2 : UInt32)]? = none
    decide
  · decide

/-- A notification of an unknown mode behind the first packet of an object. -/
theorem not_noneStarted_secondPacket :
    let sender := finalState (step .asynchronous)
      (start ((∅ : StdMap UInt32 ServiceSettings).insert 1 twoPackets) 9 .threadPaused ⟨0, 0⟩)
      (.notify (.modeChange .threadTransmission 1) :: List.replicate 11 (.run ⟨0, 0⟩) ++
        [.notify (.modeChange .threadTransmission 2)])
    sender.phase.ReadsMode ∧ sender.ModeUnknown ∧ ¬ sender.NoneStarted .asynchronous := by
  intro sender
  have hphase : sender.phase = .checkMode .packet := by decide
  have hunknown : sender.ModeUnknown := by
    show sender.serviceSettingsStruct[sender.generator.modeGlobal]? = none
    decide
  have hsettings : sender.currentSettings ≠ none := by decide
  have hbound : sender.numberPacket.toNat + 1 < 2 ^ 32 := by decide
  have hstop : sender.stopThread = false := by decide
  have hnumber : sender.numberObject < autoTrafficTermination := by decide
  refine ⟨?_, hunknown, ?_⟩
  · rw [hphase]
    trivial
  · exact not_noneStarted_packet (Or.inl hphase) hunknown hsettings hbound hstop hnumber

/-! ### The synchronous sender -/

/-- The synchronous sender only looks for a mode between two objects, and its settings are those of
its current mode, up to its end. -/
def CurrentConfigured (sender : Sender) : SenderPhase → Prop
  | .checkMode .packet | .changeMode .packet => False
  | .checkUpdate .packet | .adoptTimestamp .packet | .clearUpdate .packet => False
  | .closed => True
  | _ => ∀ settings ∈ sender.currentSettings,
    sender.serviceSettingsStruct[sender.currentMode]? = some settings

theorem currentConfigured_step (h : CurrentConfigured sender sender.phase) (event : SenderEvent) :
    CurrentConfigured (sendObjectsDynamicChange sender event).1
      (sendObjectsDynamicChange sender event).1.phase := by
  cases event with
  | notify notification => exact h
  | stop => exact h
  | run clock =>
    show CurrentConfigured (sender.run .synchronous clock).1
      (sender.run .synchronous clock).1.phase
    cases hphase : sender.phase with
    | checkMode place =>
      rw [hphase] at h
      cases place with
      | object =>
        simp only [run, hphase]
        split_ifs <;> exact h
      | packet => exact h.elim
    | changeMode place =>
      rw [hphase] at h
      cases place with
      | object =>
        simp only [run, hphase, changeMode]
        cases hsettings : sender.serviceSettingsStruct[sender.generator.modeGlobal]? with
        | some settings =>
          intro other hother
          rw [← Option.some.inj hother]
          exact hsettings
        | none => trivial
      | packet => exact h.elim
    | checkUpdate place =>
      rw [hphase] at h
      cases place with
      | object =>
        simp only [run, hphase]
        split_ifs <;> exact h
      | packet => exact h.elim
    | adoptTimestamp place | clearUpdate place =>
      rw [hphase] at h
      simp only [run, hphase]
      cases place with
      | object => exact h
      | packet => exact h.elim
    | startGate | packetGate =>
      rw [hphase] at h
      simp only [run, hphase]
      split_ifs
      · exact h
      · rw [hphase]
        exact h
    | _ =>
      rw [hphase] at h
      simp only [run, hphase, buildObject, sendPacket, withSettings]
      repeat' split
      all_goals first | exact h | trivial

/-- The synchronous sender starts no object with an unknown mode. -/
theorem noneStarted_synchronous (serviceSettings : StdMap UInt32 ServiceSettings)
    (clientId : UInt32) (control : TrafficSourceControl) (uninitialised : Timespec)
    (past : List SenderEvent) :
    let sender := finalState sendObjectsDynamicChange
      (start serviceSettings clientId control uninitialised) past
    sender.phase.ReadsMode → sender.ModeUnknown → sender.NoneStarted .synchronous := by
  intro sender hreads hunknown
  have halways : Always sendObjectsDynamicChange
      (fun current ↦ CurrentConfigured current current.phase)
      (start serviceSettings clientId control uninitialised) past := by
    refine always_of_step (fun current event _ hcurrent ↦ currentConfigured_step hcurrent event) ?_
    exact fun settings hsettings ↦ absurd hsettings (Option.not_mem_none settings)
  have hconfigured : CurrentConfigured sender sender.phase :=
    halways past (List.prefix_refl past)
  apply noneStarted_of_noObjectFollows hreads
  rcases place_of_readsMode hreads with hphase | hphase | hphase | hphase
  · rw [hphase] at hconfigured ⊢
    by_cases hmode : sender.currentMode = sender.generator.modeGlobal
    · refine Or.inr (Option.eq_none_iff_forall_not_mem.mpr fun settings hsettings ↦ ?_)
      have hfound := hconfigured settings hsettings
      rw [hmode] at hfound
      exact absurd (hfound.symm.trans hunknown) (Option.some_ne_none settings)
    · exact Or.inl hmode
  · rw [hphase]
    trivial
  · rw [hphase] at hconfigured
    exact hconfigured.elim
  · rw [hphase] at hconfigured
    exact hconfigured.elim

end Sender

end Tanos
