import Mathlib.Data.List.Basic
import Tanos.Client.Endnode
import Tanos.Client.Switch

/-!
# Reconfigurations reported as done

`mainLoop` is the control loop of a client over the messages it receives: it handles one after the
other, until a handler does not return or ends the client. A client reports a reconfiguration as
done after the handler has returned, and the report is truthful if the handler has applied the
change. `truthful_endnode_iff` and `truthful_switch_iff` give the exact condition for one message,
and `forall_truthful_iff` is the same for whole runs.
-/

set_option autoImplicit false
set_option relaxedAutoImplicit false

namespace Tanos.Client

open Library.Polling

/-- The two kinds of clients, a switch with the experiment number of its configuration. -/
inductive ClientKind where
  | endnode
  | switch (configuredExperiment : UInt32)
deriving DecidableEq, Repr

/-- The `switch` of the control loop. -/
def ClientKind.handleControlMessage : ClientKind → RMMessage → List Timespec → HandlerOutcome
  | endnode => Endnode.handleControlMessage
  | switch configuredExperiment => Switch.handleControlMessage configuredExperiment

/-- One turn of the control loop: the message, the readings of the clock that were still to come,
and what the client has done. -/
structure ControlTurn where
  message : RMMessage
  samples : List Timespec
  outcome : HandlerOutcome
deriving DecidableEq, Repr

/-- The control loop. -/
def mainLoop (client : ClientKind) : List RMMessage → List Timespec → List ControlTurn
  | [], _ => []
  | message :: messages, samples =>
    let outcome := client.handleControlMessage message samples
    ⟨message, samples, outcome⟩ ::
      match outcome.rest with
      | none => []
      | some rest =>
        if .deactivate ∈ outcome.effects then [] else mainLoop client messages rest

/-- Every turn of the loop is a call of the handler for its message. -/
theorem outcome_of_mem_mainLoop {client : ClientKind} {messages : List RMMessage}
    {samples : List Timespec} {turn : ControlTurn}
    (hturn : turn ∈ mainLoop client messages samples) :
    turn.outcome = client.handleControlMessage turn.message turn.samples := by
  induction messages generalizing samples with
  | nil => exact absurd hturn List.not_mem_nil
  | cons message messages ih =>
    rw [mainLoop] at hturn
    rcases List.mem_cons.mp hturn with rfl | hlater
    · rfl
    · cases hrest : (client.handleControlMessage message samples).rest with
      | none =>
        rw [hrest] at hlater
        exact absurd hlater List.not_mem_nil
      | some rest =>
        simp only [hrest] at hlater
        split_ifs at hlater with hdeactivated
        · exact absurd hlater List.not_mem_nil
        · exact ih hlater

/-! ### Truthful reports -/

/-- A notification that sets the generator to transmission, and to the commanded mode if it sets the
mode at all. -/
def Restarts (mode : UInt32) : Notification → Prop
  | .generator state => state = .threadTransmission
  | .modeChange state newMode => state = .threadTransmission ∧ newMode = mode
  | .timestamp state _ newMode _ => state = .threadTransmission ∧ newMode = mode

/-- The effects apply the change a message commands: on an end node the generator is restarted, on a
switch the script of the commanded mode is run. -/
def ClientKind.Applied (client : ClientKind) (message : RMMessage) (effects : List ClientEffect) :
    Prop :=
  match client with
  | endnode => ∃ notification, .notify notification ∈ effects ∧
      Restarts message.mode.toUInt32 notification
  | switch configuredExperiment => ∃ mcNumber command,
      .reconfigureSwToMode message.mode.toUInt32 configuredExperiment.toUInt8 mcNumber
        (some command) ∈ effects

/-- Whenever the client reports a reconfiguration as done, it has applied the change before. -/
def Truthful (client : ClientKind) (message : RMMessage) (effects : List ClientEffect) : Prop :=
  ∀ earlier later, effects = earlier ++ .syncAckReconfigureDone :: later →
    client.Applied message earlier

section

variable {client : ClientKind} {message : RMMessage} {effects : List ClientEffect}
  {handler : HandlerOutcome}

/-- A client that reports nothing as done is truthful. -/
theorem truthful_of_not_mem (hdone : .syncAckReconfigureDone ∉ effects) :
    Truthful client message effects := by
  rintro earlier later rfl
  exact absurd (List.mem_append_right _ List.mem_cons_self) hdone

/-- The acknowledgement of the receipt applies nothing. -/
theorem applied_cons_syncAckReceive :
    client.Applied message (.syncAckReceive :: effects) ↔ client.Applied message effects := by
  cases client <;> simp [ClientKind.Applied]

/-- Assumes: the handler itself reports nothing as done. With both acknowledgements around it, the
client is truthful if and only if the handler has applied the change when it returns. -/
theorem truthful_acknowledged_iff (hdone : .syncAckReconfigureDone ∉ handler.effects) :
    Truthful client message (acknowledged handler).effects ↔
      (handler.Returns → client.Applied message handler.effects) := by
  have hprefix : ClientEffect.syncAckReconfigureDone ∉ .syncAckReceive :: handler.effects := by
    simpa using hdone
  by_cases hreturns : (handler.prepend [.syncAckReceive]).Returns
  · have heffects : (acknowledged handler).effects =
        (.syncAckReceive :: handler.effects) ++ [.syncAckReconfigureDone] :=
      Outcome.effects_followedBy_of_returns hreturns _
    rw [heffects]
    constructor
    · intro htruthful _
      exact applied_cons_syncAckReceive.mp (htruthful _ _ rfl)
    · intro happlied earlier later heq
      obtain ⟨rfl, -, -⟩ := (List.append_cons_inj_of_notMem hprefix List.not_mem_nil).mp heq
      exact applied_cons_syncAckReceive.mpr (happlied hreturns)
  · have heffects : (acknowledged handler).effects = .syncAckReceive :: handler.effects :=
      Outcome.effects_followedBy_of_not_returns hreturns _
    rw [heffects]
    exact iff_of_true (truthful_of_not_mem hprefix) fun hother ↦ absurd hother hreturns

end

/-! ### Handlers that wait -/

section

variable {client : ClientKind} {message : RMMessage} {target first second : Timespec}
  {action firstAction secondAction : List ClientEffect} (samples : List Timespec)

theorem not_applied_nil : ¬ client.Applied message [] := by
  cases client <;> simp [ClientKind.Applied]

theorem not_mem_timedLoop {effect : ClientEffect} (haction : effect ∉ action) :
    effect ∉ (timedLoop target action samples).effects := by
  rw [timedLoop_eq_poll]
  exact fun hmem ↦ haction (effects_poll_subset samples hmem)

/-- A command for one time that is not a reconfiguration reports nothing as done. -/
theorem truthful_prepend_timedLoop (haction : .syncAckReconfigureDone ∉ action) :
    Truthful client message
      ((timedLoop target action samples).prepend [.syncAckReceive]).effects := by
  have htimed : .syncAckReconfigureDone ∉ (timedLoop target action samples).effects :=
    not_mem_timedLoop samples haction
  exact truthful_of_not_mem (by simpa using htimed)

/-- A reconfiguration at one time is reported truthfully unless its time is missed, or its action
does not apply the change. -/
theorem truthful_timedLoop_iff (hdone : .syncAckReconfigureDone ∉ action) :
    Truthful client message (acknowledged (timedLoop target action samples)).effects ↔
      ¬ (watch target).Missed samples ∧
        ((watch target).Hit samples → client.Applied message action) := by
  rw [truthful_acknowledged_iff (not_mem_timedLoop samples hdone), timedLoop_eq_poll]
  exact returns_imp_poll_iff not_applied_nil samples

/-- A reconfiguration in two steps is reported truthfully unless it is abandoned. -/
theorem truthful_twoStepLoop_iff
    (hdone : .syncAckReconfigureDone ∉ firstAction ++ secondAction)
    (hfirst : ¬ client.Applied message firstAction)
    (hsecond : client.Applied message secondAction)
    (hboth : client.Applied message (firstAction ++ secondAction)) :
    Truthful client message
        (acknowledged (twoStepLoop first second firstAction secondAction false samples)).effects ↔
      ¬ Abandoned (watch first) (watch second) samples := by
  rw [twoStepLoop_eq_pollTwo, truthful_acknowledged_iff
    fun hmem ↦ hdone (effects_pollTwo_subset samples hmem)]
  exact returns_imp_pollTwo_iff not_applied_nil hfirst hsecond hboth samples

end

/-! ### End nodes -/

/-- The state before a message in which an end node applies the change it reports. -/
def EndnodeApplies (message : RMMessage) (samples : List Timespec) : Prop :=
  let payload := RMPayload.received message.payloadNet
  match MessageTypes.ofCode message.messageType with
  | some .rmClientSyncTimestampReconfigureHw =>
    ¬ Abandoned (watch payload.timestampStop) (watch payload.timestampStart) samples
  | some .rmClientSyncTimestampReconfigureSw =>
    ¬ (watch payload.timestampReconfig).Missed samples
  | some .rmClientSyncTimestampReconfigureSyncObjectHw => False
  | some .rmClientSyncTimestampReconfigureSyncObjectSw =>
    ¬ Abandoned (watch payload.timestampReconfig) (watch payload.timestampStart) samples
  | _ => True

/-- The exact condition for an end node to be truthful about one message. -/
theorem truthful_endnode_iff (message : RMMessage) (samples : List Timespec) :
    Truthful .endnode message (Endnode.handleControlMessage message samples).effects ↔
      EndnodeApplies message samples := by
  simp only [Endnode.handleControlMessage, EndnodeApplies]
  cases MessageTypes.ofCode message.messageType with
  | none => exact iff_of_true (truthful_of_not_mem List.not_mem_nil) trivial
  | some type =>
    cases type with
    | rmClientReconfigureSw =>
      refine iff_of_true ((truthful_acknowledged_iff ?_).mpr fun _ ↦ ?_) trivial
      · simp [Endnode.handleReconfigureMessage]
      · exact ⟨_, List.mem_singleton_self _, rfl, rfl⟩
    | rmClientSyncTimestampReconfigureHw =>
      refine truthful_twoStepLoop_iff samples (by simp) ?_ ?_ ?_
      · simp [ClientKind.Applied, Restarts]
      · exact ⟨_, List.mem_singleton_self _, rfl⟩
      · exact ⟨_, List.mem_append_right _ (List.mem_singleton_self _), rfl⟩
    | rmClientSyncTimestampReconfigureSw =>
      refine (truthful_timedLoop_iff samples (by simp)).trans (and_iff_left fun _ ↦ ?_)
      exact ⟨_, List.mem_singleton_self _, rfl, rfl⟩
    | rmClientSyncTimestampReconfigureSyncObjectHw =>
      refine iff_of_false (fun htruthful ↦ ?_) not_false
      have happlied := (truthful_acknowledged_iff List.not_mem_nil).mp htruthful rfl
      exact not_applied_nil happlied
    | rmClientSyncTimestampReconfigureSyncObjectSw =>
      refine truthful_twoStepLoop_iff samples (by simp) ?_ ?_ ?_
      · simp [ClientKind.Applied, Restarts]
      · exact ⟨_, List.mem_singleton_self _, rfl, rfl⟩
      · exact ⟨_, List.mem_append_right _ (List.mem_singleton_self _), rfl, rfl⟩
    | rmClientSyncTimestampStart =>
      exact iff_of_true (truthful_prepend_timedLoop samples (by simp)) trivial
    | rmClientSyncTimestampStop =>
      exact iff_of_true (truthful_prepend_timedLoop samples (by simp)) trivial
    | rmClientSyncTimestampExit =>
      exact iff_of_true (truthful_prepend_timedLoop samples (by simp)) trivial
    | rmClientStart =>
      cases samples with
      | nil => exact iff_of_true (truthful_of_not_mem List.not_mem_nil) trivial
      | cons now rest =>
        exact iff_of_true (truthful_of_not_mem (by simp [Endnode.handleStartMessage])) trivial
    | rmClientStop =>
      exact iff_of_true (truthful_of_not_mem (by simp [Endnode.handleStopMessage])) trivial
    | rmClientExit =>
      exact iff_of_true (truthful_of_not_mem (by simp [Endnode.handleExitMessage])) trivial
    | _ => exact iff_of_true (truthful_of_not_mem List.not_mem_nil) trivial

/-! ### Switches -/

/-- The state before a message in which a switch applies the change it reports. -/
def SwitchApplies (message : RMMessage) (samples : List Timespec) : Prop :=
  let timestampReconfig := (RMPayload.received message.payloadNet).timestampReconfig
  let known := (Switch.scriptMode message.mode.toUInt32).isSome
  match MessageTypes.ofCode message.messageType with
  | some .rmClientReconfigureHw => known
  | some .rmClientSyncTimestampReconfigureHw
  | some .rmClientSyncTimestampReconfigureSyncObjectHw =>
    ¬ (watch timestampReconfig).Missed samples ∧ ((watch timestampReconfig).Hit samples → known)
  | _ => True

/-- A switch runs the script of the commanded mode if there is one. -/
theorem applied_reconfigureSwToMode_iff (configuredExperiment mcNumber : UInt32)
    (message : RMMessage) :
    (ClientKind.switch configuredExperiment).Applied message
        [Switch.reconfigureSwToMode message.mode.toUInt32 configuredExperiment.toUInt8 mcNumber] ↔
      (Switch.scriptMode message.mode.toUInt32).isSome = true := by
  cases hscript : Switch.scriptMode message.mode.toUInt32 with
  | none => simp [ClientKind.Applied, Switch.reconfigureSwToMode, hscript]
  | some suffix => simp [ClientKind.Applied, Switch.reconfigureSwToMode, hscript]

/-- A switch is truthful about a timed reconfiguration unless it misses the time, or hits it and has
no script for the mode. -/
theorem truthful_handleSyncReconfigureMessage_iff (configuredExperiment mcNumber : UInt32)
    (message : RMMessage) (samples : List Timespec) :
    let timestampReconfig := (RMPayload.received message.payloadNet).timestampReconfig
    Truthful (.switch configuredExperiment) message (acknowledged
        (Switch.handleSyncReconfigureMessage message.payloadNet message.mode.toUInt32
          configuredExperiment.toUInt8 mcNumber samples)).effects ↔
      ¬ (watch timestampReconfig).Missed samples ∧
        ((watch timestampReconfig).Hit samples →
          (Switch.scriptMode message.mode.toUInt32).isSome = true) := by
  intro timestampReconfig
  rw [← applied_reconfigureSwToMode_iff configuredExperiment mcNumber]
  exact truthful_timedLoop_iff samples (by simp [Switch.reconfigureSwToMode])

/-- The exact condition for a switch to be truthful about one message. -/
theorem truthful_switch_iff (configuredExperiment : UInt32) (message : RMMessage)
    (samples : List Timespec) :
    Truthful (.switch configuredExperiment) message
        (Switch.handleControlMessage configuredExperiment message samples).effects ↔
      SwitchApplies message samples := by
  simp only [Switch.handleControlMessage, SwitchApplies]
  cases MessageTypes.ofCode message.messageType with
  | none => exact iff_of_true (truthful_of_not_mem List.not_mem_nil) trivial
  | some type =>
    cases type with
    | rmClientReconfigureHw =>
      rw [truthful_acknowledged_iff (by
        simp [Switch.handleReconfigureMessage, Switch.reconfigureSwToMode])]
      refine Iff.trans ?_ (applied_reconfigureSwToMode_iff configuredExperiment
        message.destinationId message)
      exact ⟨fun h ↦ h rfl, fun h _ ↦ h⟩
    | rmClientSyncTimestampReconfigureHw =>
      exact truthful_handleSyncReconfigureMessage_iff _ _ message samples
    | rmClientSyncTimestampReconfigureSyncObjectHw =>
      exact truthful_handleSyncReconfigureMessage_iff _ _ message samples
    | rmClientSyncTimestampStart =>
      refine iff_of_true (truthful_prepend_timedLoop samples ?_) trivial
      simp [Switch.reconfigureSwToMode]
    | rmClientSyncTimestampExit =>
      exact iff_of_true (truthful_prepend_timedLoop samples (by simp)) trivial
    | rmClientStart =>
      refine iff_of_true (truthful_of_not_mem ?_) trivial
      simp [Switch.handleStartMessage, Switch.reconfigureSwToMode]
    | rmClientExit =>
      exact iff_of_true (truthful_of_not_mem (by simp [Switch.handleExitMessage])) trivial
    | _ => exact iff_of_true (truthful_of_not_mem List.not_mem_nil) trivial

/-! ### Whole runs -/

/-- The state before a message in which a client applies the change it reports. -/
def ClientKind.Applies (client : ClientKind) (message : RMMessage) (samples : List Timespec) :
    Prop :=
  match client with
  | endnode => EndnodeApplies message samples
  | switch _ => SwitchApplies message samples

/-- The exact condition for all reports of a run to be truthful: whenever the client comes to a
message, it applies the change it will report. -/
theorem forall_truthful_iff (client : ClientKind) (messages : List RMMessage)
    (samples : List Timespec) :
    (∀ turn ∈ mainLoop client messages samples,
      Truthful client turn.message turn.outcome.effects) ↔
    ∀ turn ∈ mainLoop client messages samples, client.Applies turn.message turn.samples := by
  refine forall₂_congr fun turn hturn ↦ ?_
  rw [outcome_of_mem_mainLoop hturn]
  cases client with
  | endnode => exact truthful_endnode_iff turn.message turn.samples
  | switch configuredExperiment =>
    exact truthful_switch_iff configuredExperiment turn.message turn.samples

/-- A reconfiguration to mode 1 at a time, as an end node receives it. -/
def reconfigureSwMessage (timestampReconfig : Timespec) : RMMessage :=
  ⟨MessageTypes.rmClientSyncTimestampReconfigureSw.code, 0, rmId, 1, 0, 1, 0, 0, 136,
    (RMPayload.commanded .syncTimestampReconfgure ⟨0, 0⟩ timestampReconfig ⟨0, 0⟩).bytes⟩

/-- The end node polls the clock for the time of the message, between the acknowledgements. -/
theorem handleControlMessage_reconfigureSwMessage {timestampReconfig : Timespec}
    (hreconfig : MessageNet.FitsTimespec timestampReconfig) (samples : List Timespec) :
    Endnode.handleControlMessage (reconfigureSwMessage timestampReconfig) samples =
      acknowledged (timedLoop timestampReconfig
        [.notify (.modeChange .threadTransmission 1)] samples) := by
  have hrepresentable : (RMPayload.commanded .syncTimestampReconfgure ⟨0, 0⟩ timestampReconfig
      ⟨0, 0⟩).Representable :=
    RMPayload.representable_commanded _ (by decide) hreconfig (by decide)
  have hpayload : RMPayload.received (reconfigureSwMessage timestampReconfig).payloadNet =
      RMPayload.commanded .syncTimestampReconfgure ⟨0, 0⟩ timestampReconfig ⟨0, 0⟩ :=
    RMMessage.received_payloadNet hrepresentable
      (List.take_of_length_le (RMPayload.length_bytes hrepresentable).le)
  have hdispatch : Endnode.handleControlMessage (reconfigureSwMessage timestampReconfig) samples =
      acknowledged (Endnode.handleSyncReconfigureSwMessage
        (reconfigureSwMessage timestampReconfig).payloadNet 1 samples) := rfl
  rw [hdispatch, Endnode.handleSyncReconfigureSwMessage, hpayload]
  rfl

/-- A clock that is read again one nanosecond after the time, at the next full second: the end node
reports the change as done and has done nothing. -/
theorem not_truthful_reconfigureSwMessage :
    let messages := [reconfigureSwMessage ⟨100, 999999999⟩]
    let samples : List Timespec := [⟨100, 5⟩, ⟨101, 0⟩]
    ∃ turn ∈ mainLoop .endnode messages samples,
      turn.outcome.effects = [.syncAckReceive, .syncAckReconfigureDone] ∧
      ¬ Truthful .endnode turn.message turn.outcome.effects := by
  intro messages samples
  have heffects : (Endnode.handleControlMessage (reconfigureSwMessage ⟨100, 999999999⟩)
      samples).effects = [.syncAckReceive, .syncAckReconfigureDone] := by
    rw [handleControlMessage_reconfigureSwMessage (by decide)]
    rfl
  refine ⟨_, List.mem_cons_self, heffects, fun htruthful ↦ ?_⟩
  have happlied := htruthful [.syncAckReceive] [] heffects
  exact not_applied_nil (applied_cons_syncAckReceive.mp happlied)

end Tanos.Client
