import Tanos.Rm.Dispatch

/-!
# The mode a client is commanded to

The modes of the configuration are 32-bit values, and so are the modes of the calls up to the
constructor of the message, which has a single byte for the mode. The clients widen this byte again
for their handlers. `handledMode_eq` follows the mode of a call to the handler: it arrives modulo
256. `applied_iff` draws the conclusion for every client a mode is configured for, with both ways to
start the traffic and the rounds of the experiments.
-/

set_option autoImplicit false
set_option relaxedAutoImplicit false

namespace Tanos

/-- `recieved_control_message.mode`, as both clients pass it to the handlers, which take a
`uint32_t`. -/
def RMMessage.handlerMode (message : RMMessage) : UInt32 := message.mode.toUInt32

/-- The mode with which a call arrives at the handler of its client. -/
def ControlCommand.arrivingMode (command : ControlCommand) : UInt32 :=
  command.mode.toUInt8.toUInt32

/-- The mode that a client passes to its handler when it receives the datagram of a call, whatever
message it has received before. -/
def ControlCommand.handledMode (command : ControlCommand) (old : RMMessage)
    (uninitialised : List UInt8) (now : ℤ) : Option UInt32 :=
  (RMCommunication.receiveControlMessage old (RMCommunication.sendoutControlMessage
    (command.rmMessageOut uninitialised now))).map RMMessage.handlerMode

/-- The mode of a call reaches the handler modulo 256. -/
theorem ControlCommand.handledMode_eq (command : ControlCommand) (old : RMMessage)
    {uninitialised : List UInt8}
    (huninitialised : uninitialised.length = RMPayload.sizeofResourceRequest) (now : ℤ) :
    command.handledMode old uninitialised now = some command.mode.toUInt8.toUInt32 := by
  rw [handledMode, RMCommunication.receiveControlMessage_rmMessageOut command huninitialised]
  rfl

/-- A mode survives the byte of the message precisely when it fits there. -/
theorem toUInt32_toUInt8_eq_iff (mode : UInt32) :
    mode.toUInt8.toUInt32 = mode ↔ mode.toNat < 256 := by
  rw [← UInt32.toNat_inj, UInt8.toNat_toUInt32, UInt32.toNat_toUInt8]
  exact Nat.mod_eq_iff_lt (by norm_num)

namespace NetLayerRM

/-- The calls that carry a mode of the configuration, with the map they take it from and the network
mode. -/
inductive CallsIn (rm : NetLayerRM) : ModeMap → UInt32 → List ServiceCommand → Prop where
  | startSynchronous (currentTime : Timespec) :
    CallsIn rm rm.experimentParameterStruct.startupModeMap rm.experimentParameterStruct.startupMode
      (rm.startNetworkTrafficSynchronous currentTime).2
  | startAsynchronous :
    CallsIn rm rm.experimentParameterStruct.startupModeMap rm.experimentParameterStruct.startupMode
      rm.startNetworkTrafficAsynchronous.2
  | round (experiment : Experiment) (iterator : UInt8) (networkMode : UInt32)
    (currentTime : Timespec) :
    CallsIn rm rm.experimentParameterStruct.reconfigurationMap networkMode
      (experiment.round rm iterator networkMode currentTime).2

/-- A call is made for the service, and with every call for it the client passes the mode to its
handler. -/
def Applied (commands : List ServiceCommand) (service : UInt64) (mode : UInt32) : Prop :=
  (∃ command ∈ commands, command.service = service) ∧
    ∀ command ∈ commands, command.service = service → ∀ old uninitialised now,
      uninitialised.length = RMPayload.sizeofResourceRequest →
        command.handledMode old uninitialised now = some mode

/-- The call carries the mode of its client. -/
def CarriesMode (client : AddressedClient) (command : ControlCommand) : Prop :=
  command.mode = client.mode

variable {rm : NetLayerRM} {modes : ModeMap} {networkMode : UInt32}
  {commands : List ServiceCommand}

/-- The calls carry the modes of the clients that are addressed. -/
theorem forall₂_mode (hcalls : rm.CallsIn modes networkMode commands) :
    List.Forall₂ (fun client command ↦
        command.service = client.service ∧ CarriesMode client command.toControlCommand)
      (rm.addressed modes networkMode) commands := by
  cases hcalls with
  | startSynchronous currentTime =>
    refine (forall₂_callFor_startSynchronous rm currentTime).imp fun _ _ h ↦ ?_
    exact ⟨h.1, h.2.mode_eq⟩
  | startAsynchronous =>
    refine (forall₂_callFor_startAsynchronous rm).imp fun _ _ h ↦ ?_
    exact ⟨h.1, h.2.mode_eq⟩
  | round experiment iterator networkMode currentTime =>
    refine (forall₂_callFor_round experiment rm iterator networkMode currentTime).imp
      fun _ _ h ↦ ?_
    exact ⟨h.1, h.2.mode_eq⟩

variable {service : UInt64} {message : RMMessage} {mode : UInt32}

/-- Every call for a service has the configured mode of its client. -/
theorem mode_eq_of_callsIn (hcalls : rm.CallsIn modes networkMode commands)
    (hentry : rm.serviceList.entries[service]? = some message)
    (hmode : clientMode modes networkMode message.sourceId = some mode) :
    (∃ command ∈ commands, command.service = service) ∧
      ∀ command ∈ commands, command.service = service → command.mode = mode := by
  have hclients := forall₂_mode hcalls
  constructor
  · obtain ⟨command, hcommand, hservice, -⟩ := exists_mem_right_of_forall₂ hclients
      ⟨service, message, mode⟩ (mem_addressed.mpr ⟨hentry, hmode⟩)
    exact ⟨command, hcommand, hservice⟩
  · intro command hcommand hservice
    obtain ⟨client, hclient, hsame, hcalled⟩ :=
      exists_mem_left_of_forall₂ hclients command hcommand
    obtain ⟨hregistered, hassigned⟩ := mem_addressed.mp hclient
    rw [← hsame, hservice, hentry] at hregistered
    rw [← Option.some.inj hregistered, hmode] at hassigned
    exact hcalled.trans (Option.some.inj hassigned).symm

/-- Assumes: a service is registered and its client has a mode. The client applies this mode
precisely when it is less than 256. -/
theorem applied_iff (hcalls : rm.CallsIn modes networkMode commands)
    (hentry : rm.serviceList.entries[service]? = some message)
    (hmode : clientMode modes networkMode message.sourceId = some mode) :
    Applied commands service mode ↔ mode.toNat < 256 := by
  obtain ⟨⟨call, hcall, hservice⟩, hmodes⟩ := mode_eq_of_callsIn hcalls hentry hmode
  constructor
  · rintro ⟨-, happlied⟩
    have hhandled := happlied call hcall hservice RMMessage.new
      (List.replicate RMPayload.sizeofResourceRequest 0) 0 List.length_replicate
    rw [ControlCommand.handledMode_eq _ _ List.length_replicate,
      hmodes call hcall hservice] at hhandled
    exact (toUInt32_toUInt8_eq_iff mode).mp (Option.some.inj hhandled)
  · intro hfits
    refine ⟨⟨call, hcall, hservice⟩, fun command hcommand hfor old uninitialised now hlength ↦ ?_⟩
    rw [ControlCommand.handledMode_eq _ _ hlength, hmodes command hcommand hfor,
      (toUInt32_toUInt8_eq_iff mode).mpr hfits]

/-- The single client with a mode of its own. -/
def assignedParameter (mode : UInt32) : ExperimentParameter :=
  { singleParameter 100 100 100 100 with
    reconfigurationMap :=
      (∅ : ModeMap).insert 0 ((∅ : StdMap UInt32 UInt32).insert 1 mode) }

theorem clientMode_assignedParameter (mode : UInt32) :
    clientMode (assignedParameter mode).reconfigurationMap 0 singleRequest.sourceId =
      some mode := by
  rfl

theorem applied_iff_singleClient :
    Applied (Experiment.modeChange.round (singleClient (assignedParameter 255) 0 ⟨0, 0⟩) 0 0
      ⟨0, 0⟩).2 1 255 ↔ (255 : UInt32).toNat < 256 :=
  applied_iff (.round .modeChange 0 0 ⟨0, 0⟩) rfl (clientMode_assignedParameter 255)

/-- The single client gets mode 1 when it is to change to mode 257, and when it is to change to
mode 1. -/
theorem not_applied_singleClient :
    let round := fun mode ↦
      (Experiment.modeChange.round (singleClient (assignedParameter mode) 0 ⟨0, 0⟩) 0 0 ⟨0, 0⟩).2
    ¬ Applied (round 257) 1 257 ∧ ∃ first ∈ round 1, ∃ second ∈ round 257,
      first.handledMode RMMessage.new (List.replicate 64 0) 0 = some 1 ∧
        second.handledMode RMMessage.new (List.replicate 64 0) 0 = some 1 := by
  intro round
  have hround : ∀ mode, round mode =
      [⟨sendAsynchronousReconfigure (some ⟨"127.0.0.1", 25525⟩) 1 mode 0, 1⟩] := fun _ ↦ rfl
  have hhandled : ∀ mode : UInt32, ControlCommand.handledMode
      (sendAsynchronousReconfigure (some ⟨"127.0.0.1", 25525⟩) 1 mode 0) RMMessage.new
        (List.replicate 64 0) 0 = some mode.toUInt8.toUInt32 := fun mode ↦
    ControlCommand.handledMode_eq _ _ List.length_replicate 0
  rw [hround, hround]
  refine ⟨fun happlied ↦ ?_, _, List.mem_singleton_self _, _, List.mem_singleton_self _,
    hhandled 1, hhandled 257⟩
  have hwrong := happlied.2 _ (List.mem_singleton_self _) rfl RMMessage.new
    (List.replicate 64 0) 0 List.length_replicate
  rw [hhandled] at hwrong
  exact absurd (Option.some.inj hwrong) (by decide)

end NetLayerRM

end Tanos
