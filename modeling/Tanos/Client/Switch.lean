import Tanos.Client.TimedLoops

/-!
# The client of a switch

The handlers of `wired_rm_client_switch.cpp` and the dispatch of its control loop. A switch changes
its mode by a shell script, of which there is one for each of three modes. A command to any other
mode is logged and dropped.
-/

set_option autoImplicit false
set_option relaxedAutoImplicit false

namespace Tanos.Client.Switch

open Library.Polling

/-- The suffix of the script for a mode: `SCRIPT_MODE00`, `SCRIPT_MODE01` and `SCRIPT_MODE10`. -/
def scriptMode (mode : UInt32) : Option String :=
  if mode = 0 then some "_switch_m0"
  else if mode = 1 then some "_switch_m0_m1"
  else if mode = 10 then some "_switch_m1_m0"
  else none

/-- `reconfigure_sw_to_mode`. -/
def reconfigureSwToMode (mode : UInt32) (experimentNumber : UInt8) (mcNumber : UInt32) :
    ClientEffect :=
  .reconfigureSwToMode mode experimentNumber mcNumber <|
    (scriptMode mode).map fun suffix ↦
      "sh ./scripts/experiment_" ++ toString experimentNumber ++ suffix ++ ".sh"

/-- `handle_start_message`. -/
def handleStartMessage (_receivedPayload : MessageNet) (mode : UInt32) (experimentNumber : UInt8)
    (samples : List Timespec) : HandlerOutcome :=
  ⟨[reconfigureSwToMode mode experimentNumber 0], some samples⟩

/-- `handle_reconfigure_message`. -/
def handleReconfigureMessage (_receivedPayload : MessageNet) (mode : UInt32)
    (experimentNumber : UInt8) (mcNumber : UInt32) (samples : List Timespec) : HandlerOutcome :=
  ⟨[reconfigureSwToMode mode experimentNumber mcNumber], some samples⟩

/-- `handle_sync_start_message`. -/
def handleSyncStartMessage (receivedPayload : MessageNet) (mode : UInt32)
    (experimentNumber : UInt8) (samples : List Timespec) : HandlerOutcome :=
  timedLoop (RMPayload.received receivedPayload).timestampStart
    [reconfigureSwToMode mode experimentNumber 0] samples

/-- `handle_sync_reconfigure_message`. -/
def handleSyncReconfigureMessage (receivedPayload : MessageNet) (mode : UInt32)
    (experimentNumber : UInt8) (mcNumber : UInt32) (samples : List Timespec) : HandlerOutcome :=
  timedLoop (RMPayload.received receivedPayload).timestampReconfig
    [reconfigureSwToMode mode experimentNumber mcNumber] samples

/-- `handle_exit_message`. -/
def handleExitMessage (_receivedPayload : MessageNet) (samples : List Timespec) : HandlerOutcome :=
  ⟨[.deactivate], some samples⟩

/-- `handle_sync_exit_message`. -/
def handleSyncExitMessage (receivedPayload : MessageNet) (samples : List Timespec) :
    HandlerOutcome :=
  timedLoop (RMPayload.received receivedPayload.reset).timestampStop [.deactivate] samples

/-- The `switch` of the control loop, for the experiment number of the configuration. Hardware
reconfigurations pass the destination of the message on as the number of the mode change. -/
def handleControlMessage (configuredExperiment : UInt32) (message : RMMessage)
    (samples : List Timespec) : HandlerOutcome :=
  let payload := message.payloadNet
  let mode := message.mode.toUInt32
  let experimentNumber := configuredExperiment.toUInt8
  match MessageTypes.ofCode message.messageType with
  | some .rmClientStart => handleStartMessage payload mode experimentNumber samples
  | some .rmClientReconfigureHw =>
    acknowledged
      (handleReconfigureMessage payload mode experimentNumber message.destinationId samples)
  | some .rmClientSyncTimestampStart =>
    (handleSyncStartMessage payload mode experimentNumber samples).prepend [.syncAckReceive]
  | some .rmClientSyncTimestampReconfigureHw =>
    acknowledged
      (handleSyncReconfigureMessage payload mode experimentNumber message.destinationId samples)
  | some .rmClientSyncTimestampReconfigureSyncObjectHw =>
    acknowledged
      (handleSyncReconfigureMessage payload mode experimentNumber message.destinationId samples)
  | some .rmClientSyncTimestampExit =>
    (handleSyncExitMessage payload samples).prepend [.syncAckReceive]
  | some .rmClientExit => (handleExitMessage payload samples).prepend [.syncAckReceive]
  | _ => ⟨[], some samples⟩

end Tanos.Client.Switch
