import Tanos.Client.TimedLoops

/-!
# The client of an end node

The handlers of `wired_rm_client_endnode.cpp` and the dispatch of its control loop. A handler gets
the buffer its message's payload has been copied to and the readings of the clock that are still to
come, of which it uses as many as it needs.

Reconfigurations are acknowledged twice: `sync_ack_receive` goes out before the handler is called,
`sync_ack_reconfigure_done` once it has returned, whatever it has done.
-/

set_option autoImplicit false
set_option relaxedAutoImplicit false

namespace Tanos.Client.Endnode

open Library.Polling

/-- `handle_start_message`. The period starts at the clock reading the handler takes. -/
def handleStartMessage (_receivedPayload : MessageNet) (mode : UInt32) :
    List Timespec → HandlerOutcome
  | [] => ⟨[], none⟩
  | timeNow :: rest => ⟨[.notify (.timestamp .threadTransmission timeNow mode true)], some rest⟩

/-- `handle_stop_message`. -/
def handleStopMessage (_receivedPayload : MessageNet) (samples : List Timespec) : HandlerOutcome :=
  ⟨[.notify (.generator .threadStop)], some samples⟩

/-- `handle_reconfigure_message`. -/
def handleReconfigureMessage (_receivedPayload : MessageNet) (mode : UInt32)
    (samples : List Timespec) : HandlerOutcome :=
  ⟨[.notify (.modeChange .threadTransmission mode)], some samples⟩

/-- `handle_exit_message`. -/
def handleExitMessage (_receivedPayload : MessageNet) (samples : List Timespec) : HandlerOutcome :=
  ⟨[.notify (.generator .threadStop), .deactivate], some samples⟩

/-- `handle_sync_reconfigure_hw_message`: the generator pauses at the stop timestamp and goes on at
the start timestamp. -/
def handleSyncReconfigureHwMessage (receivedPayload : MessageNet) (_mode : UInt32)
    (samples : List Timespec) : HandlerOutcome :=
  let payload := RMPayload.received receivedPayload
  twoStepLoop payload.timestampStop payload.timestampStart
    [.notify (.generator .threadPaused)] [.notify (.generator .threadTransmission)] false samples

/-- `handle_sync_reconfigure_sw_message`. -/
def handleSyncReconfigureSwMessage (receivedPayload : MessageNet) (mode : UInt32)
    (samples : List Timespec) : HandlerOutcome :=
  timedLoop (RMPayload.received receivedPayload).timestampReconfig
    [.notify (.modeChange .threadTransmission mode)] samples

/-- `handle_sync_start_message`. -/
def handleSyncStartMessage (receivedPayload : MessageNet) (mode : UInt32)
    (samples : List Timespec) : HandlerOutcome :=
  let timestampTargetRestart := (RMPayload.received receivedPayload).timestampStart
  timedLoop timestampTargetRestart
    [.notify (.timestamp .threadTransmission timestampTargetRestart mode true)] samples

/-- `handle_sync_stop_message`. -/
def handleSyncStopMessage (receivedPayload : MessageNet) (samples : List Timespec) :
    HandlerOutcome :=
  timedLoop (RMPayload.received receivedPayload.reset).timestampStop
    [.notify (.generator .threadStop)] samples

/-- `handle_sync_exit_message`. -/
def handleSyncExitMessage (receivedPayload : MessageNet) (samples : List Timespec) :
    HandlerOutcome :=
  timedLoop (RMPayload.received receivedPayload.reset).timestampStop
    [.notify (.generator .threadStop), .deactivate] samples

/-- `handle_sync_reconfigure_sync_object_hw_message`, which only logs the timestamps. -/
def handleSyncReconfigureSyncObjectHwMessage (_receivedPayload : MessageNet) (_mode : UInt32)
    (samples : List Timespec) : HandlerOutcome :=
  ⟨[], some samples⟩

/-- `handle_sync_reconfigure_sync_object_sw_message`: the generator finishes its object from the
reconfiguration timestamp on, and starts in the new slot at the start timestamp. -/
def handleSyncReconfigureSyncObjectSwMessage (receivedPayload : MessageNet) (mode : UInt32)
    (samples : List Timespec) : HandlerOutcome :=
  let payload := RMPayload.received receivedPayload
  twoStepLoop payload.timestampReconfig payload.timestampStart
    [.notify (.generator .threadTransmissionFinishObject)]
    [.notify (.timestamp .threadTransmission payload.timestampStart mode true)] false samples

/-- The `switch` of the control loop. -/
def handleControlMessage (message : RMMessage) (samples : List Timespec) : HandlerOutcome :=
  let payload := message.payloadNet
  let mode := message.mode.toUInt32
  match MessageTypes.ofCode message.messageType with
  | some .rmClientStart => handleStartMessage payload mode samples
  | some .rmClientStop => (handleStopMessage payload samples).prepend [.syncAckReceive]
  | some .rmClientReconfigureSw => acknowledged (handleReconfigureMessage payload mode samples)
  | some .rmClientSyncTimestampStart =>
    (handleSyncStartMessage payload mode samples).prepend [.syncAckReceive]
  | some .rmClientSyncTimestampStop =>
    (handleSyncStopMessage payload samples).prepend [.syncAckReceive]
  | some .rmClientSyncTimestampReconfigureHw =>
    acknowledged (handleSyncReconfigureHwMessage payload mode samples)
  | some .rmClientSyncTimestampReconfigureSw =>
    acknowledged (handleSyncReconfigureSwMessage payload mode samples)
  | some .rmClientSyncTimestampReconfigureSyncObjectHw =>
    acknowledged (handleSyncReconfigureSyncObjectHwMessage payload mode samples)
  | some .rmClientSyncTimestampReconfigureSyncObjectSw =>
    acknowledged (handleSyncReconfigureSyncObjectSwMessage payload mode samples)
  | some .rmClientSyncTimestampExit =>
    (handleSyncExitMessage payload samples).prepend [.syncAckReceive]
  | some .rmClientExit => (handleExitMessage payload samples).prepend [.syncAckReceive]
  | _ => ⟨[], some samples⟩

end Tanos.Client.Endnode
