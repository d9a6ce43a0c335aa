import Tanos.DataMessage
import Tanos.Library.Runs
import Tanos.TrafficGenerator
import Tanos.Utils.ConfigReader

/-!
# The sending threads

`send_objects_dynamic_change` and `send_objects_dynamic_change_asynchron` send one object after the
other, packet by packet, while the control loop of the client notifies the traffic generator. They
differ in one place: the asynchronous sender also looks for a new mode before each packet.

`Sender` is the state of the generator and of the function in its thread, with a `SenderPhase` for
the place in the function. Every step of the thread reads or writes the shared state at most once,
so that all interleavings with notifications are runs of `step` in the sense of `Library.Runs`. What
the thread reads from the clock is part of the event. The outputs of a step say what is sent, and
where the outer loop passes its gate and the inner loop begins and ends.
-/

set_option autoImplicit false
set_option relaxedAutoImplicit false

namespace Tanos

/-- `number_packets` of a mode, in the arithmetic of `uint32_t`. -/
def ServiceSettings.numberPackets (settings : ServiceSettings) : UInt32 :=
  (settings.objectSize * 1024 + 1427 - 1) / 1427

/-- The size of the objects of a mode in bytes, in the arithmetic of `uint32_t`. -/
def ServiceSettings.objectBytes (settings : ServiceSettings) : ℕ :=
  (settings.objectSize * 1024).toNat

/-- What the resolver of the sender is asked for. -/
structure TrafficEndpoint where
  ipAddress : String
  port : UInt32
deriving DecidableEq, Repr

/-- The endpoint of a mode. -/
def ServiceSettings.endpoint (settings : ServiceSettings) : TrafficEndpoint :=
  ⟨settings.ipAddress, settings.port⟩

/-- The two sending functions. -/
inductive SenderKind where
  | synchronous
  | asynchronous
deriving DecidableEq, Repr

/-- What a look for a new mode stands in front of. -/
inductive Place where
  | object
  | packet
deriving DecidableEq, Repr

/-- The places in the sending functions between which they access the shared state. -/
inductive SenderPhase where
  | startGate
  | checkMode (place : Place)
  | changeMode (place : Place)
  | checkUpdate (place : Place)
  | adoptTimestamp (place : Place)
  | clearUpdate (place : Place)
  | buildObject
  | packetLoop
  | packetGate
  | sending
  | stopCheck
  | objectEnd
  | afterObject
  | waiting
  | pollClock
  | closed
  | crashed
deriving DecidableEq, Repr

/-- Where the function goes on behind a look for a new mode. -/
def Place.next : Place → SenderPhase
  | object => .buildObject
  | packet => .packetGate

/-- The shared state and the variables of a sending function. The pointer to the current settings
is none while it is null. -/
structure Sender where
  generator : TrafficGenerator
  stopThread : Bool
  serviceSettingsStruct : StdMap UInt32 ServiceSettings
  clientId : UInt32
  currentMode : UInt32
  currentSettings : Option ServiceSettings
  trafficEndpointTarget : TrafficEndpoint
  localTimestamp : Timespec
  targetTime : Timespec
  timeSend : Timespec
  numberObject : ℕ
  numberPacket : UInt32
  remainingBytes : ℕ
  dataMessage : DataMessage
  phase : SenderPhase

/-- A packet on its way: where it is sent to, and the settings in force at that moment. -/
structure SentPacket where
  endpoint : TrafficEndpoint
  settings : ServiceSettings
  message : DataMessage
deriving DecidableEq, Repr

/-- What can be seen of a sending function. -/
inductive SenderOutput where
  | passedGate
  | started (settings : ServiceSettings)
  | packet (packet : SentPacket)
  | ended (stopped : Bool)
deriving DecidableEq, Repr

/-- A notification, `stop`, or a step of the thread. -/
inductive SenderEvent where
  | notify (notification : Notification)
  | stop
  | run (clock : Timespec)
deriving DecidableEq, Repr

namespace Sender

/-- `auto_traffic_termination`, as `traffic_generator_parameter` initialises it. No caller changes
it. -/
def autoTrafficTermination : ℕ := 5000

/-- The state at the gate of the first object. What the constructor and the function leave
uninitialised are parameters. -/
def start (serviceSettings : StdMap UInt32 ServiceSettings) (clientId : UInt32)
    (control : TrafficSourceControl) (uninitialised : Timespec) : Sender where
  generator := ⟨control, 0, false, ⟨0, 0⟩⟩
  stopThread := false
  serviceSettingsStruct := serviceSettings
  clientId := clientId
  currentMode := 0xFFFFFFFF
  currentSettings := none
  trafficEndpointTarget := ⟨"", 0⟩
  localTimestamp := uninitialised
  targetTime := ⟨0, 0⟩
  timeSend := ⟨0, 0⟩
  numberObject := 1
  numberPacket := 0
  remainingBytes := 0
  dataMessage := DataMessage.new 0
  phase := .startGate

/-- `current_settings_ptr->`, with what is done with the settings. -/
def withSettings (sender : Sender) (body : ServiceSettings → Sender × List SenderOutput) :
    Sender × List SenderOutput :=
  match sender.currentSettings with
  | some settings => body settings
  | none => ({ sender with phase := .crashed }, [])

theorem withSettings_of_some {sender : Sender} {settings : ServiceSettings}
    (hsettings : sender.currentSettings = some settings)
    (body : ServiceSettings → Sender × List SenderOutput) :
    sender.withSettings body = body settings := by
  unfold withSettings
  rw [hsettings]

/-- `current_mode = mode_global` and what depends on the settings of the mode. A mode that is not
configured ends the loop that looks for it. -/
def changeMode (sender : Sender) (place : Place) : Sender × List SenderOutput :=
  let currentMode := sender.generator.modeGlobal
  match sender.serviceSettingsStruct[currentMode]? with
  | some settings =>
    ({ sender with
      currentMode := currentMode
      currentSettings := some settings
      trafficEndpointTarget := settings.endpoint
      phase := .checkUpdate place }, [])
  | none =>
    match place with
    | .object => ({ sender with currentMode := currentMode, phase := .closed }, [])
    | .packet => ({ sender with currentMode := currentMode, phase := .objectEnd }, [.ended false])

/-- The message and the counters of an object. -/
def buildObject (sender : Sender) (clock : Timespec) : Sender × List SenderOutput :=
  sender.withSettings fun settings ↦
    let remainingBytes := settings.objectBytes
    let payloadSize := min remainingBytes maxProtocolMessageLength
    ({ sender with
      remainingBytes := remainingBytes
      numberPacket := 0
      dataMessage := DataMessage.ofPayloadAt settings.servicePriority.toUInt8 sender.clientId
        settings.serviceId (UInt32.ofNat sender.numberObject) 0 settings.numberPackets
        (List.replicate maxProtocolMessageLength 65) payloadSize sender.timeSend clock.nanoseconds
      phase := .packetLoop }, [.started settings])

/-- One packet, and the message of the next one. The settings only mark the packet. -/
def sendPacket (sender : Sender) (clock : Timespec) : Sender × List SenderOutput :=
  sender.withSettings fun settings ↦
    let message := sender.dataMessage.setTimestamp clock
    let numberPacket := sender.numberPacket + 1
    let payloadSize := min sender.remainingBytes maxProtocolMessageLength
    ({ sender with
      timeSend := clock
      numberPacket := numberPacket
      dataMessage := (message.setPayloadSize payloadSize).setPacketNumber numberPacket
      remainingBytes := sender.remainingBytes - payloadSize
      phase := .stopCheck }, [.packet ⟨sender.trafficEndpointTarget, settings, message⟩])

/-- `time_now >= target_time`, seconds first. -/
def reached (timeNow targetTime : Timespec) : Bool :=
  timeNow.tvSec > targetTime.tvSec ||
    (timeNow.tvSec == targetTime.tvSec && timeNow.tvNsec ≥ targetTime.tvNsec)

/-- A step of the thread. -/
def run (kind : SenderKind) (sender : Sender) (clock : Timespec) : Sender × List SenderOutput :=
  match sender.phase with
  | .startGate =>
    if sender.generator.trafficGeneratorControl = .threadTransmission then
      ({ sender with phase := .checkMode .object }, [.passedGate])
    else (sender, [])
  | .checkMode place =>
    if sender.currentMode ≠ sender.generator.modeGlobal then
      ({ sender with phase := .changeMode place }, [])
    else ({ sender with phase := place.next }, [])
  | .changeMode place => sender.changeMode place
  | .checkUpdate place =>
    if sender.generator.globalUpdatePeriod then
      ({ sender with phase := .adoptTimestamp place }, [])
    else ({ sender with phase := place.next }, [])
  | .adoptTimestamp place =>
    ({ sender with
      localTimestamp := sender.generator.globalPeriodTimestamp
      phase := .clearUpdate place }, [])
  | .clearUpdate place =>
    ({ sender with
      generator := { sender.generator with globalUpdatePeriod := false }
      phase := place.next }, [])
  | .buildObject => sender.buildObject clock
  | .packetLoop =>
    sender.withSettings fun settings ↦
      if sender.numberPacket < settings.numberPackets then
        match kind with
        | .synchronous => ({ sender with phase := .packetGate }, [])
        | .asynchronous => ({ sender with phase := .checkMode .packet }, [])
      else ({ sender with phase := .objectEnd }, [.ended false])
  | .packetGate =>
    if sender.generator.trafficGeneratorControl = .threadTransmission ∨
        sender.generator.trafficGeneratorControl = .threadTransmissionFinishObject then
      ({ sender with phase := .sending }, [])
    else (sender, [])
  | .sending => sender.sendPacket clock
  | .stopCheck =>
    if sender.stopThread then ({ sender with phase := .objectEnd }, [.ended true])
    else ({ sender with phase := .packetLoop }, [])
  | .objectEnd =>
    if autoTrafficTermination ≤ sender.numberObject then ({ sender with phase := .closed }, [])
    else ({ sender with numberObject := sender.numberObject + 1, phase := .afterObject }, [])
  | .afterObject =>
    if sender.stopThread then ({ sender with phase := .closed }, [])
    else sender.withSettings fun settings ↦
      ({ sender with
        targetTime := TrafficGenerator.nextLocalTimestamp settings.deadline.toNat
          sender.localTimestamp
        phase := .waiting }, [])
  | .waiting =>
    if sender.generator.trafficGeneratorControl = .threadTransmissionFinishObject then
      ({ sender with localTimestamp := sender.targetTime, phase := .startGate }, [])
    else ({ sender with phase := .pollClock }, [])
  | .pollClock =>
    if reached clock sender.targetTime then
      ({ sender with localTimestamp := sender.targetTime, phase := .startGate }, [])
    else ({ sender with phase := .waiting }, [])
  | .closed => (sender, [])
  | .crashed => (sender, [])

/-- A step of the thread leaves the control value, the mode, the stop flag and the configuration as
they are. -/
theorem run_frame (kind : SenderKind) (sender : Sender) (clock : Timespec) :
    (sender.run kind clock).1.stopThread = sender.stopThread ∧
      (sender.run kind clock).1.generator.modeGlobal = sender.generator.modeGlobal ∧
      (sender.run kind clock).1.generator.trafficGeneratorControl =
        sender.generator.trafficGeneratorControl ∧
      (sender.run kind clock).1.serviceSettingsStruct = sender.serviceSettingsStruct := by
  cases hphase : sender.phase with
  | changeMode place =>
    simp only [run, hphase]
    cases hsettings : sender.serviceSettingsStruct[sender.generator.modeGlobal]? with
    | some settings => simp [changeMode, hsettings]
    | none => cases place <;> simp [changeMode, hsettings]
  | _ =>
    simp only [run, hphase, buildObject, sendPacket, withSettings]
    repeat' split
    all_goals simp only [and_self]

/-- A step of the client. -/
def step (kind : SenderKind) (sender : Sender) : SenderEvent → Sender × List SenderOutput
  | .notify notification =>
    ({ sender with generator := sender.generator.notify notification }, [])
  | .stop =>
    ({ sender with
      generator := sender.generator.notifyGenerator .threadStop
      stopThread := true }, [])
  | .run clock => sender.run kind clock

/-- `send_objects_dynamic_change`. -/
def sendObjectsDynamicChange : Sender → SenderEvent → Sender × List SenderOutput :=
  step .synchronous

/-- `send_objects_dynamic_change_asynchron`. -/
def sendObjectsDynamicChangeAsynchron : Sender → SenderEvent → Sender × List SenderOutput :=
  step .asynchronous

end Sender

end Tanos
