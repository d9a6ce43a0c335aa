import Tanos.Sender.AdoptedSettings
import Tanos.System.ControlPlane

/-!
# Safety of the clients

What a client keeps of the invariant `ClientGood`: its receiver enqueues what stands for calls that
have been made to it, its handlers have the effects of those calls, and the sending thread of an end
node uses the modes that the effects have set.
-/

set_option autoImplicit false
set_option relaxedAutoImplicit false

namespace Tanos

open Library Library.Network RMCommunication

namespace Client.ControlQueue

variable {μ : Type}

/-- The receiver apart, the threads take messages out of the queue only. Assumes: a handler that has
returned leaves the flag of the loop as it is. -/
theorem step_quiet {client : ControlQueue μ} {event : QueueEvent μ}
    (henqueue : ∀ message, event ≠ .enqueue message)
    (hhandled : ∀ stillActive, event = .handled stillActive → stillActive = client.active) :
    (client.step event).1.rmClientOutQueue ⊆ client.rmClientOutQueue ∧
      (client.step event).1.active = client.active ∧
      ((client.step event).1.main = .ended → client.main = .ended ∨ client.active = false) := by
  obtain ⟨queue, receiver, main, active⟩ := client
  cases event with
  | enqueue message => exact absurd rfl (henqueue message)
  | notify => cases receiver <;> cases main <;> simp [step, wake]
  | beginWait => cases main <;> cases active <;> simp [step]
  | spuriousWake => cases main <;> simp [step, wake]
  | check isMessageLeft =>
    cases main with
    | checking => cases active <;> cases isMessageLeft <;> simp [step]
    | _ => simp [step]
  | dequeue =>
    cases main with
    | dequeuing => cases queue <;> simp [step]
    | _ => simp [step]
  | handled stillActive =>
    obtain rfl := hhandled stillActive rfl
    cases main <;> simp [step]

/-- A message that is handed to a handler comes out of the queue. -/
theorem mem_of_dequeue {client : ControlQueue μ} {message : μ}
    (hmessage : message ∈ (client.step .dequeue).2) : message ∈ client.rmClientOutQueue := by
  obtain ⟨queue, receiver, main, active⟩ := client
  cases main with
  | dequeuing =>
    cases queue with
    | nil => exact absurd hmessage List.not_mem_nil
    | cons first rest =>
      rw [List.mem_singleton.mp hmessage]
      exact List.mem_cons_self
  | _ => exact absurd hmessage List.not_mem_nil

end Client.ControlQueue

namespace Deployment

variable {κ : Type} {deployment : Deployment κ} {sent : List (Party κ × Outgoing)} {client : κ}

/-! ### The receiver -/

/-- Assumes: the type of the message is one that no handler does anything for. -/
theorem handledAsCommanded_of_idle {message : RMMessage} {type : MessageTypes}
    (htype : MessageTypes.ofCode message.messageType = some type)
    (hidle : ∀ mode effect, ¬ (deployment.client client).MayCause type mode effect) :
    deployment.HandledAsCommanded sent client message := by
  intro other hother effect heffect
  rw [htype] at hother
  obtain rfl := Option.some.inj hother
  exact absurd heffect (hidle _ effect)

/-- The messages of the clients are no commands. -/
theorem not_mayCause_of_mem {type : MessageTypes} (htype : type ∈ [.rmClientSyncRequest,
    .rmClientSyncReceive, .rmClientSyncReconfigureDone, .rmClientRelease])
    (setup : Client.ClientSetup) (mode : UInt32) (effect : Client.ClientEffect) :
    ¬ setup.MayCause type mode effect := by
  simp only [List.mem_cons, List.not_mem_nil, or_false] at htype
  unfold Client.ClientSetup.MayCause
  cases setup.program with
  | wiredRmClientEndnode endnode =>
    cases effect with
    | notify notification =>
      cases notification with
      | generator control =>
        cases control <;> rcases htype with rfl | rfl | rfl | rfl <;>
          simp [Client.Endnode.MayCause, Client.Endnode.MayNotify, Client.endsClient]
      | _ =>
        rcases htype with rfl | rfl | rfl | rfl <;>
          simp [Client.Endnode.MayCause, Client.Endnode.setsMode]
    | _ =>
      rcases htype with rfl | rfl | rfl | rfl <;>
        simp [Client.Endnode.MayCause, Client.Endnode.isReconfiguration, Client.endsClient]
  | wiredRmClientSwitch =>
    cases effect with
    | _ =>
      rcases htype with rfl | rfl | rfl | rfl <;>
        simp [Client.Switch.MayCause, Client.Switch.setsMode, Client.Switch.isReconfiguration,
          Client.endsClient]

/-- A client handles what arrives at its endpoint as it has been commanded to. -/
theorem Origin.handledAsCommanded {message : RMMessage}
    (h : Origin deployment sent (deployment.client client).controlEndpoint message)
    (timeStamp : ℤ) (payload : List UInt8) :
    deployment.HandledAsCommanded sent client
      { message with timeStamp := timeStamp, payload := payload } := by
  cases h with
  | request owner now hrequested =>
    have htype : MessageTypes.rmClientSyncRequest ∈ [.rmClientSyncRequest, .rmClientSyncReceive,
        .rmClientSyncReconfigureDone, MessageTypes.rmClientRelease] := by decide
    exact handledAsCommanded_of_idle rfl (not_mayCause_of_mem htype _)
  | answer type _ hcode htype =>
    refine handledAsCommanded_of_idle ?_ (not_mayCause_of_mem (List.mem_cons_of_mem _ htype) _)
    exact (congrArg MessageTypes.ofCode hcode).trans (MessageTypes.ofCode_code type)
  | call command uninitialised now hjustified htarget hmem =>
    intro type htype effect _
    have hcode : MessageTypes.ofCode command.messageType.code = some type := htype
    rw [MessageTypes.ofCode_code] at hcode
    exact ⟨command, ⟨hjustified, htarget, uninitialised, now, hmem⟩, Option.some.inj hcode, rfl⟩

variable {process : Client.ClientProcess}

theorem ClientGood.receive (h : deployment.ClientGood sent client process)
    {message : RMMessage}
    (horigin : Origin deployment sent (deployment.client client).controlEndpoint message)
    (hsendable : message.Sendable) :
    deployment.ClientGood sent client (process.receive (sendoutControlMessage message)) := by
  unfold Client.ClientProcess.receive
  split_ifs with hreceiving
  · obtain ⟨old, hold⟩ := Option.isSome_iff_exists.mp h.received
    obtain ⟨timeStamp, payload, hreceived⟩ := hsendable.receiveControlMessage_eq old
    simp only [hold, Option.bind_some, hreceived, Client.ControlQueue.step, hreceiving.2]
    refine ⟨h.setup_eq, rfl, ?_, h.effects, h.inactive, h.generator⟩
    exact List.forall_mem_append.mpr ⟨h.queue, List.forall_mem_singleton.mpr
      (horigin.handledAsCommanded timeStamp payload)⟩
  · exact h

/-! ### The main function -/

/-- A client is good after a step, and may put on the network what it puts there. -/
structure ClientKeeps (deployment : Deployment κ) (sent : List (Party κ × Outgoing)) (client : κ)
    (result : Client.ClientProcess × List Client.ClientOutput) : Prop where
  good : deployment.ClientGood
    (sent ++ sentBy (.client client) (result.2.map (deployment.client client).outgoing)) client
    result.1
  allowed : ∀ output ∈ result.2, deployment.Allowed sent (.client client)
    ((deployment.client client).outgoing output)

/-- Assumes: the client is good already relative to what has been sent before the step. -/
theorem ClientGood.keeps {result : Client.ClientProcess × List Client.ClientOutput}
    (h : deployment.ClientGood sent client result.1)
    (hallowed : ∀ output ∈ result.2, deployment.Allowed sent (.client client)
      ((deployment.client client).outgoing output)) :
    ClientKeeps deployment sent client result := ⟨h.append _, hallowed⟩

theorem ClientGood.keeps_nil (h : deployment.ClientGood sent client process) :
    ClientKeeps deployment sent client (process, []) := h.keeps (List.forall_mem_nil _)

/-- A message that a client may send. -/
theorem ClientGood.keeps_message (h : deployment.ClientGood sent client process)
    {message : RMMessage} (hmessage : deployment.ClientMessage sent client message) :
    ClientKeeps deployment sent client (process, [.message message]) :=
  h.keeps (List.forall_mem_singleton.mpr ⟨rfl, message, hmessage, rfl⟩)

/-- Assumes: the step is none of the receiver, and a handler that has returned leaves the flag of
the loop as it is. -/
theorem ClientGood.stepControl (h : deployment.ClientGood sent client process)
    (event : Client.QueueEvent RMMessage) (henqueue : ∀ message, event ≠ .enqueue message)
    (hhandled : ∀ stillActive, event = .handled stillActive →
      stillActive = process.control.active) :
    deployment.ClientGood sent client (process.stepControl event) := by
  obtain ⟨hqueue, hactive, hended⟩ := Client.ControlQueue.step_quiet henqueue hhandled
  refine ⟨h.setup_eq, h.received, fun message hmessage ↦ h.queue message (hqueue hmessage),
    h.effects, fun hinactive ↦ ?_, h.generator⟩
  rcases hinactive with hoff | hmain
  · exact h.inactive (Or.inl (hactive ▸ hoff))
  · exact h.inactive (hended hmain).symm

/-- The next message comes with the effects of its handler. -/
theorem ClientGood.dequeue (h : deployment.ClientGood sent client process)
    (samples : List Timespec) :
    deployment.ClientGood sent client (process.dequeue samples) := by
  have hcontrol := h.stepControl .dequeue nofun nofun
  simp only [Client.ClientProcess.dequeue]
  cases hdequeued : (process.control.step .dequeue).2 with
  | nil => exact h
  | cons message rest =>
    refine ⟨h.setup_eq, h.received, hcontrol.queue, fun effect heffect ↦ ?_, hcontrol.inactive,
      h.generator⟩
    have hmessage : message ∈ process.control.rmClientOutQueue :=
      Client.ControlQueue.mem_of_dequeue (hdequeued ▸ List.mem_cons_self)
    obtain ⟨type, htype, hcause⟩ := Client.ClientSetup.mayCause_of_mem heffect
    rw [h.setup_eq] at hcause
    obtain ⟨command, hcommand, rfl, hmode⟩ := h.queue message hmessage type htype effect hcause
    exact ⟨command, hcommand, hmode ▸ hcause⟩

/-! ### The sending thread -/

variable {endnode : Client.EndnodeProgram} {sender : Sender}

/-- A notification that a call may cause. -/
theorem GeneratorGood.notify (h : deployment.GeneratorGood sent client endnode sender)
    {notification : Notification} {command : ServiceCommand}
    (hcommand : deployment.Commanded sent client command)
    (hcause : Client.Endnode.MayCause command.messageType command.arrivingMode
      (.notify notification)) :
    deployment.GeneratorGood sent client endnode
      { sender with generator := sender.generator.notify notification } := by
  cases notification with
  | generator control =>
    refine ⟨h.serviceSettingsStruct_eq, h.modeGlobal, fun hopen ↦ ?_, h.pastGate,
      h.currentSettings, h.clientId_eq, h.headedBy.of_quiet rfl rfl rfl id⟩
    obtain rfl : control = .threadTransmission := hopen
    rcases h.modeGlobal with hzero | hmode
    · show deployment.MayUse sent client endnode sender.generator.modeGlobal
      rw [hzero]
      exact .resumed command hcommand hcause
    · exact hmode
  | modeChange control mode =>
    have hmode : deployment.MayUse sent client endnode mode :=
      hcause.2 ▸ .commanded command hcommand hcause.1
    exact ⟨h.serviceSettingsStruct_eq, Or.inr hmode, fun _ ↦ hmode, fun _ ↦ hmode,
      h.currentSettings, h.clientId_eq, h.headedBy.of_quiet rfl rfl rfl id⟩
  | timestamp control time mode updatePeriod =>
    have hmode : deployment.MayUse sent client endnode mode :=
      hcause.2 ▸ .commanded command hcommand hcause.1
    exact ⟨h.serviceSettingsStruct_eq, Or.inr hmode, fun _ ↦ hmode, fun _ ↦ hmode,
      h.currentSettings, h.clientId_eq, h.headedBy.of_quiet rfl rfl rfl id⟩

/-- Assumes: the settings are those of the end node's program. Those in force are of a mode that it
may send in. -/
theorem GeneratorGood.maySend (h : deployment.GeneratorGood sent client endnode sender)
    (hprogram : (deployment.client client).program = .wiredRmClientEndnode endnode) :
    ∀ settings ∈ sender.currentSettings, deployment.MaySend sent client settings := by
  intro settings hsettings
  obtain ⟨mode, hmode, hconfigured⟩ := h.currentSettings settings hsettings
  exact ⟨endnode, mode, hprogram, hmode, hconfigured⟩

/-- A step of the sending thread takes settings that it may send with, and sends with them. -/
theorem GeneratorGood.run (h : deployment.GeneratorGood sent client endnode sender)
    (hprogram : (deployment.client client).program = .wiredRmClientEndnode endnode)
    (kind : SenderKind) (clock : Timespec) :
    deployment.GeneratorGood sent client endnode (sender.run kind clock).1 ∧
      ∀ packet, .packet packet ∈ (sender.run kind clock).2 →
        deployment.MaySendPacket sent client packet := by
  obtain ⟨-, hmode, hcontrol, hstruct⟩ := Sender.run_frame kind sender clock
  have hadopting := Sender.adopting_run kind sender clock
  have hmaySend := h.maySend hprogram
  obtain ⟨hheaded, hpackets⟩ := h.headedBy.run hmaySend kind clock
  refine ⟨⟨hstruct.trans h.serviceSettingsStruct_eq, ?_, fun hopen ↦ ?_, fun hpast ↦ ?_,
    fun settings hsettings ↦ ?_, ?_, hheaded⟩, fun packet hmem ↦ ⟨?_, ?_⟩⟩
  · rw [hmode]
    exact h.modeGlobal
  · rw [hmode]
    exact h.opened (hcontrol ▸ hopen)
  · rw [hmode]
    exact (hadopting.pastGate hpast).elim h.pastGate h.opened
  · rcases hadopting.adopted settings hsettings with hbefore | ⟨hpast, hadopted⟩
    · exact h.currentSettings settings hbefore
    · exact ⟨_, h.pastGate hpast, h.serviceSettingsStruct_eq ▸ hadopted⟩
  · rw [Sender.clientId_run]
    exact h.clientId_eq
  · exact hmaySend packet.settings (hadopting.packet packet hmem)
  · rw [← h.clientId_eq]
    exact hpackets packet hmem

theorem ClientGood.send (h : deployment.ClientGood sent client process) (clock : Timespec) :
    ClientKeeps deployment sent client (process.send clock) := by
  unfold Client.ClientProcess.send
  cases hsender : process.trafficGenerator with
  | none => exact h.keeps_nil
  | some sender =>
    obtain ⟨endnode, hprogram, hgood⟩ := h.generator sender hsender
    obtain ⟨hnext, hpackets⟩ := hgood.run hprogram process.setup.threadTypeSelect clock
    have hgenerator : ∀ next ∈ some (sender.run process.setup.threadTypeSelect clock).1,
        ∃ endnode, (deployment.client client).program = .wiredRmClientEndnode endnode ∧
          deployment.GeneratorGood sent client endnode next := by
      intro next hmem
      obtain rfl := Option.some.inj hmem
      exact ⟨endnode, hprogram, hnext⟩
    refine ClientGood.keeps ⟨h.setup_eq, h.received, h.queue, h.effects, h.inactive, hgenerator⟩
      fun output houtput ↦ ?_
    obtain ⟨senderOutput, hmem, hpacket⟩ := List.mem_filterMap.mp houtput
    cases senderOutput with
    | packet packet =>
      obtain rfl := Option.some.inj hpacket
      exact hpackets packet hmem
    | _ => exact absurd hpacket nofun

/-! ### A step -/

/-- The notification of the generator. A switch has none, and makes no notifications. -/
theorem ClientGood.notify (h : deployment.ClientGood sent client process)
    {notification : Notification} {command : ServiceCommand}
    (hcommand : deployment.Commanded sent client command)
    (hcause : (deployment.client client).MayCause command.messageType command.arrivingMode
      (.notify notification)) :
    ∀ next ∈ process.trafficGenerator.map fun sender ↦
        (sender.step process.setup.threadTypeSelect (.notify notification)).1,
      ∃ endnode, (deployment.client client).program = .wiredRmClientEndnode endnode ∧
        deployment.GeneratorGood sent client endnode next := by
  intro next hnext
  obtain ⟨sender, hsender, rfl⟩ := Option.map_eq_some_iff.mp hnext
  obtain ⟨endnode, hprogram, hgood⟩ := h.generator sender hsender
  simp only [Client.ClientSetup.MayCause, hprogram] at hcause
  exact ⟨endnode, hprogram, hgood.notify hcommand hcause⟩

/-- The script of a switch. An end node runs none. -/
theorem mayRun_of_mayCause {command : ServiceCommand}
    (hcommand : deployment.Commanded sent client command) {mode mcNumber : UInt32}
    {experimentNumber : UInt8} {script : String}
    (hcause : (deployment.client client).MayCause command.messageType command.arrivingMode
      (.reconfigureSwToMode mode experimentNumber mcNumber (some script))) :
    deployment.MayRun sent client script := by
  unfold Client.ClientSetup.MayCause at hcause
  cases hprogram : (deployment.client client).program with
  | wiredRmClientEndnode endnode =>
    rw [hprogram] at hcause
    exact absurd hcause id
  | wiredRmClientSwitch =>
    rw [hprogram] at hcause
    exact ⟨hprogram, command, hcommand, hcause.1, hcause.2.symm⟩

/-- One effect of a handler. -/
theorem ClientGood.performEffect (h : deployment.ClientGood sent client process)
    {effect : Client.ClientEffect} {command : ServiceCommand}
    (hcommand : deployment.Commanded sent client command)
    (hcause : (deployment.client client).MayCause command.messageType command.arrivingMode effect)
    (now : ℤ) : ClientKeeps deployment sent client (process.performEffect now effect) := by
  cases effect with
  | syncAckReceive =>
    refine h.keeps_message ?_
    rw [h.setup_eq]
    exact .acknowledgement now command hcommand hcause
  | syncAckReconfigureDone =>
    refine h.keeps_message ?_
    rw [h.setup_eq]
    exact .reconfigureDone now command hcommand hcause
  | notify notification =>
    refine ClientGood.keeps_nil ?_
    exact ⟨h.setup_eq, h.received, h.queue, h.effects, h.inactive, h.notify hcommand hcause⟩
  | reconfigureSwToMode mode experimentNumber mcNumber shellCommand =>
    refine h.keeps fun output houtput ↦ ?_
    obtain ⟨script, hscript, rfl⟩ := List.mem_map.mp houtput
    rw [Option.mem_toList.mp hscript] at hcause
    exact mayRun_of_mayCause hcommand hcause
  | deactivate =>
    refine ClientGood.keeps_nil ?_
    refine ⟨h.setup_eq, h.received, h.queue, h.effects, fun _ ↦ .called command hcommand ?_,
      h.generator⟩
    unfold Client.ClientSetup.MayCause at hcause
    cases hprogram : (deployment.client client).program with
    | wiredRmClientEndnode endnode =>
      rw [hprogram] at hcause
      exact hcause
    | wiredRmClientSwitch =>
      rw [hprogram] at hcause
      exact hcause

theorem ClientGood.perform (h : deployment.ClientGood sent client process) (now : ℤ) :
    ClientKeeps deployment sent client (process.perform now) := by
  unfold Client.ClientProcess.perform
  cases heffects : process.effects with
  | nil => exact h.keeps_nil
  | cons effect rest =>
    have hall := h.effects
    rw [heffects] at hall
    obtain ⟨⟨command, hcommand, hcause⟩, hrest⟩ := List.forall_mem_cons.mp hall
    have hshorter : deployment.ClientGood sent client { process with effects := rest } :=
      ⟨h.setup_eq, h.received, h.queue, hrest, h.inactive, h.generator⟩
    exact hshorter.performEffect hcommand hcause now

/-- The end of the main function. -/
theorem ClientGood.leave (h : deployment.ClientGood sent client process)
    (hended : process.control.main = .ended) (now : ℤ) :
    ClientKeeps deployment sent client (process.leave now) := by
  refine ClientGood.keeps ⟨h.setup_eq, h.received, h.queue, h.effects, h.inactive, h.generator⟩ ?_
  simp only [Client.ClientProcess.leave, h.setup_eq]
  cases hprogram : (deployment.client client).program with
  | wiredRmClientEndnode endnode =>
    exact List.forall_mem_singleton.mpr
      ⟨rfl, _, .release now (h.inactive (Or.inr hended)) endnode hprogram, rfl⟩
  | wiredRmClientSwitch => exact List.forall_mem_nil _

/-- A signal, which is recorded with what has been sent. -/
theorem ClientGood.interrupt (h : deployment.ClientGood sent client process) :
    ClientKeeps deployment sent client process.interrupt := by
  unfold Client.ClientProcess.interrupt
  have hsignal : ClientKeeps deployment sent client
      ({ process with control := { process.control with active := false } }, [.interruption]) := by
    have happend := h.append (sentBy (.client client) [.interruption])
    refine ⟨⟨happend.setup_eq, happend.received, happend.queue, happend.effects, fun _ ↦ ?_,
      happend.generator⟩, List.forall_mem_singleton.mpr trivial⟩
    exact .interrupted (List.mem_append_right sent List.mem_cons_self)
  cases process.control.main with
  | starting => exact hsignal
  | waiting => exact hsignal
  | checking => exact hsignal
  | _ => exact h.keeps_nil

/-- A step of a client. -/
theorem ClientGood.step (h : deployment.ClientGood sent client process)
    (event : Client.ThreadEvent) :
    ClientKeeps deployment sent client (process.step event) := by
  unfold Client.ClientProcess.step
  by_cases halive : process.isAlive = true
  · rw [if_pos halive]
    split
    · exact (h.stepControl .notify nofun nofun).keeps_nil
    · exact h.send _
    · exact h.interrupt
    · refine ClientGood.keeps_message ?_ ?_
      · exact ⟨h.setup_eq, h.received, h.queue, h.effects, h.inactive, h.generator⟩
      · rw [h.setup_eq]
        exact .request _
    · exact (h.stepControl .beginWait nofun nofun).keeps_nil
    · exact (h.stepControl .spuriousWake nofun nofun).keeps_nil
    · exact (h.stepControl (.check _) nofun nofun).keeps_nil
    · exact (h.dequeue _).keeps_nil
    · exact h.perform _
    · split_ifs
      · refine (h.stepControl (.handled _) nofun fun stillActive heq ↦ ?_).keeps_nil
        exact (Client.QueueEvent.handled.inj heq).symm
      · exact h.keeps_nil
    · split_ifs with hended
      · exact h.leave hended _
      · exact h.keeps_nil
    · exact h.keeps_nil
  · rw [if_neg halive]
    exact h.keeps_nil

end Deployment

end Tanos
