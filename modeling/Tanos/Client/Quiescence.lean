import Tanos.Client.Session
import Tanos.Rm.SingleClient
import Tanos.Sender.SendingGate

/-!
# The end of a session

An exit command stops the traffic generator before it clears the flag of the control loop
(`closesStopped_handleControlMessage`). When such a command has cleared the flag, the control value
of the generator therefore is `THREAD_STOP`, and nothing notifies the generator any more, so that an
end node sends at most the packet for which its sending thread has passed the gate already
(`packets_of_inactive`). A signal clears the flag without stopping the generator.
-/

set_option autoImplicit false
set_option relaxedAutoImplicit false

namespace Tanos

open Library Library.Polling

namespace Client

/-- When the effects clear the flag of the loop, the generator has been stopped by then and there
are no further effects. -/
def ClosesStopped (control : TrafficSourceControl) : List ClientEffect → Prop
  | [] => True
  | .deactivate :: rest => control = .threadStop ∧ rest = []
  | .notify notification :: rest => ClosesStopped notification.control rest
  | .syncAckReceive :: rest | .syncAckReconfigureDone :: rest
  | .reconfigureSwToMode _ _ _ _ :: rest => ClosesStopped control rest

theorem closesStopped_of_not_mem {effects : List ClientEffect} (h : .deactivate ∉ effects)
    (control : TrafficSourceControl) : ClosesStopped control effects := by
  induction effects generalizing control with
  | nil => trivial
  | cons effect rest ih =>
    obtain ⟨heffect, hrest⟩ := not_or.mp (List.mem_cons.not.mp h)
    cases effect with
    | deactivate => exact absurd rfl heffect
    | _ => exact ih hrest _

/-- A timed action is caused as a whole or not at all. -/
theorem effects_timedLoop_eq_or (target : Timespec) (action : List ClientEffect)
    (samples : List Timespec) : (timedLoop target action samples).effects = [] ∨
      (timedLoop target action samples).effects = action := by
  induction samples with
  | nil => exact Or.inl rfl
  | cons now rest ih =>
    unfold timedLoop
    cases check target now with
    | due => exact Or.inr rfl
    | waiting => exact ih
    | invalid => exact Or.inl rfl

/-- The handlers of an end node stop the generator first. -/
theorem Endnode.closesStopped_handleControlMessage (message : RMMessage)
    (samples : List Timespec) (control : TrafficSourceControl) :
    ClosesStopped control (handleControlMessage message samples).effects := by
  by_cases hmem : .deactivate ∈ (handleControlMessage message samples).effects
  · obtain ⟨type, htype, hends⟩ := mayCause_of_mem hmem
    have hexit : type = .rmClientExit ∨ type = .rmClientSyncTimestampExit := by
      cases type <;> first | exact Or.inl rfl | exact Or.inr rfl | exact absurd hends nofun
    simp only [handleControlMessage, htype]
    rcases hexit with rfl | rfl
    · exact ⟨rfl, rfl⟩
    · rcases effects_timedLoop_eq_or (RMPayload.received message.payloadNet.reset).timestampStop
        [.notify (.generator .threadStop), .deactivate] samples with hnone | hexit
      · simp only [handleSyncExitMessage, Outcome.effects_prepend, hnone]
        trivial
      · simp only [handleSyncExitMessage, Outcome.effects_prepend, hexit]
        exact ⟨rfl, rfl⟩
  · exact closesStopped_of_not_mem hmem control

/-- A packet leaves the process. -/
def Observation.isPacket : Observation → Bool
  | .output (.packet _) => true
  | _ => false

/-- The generator of an end node on the way to the end of the session. -/
structure Stopping (endnode : EndnodeProgram) (process : ClientProcess) (sender : Sender) :
    Prop where
  program_eq : process.setup.program = .wiredRmClientEndnode endnode
  generator_eq : process.trafficGenerator = some sender
  closes : ClosesStopped sender.generator.trafficGeneratorControl process.effects

/-- A handler has ended the session. -/
structure Stopped (process : ClientProcess) (sender : Sender) : Prop where
  inactive : process.control.active = false
  effects_eq : process.effects = []
  trafficGeneratorControl_eq : sender.generator.trafficGeneratorControl = .threadStop

/-- A step keeps the generator on its way. Behind the session it pays for the packets it sends. The
flag of the loop goes down with the generator stopped, or by a signal. -/
structure Continues (endnode : EndnodeProgram) (process : ClientProcess) (sender : Sender)
    (result : ClientProcess × List Observation) (next : Sender) : Prop where
  stopping : Stopping endnode result.1 next
  stopped : Stopped process sender → Stopped result.1 next
  paid : Stopped process sender →
    result.2.countP Observation.isPacket + next.budget ≤ sender.budget
  inactive : result.1.control.active = false →
    process.control.active = false ∨ Stopped result.1 next ∨ Interrupted result.2

variable {endnode : EndnodeProgram} {process : ClientProcess} {sender : Sender}

/-- No packet is sent. Assumes: the flag and the effects stay as they are. -/
theorem Stopping.continues {next : ClientProcess} {observed : List Observation}
    (h : Stopping endnode next sender) (hactive : next.control.active = process.control.active)
    (heffects : next.effects = process.effects)
    (hnone : observed.countP Observation.isPacket = 0) :
    Continues endnode process sender (next, observed) sender :=
  ⟨h, fun hstopped ↦ ⟨hactive.trans hstopped.inactive, heffects.trans hstopped.effects_eq,
      hstopped.trafficGeneratorControl_eq⟩,
    fun _ ↦ by rw [hnone, Nat.zero_add], fun hinactive ↦ Or.inl (hactive.symm.trans hinactive)⟩

theorem Stopping.continues_nil (h : Stopping endnode process sender) :
    Continues endnode process sender (process, []) sender := h.continues rfl rfl rfl

/-- A step of the threads on the queue that takes nothing out of it. -/
theorem Stopping.of_passes (h : Stopping endnode process sender)
    {control : ControlQueue RMMessage} (hpasses : ControlQueue.Passes process.control control) :
    Continues endnode process sender ({ process with control := control }, []) sender :=
  Stopping.continues ⟨h.program_eq, h.generator_eq, h.closes⟩ hpasses.active_eq rfl rfl

theorem Stopping.receive (h : Stopping endnode process sender) (bytes : List UInt8) :
    Continues endnode process sender (process.observe (.datagram bytes)) sender := by
  simp only [ClientProcess.observe, ClientProcess.receive]
  by_cases hreceiving : process.isAlive ∧ process.control.receiver = .receiving
  · rw [if_pos hreceiving, if_pos hreceiving]
    cases process.rmMessage.bind
        fun message ↦ RMCommunication.receiveControlMessage message bytes with
    | none => exact Stopping.continues ⟨h.program_eq, h.generator_eq, h.closes⟩ rfl rfl rfl
    | some message =>
      simp only [ControlQueue.step, hreceiving.2]
      exact Stopping.continues ⟨h.program_eq, h.generator_eq, h.closes⟩ rfl rfl rfl
  · rw [if_neg hreceiving, if_neg hreceiving]
    exact h.continues_nil

/-- The packets that leave the process are those of the sending thread. -/
theorem countP_sentPacket (outputs : List SenderOutput) :
    ((outputs.filterMap ClientProcess.sentPacket).map Observation.output).countP
      Observation.isPacket = outputs.countP SenderOutput.isPacket := by
  induction outputs with
  | nil => rfl
  | cons output rest ih =>
    cases output with
    | packet packet =>
      show (Observation.output (.packet packet) :: (rest.filterMap ClientProcess.sentPacket).map
        Observation.output).countP Observation.isPacket = _
      rw [List.countP_cons_of_pos rfl, List.countP_cons_of_pos rfl, ih]
    | _ => exact ih

/-- The sending thread pays for its packets behind the gate. -/
theorem Stopping.send (h : Stopping endnode process sender) (clock : Timespec) :
    ∃ next, Continues endnode process sender
      ((process.send clock).1, (process.send clock).2.map .output) next := by
  have hsender := h.generator_eq
  simp only [ClientProcess.send, hsender]
  obtain ⟨-, -, hcontrol, -⟩ := sender.run_frame process.setup.threadTypeSelect clock
  refine ⟨(sender.run process.setup.threadTypeSelect clock).1, ⟨h.program_eq, rfl, ?_⟩,
    fun hstopped ↦ ⟨hstopped.inactive, hstopped.effects_eq, ?_⟩, fun hstopped ↦ ?_, Or.inl⟩
  · rw [hcontrol]
    exact h.closes
  · exact hcontrol.trans hstopped.trafficGeneratorControl_eq
  · have hblocks : sender.generator.trafficGeneratorControl.Blocks := by
      rw [hstopped.trafficGeneratorControl_eq]
      decide
    show ((sender.run process.setup.threadTypeSelect clock).2.filterMap
      ClientProcess.sentPacket |>.map Observation.output).countP Observation.isPacket + _ ≤ _
    rw [countP_sentPacket]
    exact Sender.budget_step (.run clock) hblocks

/-- A message is handed to its handler, in the session only. -/
theorem Stopping.dequeue (h : Stopping endnode process sender)
    (hdequeuing : process.control.main = .dequeuing → process.control.active = true)
    (samples : List Timespec) :
    Continues endnode process sender (process.observe (.thread (.dequeue samples))) sender := by
  simp only [ClientProcess.observe, ClientProcess.step]
  by_cases halive : process.isAlive = true
  · cases hphase : process.phase with
    | controlling =>
      simp only [halive, if_true, and_self, ClientProcess.dequeue]
      rcases process.control.step_dequeue with hnone | ⟨message, rest, hmain, hqueue, hstep⟩
      · rw [hnone]
        exact h.continues_nil
      · rw [hstep]
        have hclosed : ¬ Stopped process sender := by
          intro hstopped
          exact absurd ((hdequeuing hmain).symm.trans hstopped.inactive) (by decide)
        refine ⟨⟨h.program_eq, h.generator_eq, ?_⟩, fun hstopped ↦ absurd hstopped hclosed,
          fun hstopped ↦ absurd hstopped hclosed, Or.inl⟩
        simp only [ClientSetup.handleControlMessage, h.program_eq]
        exact Endnode.closesStopped_handleControlMessage message samples _
    | _ =>
      simp only [halive, if_true, reduceCtorEq, and_false, if_false]
      exact h.continues_nil
  · rw [if_neg halive, if_neg fun hboth ↦ halive hboth.1]
    exact h.continues_nil

/-- An effect of a handler. -/
theorem Stopping.perform (h : Stopping endnode process sender) {effect : ClientEffect}
    {rest : List ClientEffect} (heffects : process.effects = effect :: rest) (now : ℤ) :
    ∃ next, Continues endnode process sender
      ((({ process with effects := rest } : ClientProcess).performEffect now effect).1,
        (({ process with effects := rest } : ClientProcess).performEffect now effect).2.map
          .output) next := by
  have hcloses := h.closes
  have hrunning : ∀ {claim : Prop}, Stopped process sender → claim := by
    intro claim hstopped
    rw [hstopped.effects_eq] at heffects
    exact absurd heffects nofun
  rw [heffects] at hcloses
  cases effect with
  | notify notification =>
    refine ⟨{ sender with generator := sender.generator.notify notification },
      ⟨h.program_eq, ?_, ?_⟩, hrunning, hrunning, Or.inl⟩
    · show process.trafficGenerator.map _ = some _
      rw [h.generator_eq]
      rfl
    · rw [TrafficGenerator.trafficGeneratorControl_notify]
      exact hcloses
  | deactivate =>
    obtain ⟨hcontrol, rfl⟩ := hcloses
    exact ⟨sender, ⟨h.program_eq, h.generator_eq, trivial⟩, hrunning, hrunning,
      fun _ ↦ Or.inr (Or.inl ⟨rfl, rfl, hcontrol⟩)⟩
  | _ =>
    exact ⟨sender, ⟨h.program_eq, h.generator_eq, hcloses⟩, hrunning, hrunning, Or.inl⟩

/-- A signal leaves the generator as it is. -/
theorem Stopping.interrupt (h : Stopping endnode process sender) :
    Continues endnode process sender
      (process.interrupt.1, process.interrupt.2.map .output) sender := by
  unfold ClientProcess.interrupt
  have hsignal : Continues endnode process sender
      ({ process with control := { process.control with active := false } },
        [.output .interruption]) sender :=
    ⟨⟨h.program_eq, h.generator_eq, h.closes⟩,
      fun hstopped ↦ ⟨rfl, hstopped.effects_eq, hstopped.trafficGeneratorControl_eq⟩,
      fun _ ↦ le_of_eq (Nat.zero_add _), fun _ ↦ Or.inr (Or.inr List.mem_cons_self)⟩
  cases process.control.main with
  | starting => exact hsignal
  | waiting => exact hsignal
  | checking => exact hsignal
  | _ => exact h.continues_nil

/-- A step that hands no message to a handler. -/
theorem Stopping.thread (h : Stopping endnode process sender) (event : ThreadEvent)
    (hdequeue : ∀ samples, event ≠ .dequeue samples) :
    ∃ next, Continues endnode process sender
      ((process.step event).1, (process.step event).2.map .output) next := by
  unfold ClientProcess.step
  by_cases halive : process.isAlive = true
  · rw [if_pos halive]
    split
    · exact ⟨sender, h.of_passes process.control.passes_notify.1⟩
    · exact h.send _
    · exact ⟨sender, h.interrupt⟩
    · exact ⟨sender, Stopping.continues ⟨h.program_eq, h.generator_eq, h.closes⟩ rfl rfl rfl⟩
    · exact ⟨sender, h.of_passes process.control.passes_beginWait.1⟩
    · exact ⟨sender, h.of_passes process.control.passes_spuriousWake.1⟩
    · exact ⟨sender, h.of_passes (process.control.passes_check _).1⟩
    · exact absurd rfl (hdequeue _)
    · unfold ClientProcess.perform
      cases heffects : process.effects with
      | nil => exact ⟨sender, h.continues_nil⟩
      | cons effect rest => exact h.perform heffects _
    · split_ifs
      · exact ⟨sender, h.of_passes process.control.passes_handled⟩
      · exact ⟨sender, h.continues_nil⟩
    · split_ifs
      · refine ⟨sender, Stopping.continues ⟨h.program_eq, h.generator_eq, h.closes⟩ rfl rfl ?_⟩
        simp only [ClientProcess.leave, h.program_eq]
        rfl
      · exact ⟨sender, h.continues_nil⟩
    · exact ⟨sender, h.continues_nil⟩
  · rw [if_neg halive]
    exact ⟨sender, h.continues_nil⟩

theorem Stopping.step (h : Stopping endnode process sender)
    (hdequeuing : process.control.main = .dequeuing → process.control.active = true)
    (event : SessionEvent) :
    ∃ next, Continues endnode process sender (process.observe event) next := by
  cases event with
  | datagram bytes => exact ⟨sender, h.receive bytes⟩
  | thread event =>
    cases event with
    | dequeue samples => exact ⟨sender, h.dequeue hdequeuing samples⟩
    | _ => exact h.thread _ nofun

/-! ### Runs -/

/-- What holds of an end node and the trace of its run. When the flag of its loop is down, a handler
has ended the session or a signal has come. -/
structure InSession (setup : ClientSetup) (endnode : EndnodeProgram) (process : ClientProcess)
    (trace : List Observation) : Prop where
  session : Session setup process trace
  stopping : ∃ sender, Stopping endnode process sender ∧
    (process.control.active = false → Stopped process sender ∨ Interrupted trace)

theorem InSession.step {setup : ClientSetup} {trace : List Observation}
    (h : InSession setup endnode process trace) (event : SessionEvent) :
    InSession setup endnode (process.observe event).1 (trace ++ (process.observe event).2) := by
  obtain ⟨sender, hstopping, hinactive⟩ := h.stopping
  obtain ⟨next, hnext⟩ := hstopping.step h.session.dequeuing event
  refine ⟨h.session.step event, next, hnext.stopping, fun hdown ↦ ?_⟩
  rcases hnext.inactive hdown with hbefore | hstopped | hsignal
  · rcases hinactive hbefore with hstopped | hsignal
    · exact Or.inl (hnext.stopped hstopped)
    · exact Or.inr (List.mem_append_left _ hsignal)
  · exact Or.inl hstopped
  · exact Or.inr (List.mem_append_right _ hsignal)

/-- What holds of an end node behind a session that a handler has ended. -/
def BehindSession (setup : ClientSetup) (endnode : EndnodeProgram) (process : ClientProcess) :
    Prop :=
  (∃ trace, Session setup process trace) ∧
    ∃ sender, Stopping endnode process sender ∧ Stopped process sender

/-- The packets that an end node may still send behind its session. -/
def packetBudget (process : ClientProcess) : ℕ := process.trafficGenerator.elim 0 Sender.budget

/-- An end node whose session has ended pays for its packets. -/
theorem BehindSession.step {setup : ClientSetup} (h : BehindSession setup endnode process)
    (event : SessionEvent) :
    BehindSession setup endnode (process.observe event).1 ∧
      (process.observe event).2.countP Observation.isPacket +
          packetBudget (process.observe event).1 ≤
        packetBudget process := by
  obtain ⟨⟨trace, hsession⟩, sender, hstopping, hstopped⟩ := h
  obtain ⟨next, hnext⟩ := hstopping.step hsession.dequeuing event
  refine ⟨⟨⟨_, hsession.step event⟩, next, hnext.stopping, hnext.stopped hstopped⟩, ?_⟩
  rw [packetBudget, packetBudget, hstopping.generator_eq, hnext.stopping.generator_eq]
  exact hnext.paid hstopped

theorem inSession_start {setup : ClientSetup}
    (hprogram : setup.program = .wiredRmClientEndnode endnode) :
    InSession setup endnode (ClientProcess.start setup) [] := by
  refine ⟨session_start setup, endnode.trafficGenerator setup.clientConfiguration.clientId,
    ⟨hprogram, ?_, trivial⟩, nofun⟩
  simp only [ClientProcess.start, hprogram]

/-- What holds of an end node after any run. -/
theorem inSession_run {setup : ClientSetup}
    (hprogram : setup.program = .wiredRmClientEndnode endnode) (events : List SessionEvent) :
    InSession setup endnode
      (Runs.finalState ClientProcess.observe (ClientProcess.start setup) events)
      (Runs.outputs ClientProcess.observe (ClientProcess.start setup) events) :=
  Runs.finalState_outputs_of_everyStep (InSession setup endnode)
    (fun _ _ event _ h ↦ h.step event)
    ((Runs.everyStep_iff_forall_mem _ events).mpr fun _ _ ↦ trivial) (inSession_start hprogram)

/-- The sending thread of an end node has passed the gate in front of a packet. -/
def PastPacketGate (process : ClientProcess) : Prop :=
  ∃ sender ∈ process.trafficGenerator, sender.phase = .sending

/-- Whatever an end node receives and however its threads run, once a handler has cleared the flag
of its control loop it sends one packet at most, and none unless its sending thread has passed the
gate in front of this packet by then. -/
theorem packets_of_inactive {setup : ClientSetup}
    (hprogram : setup.program = .wiredRmClientEndnode endnode) (past later : List SessionEvent)
    (hsignal : ¬ Interrupted (Runs.outputs ClientProcess.observe (ClientProcess.start setup) past))
    (hinactive : (Runs.finalState ClientProcess.observe (ClientProcess.start setup)
      past).control.active = false) :
    let ended := Runs.finalState ClientProcess.observe (ClientProcess.start setup) past
    let packets := (Runs.outputs ClientProcess.observe ended later).countP Observation.isPacket
    packets ≤ 1 ∧ (packets ≠ 0 → PastPacketGate ended) := by
  intro ended packets
  obtain ⟨hsession, sender, hstopping, hended⟩ := inSession_run hprogram past
  have hbehind : BehindSession setup endnode ended :=
    ⟨⟨_, hsession⟩, sender, hstopping, (hended hinactive).resolve_right hsignal⟩
  have hkeep : ∀ current : ClientProcess, ∀ event ∈ later, BehindSession setup endnode current →
      BehindSession setup endnode (current.observe event).1 :=
    fun current event _ h ↦ (h.step event).1
  have hbudget : packets ≤ packetBudget ended :=
    Runs.countP_outputs_le_of_potential (fun current event h ↦ (h.step event).2)
      (Runs.always_of_step hkeep hbehind)
  rw [packetBudget, hstopping.generator_eq] at hbudget
  refine ⟨hbudget.trans Sender.budget_le_one, fun hsome ↦ ⟨sender, hstopping.generator_eq, ?_⟩⟩
  by_contra hphase
  exact hsome (Nat.le_zero.mp (hbudget.trans_eq (if_neg hphase)))

end Client

/-! ### A single end node -/

/-- The end node with id 1. -/
def singleUnitConfiguration : UnitConfiguration :=
  ⟨⟨1, ["192.168.0.1"], 4000⟩, "endnode", ["192.168.0.99"], 4001, ["10.0.0.1"], [5000], 3⟩

/-- Its service has one mode. -/
def singleProgram : Client.EndnodeProgram where
  serviceId := 1
  serviceConfiguration := (∅ : StdMap UInt32 ServiceSettings).insert 0 Sender.twoPackets
  resourceRequest := ⟨1, 1, 0, 0, 100, [], false⟩
  requestObject := RequestObject.ofStart 0
  uninitialisedControl := .threadStart
  uninitialisedTimestamp := ⟨0, 0⟩

/-- It asks for service 1. -/
def singleSetup : Client.ClientSetup where
  clientConfiguration := singleUnitConfiguration
  controlEndpoint := ⟨"192.168.0.1", 4000⟩
  centralRmAddress := ⟨"192.168.0.99", 4001⟩
  rmAbstraction_eq := rfl
  experimentParameter := NetLayerRM.singleParameter 1000 100 100 100
  program := .wiredRmClientEndnode singleProgram

namespace Client

/-- A call without a timestamp for the single end node. -/
def singleCall (type : MessageTypes) (mode : UInt8) : SessionEvent :=
  .datagram (RMCommunication.sendoutControlMessage ⟨type.code, 0, 0, 1, 1, mode, 0, 0, 0, []⟩)

/-- The end node handles a call, with the effects of its handler. -/
def singleHandling (effects : ℕ) : List SessionEvent :=
  [.thread .notify, .thread (.check false), .thread (.dequeue [⟨0, 0⟩])] ++
    List.replicate effects (.thread (.perform 0)) ++ [.thread .handled]

/-- The end node is started, comes to its first packet and gets an exit. -/
def singleExit : List SessionEvent :=
  [.thread (.request 0), .thread .beginWait, singleCall .rmClientStart 0] ++ singleHandling 1 ++
    List.replicate 9 (.thread (.send ⟨0, 0⟩)) ++ singleCall .rmClientExit 10 :: singleHandling 3

/-- The packet that has passed the gate is sent behind the session. -/
theorem packets_of_inactive_singleExit :
    (Runs.outputs ClientProcess.observe
      (Runs.finalState ClientProcess.observe (ClientProcess.start singleSetup) singleExit)
      (List.replicate 5 (.thread (.send ⟨0, 0⟩)))).countP Observation.isPacket = 1 ∧
    PastPacketGate
      (Runs.finalState ClientProcess.observe (ClientProcess.start singleSetup) singleExit) := by
  have hsignal : ¬ Interrupted
      (Runs.outputs ClientProcess.observe (ClientProcess.start singleSetup) singleExit) := by
    unfold Interrupted
    decide +kernel
  have hinactive : (Runs.finalState ClientProcess.observe (ClientProcess.start singleSetup)
      singleExit).control.active = false := by decide +kernel
  have hone : (Runs.outputs ClientProcess.observe
      (Runs.finalState ClientProcess.observe (ClientProcess.start singleSetup) singleExit)
      (List.replicate 5 (.thread (.send ⟨0, 0⟩)))).countP Observation.isPacket = 1 := by
    decide +kernel
  obtain ⟨-, hgate⟩ := packets_of_inactive rfl singleExit
    (List.replicate 5 (.thread (.send ⟨0, 0⟩))) hsignal hinactive
  exact ⟨hone, hgate (hone ▸ one_ne_zero)⟩

end Client

end Tanos
