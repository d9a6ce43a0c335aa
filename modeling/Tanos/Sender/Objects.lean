import Tanos.Sender.SendObjects

/-!
# The objects a sending thread sends

`History` collects the outputs of a sending function into objects: the packets between the start of
an object and the end of its inner loop, with the settings that were in force at its start.

Whatever is notified while an object is on its way, the header of its packets is the one built at
its start, and the packets are numbered one after the other (`SentObject.Numbered`). `Consistent`
relates the history to the state of the sender, and `consistent_run` is its step lemma. Where the
sender is, only matters up to the `SenderPhase.stage` of the object it works on.
-/

set_option autoImplicit false
set_option relaxedAutoImplicit false

namespace Tanos

open Library.Runs

/-- An object: the settings in force at its start, its packets, and whether `stop_thread` has ended
it. -/
structure SentObject where
  settings : ServiceSettings
  packets : List SentPacket
  stopped : Bool
deriving DecidableEq, Repr

/-- The objects whose inner loop has ended, the last one that has been started, and all packets. -/
structure History where
  ended : List SentObject
  current : SentObject
  packets : List SentPacket
deriving DecidableEq, Repr

namespace History

/-- Nothing has been sent. -/
def empty : History := ⟨[], ⟨default, [], false⟩, []⟩

/-- What an output adds to the history. -/
def record (history : History) : SenderOutput → History
  | .passedGate => history
  | .started settings => { history with current := ⟨settings, [], false⟩ }
  | .packet packet =>
    { history with
      current := { history.current with packets := history.current.packets ++ [packet] }
      packets := history.packets ++ [packet] }
  | .ended stopped =>
    { history with ended := history.ended ++ [{ history.current with stopped := stopped }] }

/-- The history of a run. -/
def ofRun (kind : SenderKind) (sender : Sender) (events : List SenderEvent) : History :=
  (outputs (Sender.step kind) sender events).foldl record empty

end History

/-- The payload length of a packet of an object: the remaining bytes are those before the packet
ahead of it. -/
def payloadLengthAt (objectBytes fragment : ℕ) : ℕ :=
  min (objectBytes - maxProtocolMessageLength * (fragment - 1)) maxProtocolMessageLength

theorem toNat_payloadLength (bytes fragment : ℕ) :
    (UInt32.ofNat (payloadLengthAt bytes fragment)).toNat = payloadLengthAt bytes fragment := by
  have hle : payloadLengthAt bytes fragment ≤ 1427 := min_le_right _ _
  exact Nat.mod_eq_of_lt (by omega)

/-- Counting a packet does not wrap around. -/
theorem toNat_succ {number : UInt32} (hlt : number.toNat + 1 < 2 ^ 32) :
    (number + 1).toNat = number.toNat + 1 := by
  rw [UInt32.toNat_add]
  exact Nat.mod_eq_of_lt hlt

/-- The message is the one of a fragment of an object with the given settings and number. -/
structure DataMessage.Describes (message : DataMessage) (settings : ServiceSettings)
    (number fragment : ℕ) : Prop where
  serviceId_eq : message.serviceId = settings.serviceId
  priority_eq : message.priority = settings.servicePriority.toUInt8
  totalFragments_eq : message.totalFragments = settings.numberPackets
  objectNumber_eq : message.objectNumber = UInt32.ofNat number
  fragmentNumber_eq : message.fragmentNumber.toNat = fragment
  payloadLength_eq : message.payloadLength.toNat = payloadLengthAt settings.objectBytes fragment

/-- The packets of the object are its fragments, from the first on, under its number. -/
def SentObject.Numbered (object : SentObject) (number : ℕ) : Prop :=
  ∀ (fragment : ℕ) (packet : SentPacket), object.packets[fragment]? = some packet →
    packet.message.Describes object.settings number fragment

/-- What holds of every entry of a list at its place also holds of the list with one entry more, if
it holds of this one at the end. -/
theorem forall_getElem?_append_singleton {α : Type} {entries : List α} {last : α}
    {holds : ℕ → α → Prop} (h : ∀ index entry, entries[index]? = some entry → holds index entry)
    (hlast : holds entries.length last) :
    ∀ index entry, (entries ++ [last])[index]? = some entry → holds index entry := by
  intro index entry hentry
  by_cases hindex : index < entries.length
  · rw [List.getElem?_append_left hindex] at hentry
    exact h index entry hentry
  · rw [List.getElem?_append_right (not_lt.mp hindex), List.getElem?_singleton] at hentry
    split_ifs at hentry with hzero
    have hlength : index = entries.length := by omega
    rw [← Option.some.inj hentry, hlength]
    exact hlast

/-- An object with one more fragment. -/
theorem SentObject.Numbered.append {object : SentObject} {number : ℕ} {packet : SentPacket}
    (h : object.Numbered number)
    (hpacket : packet.message.Describes object.settings number object.packets.length) :
    SentObject.Numbered { object with packets := object.packets ++ [packet] } number :=
  forall_getElem?_append_singleton h hpacket

/-- What the fragment determines of its message, over all packets of an object. -/
theorem SentObject.Numbered.map_packets {β : Type} {object : SentObject} {number : ℕ}
    (h : object.Numbered number) {field : DataMessage → β} {value : ℕ → β}
    (hfield : ∀ message fragment, message.Describes object.settings number fragment →
      field message = value fragment) :
    object.packets.map (fun packet ↦ field packet.message) =
      (List.range object.packets.length).map value := by
  apply List.ext_getElem
  · rw [List.length_map, List.length_map, List.length_range]
  · intro fragment hleft hright
    have hlt : fragment < object.packets.length := by simpa using hright
    rw [List.getElem_map, List.getElem_map, List.getElem_range]
    exact hfield _ _ (h fragment _ (List.getElem?_eq_getElem hlt))

/-- What the sender is doing for its current object: it is on the way to it, in the inner loop, in
the inner loop with a packet to send, behind the inner loop, or at an end. -/
inductive Stage where
  | approaching
  | looping
  | transmitting
  | finishing
  | over
deriving DecidableEq, Repr

/-- The stage of a phase. -/
def SenderPhase.stage : SenderPhase → Stage
  | .startGate | .checkMode .object | .changeMode .object | .checkUpdate .object
  | .adoptTimestamp .object | .clearUpdate .object | .buildObject => .approaching
  | .packetLoop | .stopCheck => .looping
  | .checkMode .packet | .changeMode .packet | .checkUpdate .packet | .adoptTimestamp .packet
  | .clearUpdate .packet | .packetGate | .sending => .transmitting
  | .objectEnd => .finishing
  | .afterObject | .waiting | .pollClock => .approaching
  | .closed | .crashed => .over

/-- The variables of the sender that count its objects, packets and bytes. -/
structure Progress where
  numberObject : ℕ
  numberPacket : UInt32
  remainingBytes : ℕ
  dataMessage : DataMessage

def Sender.progress (sender : Sender) : Progress :=
  ⟨sender.numberObject, sender.numberPacket, sender.remainingBytes, sender.dataMessage⟩

/-- In the inner loop: the current object of the history is the one the sender works on. -/
structure InLoop (progress : Progress) (history : History) : Prop where
  numberObject_eq : progress.numberObject = history.ended.length + 1
  numbered : history.current.Numbered progress.numberObject
  describes : progress.dataMessage.Describes history.current.settings progress.numberObject
    progress.numberPacket.toNat
  length_eq : history.current.packets.length = progress.numberPacket.toNat
  remainingBytes_eq : progress.remainingBytes = history.current.settings.objectBytes -
    maxProtocolMessageLength * progress.numberPacket.toNat

/-- What holds at a stage. -/
def AtStage (progress : Progress) (history : History) : Stage → Prop
  | .approaching => progress.numberObject = history.ended.length + 1
  | .looping => InLoop progress history
  | .transmitting => InLoop progress history ∧ progress.numberPacket.toNat + 1 < 2 ^ 32
  | .finishing => progress.numberObject = history.ended.length
  | .over => True

/-- The history goes with the state of the sender. -/
structure Consistent (sender : Sender) (history : History) : Prop where
  ended : ∀ (index : ℕ) (object : SentObject), history.ended[index]? = some object →
    object.Numbered (index + 1)
  length_le : history.ended.length ≤ Sender.autoTrafficTermination
  numberObject_le : sender.numberObject ≤ Sender.autoTrafficTermination
  atStage : AtStage sender.progress history sender.phase.stage

/-- A step that stays at its stage and does not touch the object. -/
theorem Consistent.stay {sender next : Sender} {history : History}
    (h : Consistent sender history) (hprogress : next.progress = sender.progress)
    (hstage : next.phase.stage = sender.phase.stage) : Consistent next history := by
  refine ⟨h.ended, h.length_le, ?_, ?_⟩
  · have hnumber : next.numberObject = sender.numberObject :=
      congrArg Progress.numberObject hprogress
    rw [hnumber]
    exact h.numberObject_le
  · rw [hprogress, hstage]
    exact h.atStage

/-- The end of the inner loop, which puts the current object to the others. -/
theorem Consistent.leave {sender next : Sender} {history : History}
    (h : Consistent sender history) (hloop : InLoop sender.progress history)
    (hprogress : next.progress = sender.progress) (hphase : next.phase = .objectEnd)
    (stopped : Bool) : Consistent next (history.record (.ended stopped)) := by
  have hnumber : next.numberObject = sender.numberObject :=
    congrArg Progress.numberObject hprogress
  refine ⟨?_, ?_, ?_, ?_⟩
  · refine forall_getElem?_append_singleton h.ended ?_
    rw [← hloop.numberObject_eq]
    exact hloop.numbered
  · show (history.ended ++ [_]).length ≤ Sender.autoTrafficTermination
    rw [List.length_append]
    exact hloop.numberObject_eq ▸ h.numberObject_le
  · rw [hnumber]
    exact h.numberObject_le
  · rw [hphase, hprogress]
    change sender.progress.numberObject = (history.ended ++ [_]).length
    rw [List.length_append, hloop.numberObject_eq]
    rfl

namespace Sender

theorem consistent_start (serviceSettings : StdMap UInt32 ServiceSettings) (clientId : UInt32)
    (control : TrafficSourceControl) (uninitialised : Timespec) :
    Consistent (start serviceSettings clientId control uninitialised) History.empty := by
  refine ⟨fun index object hobject ↦ ?_, Nat.zero_le _, ?_, rfl⟩
  · rw [History.empty, List.getElem?_nil] at hobject
    exact absurd hobject.symm (Option.some_ne_none _)
  · show 1 ≤ autoTrafficTermination
    decide

variable {sender : Sender} {history : History}

theorem consistent_buildObject (h : Consistent sender history)
    (hphase : sender.phase = .buildObject) (clock : Timespec) :
    Consistent (sender.buildObject clock).1
      ((sender.buildObject clock).2.foldl History.record history) := by
  have hnumber : sender.numberObject = history.ended.length + 1 := by
    have hstage := h.atStage
    rw [hphase] at hstage
    exact hstage
  rw [buildObject, withSettings]
  cases sender.currentSettings with
  | none => exact ⟨h.ended, h.length_le, h.numberObject_le, trivial⟩
  | some settings =>
    refine ⟨h.ended, h.length_le, h.numberObject_le,
      ⟨hnumber, ?_, ⟨rfl, rfl, rfl, rfl, rfl, ?_⟩, rfl, rfl⟩⟩
    · intro fragment packet hpacket
      simp [History.record] at hpacket
    · exact toNat_payloadLength settings.objectBytes 0

theorem consistent_sendPacket (h : Consistent sender history) (hphase : sender.phase = .sending)
    (clock : Timespec) :
    Consistent (sender.sendPacket clock).1
      ((sender.sendPacket clock).2.foldl History.record history) := by
  have hstage : InLoop sender.progress history ∧ sender.numberPacket.toNat + 1 < 2 ^ 32 := by
    have hatStage := h.atStage
    rw [hphase] at hatStage
    exact hatStage
  obtain ⟨hloop, hlt⟩ := hstage
  have hsucc := toNat_succ hlt
  rw [sendPacket, withSettings]
  cases sender.currentSettings with
  | none => exact ⟨h.ended, h.length_le, h.numberObject_le, trivial⟩
  | some settings =>
    obtain ⟨hnumber, hnumbered, hdescribes, hlength, hremaining⟩ := hloop
    have hpayload : min sender.remainingBytes maxProtocolMessageLength =
        payloadLengthAt history.current.settings.objectBytes (sender.numberPacket + 1).toNat := by
      change sender.remainingBytes = _ at hremaining
      rw [hremaining, hsucc, payloadLengthAt, Nat.add_sub_cancel]
      rfl
    refine ⟨h.ended, h.length_le, h.numberObject_le, ⟨hnumber, ?_, ?_, ?_, ?_⟩⟩
    · apply hnumbered.append
      rw [hlength]
      exact { hdescribes with }
    · refine { hdescribes with fragmentNumber_eq := rfl, payloadLength_eq := ?_ }
      change (UInt32.ofNat (min sender.remainingBytes maxProtocolMessageLength)).toNat = _
      rw [hpayload]
      exact toNat_payloadLength _ _
    · change (history.current.packets ++ [_]).length = (sender.numberPacket + 1).toNat
      rw [List.length_append, hlength, hsucc]
      rfl
    · change sender.remainingBytes - min sender.remainingBytes maxProtocolMessageLength =
        history.current.settings.objectBytes -
          maxProtocolMessageLength * (sender.numberPacket + 1).toNat
      change sender.remainingBytes = history.current.settings.objectBytes -
        maxProtocolMessageLength * sender.numberPacket.toNat at hremaining
      rw [hsucc, hremaining, Nat.mul_succ]
      omega

theorem consistent_changeMode (h : Consistent sender history) {place : Place}
    (hphase : sender.phase = .changeMode place) :
    Consistent (sender.changeMode place).1
      ((sender.changeMode place).2.foldl History.record history) := by
  have hatStage := h.atStage
  rw [hphase] at hatStage
  cases hsettings : sender.serviceSettingsStruct[sender.generator.modeGlobal]? with
  | some settings =>
    simp only [changeMode, hsettings]
    cases place with
    | object => exact h.stay rfl (by rw [hphase]; rfl)
    | packet => exact h.stay rfl (by rw [hphase]; rfl)
  | none =>
    simp only [changeMode, hsettings]
    cases place with
    | object => exact ⟨h.ended, h.length_le, h.numberObject_le, trivial⟩
    | packet => apply h.leave hatStage.1 <;> rfl

/-- A step of the thread keeps the history consistent. -/
theorem consistent_run (kind : SenderKind) (h : Consistent sender history) (clock : Timespec) :
    Consistent (sender.run kind clock).1
      ((sender.run kind clock).2.foldl History.record history) := by
  have hatStage := h.atStage
  cases hphase : sender.phase with
  | startGate | packetGate =>
    simp only [run, hphase]
    split_ifs with hcontrol
    · exact h.stay rfl (by rw [hphase]; rfl)
    · exact h
  | checkMode place | checkUpdate place =>
    simp only [run, hphase]
    split_ifs with hread <;> cases place <;> exact h.stay rfl (by rw [hphase]; rfl)
  | changeMode place =>
    simp only [run, hphase]
    exact consistent_changeMode h hphase
  | adoptTimestamp place | clearUpdate place =>
    simp only [run, hphase]
    cases place <;> exact h.stay rfl (by rw [hphase]; rfl)
  | buildObject =>
    simp only [run, hphase]
    exact consistent_buildObject h hphase clock
  | packetLoop =>
    simp only [run, hphase, withSettings]
    rw [hphase] at hatStage
    cases sender.currentSettings with
    | none => exact ⟨h.ended, h.length_le, h.numberObject_le, trivial⟩
    | some settings =>
      simp only
      split_ifs with hmore
      · have hlt : sender.numberPacket.toNat + 1 < 2 ^ 32 :=
          (Nat.succ_le_of_lt (UInt32.lt_iff_toNat_lt.mp hmore)).trans_lt
            settings.numberPackets.toNat_lt
        cases kind with
        | synchronous => exact ⟨h.ended, h.length_le, h.numberObject_le, hatStage, hlt⟩
        | asynchronous => exact ⟨h.ended, h.length_le, h.numberObject_le, hatStage, hlt⟩
      · apply h.leave hatStage <;> rfl
  | sending =>
    simp only [run, hphase]
    exact consistent_sendPacket h hphase clock
  | stopCheck =>
    simp only [run, hphase]
    rw [hphase] at hatStage
    split_ifs with hstop
    · apply h.leave hatStage <;> rfl
    · exact h.stay rfl (by rw [hphase]; rfl)
  | objectEnd =>
    simp only [run, hphase]
    rw [hphase] at hatStage
    split_ifs with hlast
    · exact ⟨h.ended, h.length_le, h.numberObject_le, trivial⟩
    · exact ⟨h.ended, h.length_le, not_le.mp hlast, congrArg (· + 1) hatStage⟩
  | afterObject =>
    simp only [run, hphase, withSettings]
    split_ifs with hstop
    · exact ⟨h.ended, h.length_le, h.numberObject_le, trivial⟩
    · cases sender.currentSettings with
      | none => exact ⟨h.ended, h.length_le, h.numberObject_le, trivial⟩
      | some settings => exact h.stay rfl (by rw [hphase]; rfl)
  | waiting | pollClock =>
    simp only [run, hphase]
    split_ifs with hover <;> exact h.stay rfl (by rw [hphase]; rfl)
  | closed | crashed =>
    simp only [run, hphase]
    exact h

theorem consistent_step (kind : SenderKind) (h : Consistent sender history) (event : SenderEvent) :
    Consistent (sender.step kind event).1
      ((sender.step kind event).2.foldl History.record history) := by
  cases event with
  | notify notification => exact h.stay rfl rfl
  | stop => exact h.stay rfl rfl
  | run clock => exact consistent_run kind h clock

/-- The rule for runs: a relation between the state and the history that every step keeps under a
condition holds at the end of every run whose steps meet the condition. -/
theorem relation_ofRun {kind : SenderKind} (relation : Sender → History → Prop)
    {condition : Sender → SenderEvent → Prop} {events : List SenderEvent}
    (hstep : ∀ current past, ∀ event ∈ events, condition current event → relation current past →
      relation (step kind current event).1
        ((step kind current event).2.foldl History.record past))
    (hevents : EveryStep (step kind) condition sender events)
    (hstart : relation sender History.empty) :
    relation (finalState (step kind) sender events) (History.ofRun kind sender events) :=
  finalState_foldl_outputs_of_everyStep hstep hevents hstart

/-- Every run leads to a history that goes with its last state. -/
theorem consistent_ofRun (kind : SenderKind) (h : Consistent sender History.empty)
    (events : List SenderEvent) :
    Consistent (finalState (step kind) sender events) (History.ofRun kind sender events) := by
  have hevents : EveryStep (step kind) (fun _ _ ↦ True) sender events := fun _ _ _ ↦ trivial
  refine relation_ofRun Consistent ?_ hevents h
  intro current past event _ _ hcurrent
  exact consistent_step kind hcurrent event

/-- A mode of the examples: objects of two packets, every forty milliseconds. -/
def twoPackets : ServiceSettings := ⟨7, "10.0.0.7", 5000, 2, 40, 3, 0, 0⟩

end Sender

end Tanos
