import Mathlib.Data.List.Induction
import Mathlib.Logic.Function.Basic
import Tanos.Library.Runs
import Tanos.Protocols.RmWiredPayload

/-!
# Setters and getters of the payload

Eight parameters of `RMPayload` have a setter and a getter. A payload is set, and possibly sent
through a buffer of the same process into another one, and what its getters return should be what
was set last (`KeepsLastWrite`). `written` is that record of the last writes, with a call as an
update of a function.

In four setters the argument has the name of the member, so that they assign the argument to itself.
Their parameters keep the value they had (`get_finalState`), and the law holds precisely for
those sequences of calls that end with it (`keepsLastWrite_iff`).
-/

set_option autoImplicit false
set_option relaxedAutoImplicit false

namespace Tanos

open Library Library.Runs

namespace RMPayload

/-! ### The setters -/

/-- `BasicPayload::set_object_size`, which assigns its argument to itself. -/
def setObjectSize (payload : RMPayload) (_objectSize : UInt32) : RMPayload := payload

/-- `BasicPayload::set_object_deadline`, which assigns its argument to itself. -/
def setObjectDeadline (payload : RMPayload) (_objectDeadline : ℤ) : RMPayload := payload

/-- `set_data_connection_priority`. -/
def setDataConnectionPriority (payload : RMPayload) (priority : UInt32) : RMPayload :=
  { payload with dataConnectionPriority := priority }

/-- `set_measurement_id`, which assigns its argument to itself. -/
def setMeasurementId (payload : RMPayload) (_measurementId : UInt32) : RMPayload := payload

/-- `set_timestamp_stop`. -/
def setTimestampStop (payload : RMPayload) (timestamp : Timespec) : RMPayload :=
  { payload with timestampStop := timestamp }

/-- `set_timestamp_reconfig`. -/
def setTimestampReconfig (payload : RMPayload) (timestamp : Timespec) : RMPayload :=
  { payload with timestampReconfig := timestamp }

/-- `set_timestamp_start`. -/
def setTimestampStart (payload : RMPayload) (timestamp : Timespec) : RMPayload :=
  { payload with timestampStart := timestamp }

/-- `set_resource_request_payload`, which assigns its argument to itself. -/
def setResourceRequestPayload (payload : RMPayload)
    (_resourceRequestStruct : NetworkResourceRequest) : RMPayload := payload

/-! ### Parameters -/

/-- What has a setter and a getter. -/
inductive Parameter where
  | objectSize
  | objectDeadline
  | dataConnectionPriority
  | measurementId
  | timestampStop
  | timestampReconfig
  | timestampStart
  | resourceRequest
deriving DecidableEq, Repr

namespace Parameter

/-- The type of a parameter. -/
abbrev Value : Parameter → Type
  | objectSize | dataConnectionPriority | measurementId => UInt32
  | objectDeadline => ℤ
  | timestampStop | timestampReconfig | timestampStart => Timespec
  | resourceRequest => NetworkResourceRequest

/-- A value of the type of a parameter in the source. -/
def Representable : (parameter : Parameter) → parameter.Value → Prop
  | objectSize | dataConnectionPriority | measurementId => fun _ ↦ True
  | objectDeadline => MessageNet.FitsInt64
  | timestampStop | timestampReconfig | timestampStart => MessageNet.FitsTimespec
  | resourceRequest => NetworkResourceRequest.Representable

/-- The getter of a parameter. The data path of a resource request is in the memory of the process,
and the getter has no value where it is not. -/
def get (memory : Memory) (payload : RMPayload) : (parameter : Parameter) → Option parameter.Value
  | objectSize => some payload.objectSize
  | objectDeadline => some payload.objectDeadline
  | dataConnectionPriority => some payload.dataConnectionPriority
  | measurementId => some payload.measurementId
  | timestampStop => some payload.timestampStop
  | timestampReconfig => some payload.timestampReconfig
  | timestampStart => some payload.timestampStart
  | resourceRequest => NetworkResourceRequest.ofBytes memory payload.resourceRequestStruct

/-- The setter of a parameter. -/
def set (payload : RMPayload) : (parameter : Parameter) → parameter.Value → RMPayload
  | objectSize => payload.setObjectSize
  | objectDeadline => payload.setObjectDeadline
  | dataConnectionPriority => payload.setDataConnectionPriority
  | measurementId => payload.setMeasurementId
  | timestampStop => payload.setTimestampStop
  | timestampReconfig => payload.setTimestampReconfig
  | timestampStart => payload.setTimestampStart
  | resourceRequest => payload.setResourceRequestPayload

/-- The setter assigns its argument to itself. -/
def selfAssigned : Parameter → Bool
  | objectSize | objectDeadline | measurementId | resourceRequest => true
  | dataConnectionPriority | timestampStop | timestampReconfig | timestampStart => false

/-- A setter that assigns its argument to itself does nothing. -/
theorem set_of_selfAssigned {parameter : Parameter} (h : parameter.selfAssigned = true)
    (payload : RMPayload) (value : parameter.Value) : set payload parameter value = payload := by
  cases parameter with
  | objectSize | objectDeadline | measurementId | resourceRequest => rfl
  | _ => exact Bool.noConfusion h

/-- Every other setter sets its parameter, and no other one. -/
theorem get_set {parameter : Parameter} (h : parameter.selfAssigned = false) (memory : Memory)
    (payload : RMPayload) (value : parameter.Value) :
    get memory (set payload parameter value) =
      Function.update (get memory payload) parameter (some value) := by
  funext other
  cases parameter with
  | dataConnectionPriority | timestampStop | timestampReconfig | timestampStart =>
    cases other <;> rfl
  | _ => exact Bool.noConfusion h

/-- A setter keeps the fields in the values of their types. -/
theorem representable_set {payload : RMPayload} (hpayload : payload.Representable)
    {parameter : Parameter} {value : parameter.Value} (hvalue : parameter.Representable value) :
    (set payload parameter value).Representable := by
  cases parameter with
  | dataConnectionPriority => exact { hpayload with }
  | timestampStop => exact { hpayload with timestampStop := hvalue }
  | timestampReconfig => exact { hpayload with timestampReconfig := hvalue }
  | timestampStart => exact { hpayload with timestampStart := hvalue }
  | _ => exact hpayload

end Parameter

/-! ### Sequences of calls -/

/-- A call of a setter, or the way through a buffer into another payload of the same process, or
into the same one. -/
inductive PayloadCall where
  | set (parameter : Parameter) (value : parameter.Value)
  | roundTrip (into : RMPayload)

/-- The values a call sets are those of their types. -/
def PayloadCall.Representable : PayloadCall → Prop
  | set parameter value => parameter.Representable value
  | roundTrip _ => True

/-- The payload the getters are called on behind a call. -/
def call (payload : RMPayload) : PayloadCall → RMPayload × List Empty
  | .set parameter value => (Parameter.set payload parameter value, [])
  | .roundTrip into => ((into.deserialize payload.serialized).1, [])

/-- The last value each parameter is set to. -/
def written (calls : List PayloadCall) : (parameter : Parameter) → Option parameter.Value :=
  calls.foldl (fun values event ↦
    match event with
    | .set parameter value => Function.update values parameter (some value)
    | .roundTrip _ => values) fun _ ↦ none

/-- Every getter returns the value of the last call of its setter, or the initial one. -/
def KeepsLastWrite (memory : Memory) (initial : RMPayload) (calls : List PayloadCall) : Prop :=
  ∀ parameter, Parameter.get memory (finalState call initial calls) parameter =
    (written calls parameter).or (Parameter.get memory initial parameter)

/-- The condition: where a setter assigns its argument to itself, the last value is the one that is
there anyway. -/
def EndsWithInitial (memory : Memory) (initial : RMPayload) (calls : List PayloadCall) : Prop :=
  ∀ parameter : Parameter, parameter.selfAssigned = true → ∀ value ∈ written calls parameter,
    Parameter.get memory initial parameter = some value

/-- Whatever payload a payload is read into, it gets through its buffer. -/
theorem deserialize_serialized (into : RMPayload) {payload : RMPayload}
    (h : payload.Representable) : (into.deserialize payload.serialized).1 = payload := by
  have hunread := unread_serialized h
  generalize payload.serialized = net at hunread ⊢
  rw [← List.append_nil payload.bytes] at hunread
  exact (reads_deserialize into h net [] hunread).1

/-- The way through a buffer leaves a payload as it is. -/
theorem call_roundTrip (into : RMPayload) {payload : RMPayload} (h : payload.Representable) :
    (payload.call (.roundTrip into)).1 = payload := by
  simp only [call, deserialize_serialized into h]

theorem representable_call {payload : RMPayload} (hpayload : payload.Representable)
    {event : PayloadCall} (hevent : event.Representable) :
    (payload.call event).1.Representable := by
  cases event with
  | set parameter value => exact Parameter.representable_set hpayload hevent
  | roundTrip into =>
    rw [call_roundTrip into hpayload]
    exact hpayload

theorem representable_finalState {initial : RMPayload} (hinitial : initial.Representable)
    {calls : List PayloadCall} (hcalls : ∀ event ∈ calls, event.Representable) :
    (finalState call initial calls).Representable :=
  finalState_of_step (fun _ event hevent hcurrent ↦ representable_call hcurrent
    (hcalls event hevent)) hinitial

/-- What the getters return behind any sequence of calls: half of the setters do not count. -/
theorem get_finalState (memory : Memory) {initial : RMPayload} (hinitial : initial.Representable)
    {calls : List PayloadCall} (hcalls : ∀ event ∈ calls, event.Representable)
    (parameter : Parameter) :
    Parameter.get memory (finalState call initial calls) parameter =
      if parameter.selfAssigned then Parameter.get memory initial parameter
      else (written calls parameter).or (Parameter.get memory initial parameter) := by
  induction calls using List.reverseRecOn with
  | nil =>
    rw [finalState_nil]
    split_ifs <;> rfl
  | append_singleton past event ih =>
    obtain ⟨hpast, hevent⟩ := List.forall_mem_append.mp hcalls
    have hcurrent := representable_finalState hinitial hpast
    have hbefore := ih hpast
    rw [finalState_append, finalState_cons, finalState_nil]
    cases event with
    | roundTrip into =>
      have hwritten : written (past ++ [.roundTrip into]) = written past := by
        rw [written, List.foldl_append]
        rfl
      rw [call_roundTrip into hcurrent, hwritten, hbefore]
    | set other value =>
      have hwritten : written (past ++ [.set other value]) =
          Function.update (written past) other (some value) := by
        rw [written, List.foldl_append]
        rfl
      change Parameter.get memory (Parameter.set _ other value) parameter = _
      rw [hwritten]
      cases hself : other.selfAssigned with
      | true =>
        rw [Parameter.set_of_selfAssigned hself, hbefore]
        split_ifs with hparameter
        · rfl
        · have hne : parameter ≠ other := by
            rintro rfl
            exact hparameter hself
          rw [Function.update_of_ne hne]
      | false =>
        rw [Parameter.get_set hself]
        by_cases heq : parameter = other
        · subst heq
          rw [Function.update_self, Function.update_self, hself]
          rfl
        · rw [Function.update_of_ne heq, Function.update_of_ne heq, hbefore]

/-- Assumes: the fields of the payload and the arguments of the calls have values of their types. On
any payload, over any sequence of calls and ways through a buffer, every getter returns what was set
last precisely when the setters that assign their arguments to themselves are called, in the end,
with the values that are there. -/
theorem keepsLastWrite_iff (memory : Memory) {initial : RMPayload}
    (hinitial : initial.Representable) {calls : List PayloadCall}
    (hcalls : ∀ event ∈ calls, event.Representable) :
    KeepsLastWrite memory initial calls ↔ EndsWithInitial memory initial calls := by
  constructor
  · intro hkeeps parameter hself value hvalue
    have hlast := hkeeps parameter
    rw [get_finalState memory hinitial hcalls, if_pos hself, Option.mem_def.mp hvalue] at hlast
    exact hlast
  · intro hends parameter
    rw [get_finalState memory hinitial hcalls]
    split_ifs with hself
    · cases hvalue : written calls parameter with
      | none => rfl
      | some value => exact hends parameter hself value hvalue
    · rfl

/-- A priority, a way through a buffer, and an object size that is there. -/
theorem keepsLastWrite_iff_priority :
    let calls : List PayloadCall := [.set .dataConnectionPriority (3 : UInt32), .roundTrip blank,
      .set .objectSize (0 : UInt32)]
    KeepsLastWrite (fun _ ↦ none) blank calls ↔ EndsWithInitial (fun _ ↦ none) blank calls := by
  intro calls
  have hblank : blank.Representable := ⟨by decide, by decide, by decide, by decide, rfl⟩
  have hcalls : ∀ event ∈ calls, event.Representable := by
    simp [calls, PayloadCall.Representable, Parameter.Representable]
  exact keepsLastWrite_iff _ hblank hcalls

/-- An object size of 5 that is set is 0 when it is got. -/
theorem not_keepsLastWrite_objectSize :
    ¬ KeepsLastWrite (fun _ ↦ none) blank [.set .objectSize (5 : UInt32)] := by
  intro hkeeps
  have hsize : some (0 : UInt32) = some 5 := hkeeps .objectSize
  exact absurd hsize (by decide)

end RMPayload

end Tanos
