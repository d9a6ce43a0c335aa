import Tanos.Protocols.RmWiredPayload

/-!
# Resource requests in another process

The payload of a control message has the bytes of its resource request, and the data path has to be
found at the addresses in them. `survives_iff` is the consequence: a request gets through to every
process precisely when its data path is empty.
-/

set_option autoImplicit false
set_option relaxedAutoImplicit false

namespace Tanos

namespace NetworkResourceRequest

variable {request : NetworkResourceRequest}

/-- The payload that is decoded in a process has the values of the payload that was serialized. -/
structure Survives (request : NetworkResourceRequest) (payload : RMPayload) (receiver : Memory) :
    Prop where
  objectSize_eq : (RMPayload.received payload.serialized).objectSize = payload.objectSize
  objectDeadline_eq : (RMPayload.received payload.serialized).objectDeadline =
    payload.objectDeadline
  dataConnectionPriority_eq : (RMPayload.received payload.serialized).dataConnectionPriority =
    payload.dataConnectionPriority
  measurementId_eq : (RMPayload.received payload.serialized).measurementId = payload.measurementId
  rmClientAction_eq : (RMPayload.received payload.serialized).rmClientAction =
    payload.rmClientAction
  timestampStop_eq : (RMPayload.received payload.serialized).timestampStop = payload.timestampStop
  timestampReconfig_eq : (RMPayload.received payload.serialized).timestampReconfig =
    payload.timestampReconfig
  timestampStart_eq : (RMPayload.received payload.serialized).timestampStart =
    payload.timestampStart
  request_eq : ofBytes receiver (RMPayload.received payload.serialized).resourceRequestStruct =
    some request

/-- Assumes: the payload has the object of the request. Decoded in another process it has the values
that were serialized precisely when the elements of the data path are found there too. -/
theorem survives_iff_elements {payload : RMPayload} (hpayload : payload.Representable)
    (hrequest : request.Representable) {object : RequestObject}
    (hobject : payload.resourceRequestStruct = request.objectBytes object) (receiver : Memory) :
    request.Survives payload receiver ↔
      receiver.elements object.start request.dataPath.length = some request.dataPath := by
  have hreceived := RMPayload.received_serialized hpayload
  have hdecoded := ofBytes_objectBytes_eq hrequest object receiver
  constructor
  · intro hsurvives
    have hequal := hsurvives.request_eq
    rw [hreceived, hobject, hdecoded] at hequal
    obtain ⟨dataPath, hfound, hsame⟩ := Option.map_eq_some_iff.mp hequal
    rw [hfound, ← hsame]
  · intro hfound
    refine ⟨?_, ?_, ?_, ?_, ?_, ?_, ?_, ?_, ?_⟩ <;> rw [hreceived]
    rw [hobject, hdecoded, hfound]
    rfl

/-- Assumes: the payload has the object of the request. It keeps its values in every other process
precisely when its data path is empty. -/
theorem survives_iff {payload : RMPayload} (hpayload : payload.Representable)
    (hrequest : request.Representable) {object : RequestObject}
    (hobject : payload.resourceRequestStruct = request.objectBytes object) :
    (∀ receiver : Memory, request.Survives payload receiver) ↔ request.dataPath = [] := by
  constructor
  · intro hsurvives
    by_contra hpath
    have hcount : request.dataPath.length ≠ 0 := mt List.length_eq_zero_iff.mp hpath
    have hfound := (survives_iff_elements hpayload hrequest hobject fun _ ↦ none).mp
      (hsurvives fun _ ↦ none)
    rw [Memory.elements_none object.start hcount] at hfound
    exact absurd hfound.symm (Option.some_ne_none request.dataPath)
  · intro hpath receiver
    refine (survives_iff_elements hpayload hrequest hobject receiver).mpr ?_
    rw [hpath]
    rfl

/-- A request of client 1 for service 1. -/
def ofDataPath (dataPath : List UInt32) : NetworkResourceRequest :=
  ⟨1, 1, 0, 0, 100, dataPath, false⟩

/-- The payload with this request. -/
def payloadOf (dataPath : List UInt32) : RMPayload :=
  { RMPayload.blank with
    resourceRequestStruct := (ofDataPath dataPath).objectBytes (RequestObject.ofStart 4096) }

theorem representable_payloadOf (dataPath : List UInt32) :
    (payloadOf dataPath).Representable := by
  have hdeadline : MessageNet.FitsInt64 0 := by decide
  have htime : MessageNet.FitsTimespec ⟨0, 0⟩ := by decide
  exact ⟨hdeadline, htime, htime, htime, length_objectBytes _ _⟩

theorem representable_ofDataPath {dataPath : List UInt32} (hlength : dataPath.length < 2 ^ 61) :
    (ofDataPath dataPath).Representable :=
  ⟨show MessageNet.FitsInt64 100 by decide, hlength⟩

theorem survives_iff_empty :
    (∀ receiver : Memory, (ofDataPath []).Survives (payloadOf []) receiver) ↔
      (ofDataPath []).dataPath = [] :=
  survives_iff (representable_payloadOf []) (representable_ofDataPath (by decide)) rfl

/-- A data path of one element is not found in a process that has nothing at its address. -/
theorem not_survives_singlePath :
    ¬ (ofDataPath [7]).Survives (payloadOf [7]) fun _ ↦ none := by
  intro hsurvives
  have hfound := (survives_iff_elements (representable_payloadOf [7])
    (representable_ofDataPath (by decide)) rfl _).mp hsurvives
  exact absurd hfound.symm (Option.some_ne_none [7])

end NetworkResourceRequest

end Tanos
