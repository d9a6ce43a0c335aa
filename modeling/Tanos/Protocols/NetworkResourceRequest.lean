import Tanos.DataSharing.MessageNet

/-!
# Resource requests with a data path

`network_resource_request` has a `std::vector` among its members, and the payload is serialized by
copying the bytes of the object, 64 on the 64-bit targets. Of the data path these bytes have the
addresses of its elements only (`objectBytes`). What they denote depends on the memory of the
process that reads them (`ofBytes`): in the process of the sender the request that was sent
(`ofBytes_objectBytes`), in another one whatever is found at the addresses there.
-/

set_option autoImplicit false
set_option relaxedAutoImplicit false

namespace Tanos

open Library

/-- The memory of a process, for the `uint32_t` objects in it. -/
abbrev Memory : Type := UInt64 → Option UInt32

namespace Memory

/-- The elements from an address on, if all of them are there. -/
def elements (memory : Memory) (first : UInt64) : ℕ → Option (List UInt32)
  | 0 => some []
  | count + 1 => do
    let value ← memory first
    let rest ← elements memory (first + 4) count
    return value :: rest

/-- `std::vector<uint32_t>` with the addresses of its first element and of the end of its last
one. -/
def vector (memory : Memory) (start finish : UInt64) : Option (List UInt32) :=
  memory.elements start ((finish - start).toNat / 4)

/-- The elements are in the memory from an address on. -/
def Holds (memory : Memory) (first : UInt64) : List UInt32 → Prop
  | [] => True
  | value :: rest => memory first = some value ∧ Holds memory (first + 4) rest

theorem elements_of_holds {memory : Memory} {first : UInt64} {values : List UInt32}
    (h : memory.Holds first values) : memory.elements first values.length = some values := by
  induction values generalizing first with
  | nil => rfl
  | cons value rest ih =>
    obtain ⟨hvalue, hrest⟩ := h
    rw [List.length_cons, elements, hvalue, ih hrest]
    rfl

/-- In a process without any element nothing is found. -/
theorem elements_none (first : UInt64) {count : ℕ} (hcount : count ≠ 0) :
    elements (fun _ ↦ none) first count = none := by
  obtain ⟨rest, rfl⟩ := Nat.exists_eq_succ_of_ne_zero hcount
  rfl

end Memory

/-- `struct network_resource_request`. The bandwidth is the representation of a `double`. -/
structure NetworkResourceRequest where
  clientId : UInt32
  serviceId : UInt32
  priority : UInt32
  bandwidth : UInt64
  deadline : ℤ
  dataPath : List UInt32
  allocated : Bool
deriving DecidableEq, Repr

/-- What the object of a request has in memory beside its values: the address of the data path, the
end of its storage and the padding. -/
structure RequestObject where
  start : UInt64
  endOfStorage : UInt64
  paddingPriority : List UInt8
  paddingAllocated : List UInt8
  length_paddingPriority : paddingPriority.length = 4
  length_paddingAllocated : paddingAllocated.length = 7

/-- An object whose data path is at an address. -/
def RequestObject.ofStart (start : UInt64) : RequestObject :=
  ⟨start, start, List.replicate 4 0, List.replicate 7 0, rfl, rfl⟩

namespace NetworkResourceRequest

/-- `sizeof(network_resource_request)`. -/
def size : ℕ := 64

/-- The fields have values of their types. A vector has less than 2^61 elements. -/
structure Representable (request : NetworkResourceRequest) : Prop where
  deadline : MessageNet.FitsInt64 request.deadline
  dataPath : request.dataPath.length < 2 ^ 61

/-- The address of the end of the data path. -/
def finish (request : NetworkResourceRequest) (object : RequestObject) : UInt64 :=
  object.start + UInt64.ofNat (4 * request.dataPath.length)

/-- The bytes of the object. -/
def objectBytes (request : NetworkResourceRequest) (object : RequestObject) : List UInt8 :=
  LittleEndian.encode 4 request.clientId.toNat ++
    (LittleEndian.encode 4 request.serviceId.toNat ++
    (LittleEndian.encode 4 request.priority.toNat ++
    (object.paddingPriority ++
    (LittleEndian.encode 8 request.bandwidth.toNat ++
    (LittleEndian.encodeSigned 8 request.deadline ++
    (LittleEndian.encode 8 object.start.toNat ++
    (LittleEndian.encode 8 (request.finish object).toNat ++
    (LittleEndian.encode 8 object.endOfStorage.toNat ++
    (LittleEndian.encode 1 request.allocated.toNat ++ object.paddingAllocated)))))))))

/-- The request the bytes of an object denote in a process. It is none where its data path lies
where the process has no elements. -/
def ofBytes (memory : Memory) (bytes : List UInt8) : Option NetworkResourceRequest :=
  let start := UInt64.ofNat (LittleEndian.decode ((bytes.drop 32).take 8))
  let finish := UInt64.ofNat (LittleEndian.decode ((bytes.drop 40).take 8))
  (memory.vector start finish).map fun dataPath ↦
    { clientId := UInt32.ofNat (LittleEndian.decode (bytes.take 4))
      serviceId := UInt32.ofNat (LittleEndian.decode ((bytes.drop 4).take 4))
      priority := UInt32.ofNat (LittleEndian.decode ((bytes.drop 8).take 4))
      bandwidth := UInt64.ofNat (LittleEndian.decode ((bytes.drop 16).take 8))
      deadline := LittleEndian.decodeSigned ((bytes.drop 24).take 8)
      dataPath := dataPath
      allocated := LittleEndian.decode ((bytes.drop 56).take 1) != 0 }

variable {request : NetworkResourceRequest}

theorem length_objectBytes (request : NetworkResourceRequest) (object : RequestObject) :
    (request.objectBytes object).length = size := by
  simp only [objectBytes, List.length_append, LittleEndian.length_encode,
    LittleEndian.length_encodeSigned, object.length_paddingPriority,
    object.length_paddingAllocated]
  rfl

/-- The number of elements between the two addresses. -/
theorem count_finish (hrequest : request.Representable) (object : RequestObject) :
    ((request.finish object - object.start).toNat) / 4 = request.dataPath.length := by
  have hlength := hrequest.dataPath
  have hdifference : request.finish object - object.start =
      UInt64.ofNat (4 * request.dataPath.length) := by
    rw [finish, UInt64.add_comm, UInt64.add_sub_cancel]
  have hvalue : (UInt64.ofNat (4 * request.dataPath.length)).toNat = 4 * request.dataPath.length :=
    Nat.mod_eq_of_lt (by omega)
  rw [hdifference, hvalue, Nat.mul_div_cancel_left _ (by decide)]

/-- What the bytes of a request denote in a process: the request, with the data path that is found
there. -/
theorem ofBytes_objectBytes_eq (hrequest : request.Representable) (object : RequestObject)
    (memory : Memory) :
    ofBytes memory (request.objectBytes object) =
      (memory.elements object.start request.dataPath.length).map fun dataPath ↦
        { request with dataPath := dataPath } := by
  have hcount := count_finish hrequest object
  obtain ⟨start, endOfStorage, padding, paddingAllocated, hpadding, hallocated⟩ := object
  obtain ⟨first, second, third, fourth, rfl⟩ :
      ∃ first second third fourth, padding = [first, second, third, fourth] := by
    match padding, hpadding with
    | [first, second, third, fourth], _ => exact ⟨first, second, third, fourth, rfl⟩
  set object : RequestObject :=
    ⟨start, endOfStorage, [first, second, third, fourth], paddingAllocated, hpadding, hallocated⟩
  set bytes := request.objectBytes object with hbytes
  have hclientId : LittleEndian.decode (bytes.take 4) = request.clientId.toNat :=
    LittleEndian.decode_of_eq_encode (rfl : _ = LittleEndian.encode 4 _) request.clientId.toNat_lt
  have hserviceId : LittleEndian.decode ((bytes.drop 4).take 4) = request.serviceId.toNat :=
    LittleEndian.decode_of_eq_encode (rfl : _ = LittleEndian.encode 4 _) request.serviceId.toNat_lt
  have hpriority : LittleEndian.decode ((bytes.drop 8).take 4) = request.priority.toNat :=
    LittleEndian.decode_of_eq_encode (rfl : _ = LittleEndian.encode 4 _) request.priority.toNat_lt
  have hbandwidth : LittleEndian.decode ((bytes.drop 16).take 8) = request.bandwidth.toNat :=
    LittleEndian.decode_of_eq_encode (rfl : _ = LittleEndian.encode 8 _) request.bandwidth.toNat_lt
  have hdeadline : LittleEndian.decodeSigned ((bytes.drop 24).take 8) = request.deadline :=
    MessageNet.decodeSigned_encodeSigned_of_fitsInt64 hrequest.deadline
  have hstart : LittleEndian.decode ((bytes.drop 32).take 8) = start.toNat :=
    LittleEndian.decode_of_eq_encode (rfl : _ = LittleEndian.encode 8 _) start.toNat_lt
  have hfinish : LittleEndian.decode ((bytes.drop 40).take 8) = (request.finish object).toNat :=
    LittleEndian.decode_of_eq_encode (rfl : _ = LittleEndian.encode 8 _)
      (request.finish object).toNat_lt
  have hflag : (LittleEndian.decode ((bytes.drop 56).take 1) != 0) = request.allocated := by
    have hdecoded : LittleEndian.decode ((bytes.drop 56).take 1) = request.allocated.toNat :=
      LittleEndian.decode_of_eq_encode (rfl : _ = LittleEndian.encode 1 _)
        ((Bool.toNat_le request.allocated).trans_lt (by decide))
    rw [hdecoded]
    cases request.allocated <;> rfl
  simp only [ofBytes, Memory.vector, hclientId, hserviceId, hpriority, hbandwidth, hdeadline,
    hstart, hfinish, hflag, UInt32.ofNat_toNat, UInt64.ofNat_toNat]
  rw [hcount]

/-- In the process of the sender the bytes denote the request. -/
theorem ofBytes_objectBytes (hrequest : request.Representable) (object : RequestObject)
    {memory : Memory} (hholds : memory.Holds object.start request.dataPath) :
    ofBytes memory (request.objectBytes object) = some request := by
  rw [ofBytes_objectBytes_eq hrequest, Memory.elements_of_holds hholds]
  rfl

end NetworkResourceRequest

end Tanos
