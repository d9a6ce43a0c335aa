import Tanos.DataSharing.MessageNet

/-!
# Transmission parameters

`txParam` exists twice, with a fragment size and, on top of it, with a shaping time. `update` reads
new values from a stream and leaves out those that are zero. It reads into a local variable without
a value and looks at the variable whether anything has been read or not, so that a stream that is
too short for a field may change it to anything. The local values are parameters here.

`merges_iff` says that the parameters are merged field by field, whatever the local values are,
precisely when the stream holds both fields, as one does that parameters have been serialized to
(`update_serialized`).
-/

set_option autoImplicit false
set_option relaxedAutoImplicit false

namespace Tanos

open Library

/-- `basic_protocol::txParam`. -/
structure BasicTxParam where
  fragmentSize : UInt32
deriving DecidableEq, Repr

/-- `basic_periodic_protocol::txParam`. -/
structure TxParam extends BasicTxParam where
  shapingTime : ℤ
deriving DecidableEq, Repr

namespace BasicTxParam

/-- `serialize`. -/
def serialize (param : BasicTxParam) : StateM MessageNet Unit := do
  let _ ← MessageNet.add (LittleEndian.encode 4 param.fragmentSize.toNat)

/-- `deserialize`. -/
def deserialize (param : BasicTxParam) : StateM MessageNet BasicTxParam := do
  let fragmentSize ← MessageNet.readUInt32 param.fragmentSize
  return ⟨fragmentSize⟩

/-- `update`. -/
def update (param : BasicTxParam) (uninitialised : UInt32) : StateM MessageNet BasicTxParam := do
  let dummyValue ← MessageNet.readUInt32 uninitialised
  if dummyValue ≠ 0 then return ⟨dummyValue⟩ else return param

end BasicTxParam

namespace TxParam

/-- `serialize`. -/
def serialize (param : TxParam) : StateM MessageNet Unit := do
  param.toBasicTxParam.serialize
  let _ ← MessageNet.add (LittleEndian.encodeSigned 8 param.shapingTime)

/-- `deserialize`. -/
def deserialize (param : TxParam) : StateM MessageNet TxParam := do
  let basic ← param.toBasicTxParam.deserialize
  let shapingTime ← MessageNet.readCount param.shapingTime
  return ⟨basic, shapingTime⟩

/-- `update`, with the values of the two local variables. -/
def update (param uninitialised : TxParam) : StateM MessageNet TxParam := do
  let basic ← param.toBasicTxParam.update uninitialised.fragmentSize
  let dummyValue ← MessageNet.readCount uninitialised.shapingTime
  if dummyValue ≠ 0 then return ⟨basic, dummyValue⟩ else return ⟨basic, param.shapingTime⟩

/-! ### Streams -/

/-- The object representations of the fields, in the order of the wire. -/
def bytes (param : TxParam) : List UInt8 :=
  LittleEndian.encode 4 param.fragmentSize.toNat ++ LittleEndian.encodeSigned 8 param.shapingTime

/-- The stream holds both fields behind the cursor. -/
def HeldBy (param : TxParam) (stream : MessageNet) : Prop :=
  ∃ rest, stream.unread = param.bytes ++ rest

/-- What is read has the values that are not zero in the first place, and the others from the
second. -/
def mergedWith (fields param : TxParam) : TxParam where
  fragmentSize := if fields.fragmentSize ≠ 0 then fields.fragmentSize else param.fragmentSize
  shapingTime := if fields.shapingTime ≠ 0 then fields.shapingTime else param.shapingTime

/-- The update merges the parameters field by field. A field that the stream is too short for is
unchanged, whatever the local values are. -/
structure Merges (param : TxParam) (stream : MessageNet) : Prop where
  held : ∀ fields : TxParam, MessageNet.FitsInt64 fields.shapingTime → fields.HeldBy stream →
    ∀ uninitialised, (param.update uninitialised stream).1 = fields.mergedWith param
  fragmentSize : stream.length < stream.pos + 4 →
    ∀ uninitialised, (param.update uninitialised stream).1.fragmentSize = param.fragmentSize
  shapingTime : stream.length < stream.pos + 12 →
    ∀ uninitialised, (param.update uninitialised stream).1.shapingTime = param.shapingTime

theorem writes_serialize (param : TxParam) : MessageNet.Writes param.serialize param.bytes := by
  have hbasic : MessageNet.Writes param.toBasicTxParam.serialize
      (LittleEndian.encode 4 param.fragmentSize.toNat ++ []) :=
    (MessageNet.writes_add _).bind fun _ ↦ MessageNet.writes_pure _
  have hboth : MessageNet.Writes param.serialize
      (LittleEndian.encode 4 param.fragmentSize.toNat ++ [] ++
        (LittleEndian.encodeSigned 8 param.shapingTime ++ [])) :=
    hbasic.bind fun _ ↦ (MessageNet.writes_add _).bind fun _ ↦ MessageNet.writes_pure _
  rwa [List.append_nil, List.append_nil] at hboth

/-- A stream that parameters have been serialized to holds their fields. -/
theorem heldBy_serialized (param : TxParam) :
    param.HeldBy (param.serialize MessageNet.new).2.reset := by
  have hroom : param.bytes.length < MessageNet.new.maxSize := by
    have hlength : param.bytes.length = 12 := by simp [bytes]
    rw [hlength]
    decide
  refine ⟨[], ?_⟩
  rw [List.append_nil]
  exact MessageNet.unread_reset (param.writes_serialize.holds_of_new hroom)

/-- What a reader makes of the bytes it finds stays the same when it chooses by them. -/
theorem reads_ite {α : Type} {condition : Prop} [Decidable condition] (first second : α) :
    MessageNet.Reads (if condition then pure first else pure second) []
      (if condition then first else second) := by
  rw [← apply_ite pure]
  exact MessageNet.reads_pure _

/-- From a stream that holds both fields the parameters are merged. -/
theorem reads_update (param uninitialised : TxParam) {fields : TxParam}
    (hfields : MessageNet.FitsInt64 fields.shapingTime) :
    MessageNet.Reads (param.update uninitialised) fields.bytes (fields.mergedWith param) := by
  have hbasic : MessageNet.Reads (param.toBasicTxParam.update uninitialised.fragmentSize)
      (LittleEndian.encode 4 fields.fragmentSize.toNat ++ []) _ :=
    (MessageNet.reads_readUInt32 _ _).bind (reads_ite _ _)
  have hboth : MessageNet.Reads (param.update uninitialised)
      (LittleEndian.encode 4 fields.fragmentSize.toNat ++ [] ++
        (LittleEndian.encodeSigned 8 fields.shapingTime ++ [])) _ :=
    hbasic.bind ((MessageNet.reads_readCount _ hfields).bind (reads_ite _ _))
  have hmerged : (if fields.shapingTime ≠ 0 then
      (⟨if fields.fragmentSize ≠ 0 then ⟨fields.fragmentSize⟩ else param.toBasicTxParam,
        fields.shapingTime⟩ : TxParam)
      else ⟨if fields.fragmentSize ≠ 0 then ⟨fields.fragmentSize⟩ else param.toBasicTxParam,
        param.shapingTime⟩) = fields.mergedWith param := by
    unfold mergedWith
    split_ifs <;> rfl
  rw [List.append_nil, List.append_nil, hmerged] at hboth
  exact hboth

/-- The update merges what has been serialized. -/
theorem update_serialized (param uninitialised : TxParam) {fields : TxParam}
    (hfields : MessageNet.FitsInt64 fields.shapingTime) :
    (param.update uninitialised (fields.serialize MessageNet.new).2.reset).1 =
      fields.mergedWith param := by
  obtain ⟨rest, hunread⟩ := fields.heldBy_serialized
  exact (reads_update param uninitialised hfields _ rest hunread).1

/-! ### Streams that are too short -/

/-- A choice by what has been read does not move the cursor. -/
theorem ite_pure_eq {α : Type} {condition : Prop} [Decidable condition] (first second : α)
    (net : MessageNet) :
    (if condition then pure first else pure second : StateM MessageNet α) net =
      (if condition then first else second, net) := by
  rw [← apply_ite pure]
  rfl

/-- The fragment size does not take the bytes that the shaping time needs. -/
theorem exists_update_basic (param : BasicTxParam) (uninitialised : UInt32) {stream : MessageNet}
    (hshort : stream.length < stream.pos + 12) :
    ∃ basic pos, param.update uninitialised (stream.seek stream.pos) = (basic, stream.seek pos) ∧
      stream.length < pos + 8 := by
  unfold BasicTxParam.update MessageNet.readUInt32
  by_cases hfits : stream.pos + 4 ≤ stream.length
  · rw [MessageNet.readInto_bind_of_le _ _ _ hfits]
    exact ⟨_, stream.pos + 4, ite_pure_eq _ _ _, by omega⟩
  · rw [MessageNet.readInto_bind_of_lt _ _ _ (not_le.mp hfits)]
    exact ⟨_, stream.pos, ite_pure_eq _ _ _, by omega⟩

/-- A stream that does not hold the shaping time leaves it to the local variable. -/
theorem shapingTime_update_of_short (param uninitialised : TxParam)
    (hdummy : uninitialised.shapingTime ≠ 0) {stream : MessageNet}
    (hshort : stream.length < stream.pos + 12) :
    (param.update uninitialised stream).1.shapingTime = uninitialised.shapingTime := by
  obtain ⟨basic, pos, hbasic, hrest⟩ :=
    exists_update_basic param.toBasicTxParam uninitialised.fragmentSize hshort
  have hread : MessageNet.readCount uninitialised.shapingTime (stream.seek pos) =
      (uninitialised.shapingTime, stream.seek pos) := by
    have hbind := MessageNet.readInto_bind_of_lt LittleEndian.decodeSigned
      uninitialised.shapingTime pure hrest
    rwa [bind_pure] at hbind
  show (param.update uninitialised (stream.seek stream.pos)).1.shapingTime = _
  simp only [update, bind, StateT.bind, hbasic, hread]
  rw [if_pos hdummy]
  rfl

/-- For all parameters and all streams: the parameters are merged field by field, whatever the local
values are, precisely when the stream holds both fields. -/
theorem merges_iff (param : TxParam) (stream : MessageNet) :
    Merges param stream ↔ stream.pos + 12 ≤ stream.length := by
  constructor
  · intro hmerges
    by_contra hlong
    have hshort := not_le.mp hlong
    -- The shaping time would have to be both of the local values.
    have hone := shapingTime_update_of_short param ⟨⟨0⟩, 1⟩ (by decide) hshort
    have htwo := shapingTime_update_of_short param ⟨⟨0⟩, 2⟩ (by decide) hshort
    rw [hmerges.shapingTime hshort] at hone htwo
    rw [hone] at htwo
    exact absurd htwo (by decide)
  · intro hlong
    refine ⟨?_, fun hshort ↦ by omega, fun hshort ↦ by omega⟩
    rintro fields hfields ⟨rest, hunread⟩ uninitialised
    exact (reads_update param uninitialised hfields stream rest hunread).1

/-- An empty stream changes the shaping time to the value that the local variable happens to
have. -/
theorem not_merges_new : ¬ Merges ⟨⟨1000⟩, 5⟩ MessageNet.new := by
  intro hmerges
  have hshort : MessageNet.new.length < MessageNet.new.pos + 12 := by decide
  have hunchanged := hmerges.shapingTime hshort ⟨⟨0⟩, 7⟩
  rw [shapingTime_update_of_short _ _ (by decide) hshort] at hunchanged
  exact absurd hunchanged (by decide)

end TxParam
end Tanos
