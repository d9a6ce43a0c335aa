import Tanos.ControlCodec
import Tanos.PayloadSize

/-!
# Payloads that are cut off

`RMPayload::deserialize` reads nine fields behind one cursor and does not look whether a read has
failed. A field that does not fit into what is left keeps its value and leaves the cursor where it
is, so that the next field starts there (`Field.cursor`).

On a payload that is cut off, what the following fields find there is too short for them as well,
with one exception: between 8 and 11 bytes the deadline does not fit, and the priority that follows
takes the first half of it. At every other cut a field has its own value or the one it had before
(`notMisread_iff`).
-/

set_option autoImplicit false
set_option relaxedAutoImplicit false

namespace Tanos

open Library

/-- What a variable holds after a read at a position. -/
def MessageNet.readAt {α : Type} (net : MessageNet) (pos size : ℕ) (decode : List UInt8 → α)
    (value : α) : α :=
  if pos + size ≤ net.length then decode ((net.buffer.drop pos).take size) else value

/-- A read and what it does to the cursor. -/
theorem MessageNet.readInto_bind_eq {α β : Type} (size pos : ℕ) (decode : List UInt8 → α)
    (value : α) (next : α → StateM MessageNet β) (net : MessageNet) :
    (readInto size decode value >>= next) (net.seek pos) =
      next (net.readAt pos size decode value)
        (net.seek (RMMessage.advance net.length pos size)) := by
  unfold readAt RMMessage.advance
  split_ifs with hfits
  · exact readInto_bind_of_le decode value next hfits
  · exact readInto_bind_of_lt decode value next (not_le.mp hfits)

namespace RMPayload

/-- The fields, in the order of the wire. -/
inductive Field where
  | objectSize
  | objectDeadline
  | dataConnectionPriority
  | measurementId
  | rmClientAction
  | timestampStop
  | timestampReconfig
  | timestampStart
  | resourceRequestStruct
deriving DecidableEq, Repr

namespace Field

/-- The type of a field. -/
abbrev Value : Field → Type
  | objectSize | dataConnectionPriority | measurementId | rmClientAction => UInt32
  | objectDeadline => ℤ
  | timestampStop | timestampReconfig | timestampStart => Timespec
  | resourceRequestStruct => List UInt8

/-- The value of a field. -/
def get (payload : RMPayload) : (field : Field) → field.Value
  | objectSize => payload.objectSize
  | objectDeadline => payload.objectDeadline
  | dataConnectionPriority => payload.dataConnectionPriority
  | measurementId => payload.measurementId
  | rmClientAction => payload.rmClientAction
  | timestampStop => payload.timestampStop
  | timestampReconfig => payload.timestampReconfig
  | timestampStart => payload.timestampStart
  | resourceRequestStruct => payload.resourceRequestStruct

/-- The number of bytes of a field. -/
def size : Field → ℕ
  | objectSize | dataConnectionPriority | measurementId | rmClientAction => 4
  | objectDeadline => 8
  | timestampStop | timestampReconfig | timestampStart => 16
  | resourceRequestStruct => sizeofResourceRequest

/-- The value of a field in its bytes. -/
def decode : (field : Field) → List UInt8 → field.Value
  | objectSize | dataConnectionPriority | measurementId | rmClientAction =>
    fun bytes ↦ UInt32.ofNat (LittleEndian.decode bytes)
  | objectDeadline => LittleEndian.decodeSigned
  | timestampStop | timestampReconfig | timestampStart => fun bytes ↦
    ⟨LittleEndian.decodeSigned (bytes.take 8), LittleEndian.decodeSigned (bytes.drop 8)⟩
  | resourceRequestStruct => id

/-- The fields before a field. -/
def before : Field → List Field
  | objectSize => []
  | objectDeadline => [objectSize]
  | dataConnectionPriority => [objectSize, objectDeadline]
  | measurementId => [objectSize, objectDeadline, dataConnectionPriority]
  | rmClientAction => [objectSize, objectDeadline, dataConnectionPriority, measurementId]
  | timestampStop =>
    [objectSize, objectDeadline, dataConnectionPriority, measurementId, rmClientAction]
  | timestampReconfig =>
    [objectSize, objectDeadline, dataConnectionPriority, measurementId, rmClientAction,
      timestampStop]
  | timestampStart =>
    [objectSize, objectDeadline, dataConnectionPriority, measurementId, rmClientAction,
      timestampStop, timestampReconfig]
  | resourceRequestStruct =>
    [objectSize, objectDeadline, dataConnectionPriority, measurementId, rmClientAction,
      timestampStop, timestampReconfig, timestampStart]

/-- The position of the bytes of a field. -/
def offset (field : Field) : ℕ := (field.before.map size).sum

/-- The position at which a field is read from a buffer with a written length. -/
def cursor (length : ℕ) (field : Field) : ℕ :=
  (field.before.map size).foldl (RMMessage.advance length) 0

/-- Every field is read at its cursor. -/
theorem get_deserialize (field : Field) (old : RMPayload) (net : MessageNet) :
    field.get (old.deserialize (net.seek 0)).1 =
      net.readAt (field.cursor net.length) field.size field.decode (field.get old) := by
  unfold deserialize MessageNet.readUInt32 MessageNet.readCount MessageNet.readTimespec
  rw [MessageNet.readInto_bind_eq, MessageNet.readInto_bind_eq, MessageNet.readInto_bind_eq,
    MessageNet.readInto_bind_eq, MessageNet.readInto_bind_eq, MessageNet.readInto_bind_eq,
    MessageNet.readInto_bind_eq, MessageNet.readInto_bind_eq, MessageNet.readInto_bind_eq]
  cases field <;> rfl

/-- No field is read behind its position. -/
theorem cursor_le_offset (length : ℕ) (field : Field) : field.cursor length ≤ field.offset := by
  have hle : ∀ (sizes : List ℕ) (pos : ℕ),
      sizes.foldl (RMMessage.advance length) pos ≤ pos + sizes.sum := by
    intro sizes
    induction sizes with
    | nil => exact fun pos ↦ le_rfl
    | cons size rest ih =>
      intro pos
      have hnext : RMMessage.advance length pos size ≤ pos + size := by
        unfold RMMessage.advance
        split_ifs <;> omega
      rw [List.foldl_cons, List.sum_cons]
      exact (ih _).trans (by omega)
  have hcursor := hle (field.before.map size) 0
  rwa [Nat.zero_add] at hcursor

/-- The cursor is at the position of the field, or the field does not fit behind it. -/
def Settled (length pos offset size : ℕ) : Prop := pos = offset ∨ length < pos + size

/-- A field that is settled settles the next one, if that does not fit where it does not fit. -/
theorem Settled.next {length pos offset size next : ℕ} (h : Settled length pos offset size)
    (hnext : length < pos + size → length < pos + next) :
    Settled length (RMMessage.advance length pos size) (offset + size) next := by
  unfold RMMessage.advance
  split_ifs with hfits
  · rcases h with hpos | hshort
    · exact Or.inl (by rw [hpos])
    · omega
  · exact Or.inr (hnext (not_le.mp hfits))

/-- On a payload that is cut off before the eighth or behind the eleventh byte every field is
settled. -/
theorem settled_cursor {length : ℕ} (hlength : length < 8 ∨ 12 ≤ length) (field : Field) :
    Settled length (field.cursor length) field.offset field.size := by
  have hsize : Settled length 0 0 4 := Or.inl rfl
  have hdeadline : Settled length _ 4 8 := hsize.next fun h ↦ by omega
  -- The deadline is the only field with a shorter one behind it.
  have hpriority : Settled length _ 12 4 := hdeadline.next fun h ↦ by
    unfold RMMessage.advance at *
    split_ifs at * <;> omega
  have hmeasurement : Settled length _ 16 4 := hpriority.next id
  have haction : Settled length _ 20 4 := hmeasurement.next id
  have hstop : Settled length _ 24 16 := haction.next fun h ↦ by omega
  have hreconfig : Settled length _ 40 16 := hstop.next id
  have hstart : Settled length _ 56 16 := hreconfig.next id
  have hrequest : Settled length _ 72 64 := hstart.next fun h ↦ by omega
  cases field with
  | objectSize => exact hsize
  | objectDeadline => exact hdeadline
  | dataConnectionPriority => exact hpriority
  | measurementId => exact hmeasurement
  | rmClientAction => exact haction
  | timestampStop => exact hstop
  | timestampReconfig => exact hreconfig
  | timestampStart => exact hstart
  | resourceRequestStruct => exact hrequest

/-! ### The bytes of a field -/

theorem decode_encode_uint32 (value : UInt32) :
    UInt32.ofNat (LittleEndian.decode (LittleEndian.encode 4 value.toNat)) = value := by
  rw [LittleEndian.decode_encode_of_lt value.toNat_lt, UInt32.ofNat_toNat]

theorem decode_timespecBytes {time : Timespec} (htime : MessageNet.FitsTimespec time) :
    (⟨LittleEndian.decodeSigned ((MessageNet.timespecBytes time).take 8),
      LittleEndian.decodeSigned ((MessageNet.timespecBytes time).drop 8)⟩ : Timespec) = time := by
  have htake : (MessageNet.timespecBytes time).take 8 = LittleEndian.encodeSigned 8 time.tvSec :=
    rfl
  have hdrop : (MessageNet.timespecBytes time).drop 8 = LittleEndian.encodeSigned 8 time.tvNsec :=
    rfl
  rw [htake, hdrop, MessageNet.decodeSigned_encodeSigned_of_fitsInt64 htime.1,
    MessageNet.decodeSigned_encodeSigned_of_fitsInt64 htime.2]

/-- The bytes at the position of a field are those of its value. -/
theorem decode_bytes (field : Field) {payload : RMPayload} (h : payload.Representable) :
    field.decode ((payload.bytes.drop field.offset).take field.size) = field.get payload := by
  cases field with
  | objectSize => exact decode_encode_uint32 payload.objectSize
  | objectDeadline => exact MessageNet.decodeSigned_encodeSigned_of_fitsInt64 h.objectDeadline
  | dataConnectionPriority => exact decode_encode_uint32 payload.dataConnectionPriority
  | measurementId => exact decode_encode_uint32 payload.measurementId
  | rmClientAction => exact decode_encode_uint32 payload.rmClientAction
  | timestampStop => exact decode_timespecBytes h.timestampStop
  | timestampReconfig => exact decode_timespecBytes h.timestampReconfig
  | timestampStart => exact decode_timespecBytes h.timestampStart
  | resourceRequestStruct =>
    change (payload.resourceRequestStruct ++ []).take sizeofResourceRequest = _
    rw [List.append_nil, ← h.resourceRequestStruct, List.take_length]
    rfl

end Field

/-! ### What is read from a payload that is cut off -/

/-- A buffer with the first bytes of a payload, and any bytes behind them. -/
def truncated (payload : RMPayload) (cut : ℕ) (behind : List UInt8) : MessageNet :=
  ⟨payload.bytes.take cut ++ behind, 0, (payload.bytes.take cut).length, maxLength⟩

/-- No field is misread: each has its own value or the one before, and what it has does not depend
on the other fields of the payload. -/
structure NotMisread (payload old : RMPayload) (cut : ℕ) (behind : List UInt8) : Prop where
  value : ∀ field : Field,
    field.get (old.deserialize (payload.truncated cut behind)).1 = field.get payload ∨
      field.get (old.deserialize (payload.truncated cut behind)).1 = field.get old
  ownBytes : ∀ (field : Field) (other : RMPayload), other.Representable →
    field.get other = field.get payload →
      field.get (old.deserialize (other.truncated cut behind)).1 =
        field.get (old.deserialize (payload.truncated cut behind)).1

section

variable {payload : RMPayload} (hpayload : payload.Representable) (old : RMPayload) {cut : ℕ}
  (hcut : cut < 136) (behind : List UInt8)

include hpayload hcut

theorem length_truncated : (payload.truncated cut behind).length = cut := by
  have hlength := length_bytes hpayload
  change (payload.bytes.take cut).length = cut
  rw [List.length_take, hlength]
  omega

/-- The bytes within the cut are those of the payload. -/
theorem take_drop_truncated {pos size : ℕ} (hfits : pos + size ≤ cut) :
    ((payload.truncated cut behind).buffer.drop pos).take size =
      (payload.bytes.drop pos).take size := by
  have hlength : (payload.bytes.take cut).length = cut :=
    length_truncated hpayload hcut behind
  have hwithin : size ≤ ((payload.bytes.take cut).drop pos).length := by
    rw [List.length_drop, hlength]
    omega
  change ((payload.bytes.take cut ++ behind).drop pos).take size = _
  rw [List.drop_append_of_le_length (by omega), List.take_append_of_le_length hwithin,
    List.drop_take, List.take_take, min_eq_left (by omega)]

/-- Every field is read at its cursor. -/
theorem get_deserialize_truncated_eq (field : Field) :
    field.get (old.deserialize (payload.truncated cut behind)).1 =
      if field.cursor cut + field.size ≤ cut then
        field.decode (((payload.truncated cut behind).buffer.drop (field.cursor cut)).take
          field.size)
      else field.get old := by
  have hseek : (payload.truncated cut behind).seek 0 = payload.truncated cut behind := rfl
  have hread := Field.get_deserialize field old (payload.truncated cut behind)
  rwa [hseek, length_truncated hpayload hcut behind, MessageNet.readAt,
    length_truncated hpayload hcut behind] at hread

/-- At every cut but those within the second half of the deadline, a field is read precisely when
all its bytes are there. -/
theorem get_deserialize_truncated (hwhole : cut < 8 ∨ 12 ≤ cut) (field : Field) :
    field.get (old.deserialize (payload.truncated cut behind)).1 =
      if field.offset + field.size ≤ cut then field.get payload else field.get old := by
  have hsettled := Field.settled_cursor hwhole field
  have hbefore := Field.cursor_le_offset cut field
  rw [get_deserialize_truncated_eq hpayload old hcut behind]
  split_ifs with hfits hown hown
  · rcases hsettled with hcursor | hshort
    · rw [hcursor, take_drop_truncated hpayload hcut behind hown]
      exact field.decode_bytes hpayload
    · exact absurd hfits (not_le.mpr hshort)
  · rcases hsettled with hcursor | hshort
    · exact absurd (hcursor ▸ hfits) hown
    · exact absurd hfits (not_le.mpr hshort)
  · omega
  · rfl

/-- Within the second half of the deadline the priority takes the first half of it. -/
theorem get_deserialize_truncated_priority (hlower : 8 ≤ cut) (hupper : cut < 12) :
    Field.get (old.deserialize (payload.truncated cut behind)).1 .dataConnectionPriority =
      Field.decode .dataConnectionPriority ((payload.bytes.drop 4).take 4) := by
  have hcursor : Field.cursor cut .dataConnectionPriority = 4 := by
    have hsize : RMMessage.advance cut 0 4 = 4 := if_pos (by omega)
    have hdeadline : RMMessage.advance cut 4 8 = 4 := if_neg (by omega)
    change RMMessage.advance cut (RMMessage.advance cut 0 4) 8 = 4
    rw [hsize, hdeadline]
  have hfits : 4 + Field.size .dataConnectionPriority ≤ cut := hlower
  rw [get_deserialize_truncated_eq hpayload old hcut behind, hcursor, if_pos hfits,
    take_drop_truncated hpayload hcut behind hfits]
  rfl

/-- The priority that is read within the second half of the deadline is that of the deadline, and
not of the payload. -/
theorem priority_of_ownBytes (hlower : 8 ≤ cut) (hupper : cut < 12)
    (hmisread : NotMisread payload old cut behind) {deadline : ℤ}
    (hdeadline : MessageNet.FitsInt64 deadline) :
    Field.get (old.deserialize (payload.truncated cut behind)).1 .dataConnectionPriority =
      UInt32.ofNat (LittleEndian.decode ((LittleEndian.encodeSigned 8 deadline).take 4)) := by
  have hother : Representable { payload with objectDeadline := deadline } :=
    { hpayload with objectDeadline := hdeadline }
  rw [← hmisread.ownBytes .dataConnectionPriority _ hother rfl]
  exact get_deserialize_truncated_priority hother old hcut behind hlower hupper

/-- Assumes: the fields have values of their types. Whatever payload a proper prefix of the bytes is
read into, and whatever is behind it in the buffer, no field is misread precisely when the prefix
does not end within the second half of the deadline. -/
theorem notMisread_iff :
    NotMisread payload old cut behind ↔ cut < 8 ∨ 12 ≤ cut := by
  constructor
  · intro hmisread
    by_contra hwithin
    have hlower : 8 ≤ cut := by omega
    have hupper : cut < 12 := by omega
    have hdeadline := fun (deadline : ℤ) (hfits : MessageNet.FitsInt64 deadline) ↦
      priority_of_ownBytes hpayload old hcut behind hlower hupper hmisread hfits
    have hzero := hdeadline 0 (by decide)
    have hone := hdeadline 1 (by decide)
    rw [hzero] at hone
    exact absurd hone (by decide)
  · intro hwhole
    constructor
    · intro field
      rw [get_deserialize_truncated hpayload old hcut behind hwhole]
      split_ifs
      · exact Or.inl rfl
      · exact Or.inr rfl
    · intro field other hother hfield
      rw [get_deserialize_truncated hpayload old hcut behind hwhole,
        get_deserialize_truncated hother old hcut behind hwhole, hfield]

end

/-- A payload that is cut off within its resource request. -/
theorem notMisread_iff_request :
    NotMisread blank blank 100 [] ↔ 100 < 8 ∨ 12 ≤ 100 := by
  have hblank : blank.Representable := ⟨by decide, by decide, by decide, by decide, rfl⟩
  exact notMisread_iff hblank blank (by decide) []

/-- Ten bytes of a payload with a deadline of 7: the priority becomes 7. -/
theorem not_notMisread_tenBytes :
    let payload := { blank with objectDeadline := 7 }
    payload.Representable ∧
      (blank.deserialize (payload.truncated 10 [])).1.dataConnectionPriority = 7 ∧
      ¬ NotMisread payload blank 10 [] := by
  intro payload
  have hpayload : payload.Representable := ⟨by decide, by decide, by decide, by decide, rfl⟩
  have hpriority := get_deserialize_truncated_priority hpayload blank
    (by decide : 10 < 136) [] (by decide) (by decide)
  have hdecoded : Field.decode .dataConnectionPriority ((payload.bytes.drop 4).take 4) =
      (7 : UInt32) := by
    decide
  have hseven : (blank.deserialize (payload.truncated 10 [])).1.dataConnectionPriority = 7 :=
    hpriority.trans hdecoded
  refine ⟨hpayload, hseven, fun hmisread ↦ ?_⟩
  rcases hmisread.value .dataConnectionPriority with hown | hold
  · exact absurd (hseven.symm.trans hown) (by decide)
  · exact absurd (hseven.symm.trans hold) (by decide)

end RMPayload

end Tanos
