import Mathlib.Data.List.Basic
import Tanos.Attributes.Timespec
import Tanos.Library.LittleEndian

/-!
# Message buffers

`MessageNet` is the byte buffer that messages and payloads are written to and read from, with one
cursor for both directions. `add` refuses what would reach the end of the buffer and `read` what
lies beyond the written length; both then leave the buffer as it is, and no caller looks at their
results. `readInto` is the way callers use `read`: the variable keeps its value when nothing is
read.

A fresh buffer holds indeterminate bytes in the source and zeros here.

`Writes` says what a writer appends to a buffer that has room for it, and `Reads` what a reader
makes of the bytes it finds behind the cursor. Both are closed under sequencing, so that a record
that is written field by field is read back field by field.
-/

set_option autoImplicit false
set_option relaxedAutoImplicit false

namespace Tanos

open Library

/-- `max_length`, the size of a buffer unless another one is asked for. -/
def maxLength : ℕ := 1472

/-- `struct MessageNet_t`. -/
structure MessageNet where
  buffer : List UInt8
  pos : ℕ
  length : ℕ
  maxSize : ℕ
deriving DecidableEq, Repr

namespace MessageNet

/-- `MessageNet_t(size)`. -/
def ofSize (size : ℕ) : MessageNet := ⟨List.replicate size 0, 0, 0, size⟩

/-- `MessageNet_t()`. -/
def new : MessageNet := ofSize maxLength

/-- `memcpy(buffer + pos, val, size)`. -/
def store (buffer : List UInt8) (pos : ℕ) (val : List UInt8) : List UInt8 :=
  buffer.take pos ++ val ++ buffer.drop (pos + val.length)

/-- What is stored at the beginning of a buffer is found there. -/
theorem take_store_zero (buffer val : List UInt8) :
    (store buffer 0 val).take val.length = val := by
  rw [store, List.take_zero, List.nil_append]
  exact List.take_left

/-- `add`: whether the value has been added, where the source returns `0` or `-1`. -/
def add (val : List UInt8) : StateM MessageNet Bool := fun net ↦
  if net.pos + val.length < net.maxSize then
    (true, { net with
      buffer := store net.buffer net.pos val
      pos := net.pos + val.length
      length := net.length + val.length })
  else (false, net)

/-- `reset`. -/
def reset (net : MessageNet) : MessageNet := { net with pos := 0 }

/-- `read`: the bytes read, or none where the source returns `-1`. -/
def read (size : ℕ) : StateM MessageNet (Option (List UInt8)) := fun net ↦
  if net.pos + size ≤ net.length then
    (some ((net.buffer.drop net.pos).take size), { net with pos := net.pos + size })
  else (none, net)

/-- Reading into a variable, which keeps its value when nothing is read. -/
def readInto {α : Type} (size : ℕ) (decode : List UInt8 → α) (value : α) : StateM MessageNet α := do
  match ← read size with
  | some bytes => return decode bytes
  | none => return value

/-! ### Fields -/

/-- Reading a `uint8_t`. -/
def readUInt8 : UInt8 → StateM MessageNet UInt8 :=
  readInto 1 fun bytes ↦ UInt8.ofNat (LittleEndian.decode bytes)

/-- Reading a `uint32_t` or an enumeration. -/
def readUInt32 : UInt32 → StateM MessageNet UInt32 :=
  readInto 4 fun bytes ↦ UInt32.ofNat (LittleEndian.decode bytes)

/-- Reading a `uint64_t`. -/
def readUInt64 : UInt64 → StateM MessageNet UInt64 :=
  readInto 8 fun bytes ↦ UInt64.ofNat (LittleEndian.decode bytes)

/-- Reading a `std::chrono` count or time point. -/
def readCount : ℤ → StateM MessageNet ℤ := readInto 8 LittleEndian.decodeSigned

/-- Reading a `struct timespec`, seconds before nanoseconds. -/
def readTimespec : Timespec → StateM MessageNet Timespec :=
  readInto 16 fun bytes ↦
    ⟨LittleEndian.decodeSigned (bytes.take 8), LittleEndian.decodeSigned (bytes.drop 8)⟩

/-- The object representation of a `struct timespec`. -/
def timespecBytes (time : Timespec) : List UInt8 :=
  LittleEndian.encodeSigned 8 time.tvSec ++ LittleEndian.encodeSigned 8 time.tvNsec

@[simp] theorem length_timespecBytes (time : Timespec) : (timespecBytes time).length = 16 := by
  simp [timespecBytes]

/-! ### Writing in sequence -/

/-- The buffer holds the given bytes and nothing else, with the cursor behind them. -/
structure Holds (net : MessageNet) (bytes : List UInt8) : Prop where
  pos_eq : net.pos = bytes.length
  length_eq : net.length = bytes.length
  take_eq : net.buffer.take bytes.length = bytes

/-- The writer appends the given bytes to every buffer that has room for them. -/
def Writes {α : Type} (writer : StateM MessageNet α) (bytes : List UInt8) : Prop :=
  ∀ net earlier, net.Holds earlier → earlier.length + bytes.length < net.maxSize →
    (writer net).2.Holds (earlier ++ bytes) ∧ (writer net).2.maxSize = net.maxSize

theorem holds_new : new.Holds [] := ⟨rfl, rfl, rfl⟩

theorem writes_add (val : List UInt8) : Writes (add val) val := by
  intro net earlier hearlier hroom
  have hadd : add val net = (true, { net with
      buffer := store net.buffer net.pos val
      pos := net.pos + val.length
      length := net.length + val.length }) :=
    if_pos (by rw [hearlier.pos_eq]; exact hroom)
  rw [hadd]
  refine ⟨⟨?_, ?_, ?_⟩, rfl⟩
  · rw [List.length_append, hearlier.pos_eq]
  · rw [List.length_append, hearlier.length_eq]
  · change (store net.buffer net.pos val).take (earlier ++ val).length = earlier ++ val
    rw [store, hearlier.pos_eq, hearlier.take_eq]
    exact List.take_left

theorem writes_pure {α : Type} (value : α) : Writes (pure value) [] := by
  intro net earlier hearlier _
  rw [List.append_nil]
  exact ⟨hearlier, rfl⟩

theorem Writes.bind {α β : Type} {writer : StateM MessageNet α} {next : α → StateM MessageNet β}
    {bytes later : List UInt8} (hwriter : Writes writer bytes)
    (hnext : ∀ value, Writes (next value) later) : Writes (writer >>= next) (bytes ++ later) := by
  intro net earlier hearlier hroom
  rw [List.length_append] at hroom
  obtain ⟨hholds, hsize⟩ := hwriter net earlier hearlier (by omega)
  rw [← List.append_assoc, ← hsize]
  refine hnext _ _ _ hholds ?_
  rw [List.length_append, hsize]
  omega

/-- A new buffer holds what a writer has written to it. -/
theorem Writes.holds_of_new {α : Type} {writer : StateM MessageNet α} {bytes : List UInt8}
    (hwriter : Writes writer bytes) (hroom : bytes.length < new.maxSize) :
    (writer new).2.Holds bytes := by
  have hempty : ([] : List UInt8).length + bytes.length < new.maxSize := by
    rwa [List.length_nil, zero_add]
  exact (hwriter new [] holds_new hempty).1

/-! ### Reading in sequence -/

/-- The bytes from the cursor to the end of what has been written. -/
def unread (net : MessageNet) : List UInt8 := (net.buffer.take net.length).drop net.pos

/-- The reader takes the given bytes away and makes the value of them. -/
def Reads {α : Type} (reader : StateM MessageNet α) (bytes : List UInt8) (value : α) : Prop :=
  ∀ net rest, net.unread = bytes ++ rest →
    (reader net).1 = value ∧ (reader net).2.unread = rest

theorem unread_reset {net : MessageNet} {bytes : List UInt8} (hholds : net.Holds bytes) :
    net.reset.unread = bytes := by
  change (net.buffer.take net.length).drop 0 = bytes
  rw [List.drop_zero, hholds.length_eq, hholds.take_eq]

/-- Reading takes the first bytes off the unread ones. -/
theorem read_of_unread {net : MessageNet} {bytes rest : List UInt8} (hne : bytes ≠ [])
    (hunread : net.unread = bytes ++ rest) :
    (read bytes.length net).1 = some bytes ∧ (read bytes.length net).2.unread = rest := by
  have hpositive := List.length_pos_iff.mpr hne
  have hlength := congrArg List.length hunread
  simp only [unread, List.length_drop, List.length_take, List.length_append] at hlength
  have hread : read bytes.length net =
      (some ((net.buffer.drop net.pos).take bytes.length),
        { net with pos := net.pos + bytes.length }) := if_pos (by omega)
  rw [hread]
  constructor
  · have htake := congrArg (List.take bytes.length) hunread
    rw [List.take_left, unread, List.drop_take, List.take_take, min_eq_left (by omega)] at htake
    exact congrArg some htake
  · have hdrop := congrArg (List.drop bytes.length) hunread
    rw [List.drop_left, unread, List.drop_drop] at hdrop
    exact hdrop

theorem reads_readInto {α : Type} {size : ℕ} {decode : List UInt8 → α} (value : α)
    {bytes : List UInt8} (hsize : bytes.length = size) (hne : bytes ≠ []) :
    Reads (readInto size decode value) bytes (decode bytes) := by
  intro net rest hunread
  obtain ⟨hsome, hrest⟩ := read_of_unread hne hunread
  rw [hsize] at hsome hrest
  have hread : read size net = (some bytes, (read size net).2) := Prod.ext hsome rfl
  have hreadInto : readInto size decode value net = (decode bytes, (read size net).2) := by
    simp only [readInto, bind, StateT.bind]
    rw [hread]
    rfl
  rw [hreadInto]
  exact ⟨rfl, hrest⟩

theorem reads_pure {α : Type} (value : α) : Reads (pure value) [] value :=
  fun _ _ hunread ↦ ⟨rfl, hunread⟩

theorem Reads.bind {α β : Type} {reader : StateM MessageNet α} {next : α → StateM MessageNet β}
    {bytes later : List UInt8} {value : α} {result : β} (hreader : Reads reader bytes value)
    (hnext : Reads (next value) later result) :
    Reads (reader >>= next) (bytes ++ later) result := by
  intro net rest hunread
  rw [List.append_assoc] at hunread
  obtain ⟨rfl, hrest⟩ := hreader net _ hunread
  exact hnext _ _ hrest

/-! ### Reading from a position -/

/-- The buffer with the cursor at a position. -/
def seek (net : MessageNet) (pos : ℕ) : MessageNet := { net with pos := pos }

@[simp] theorem length_seek (net : MessageNet) (pos : ℕ) : (net.seek pos).length = net.length := rfl

@[simp] theorem pos_seek (net : MessageNet) (pos : ℕ) : (net.seek pos).pos = pos := rfl

theorem get_bind {β : Type} (next : MessageNet → StateM MessageNet β) (net : MessageNet) :
    (get >>= next) net = next net net := rfl

/-- A variable takes the value of the bytes at the cursor if all of them have been written. -/
theorem readInto_bind_of_le {α β : Type} {size pos : ℕ} (decode : List UInt8 → α) (value : α)
    (next : α → StateM MessageNet β) {net : MessageNet} (hfits : pos + size ≤ net.length) :
    (readInto size decode value >>= next) (net.seek pos) =
      next (decode ((net.buffer.drop pos).take size)) (net.seek (pos + size)) := by
  have hread : read size (net.seek pos) =
      (some ((net.buffer.drop pos).take size), net.seek (pos + size)) := if_pos hfits
  simp only [readInto, bind, StateT.bind]
  rw [hread]
  rfl

/-- Otherwise it keeps its value, and the cursor stays. -/
theorem readInto_bind_of_lt {α β : Type} {size pos : ℕ} (decode : List UInt8 → α) (value : α)
    (next : α → StateM MessageNet β) {net : MessageNet} (hshort : net.length < pos + size) :
    (readInto size decode value >>= next) (net.seek pos) = next value (net.seek pos) := by
  have hread : read size (net.seek pos) = (none, net.seek pos) := if_neg (not_le.mpr hshort)
  simp only [readInto, bind, StateT.bind]
  rw [hread]
  rfl

/-- Reading moves the cursor only. -/
theorem length_readInto {α : Type} (size : ℕ) (decode : List UInt8 → α) (value : α)
    (net : MessageNet) : (readInto size decode value net).2.length = net.length := by
  by_cases hfits : net.pos + size ≤ net.length
  · have hread := readInto_bind_of_le decode value pure hfits
    rw [bind_pure] at hread
    exact congrArg (fun result ↦ result.2.length) hread
  · have hread := readInto_bind_of_lt decode value pure (not_le.mp hfits)
    rw [bind_pure] at hread
    exact congrArg (fun result ↦ result.2.length) hread

/-- Whatever is in the buffer, the value of the reader has a property. -/
def Yields {α : Type} (reader : StateM MessageNet α) (property : α → Prop) : Prop :=
  ∀ net, property (reader net).1

theorem yields_pure {α : Type} {property : α → Prop} {value : α} (hvalue : property value) :
    Yields (pure value) property :=
  fun _ ↦ hvalue

theorem Yields.bind {α β : Type} {reader : StateM MessageNet α} {next : α → StateM MessageNet β}
    {property : β → Prop} (hnext : ∀ value, Yields (next value) property) :
    Yields (reader >>= next) property :=
  fun net ↦ hnext (reader net).1 (reader net).2

/-! ### Reading fields -/

theorem reads_readUInt32 (old value : UInt32) :
    Reads (readUInt32 old) (LittleEndian.encode 4 value.toNat) value := by
  have hreads : Reads (readUInt32 old) (LittleEndian.encode 4 value.toNat) _ :=
    reads_readInto old (LittleEndian.length_encode 4 _) (List.cons_ne_nil _ _)
  rwa [LittleEndian.decode_encode_of_lt value.toNat_lt, UInt32.ofNat_toNat] at hreads

/-- A value of a signed 64-bit field. -/
def FitsInt64 (value : ℤ) : Prop := -2 ^ 63 ≤ value ∧ value < 2 ^ 63

instance (value : ℤ) : Decidable (FitsInt64 value) := inferInstanceAs (Decidable (_ ∧ _))

theorem decodeSigned_encodeSigned_of_fitsInt64 {value : ℤ} (hvalue : FitsInt64 value) :
    LittleEndian.decodeSigned (LittleEndian.encodeSigned 8 value) = value := by
  obtain ⟨hlower, hupper⟩ := hvalue
  refine LittleEndian.decodeSigned_encodeSigned_of_le ?_ ?_ <;> omega

/-- A value of a `struct timespec` with 64-bit members. -/
def FitsTimespec (time : Timespec) : Prop := FitsInt64 time.tvSec ∧ FitsInt64 time.tvNsec

instance (time : Timespec) : Decidable (FitsTimespec time) := inferInstanceAs (Decidable (_ ∧ _))

theorem reads_readCount (old : ℤ) {value : ℤ} (hvalue : FitsInt64 value) :
    Reads (readCount old) (LittleEndian.encodeSigned 8 value) value := by
  have hreads : Reads (readCount old) (LittleEndian.encodeSigned 8 value) _ :=
    reads_readInto old (LittleEndian.length_encodeSigned 8 _) (List.cons_ne_nil _ _)
  rwa [decodeSigned_encodeSigned_of_fitsInt64 hvalue] at hreads

theorem reads_readTimespec (old : Timespec) {time : Timespec} (htime : FitsTimespec time) :
    Reads (readTimespec old) (timespecBytes time) time := by
  have hreads : Reads (readTimespec old) (timespecBytes time) _ :=
    reads_readInto old (length_timespecBytes time) (List.cons_ne_nil _ _)
  have htake : (timespecBytes time).take 8 = LittleEndian.encodeSigned 8 time.tvSec := rfl
  have hdrop : (timespecBytes time).drop 8 = LittleEndian.encodeSigned 8 time.tvNsec := rfl
  rwa [htake, hdrop, decodeSigned_encodeSigned_of_fitsInt64 htime.1,
    decodeSigned_encodeSigned_of_fitsInt64 htime.2] at hreads

end MessageNet

end Tanos
