import Tanos.DataSharing.MessageNet
import Tanos.Library.Runs

/-!
# The cursor of a message buffer

`WordNet` is `MessageNet_t` with the widths of its members, so that positions and lengths wrap
around. `add` and `read` move the one cursor, `reset` puts it back, and `add` counts what it writes
to the length whether it writes behind the length or over what is there. The length therefore
passes the size of the buffer when a buffer is reset and written again
(`not_always_withinBounds_rewritten`), and everything that goes by the length reaches beyond it.

`Buffers` are all buffers of a program, under construction, copies, assignments and operations in
any order. `always_withinBounds_iff` says for which runs every cursor stays within the length, every
length within the size, and every access within its buffer. As long as that is so, a buffer behaves
like the unbounded `MessageNet` (`toMessageNet_add`, `toMessageNet_read`).
-/

set_option autoImplicit false
set_option relaxedAutoImplicit false

namespace Tanos

open Library.Runs

/-- `struct MessageNet_t`, with the widths of its members. -/
structure WordNet where
  buffer : List UInt8
  pos : UInt32
  length : UInt32
  maxSize : UInt32
deriving DecidableEq, Repr

/-- The bytes of a buffer that an operation reads or writes. -/
structure BufferAccess where
  first : ℕ
  count : ℕ
  maxSize : ℕ
deriving DecidableEq, Repr

/-- The access stays within the buffer. -/
def BufferAccess.Within (access : BufferAccess) : Prop :=
  access.first + access.count ≤ access.maxSize

namespace WordNet

/-- `MessageNet_t(size)`. -/
def ofSize (size : UInt32) : WordNet := ⟨List.replicate size.toNat 0, 0, 0, size⟩

/-- `MessageNet_t()`. -/
def new : WordNet := ofSize 1472

/-- The copy constructor. What is behind the length is indeterminate in the source and zero here. -/
def copy (msg : WordNet) : WordNet :=
  { msg with
    buffer := msg.buffer.take msg.length.toNat ++
      List.replicate (msg.maxSize.toNat - msg.length.toNat) 0 }

/-- `operator=` of a buffer to itself, which copies the new buffer to itself. -/
def assignSelf (msg : WordNet) : WordNet :=
  { msg with buffer := List.replicate msg.maxSize.toNat 0 }

/-- The bytes a copy reads of one buffer and writes to the other, of the same size. -/
def copied (msg : WordNet) : BufferAccess := ⟨0, msg.length.toNat, msg.maxSize.toNat⟩

/-- The number of bytes of a value, an `unsigned long`. -/
def sizeOf (val : List UInt8) : UInt64 := UInt64.ofNat val.length

/-- `add`, with `pos + size` in 64 bits. -/
def add (val : List UInt8) (net : WordNet) : WordNet :=
  if net.pos.toUInt64 + sizeOf val < net.maxSize.toUInt64 then
    { net with
      buffer := MessageNet.store net.buffer net.pos.toNat val
      pos := (net.pos.toUInt64 + sizeOf val).toUInt32
      length := (net.length.toUInt64 + sizeOf val).toUInt32 }
  else net

/-- The test of `read`. -/
def Reads (size : UInt64) (net : WordNet) : Prop :=
  net.pos.toUInt64 + size ≤ net.length.toUInt64

instance (size : UInt64) (net : WordNet) : Decidable (net.Reads size) :=
  inferInstanceAs (Decidable (_ ≤ _))

/-- `read`, up to the variable that is read. -/
def read (size : UInt64) (net : WordNet) : WordNet :=
  if net.Reads size then { net with pos := (net.pos.toUInt64 + size).toUInt32 } else net

/-- `reset`. -/
def reset (net : WordNet) : WordNet := { net with pos := 0 }

/-- `clear`. -/
def clear (net : WordNet) : WordNet :=
  { net with
    buffer := MessageNet.store net.buffer 0 (List.replicate net.length.toNat 0)
    pos := 0
    length := 0 }

/-- `update`, after bytes have been received into the buffer. -/
def update (size : UInt32) (net : WordNet) : WordNet := { net with pos := size, length := size }

/-- The cursor is within the length, and the length within the size of the buffer. -/
structure WithinBounds (net : WordNet) : Prop where
  pos_le : net.pos.toNat ≤ net.length.toNat
  length_le : net.length.toNat ≤ net.maxSize.toNat

/-! ### Operations -/

/-- The operations on one buffer. -/
inductive Operation where
  | add (val : List UInt8)
  | read (size : UInt64)
  | reset
  | clear
  | update (size : UInt32)
deriving DecidableEq, Repr

/-- The buffer behind an operation. -/
def apply (net : WordNet) : Operation → WordNet
  | .add val => net.add val
  | .read size => net.read size
  | .reset => net.reset
  | .clear => net.clear
  | .update size => net.update size

/-- The bytes a `read` or a `clear` touches. -/
def accesses (net : WordNet) : Operation → List BufferAccess
  | .add _ => []
  | .read size =>
    if net.Reads size then [⟨net.pos.toNat, size.toNat, net.maxSize.toNat⟩] else []
  | .reset => []
  | .clear => [⟨0, net.length.toNat, net.maxSize.toNat⟩]
  | .update _ => []

/-- The condition on an operation: what `add` accepts fits behind the length as well, and `read`
accepts nothing by a sum that wraps around. -/
def Fits (net : WordNet) : Operation → Prop
  | .add val => net.pos.toNat + (sizeOf val).toNat < net.maxSize.toNat →
      net.length.toNat + (sizeOf val).toNat ≤ net.maxSize.toNat
  | .read size => net.Reads size → net.pos.toNat + size.toNat < 2 ^ 64
  | .reset => True
  | .clear => True
  | .update _ => True

/-- An `update` is for at most as many bytes as the buffer has. -/
def UpdatesWithin (net : WordNet) : Operation → Prop
  | .update size => size.toNat ≤ net.maxSize.toNat
  | _ => True

theorem add_lt_iff (net : WordNet) (val : List UInt8) :
    net.pos.toUInt64 + sizeOf val < net.maxSize.toUInt64 ↔
      (net.pos.toNat + (sizeOf val).toNat) % 2 ^ 64 < net.maxSize.toNat := by
  rw [UInt64.lt_iff_toNat_lt, UInt64.toNat_add, UInt32.toNat_toUInt64, UInt32.toNat_toUInt64]

theorem reads_iff (net : WordNet) (size : UInt64) :
    net.Reads size ↔ (net.pos.toNat + size.toNat) % 2 ^ 64 ≤ net.length.toNat := by
  rw [Reads, UInt64.le_iff_toNat_le, UInt64.toNat_add, UInt32.toNat_toUInt64,
    UInt32.toNat_toUInt64]

/-- A member that a size is added to in 64 bits and that goes back to 32. -/
theorem toNat_add_size (member : UInt32) (size : UInt64) :
    (member.toUInt64 + size).toUInt32.toNat = (member.toNat + size.toNat) % 2 ^ 64 % 2 ^ 32 := by
  rw [UInt64.toNat_toUInt32, UInt64.toNat_add, UInt32.toNat_toUInt64]

theorem withinBounds_ofSize (size : UInt32) : (ofSize size).WithinBounds :=
  ⟨le_rfl, Nat.zero_le _⟩

/-- An addition leaves the cursor in bounds precisely when it fits, or is refused. -/
theorem withinBounds_add_iff {net : WordNet} (h : net.WithinBounds) (val : List UInt8) :
    (net.add val).WithinBounds ↔ net.Fits (.add val) := by
  obtain ⟨hpos, hlength⟩ := h
  have hmax := net.maxSize.toNat_lt
  have hsize := (sizeOf val).toNat_lt
  by_cases haccepted : net.pos.toUInt64 + sizeOf val < net.maxSize.toUInt64
  · have hsum := (net.add_lt_iff val).mp haccepted
    have hbounds : (net.add val).WithinBounds ↔
        (net.pos.toNat + (sizeOf val).toNat) % 2 ^ 64 % 2 ^ 32 ≤
            (net.length.toNat + (sizeOf val).toNat) % 2 ^ 64 % 2 ^ 32 ∧
          (net.length.toNat + (sizeOf val).toNat) % 2 ^ 64 % 2 ^ 32 ≤ net.maxSize.toNat := by
      rw [add, if_pos haccepted, ← toNat_add_size, ← toNat_add_size]
      exact ⟨fun h ↦ ⟨h.1, h.2⟩, fun h ↦ ⟨h.1, h.2⟩⟩
    rw [hbounds, Fits]
    omega
  · have hsum := mt (net.add_lt_iff val).mpr haccepted
    rw [add, if_neg haccepted]
    refine iff_of_true ⟨hpos, hlength⟩ fun hfits ↦ ?_
    omega

/-- A read leaves the cursor in bounds. -/
theorem withinBounds_read {net : WordNet} (h : net.WithinBounds) (size : UInt64) :
    (net.read size).WithinBounds := by
  obtain ⟨hpos, hlength⟩ := h
  rw [read]
  split_ifs with hreads
  · have hsum := (net.reads_iff size).mp hreads
    refine ⟨?_, hlength⟩
    change (net.pos.toUInt64 + size).toUInt32.toNat ≤ net.length.toNat
    rw [toNat_add_size]
    exact (Nat.mod_le _ _).trans hsum
  · exact ⟨hpos, hlength⟩

/-- What a read touches lies within the buffer precisely when the sum does not wrap around. -/
theorem within_read_iff {net : WordNet} (h : net.WithinBounds) (size : UInt64) :
    (∀ access ∈ net.accesses (.read size), access.Within) ↔ net.Fits (.read size) := by
  obtain ⟨hpos, hlength⟩ := h
  have hmax := net.maxSize.toNat_lt
  simp only [accesses, Fits]
  split_ifs with hreads
  · have hsum := (net.reads_iff size).mp hreads
    simp only [List.mem_singleton, forall_eq, BufferAccess.Within, hreads, true_imp_iff]
    omega
  · simp [hreads]

/-- An operation leaves the cursor in bounds and touches the buffer only precisely when it fits and,
if it is an `update`, is for a size of the buffer. -/
theorem withinBounds_apply_iff {net : WordNet} (h : net.WithinBounds) (operation : Operation) :
    ((net.apply operation).WithinBounds ∧
        ∀ access ∈ net.accesses operation, access.Within) ↔
      net.Fits operation ∧ net.UpdatesWithin operation := by
  cases operation with
  | add val => simp [apply, accesses, UpdatesWithin, withinBounds_add_iff h]
  | read size =>
    have hread := withinBounds_read h size
    rw [within_read_iff h]
    exact ⟨fun hboth ↦ ⟨hboth.2, trivial⟩, fun hboth ↦ ⟨hread, hboth.1⟩⟩
  | reset =>
    have hreset : net.reset.WithinBounds := ⟨Nat.zero_le _, h.length_le⟩
    exact iff_of_true ⟨hreset, by simp [accesses]⟩ ⟨trivial, trivial⟩
  | clear =>
    have hclear : net.clear.WithinBounds := ⟨le_rfl, Nat.zero_le _⟩
    refine iff_of_true ⟨hclear, ?_⟩ ⟨trivial, trivial⟩
    simpa [accesses, BufferAccess.Within] using h.length_le
  | update size =>
    constructor
    · rintro ⟨hupdate, -⟩
      exact ⟨trivial, hupdate.length_le⟩
    · rintro ⟨-, hsize⟩
      exact ⟨⟨le_rfl, hsize⟩, by simp [accesses]⟩

/-! ### The unbounded buffer -/

/-- The buffer without the bounds of its members. -/
def toMessageNet (net : WordNet) : MessageNet :=
  ⟨net.buffer, net.pos.toNat, net.length.toNat, net.maxSize.toNat⟩

/-- An addition that fits does to a buffer what it does to the unbounded one. -/
theorem toMessageNet_add {net : WordNet} (h : net.WithinBounds) {val : List UInt8}
    (hval : val.length < 2 ^ 32) (hfits : net.Fits (.add val)) :
    (net.add val).toMessageNet = (MessageNet.add val net.toMessageNet).2 := by
  obtain ⟨hpos, hlength⟩ := h
  have hmax := net.maxSize.toNat_lt
  have hsize : (sizeOf val).toNat = val.length := by
    rw [sizeOf, UInt64.toNat_ofNat']
    omega
  have hiff := net.add_lt_iff val
  rw [Fits, hsize] at hfits
  rw [hsize, Nat.mod_eq_of_lt (by omega)] at hiff
  rw [add, MessageNet.add]
  split_ifs with haccepted hroom hroom
  · have hlt := hfits hroom
    have hnewPos : (net.pos.toUInt64 + sizeOf val).toUInt32.toNat =
        net.pos.toNat + val.length := by
      rw [toNat_add_size, hsize]
      omega
    have hnewLength : (net.length.toUInt64 + sizeOf val).toUInt32.toNat =
        net.length.toNat + val.length := by
      rw [toNat_add_size, hsize]
      omega
    simp only [toMessageNet, hnewPos, hnewLength]
  · exact absurd (hiff.mp haccepted) hroom
  · exact absurd (hiff.mpr hroom) haccepted
  · rfl

/-- So does a read of a variable. -/
theorem toMessageNet_read {net : WordNet} (h : net.WithinBounds) {size : ℕ}
    (hsize : size < 2 ^ 32) :
    (net.read (UInt64.ofNat size)).toMessageNet = (MessageNet.read size net.toMessageNet).2 := by
  obtain ⟨hpos, hlength⟩ := h
  have hmax := net.maxSize.toNat_lt
  have hword : (UInt64.ofNat size).toNat = size := by
    rw [UInt64.toNat_ofNat']
    omega
  have hiff := net.reads_iff (UInt64.ofNat size)
  rw [hword, Nat.mod_eq_of_lt (by omega)] at hiff
  rw [read, MessageNet.read]
  split_ifs with hreads hfits hfits
  · change net.pos.toNat + size ≤ net.length.toNat at hfits
    have hnewPos : (net.pos.toUInt64 + UInt64.ofNat size).toUInt32.toNat =
        net.pos.toNat + size := by
      rw [toNat_add_size, hword]
      omega
    simp only [toMessageNet, hnewPos]
  · exact absurd (hiff.mp hreads) hfits
  · exact absurd (hiff.mpr hfits) hreads
  · rfl

end WordNet

/-! ### All buffers of a program -/

/-- The buffers that have been constructed, and what their operations have touched so far. -/
structure Buffers where
  nets : List WordNet
  touched : List BufferAccess
deriving DecidableEq, Repr

/-- A construction, a copy construction, an assignment, or an operation on a buffer. Buffers are
named by their number in the order of construction. -/
inductive BufferEvent where
  | construct
  | constructSized (size : UInt32)
  | copyConstruct (source : ℕ)
  | assign (target source : ℕ)
  | operate (target : ℕ) (operation : WordNet.Operation)
deriving DecidableEq, Repr

namespace Buffers

/-- No buffer has been constructed. -/
def empty : Buffers := ⟨[], []⟩

/-- One event. Nothing happens to a buffer that is not there. -/
def step (buffers : Buffers) : BufferEvent → Buffers × List Empty
  | .construct => ({ buffers with nets := buffers.nets ++ [WordNet.new] }, [])
  | .constructSized size => ({ buffers with nets := buffers.nets ++ [WordNet.ofSize size] }, [])
  | .copyConstruct source =>
    match buffers.nets[source]? with
    | none => (buffers, [])
    | some msg => (⟨buffers.nets ++ [msg.copy], buffers.touched ++ [msg.copied]⟩, [])
  | .assign target source =>
    match buffers.nets[target]?, buffers.nets[source]? with
    | some _, some msg =>
      let assigned := if target = source then msg.assignSelf else msg.copy
      (⟨buffers.nets.set target assigned, buffers.touched ++ [msg.copied]⟩, [])
    | _, _ => (buffers, [])
  | .operate target operation =>
    match buffers.nets[target]? with
    | none => (buffers, [])
    | some net =>
      (⟨buffers.nets.set target (net.apply operation),
        buffers.touched ++ net.accesses operation⟩, [])

/-- Every cursor is in bounds, and no operation has touched bytes beyond its buffer. -/
structure WithinBounds (buffers : Buffers) : Prop where
  nets : ∀ net ∈ buffers.nets, net.WithinBounds
  touched : ∀ access ∈ buffers.touched, access.Within

/-- The condition on an event: operations on a buffer fit. -/
def Fits (buffers : Buffers) : BufferEvent → Prop
  | .operate target operation => ∀ net ∈ buffers.nets[target]?, net.Fits operation
  | _ => True

/-- An `update` of a buffer is for a size of the buffer. -/
def UpdatesWithin (buffers : Buffers) : BufferEvent → Prop
  | .operate target operation => ∀ net ∈ buffers.nets[target]?, net.UpdatesWithin operation
  | _ => True

/-- With one buffer more. -/
theorem withinBounds_construct {buffers : Buffers} (h : buffers.WithinBounds) {net : WordNet}
    (hnet : net.WithinBounds) {accesses : List BufferAccess}
    (haccesses : ∀ access ∈ accesses, access.Within) :
    WithinBounds ⟨buffers.nets ++ [net], buffers.touched ++ accesses⟩ := by
  refine ⟨List.forall_mem_append.mpr ⟨h.nets, ?_⟩, List.forall_mem_append.mpr ⟨h.touched, ?_⟩⟩
  · exact List.forall_mem_singleton.mpr hnet
  · exact haccesses

/-- With another buffer in the place of one that is there. -/
theorem withinBounds_set_iff {buffers : Buffers} (h : buffers.WithinBounds) {target : ℕ}
    (htarget : target < buffers.nets.length) (net : WordNet) (accesses : List BufferAccess) :
    WithinBounds ⟨buffers.nets.set target net, buffers.touched ++ accesses⟩ ↔
      net.WithinBounds ∧ ∀ access ∈ accesses, access.Within := by
  constructor
  · intro hset
    refine ⟨hset.nets net (List.mem_set htarget net), fun access haccess ↦ ?_⟩
    exact hset.touched access (List.mem_append_right _ haccess)
  · rintro ⟨hnet, haccesses⟩
    refine ⟨fun other hother ↦ ?_, List.forall_mem_append.mpr ⟨h.touched, haccesses⟩⟩
    rcases List.mem_or_eq_of_mem_set hother with hbefore | hnew
    · exact h.nets other hbefore
    · rw [hnew]
      exact hnet

/-- A copy reads and writes what is within the length of its source. -/
theorem within_copied {msg : WordNet} (h : msg.WithinBounds) :
    ∀ access ∈ [msg.copied], access.Within := by
  rintro access haccess
  rw [List.mem_singleton.mp haccess]
  simpa [WordNet.copied, BufferAccess.Within] using h.length_le

/-- An event keeps all cursors in bounds and touches the buffers only precisely when its operation
fits and, if it is an `update`, is for a size of the buffer. -/
theorem withinBounds_step_iff (buffers : Buffers) (event : BufferEvent)
    (h : buffers.WithinBounds) :
    (buffers.step event).1.WithinBounds ↔ buffers.Fits event ∧ buffers.UpdatesWithin event := by
  cases event with
  | construct =>
    have hnew := withinBounds_construct h (WordNet.withinBounds_ofSize 1472)
      (List.forall_mem_nil _)
    rw [List.append_nil] at hnew
    exact iff_of_true hnew ⟨trivial, trivial⟩
  | constructSized size =>
    have hnew := withinBounds_construct h (WordNet.withinBounds_ofSize size)
      (List.forall_mem_nil _)
    rw [List.append_nil] at hnew
    exact iff_of_true hnew ⟨trivial, trivial⟩
  | copyConstruct source =>
    refine iff_of_true ?_ ⟨trivial, trivial⟩
    simp only [step]
    split
    · exact h
    · next msg hsource =>
      have hmsg := h.nets msg (List.mem_of_getElem? hsource)
      have hcopy : msg.copy.WithinBounds := ⟨hmsg.pos_le, hmsg.length_le⟩
      exact withinBounds_construct h hcopy (within_copied hmsg)
  | assign target source =>
    refine iff_of_true ?_ ⟨trivial, trivial⟩
    simp only [step]
    split
    · next _ msg htarget hsource =>
      have hmsg := h.nets msg (List.mem_of_getElem? hsource)
      have hassigned : (if target = source then msg.assignSelf else msg.copy).WithinBounds := by
        split_ifs
        · exact ⟨hmsg.pos_le, hmsg.length_le⟩
        · exact ⟨hmsg.pos_le, hmsg.length_le⟩
      have hlt := (List.getElem?_eq_some_iff.mp htarget).1
      exact (withinBounds_set_iff h hlt _ _).mpr ⟨hassigned, within_copied hmsg⟩
    · exact h
  | operate target operation =>
    cases htarget : buffers.nets[target]? with
    | none =>
      have hstep : (buffers.step (.operate target operation)).1 = buffers := by
        rw [step, htarget]
      rw [hstep]
      exact iff_of_true h ⟨by simp [Fits, htarget], by simp [UpdatesWithin, htarget]⟩
    | some net =>
      have hnet := h.nets net (List.mem_of_getElem? htarget)
      have hlt := (List.getElem?_eq_some_iff.mp htarget).1
      have hstep : (buffers.step (.operate target operation)).1 =
          ⟨buffers.nets.set target (net.apply operation),
            buffers.touched ++ net.accesses operation⟩ := by
        rw [step, htarget]
      rw [hstep, withinBounds_set_iff h hlt, WordNet.withinBounds_apply_iff hnet]
      simp [Fits, UpdatesWithin, htarget]

/-- Assumes: every `update` is for a size of its buffer. Over all runs of constructions, copies,
assignments and operations on any number of buffers, every cursor stays in bounds and no operation
touches bytes beyond its buffer precisely when every operation fits. -/
theorem always_withinBounds_iff {events : List BufferEvent}
    (hupdates : EveryStep step UpdatesWithin empty events) :
    Always step WithinBounds empty events ↔ EveryStep step Fits empty events := by
  have hempty : empty.WithinBounds := ⟨List.forall_mem_nil _, List.forall_mem_nil _⟩
  rw [always_iff_everyStep withinBounds_step_iff hempty, everyStep_and]
  exact and_iff_left hupdates

/-- A buffer of four bytes that bytes are received into and read from, and its copy. -/
theorem always_withinBounds_iff_received :
    let events : List BufferEvent := [.constructSized 4, .operate 0 (.update 4),
      .operate 0 .reset, .operate 0 (.read 2), .copyConstruct 0]
    EveryStep step UpdatesWithin empty events ∧
      (Always step WithinBounds empty events ↔ EveryStep step Fits empty events) := by
  intro events
  have hupdates : EveryStep step UpdatesWithin empty events := by
    simp [events, UpdatesWithin, WordNet.UpdatesWithin, step, empty, WordNet.ofSize]
  exact ⟨hupdates, always_withinBounds_iff hupdates⟩

/-- Three bytes, written twice with a `reset` in between: the buffer of four bytes has a length of
six, and `clear` writes so many. -/
theorem not_always_withinBounds_rewritten :
    let events : List BufferEvent := [.constructSized 4, .operate 0 (.add [1, 2, 3]),
      .operate 0 .reset, .operate 0 (.add [4, 5, 6]), .operate 0 .clear]
    (finalState step empty events).touched = [⟨0, 6, 4⟩] ∧
      ¬ Always step WithinBounds empty events := by
  intro events
  have htouched : (finalState step empty events).touched = [⟨0, 6, 4⟩] := by decide
  refine ⟨htouched, fun halways ↦ ?_⟩
  have hwithin := (halways events (List.prefix_refl events)).touched ⟨0, 6, 4⟩
    (by rw [htouched]; exact List.mem_singleton_self _)
  exact absurd hwithin (by unfold BufferAccess.Within; decide)

end Buffers

end Tanos
