import Tanos.DataSharing.BufferCursor

/-!
# Fields in a message buffer, one after the other

A buffer is filled by a sequence of `add`, put back by `reset` and emptied by a sequence of `read`.
`fitting` are the values of a sequence that fit, each behind those before it, and these are the
values that `add` accepts (`between_outputs_addStep`). Reading with their sizes gives them back in
order (`between_outputs_readStep`).

The two ends of a buffer are where the tests show. Behind the last field `read` still accepts a size
with which `pos + size` wraps around (`readsBack_iff`), and `add` refuses the value that would fill
the buffer to its last byte, which `read` would have read (`usesCapacity_iff`).
-/

set_option autoImplicit false
set_option relaxedAutoImplicit false

namespace Tanos

open Library.Runs

namespace WordNet

/-- The test of `add`. -/
def Accepts (val : List UInt8) (net : WordNet) : Prop :=
  net.pos.toUInt64 + sizeOf val < net.maxSize.toUInt64

instance (val : List UInt8) (net : WordNet) : Decidable (net.Accepts val) :=
  inferInstanceAs (Decidable (_ < _))

/-- One `add`, which emits the value where the source returns `0` and nothing where it
returns `-1`. -/
def addStep (net : WordNet) (val : List UInt8) : WordNet × List (List UInt8) :=
  (net.add val, if net.Accepts val then [val] else [])

/-- One `read`, which emits the bytes read, or none where the source returns `-1`. -/
def readStep (net : WordNet) (size : UInt64) : WordNet × List (Option (List UInt8)) :=
  (net.read size,
    [if net.Reads size then some ((net.buffer.drop net.pos.toNat).take size.toNat) else none])

/-- The values of a sequence that leave a byte of the buffer free, each behind those before it. -/
def fitting (maxSize used : ℕ) : List (List UInt8) → List (List UInt8)
  | [] => []
  | val :: rest =>
    if used + val.length < maxSize then val :: fitting maxSize (used + val.length) rest
    else fitting maxSize used rest

/-- The buffer holds two sequences of bytes and nothing else, with the cursor between them. -/
structure Between (net : WordNet) (before behind : List UInt8) : Prop where
  pos_eq : net.pos.toNat = before.length
  length_eq : net.length.toNat = before.length + behind.length
  le_maxSize : before.length + behind.length ≤ net.maxSize.toNat
  take_eq : net.buffer.take (before.length + behind.length) = before ++ behind

variable {net : WordNet} {before behind val : List UInt8}

theorem between_ofSize (size : UInt32) : Between (ofSize size) [] [] :=
  ⟨rfl, rfl, Nat.zero_le _, rfl⟩

theorem Between.withinBounds (h : Between net before behind) : net.WithinBounds := by
  refine ⟨?_, ?_⟩
  · rw [h.pos_eq, h.length_eq]
    exact Nat.le_add_right _ _
  · rw [h.length_eq]
    exact h.le_maxSize

/-- With the cursor at the end, the unbounded buffer holds what is before it. -/
theorem between_nil_iff :
    Between net before [] ↔ net.toMessageNet.Holds before ∧ before.length ≤ net.maxSize.toNat := by
  constructor
  · rintro ⟨hpos, hlength, hle, htake⟩
    rw [List.length_nil, Nat.add_zero] at hlength hle htake
    rw [List.append_nil] at htake
    exact ⟨⟨hpos, hlength, htake⟩, hle⟩
  · rintro ⟨hholds, hle⟩
    refine ⟨hholds.pos_eq, hholds.length_eq, hle, ?_⟩
    rw [List.length_nil, Nat.add_zero, List.append_nil]
    exact hholds.take_eq

/-- After `reset` everything is behind the cursor. -/
theorem Between.reset (h : Between net before []) : Between net.reset [] before := by
  obtain ⟨hholds, hle⟩ := between_nil_iff.mp h
  refine ⟨rfl, ?_, ?_, ?_⟩
  · rw [List.length_nil, Nat.zero_add]
    exact hholds.length_eq
  · rw [List.length_nil, Nat.zero_add]
    exact hle
  · rw [List.length_nil, Nat.zero_add]
    exact hholds.take_eq

/-- The size of a value that exists, in 64 bits. -/
theorem toNat_sizeOf (hval : val.length < 2 ^ 64) : (sizeOf val).toNat = val.length := by
  rw [sizeOf, UInt64.toNat_ofNat', Nat.mod_eq_of_lt hval]

/-! ### Adding -/

/-- A value that is refused leaves the buffer as it is. -/
theorem add_of_not_accepts (hrefused : ¬ net.Accepts val) : net.add val = net := if_neg hrefused

@[simp] theorem maxSize_add (net : WordNet) (val : List UInt8) :
    (net.add val).maxSize = net.maxSize := by
  rw [add]
  split_ifs
  · rfl
  · rfl

/-- The test of `add` behind the bytes of a buffer. -/
theorem Between.accepts_iff (h : Between net before behind) (hval : val.length < 2 ^ 64) :
    net.Accepts val ↔ (before.length + val.length) % 2 ^ 64 < net.maxSize.toNat := by
  rw [Accepts, add_lt_iff, toNat_sizeOf hval, h.pos_eq]

/-- A value that fits is appended. -/
theorem Between.add (h : Between net before [])
    (hfits : before.length + val.length < net.maxSize.toNat) :
    Between (net.add val) (before ++ val) [] := by
  have hmax := net.maxSize.toNat_lt
  obtain ⟨hholds, hle⟩ := between_nil_iff.mp h
  have hlength : net.length.toNat = before.length := hholds.length_eq
  have hfitsWord : net.Fits (.add val) := by
    intro _
    rw [hlength, toNat_sizeOf (by omega)]
    omega
  have hadd := toMessageNet_add h.withinBounds (by omega) hfitsWord
  obtain ⟨hafter, -⟩ := MessageNet.writes_add val net.toMessageNet before hholds hfits
  rw [← hadd] at hafter
  refine between_nil_iff.mpr ⟨hafter, ?_⟩
  rw [maxSize_add, List.length_append]
  exact hfits.le

theorem addStep_of_accepts (haccepts : net.Accepts val) :
    addStep net val = (net.add val, [val]) := by
  rw [addStep, if_pos haccepts]

theorem addStep_of_not_accepts (hrefused : ¬ net.Accepts val) : addStep net val = (net, []) := by
  rw [addStep, if_neg hrefused, add_of_not_accepts hrefused]

theorem addStep_unchanged_iff : addStep net val = (net, []) ↔ ¬ net.Accepts val := by
  refine ⟨fun hstep haccepts ↦ ?_, addStep_of_not_accepts⟩
  rw [addStep_of_accepts haccepts] at hstep
  exact absurd (Prod.mk.inj hstep).2 (by simp)

/-- A sequence of additions accepts the values that fit and leaves their bytes in the buffer, one
value behind the other. -/
theorem between_outputs_addStep {vals : List (List UInt8)} (h : Between net before [])
    (hvals : ∀ val ∈ vals, val.length + net.maxSize.toNat < 2 ^ 64) :
    outputs addStep net vals = fitting net.maxSize.toNat before.length vals ∧
      Between (finalState addStep net vals)
        (before ++ (fitting net.maxSize.toNat before.length vals).flatten) [] := by
  induction vals generalizing net before with
  | nil =>
    refine ⟨rfl, ?_⟩
    rw [finalState_nil, fitting, List.flatten_nil, List.append_nil]
    exact h
  | cons val rest ih =>
    obtain ⟨hval, hrest⟩ := List.forall_mem_cons.mp hvals
    obtain ⟨-, hle⟩ := between_nil_iff.mp h
    have haccepts := h.accepts_iff (show val.length < 2 ^ 64 by omega)
    rw [Nat.mod_eq_of_lt (by omega)] at haccepts
    rw [outputs_cons, finalState_cons, fitting]
    split_ifs with hfits
    · obtain ⟨houtputs, hlater⟩ := ih (h.add hfits) (by rwa [maxSize_add])
      rw [maxSize_add, List.length_append] at houtputs hlater
      rw [addStep_of_accepts (haccepts.mpr hfits), List.flatten_cons, ← List.append_assoc]
      exact ⟨congrArg (val :: ·) houtputs, hlater⟩
    · rw [addStep_of_not_accepts (mt haccepts.mp hfits)]
      exact ih h hrest

/-! ### Reading -/

/-- A size that is refused leaves the buffer as it is. -/
theorem read_of_not_reads {size : UInt64} (hrefused : ¬ net.Reads size) : net.read size = net :=
  if_neg hrefused

theorem readStep_unchanged_iff {size : UInt64} :
    readStep net size = (net, [none]) ↔ ¬ net.Reads size := by
  constructor
  · intro hstep hreads
    rw [readStep, if_pos hreads] at hstep
    exact absurd (List.cons.inj (Prod.mk.inj hstep).2).1 (by simp)
  · intro hrefused
    rw [readStep, if_neg hrefused, read_of_not_reads hrefused]

/-- The size of a field in the buffer. -/
theorem Between.toNat_sizeOf (h : Between net before (val ++ behind)) :
    (sizeOf val).toNat = val.length := by
  have hle := h.le_maxSize
  have hmax := net.maxSize.toNat_lt
  rw [List.length_append] at hle
  exact WordNet.toNat_sizeOf (by omega)

/-- The size of a field behind the cursor passes the test of `read`. -/
theorem Between.reads (h : Between net before (val ++ behind)) : net.Reads (sizeOf val) := by
  rw [reads_iff, h.toNat_sizeOf, h.pos_eq, h.length_eq, List.length_append]
  exact (Nat.mod_le _ _).trans (by omega)

/-- The bytes at the cursor are those of the field behind it. -/
theorem Between.take_drop (h : Between net before (val ++ behind)) :
    (net.buffer.drop before.length).take val.length = val := by
  have htake := h.take_eq
  rw [List.length_append] at htake
  calc (net.buffer.drop before.length).take val.length
      = ((net.buffer.take (before.length + (val.length + behind.length))).drop
          before.length).take val.length := by
        rw [List.drop_take, List.take_take, min_eq_left (by omega)]
    _ = ((before ++ (val ++ behind)).drop before.length).take val.length := by rw [htake]
    _ = val := by rw [List.drop_left, List.take_left]

/-- Reading a field puts the cursor behind it. -/
theorem Between.read (h : Between net before (val ++ behind)) :
    Between (net.read (sizeOf val)) (before ++ val) behind := by
  have hmax := net.maxSize.toNat_lt
  have hbounds := h.withinBounds
  obtain ⟨hpos, hlength, hle, htake⟩ := h
  rw [List.length_append, ← Nat.add_assoc] at hlength hle htake
  have hfits : net.pos.toNat + val.length ≤ net.length.toNat := by omega
  have hread : (net.read (sizeOf val)).toMessageNet =
      { net.toMessageNet with pos := net.pos.toNat + val.length } := by
    rw [sizeOf, toMessageNet_read hbounds (by omega), MessageNet.read]
    exact congrArg Prod.snd (if_pos hfits)
  obtain ⟨hbuffer, hnewPos, hnewLength, hnewMax⟩ := MessageNet.mk.inj hread
  refine ⟨?_, ?_, ?_, ?_⟩
  · rw [hnewPos, hpos, List.length_append]
  · rw [hnewLength, List.length_append]
    exact hlength
  · rw [hnewMax, List.length_append]
    exact hle
  · rw [hbuffer, List.length_append, List.append_assoc]
    exact htake

/-- The step of `read` on a field gives the field. -/
theorem Between.readStep_eq (h : Between net before (val ++ behind)) :
    readStep net (sizeOf val) = (net.read (sizeOf val), [some val]) := by
  rw [readStep, if_pos h.reads, h.pos_eq, h.toNat_sizeOf, h.take_drop]

/-- A sequence of reads with the sizes of the fields behind the cursor gives the fields. -/
theorem between_outputs_readStep {fields : List (List UInt8)}
    (h : Between net before fields.flatten) :
    outputs readStep net (fields.map sizeOf) = fields.map some ∧
      Between (finalState readStep net (fields.map sizeOf)) (before ++ fields.flatten) [] := by
  induction fields generalizing net before with
  | nil =>
    refine ⟨rfl, ?_⟩
    rw [List.flatten_nil, List.append_nil]
    exact h
  | cons val rest ih =>
    rw [List.flatten_cons] at h
    obtain ⟨houtputs, hlater⟩ := ih h.read
    rw [List.map_cons, outputs_cons, finalState_cons, h.readStep_eq, houtputs, List.flatten_cons,
      ← List.append_assoc]
    exact ⟨rfl, hlater⟩

/-- With nothing behind the cursor, a size is refused precisely when the sum with the position does
not wrap around. -/
theorem Between.refuses_iff (h : Between net before []) {size : UInt64} (hsize : 0 < size) :
    readStep net size = (net, [none]) ↔ before.length + size.toNat < 2 ^ 64 := by
  obtain ⟨hholds, hle⟩ := between_nil_iff.mp h
  have hlength : net.length.toNat = before.length := hholds.length_eq
  have hpositive : 0 < size.toNat := UInt64.lt_iff_toNat_lt.mp hsize
  have hmax := net.maxSize.toNat_lt
  have hlt := size.toNat_lt
  rw [readStep_unchanged_iff, reads_iff, h.pos_eq, hlength]
  omega

/-! ### A buffer that is written, put back and read -/

/-- A new buffer behind a sequence of additions. -/
def written (size : UInt32) (vals : List (List UInt8)) : WordNet :=
  finalState addStep (ofSize size) vals

/-- The values that have been added. -/
def added (size : UInt32) (vals : List (List UInt8)) : List (List UInt8) :=
  outputs addStep (ofSize size) vals

/-- The buffer after `reset` and the reads of what has been added. -/
def readBack (size : UInt32) (vals : List (List UInt8)) : WordNet :=
  finalState readStep (written size vals).reset ((added size vals).map sizeOf)

/-- What is added to a new buffer is read back: a value that is refused leaves the buffer as it is,
reading with the sizes of the values added gives them in order, and every further read is refused
and leaves the buffer as it is. -/
structure ReadsBack (size : UInt32) (vals : List (List UInt8)) (further : List UInt64) : Prop where
  refused : EveryStep addStep (fun net val ↦ ¬ net.Accepts val → net.add val = net) (ofSize size)
    vals
  fields : outputs readStep (written size vals).reset ((added size vals).map sizeOf) =
    (added size vals).map some
  exhausted : EveryStep readStep (fun net size ↦ readStep net size = (net, [none]))
    (readBack size vals) further

/-- A run of reads that leave the buffer as it is. -/
theorem everyStep_unchanged_iff (net : WordNet) (sizes : List UInt64) :
    EveryStep readStep (fun net size ↦ readStep net size = (net, [none])) net sizes ↔
      ∀ size ∈ sizes, readStep net size = (net, [none]) := by
  induction sizes with
  | nil => simp
  | cons size rest ih =>
    rw [everyStep_cons, List.forall_mem_cons]
    refine and_congr_right fun hunchanged ↦ ?_
    rw [hunchanged]
    exact ih

theorem maxSize_written (size : UInt32) (vals : List (List UInt8)) :
    (written size vals).maxSize = size := by
  have hkeep : ∀ net, ∀ val ∈ vals, net.maxSize = size → (addStep net val).1.maxSize = size :=
    fun net val _ hsize ↦ (maxSize_add net val).trans hsize
  exact finalState_of_step hkeep rfl

/-- What a new buffer holds behind a sequence of additions. -/
theorem between_written {size : UInt32} {vals : List (List UInt8)}
    (hvals : ∀ val ∈ vals, val.length + size.toNat < 2 ^ 64) :
    added size vals = fitting size.toNat 0 vals ∧
      Between (written size vals) (added size vals).flatten [] := by
  obtain ⟨hadded, hwritten⟩ := between_outputs_addStep (between_ofSize size) hvals
  rw [← hadded] at hwritten
  exact ⟨hadded, hwritten⟩

/-- Assumes: every value lies in memory beside the buffer, so that their sizes together are below
`2 ^ 64`, and the further reads are of positive sizes. What is added to a new buffer is read back
precisely when no further read is of a size whose sum with the bytes in the buffer wraps around. -/
theorem readsBack_iff {size : UInt32} {vals : List (List UInt8)} {further : List UInt64}
    (hvals : ∀ val ∈ vals, val.length + size.toNat < 2 ^ 64) (hfurther : ∀ n ∈ further, 0 < n) :
    ReadsBack size vals further ↔
      ∀ n ∈ further, (fitting size.toNat 0 vals).flatten.length + n.toNat < 2 ^ 64 := by
  obtain ⟨hadded, hwritten⟩ := between_written hvals
  obtain ⟨hfields, hread⟩ := between_outputs_readStep hwritten.reset
  have hend : Between (readBack size vals) (added size vals).flatten [] := hread
  have hexhausted : EveryStep readStep (fun net size ↦ readStep net size = (net, [none]))
      (readBack size vals) further ↔
        ∀ n ∈ further, (fitting size.toNat 0 vals).flatten.length + n.toNat < 2 ^ 64 := by
    rw [everyStep_unchanged_iff, ← hadded]
    exact forall₂_congr fun n hn ↦ hend.refuses_iff (hfurther n hn)
  rw [← hexhausted]
  constructor
  · intro hreadsBack
    exact hreadsBack.exhausted
  · intro hrefused
    exact ⟨fun _ _ _ ↦ add_of_not_accepts, hfields, hrefused⟩

/-- A field of two bytes, one of six that is refused and one of a single byte. -/
theorem readsBack_iff_refusedField :
    let vals : List (List UInt8) := [[1, 2], [3, 4, 5, 6, 7, 8], [9]]
    added 8 vals = [[1, 2], [9]] ∧ ReadsBack 8 vals [1, 4] := by
  intro vals
  have hvals : ∀ val ∈ vals, val.length + (8 : UInt32).toNat < 2 ^ 64 := by decide
  have hfurther : ∀ n ∈ [(1 : UInt64), 4], 0 < n := by simp
  have htotal : (fitting (8 : UInt32).toNat 0 vals).flatten.length = 3 := by decide
  refine ⟨by decide, (readsBack_iff hvals hfurther).mpr ?_⟩
  rw [htotal]
  simp

/-- A buffer of eight bytes with one byte in it: behind this byte, a read of `2 ^ 64 - 1` bytes is
accepted and puts the cursor back to the beginning. -/
theorem not_readsBack_wrapping :
    let net := readBack 8 [[1]]
    let size : UInt64 := 18446744073709551615
    net.pos = 1 ∧ net.length = 1 ∧ net.Reads size ∧ (net.read size).pos = 0 ∧
      ¬ ReadsBack 8 [[1]] [size] := by
  intro net size
  have hread : (net.read size).pos = 0 := by decide
  refine ⟨by decide, by decide, by decide, hread, fun hreadsBack ↦ ?_⟩
  have hunchanged := ((everyStep_cons _ _ _).mp hreadsBack.exhausted).1
  have hnet : net.read size = net := (Prod.mk.inj hunchanged).1
  rw [hnet] at hread
  exact absurd hread (by decide)

/-! ### The capacity of a buffer -/

/-- The whole buffer can be used: all values of a sequence are added to a new buffer, and one that
does not fit behind them is refused and leaves the buffer as it is. -/
structure UsesCapacity (size : UInt32) (vals : List (List UInt8)) (extra : List UInt8) : Prop where
  all_added : added size vals = vals
  refused : size.toNat < vals.flatten.length + extra.length →
    addStep (written size vals) extra = (written size vals, [])

theorem fitting_sublist (maxSize used : ℕ) (vals : List (List UInt8)) :
    (fitting maxSize used vals).Sublist vals := by
  induction vals generalizing used with
  | nil => exact List.Sublist.slnil
  | cons val rest ih =>
    rw [fitting]
    split_ifs
    · exact (ih _).cons_cons val
    · exact (ih used).cons val

/-- All values of a sequence fit precisely when they leave a byte free together. -/
theorem fitting_eq_self_iff {maxSize used : ℕ} (hused : used < maxSize)
    (vals : List (List UInt8)) :
    fitting maxSize used vals = vals ↔ used + vals.flatten.length < maxSize := by
  induction vals generalizing used with
  | nil => exact iff_of_true rfl hused
  | cons val rest ih =>
    rw [fitting, List.flatten_cons, List.length_append, ← Nat.add_assoc]
    split_ifs with hfits
    · rw [List.cons_inj_right]
      exact ih hfits
    · refine iff_of_false (fun heq ↦ ?_) (by omega)
      have hlength := (fitting_sublist maxSize used rest).length_le
      rw [heq, List.length_cons] at hlength
      omega

/-- Assumes: the buffer is not empty, the values have at most as many bytes together as the buffer,
and the size of the further value is an `unsigned long`. The whole buffer can be used precisely when
the values leave a byte of it free, and the size of the further value does not wrap around behind
them. -/
theorem usesCapacity_iff {size : UInt32} {vals : List (List UInt8)} {extra : List UInt8}
    (hsize : 0 < size) (htotal : vals.flatten.length ≤ size.toNat)
    (hextra : extra.length < 2 ^ 64) :
    UsesCapacity size vals extra ↔
      vals.flatten.length < size.toNat ∧ vals.flatten.length + extra.length < 2 ^ 64 := by
  have hmax := size.toNat_lt
  have hpositive : 0 < size.toNat := UInt32.lt_iff_toNat_lt.mp hsize
  have hvals : ∀ val ∈ vals, val.length + size.toNat < 2 ^ 64 := by
    intro val hval
    have hle : val.length ≤ vals.flatten.length :=
      (List.sublist_flatten_of_mem hval).length_le
    omega
  obtain ⟨hadded, hwritten⟩ := between_written hvals
  have hall : added size vals = vals ↔ vals.flatten.length < size.toNat := by
    rw [hadded, fitting_eq_self_iff hpositive, Nat.zero_add]
  have hextraRefused (hcomplete : added size vals = vals) :
      addStep (written size vals) extra = (written size vals, []) ↔
        size.toNat ≤ (vals.flatten.length + extra.length) % 2 ^ 64 := by
    rw [hcomplete] at hwritten
    rw [addStep_unchanged_iff, hwritten.accepts_iff hextra, maxSize_written, not_lt]
  constructor
  · rintro ⟨hcomplete, hrefused⟩
    have hroom := hall.mp hcomplete
    refine ⟨hroom, ?_⟩
    by_contra hwraps
    have hle := (hextraRefused hcomplete).mp (hrefused (by omega))
    omega
  · rintro ⟨hroom, hsum⟩
    have hcomplete := hall.mpr hroom
    refine ⟨hcomplete, fun hlarge ↦ (hextraRefused hcomplete).mpr ?_⟩
    rw [Nat.mod_eq_of_lt hsum]
    exact hlarge.le

/-- Three bytes for a buffer of four, and two more that do not fit. -/
theorem usesCapacity_iff_threeOfFour : UsesCapacity 4 [[1], [2, 3]] [4, 5] := by
  have htotal : ([[1], [2, 3]] : List (List UInt8)).flatten.length ≤ (4 : UInt32).toNat := by
    decide
  exact (usesCapacity_iff (by decide) htotal (by decide)).mpr (by decide)

/-- Four bytes for a buffer of four: `add` refuses them, in one field, and the last of two. -/
theorem not_usesCapacity_full :
    added 4 [[1, 2, 3, 4]] = [] ∧ added 4 [[1, 2, 3], [4]] = [[1, 2, 3]] ∧
      ∀ extra, ¬ UsesCapacity 4 [[1, 2, 3, 4]] extra := by
  have hfull : added 4 [[1, 2, 3, 4]] = [] := by decide
  refine ⟨hfull, by decide, fun extra huses ↦ ?_⟩
  rw [huses.all_added] at hfull
  exact absurd hfull (by simp)

end WordNet

end Tanos
