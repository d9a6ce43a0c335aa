import Mathlib.Data.List.Basic
import Mathlib.Data.Set.Basic

/-!
# Traversals of an ordered container that grows

A cursor goes through the keys of an ordered container, while others insert keys. At each step it
visits its key and moves on to the least key behind it, and it is at the end when there is none.
`first` and `after` compute these keys for a container that lists its entries in order.

`Traversed` relates the cursor to the keys it has visited, those that were there at the beginning
and those that are there by now. It holds at the beginning (`traversed_begin`), insertions and steps
keep it (`Traversed.grow`, `Traversed.advance`), and it says at the end that every key from the
beginning has been visited (`Traversed.mem_of_finished`), once and in order
(`Traversed.ascending`).
-/

set_option autoImplicit false
set_option relaxedAutoImplicit false

namespace Tanos.Library.OrderedTraversal

variable {κ ν : Type} [LT κ] [LE κ]

/-- The cursor is at the least of the keys, or at the end when there is none. -/
structure IsFirst (keys : Set κ) (cursor : Option κ) : Prop where
  mem : ∀ key ∈ cursor, key ∈ keys
  exists_le : ∀ key ∈ keys, ∃ first ∈ cursor, first ≤ key

/-- The keys that a traversal has visited, on its way through a container that had some keys at its
beginning and has some keys now. -/
structure Traversed (initial present : Set κ) (cursor : Option κ) (visited : List κ) : Prop where
  ascending : visited.Pairwise (· < ·)
  lt_cursor : ∀ key ∈ visited, ∀ next ∈ cursor, key < next
  mem_present : ∀ key ∈ visited, key ∈ present
  cursor_mem : ∀ key ∈ cursor, key ∈ present
  initial_subset : initial ⊆ present
  covers : ∀ key ∈ initial, key ∈ visited ∨ ∃ next ∈ cursor, next ≤ key

/-- At the beginning nothing has been visited. -/
theorem traversed_begin {keys : Set κ} {cursor : Option κ} (hfirst : IsFirst keys cursor) :
    Traversed keys keys cursor [] where
  ascending := List.Pairwise.nil
  lt_cursor := List.forall_mem_nil _
  mem_present := List.forall_mem_nil _
  cursor_mem := hfirst.mem
  initial_subset := subset_rfl
  covers key hkey := Or.inr (hfirst.exists_le key hkey)

namespace Traversed

variable {initial present : Set κ} {visited : List κ}

/-- Insertions do not matter to the keys that have been visited. -/
theorem grow {cursor : Option κ} (h : Traversed initial present cursor visited) {later : Set κ}
    (hsubset : present ⊆ later) : Traversed initial later cursor visited where
  ascending := h.ascending
  lt_cursor := h.lt_cursor
  mem_present key hkey := hsubset (h.mem_present key hkey)
  cursor_mem key hkey := hsubset (h.cursor_mem key hkey)
  initial_subset := h.initial_subset.trans hsubset
  covers := h.covers

/-- At the end every key from the beginning has been visited. -/
theorem mem_of_finished (h : Traversed initial present none visited) :
    ∀ key ∈ initial, key ∈ visited := by
  intro key hkey
  rcases h.covers key hkey with hvisited | ⟨next, hnext, -⟩
  · exact hvisited
  · exact absurd hnext (Option.not_mem_none next)

variable [Std.IsLinearOrder κ] [Std.LawfulOrderLT κ]

/-- The cursor visits its key, and moves on to the least key behind it. -/
theorem advance {key : κ} (h : Traversed initial present (some key) visited) {next : Option κ}
    (hnext : IsFirst {other ∈ present | key < other} next) :
    Traversed initial present next (visited ++ [key]) := by
  have hpresent : key ∈ present := h.cursor_mem key rfl
  have hlt : ∀ other ∈ visited, other < key := fun other hother ↦ h.lt_cursor other hother key rfl
  constructor
  · refine List.pairwise_append.mpr ⟨h.ascending, List.pairwise_singleton _ _, ?_⟩
    intro first hfirst second hsecond
    rw [List.mem_singleton.mp hsecond]
    exact hlt first hfirst
  · refine List.forall_mem_append.mpr ⟨fun other hother later hlater ↦ ?_, ?_⟩
    · exact Std.lt_trans (hlt other hother) (hnext.mem later hlater).2
    · exact List.forall_mem_singleton.mpr fun later hlater ↦ (hnext.mem later hlater).2
  · exact List.forall_mem_append.mpr ⟨h.mem_present, List.forall_mem_singleton.mpr hpresent⟩
  · exact fun later hlater ↦ (hnext.mem later hlater).1
  · exact h.initial_subset
  · intro other hother
    rcases h.covers other hother with hvisited | ⟨cursor, hcursor, hle⟩
    · exact Or.inl (List.mem_append_left _ hvisited)
    · obtain rfl := Option.some.inj hcursor
      rcases Std.le_iff_lt_or_eq.mp hle with hbehind | rfl
      · exact Or.inr (hnext.exists_le other ⟨h.initial_subset hother, hbehind⟩)
      · exact Or.inl (List.mem_append_right _ (List.mem_singleton_self _))

end Traversed

/-! ### Containers that list their entries in order -/

/-- The first key. -/
def first (entries : List (κ × ν)) : Option κ := entries.head?.map Prod.fst

/-- The key behind a key. -/
def after [DecidableLT κ] (entries : List (κ × ν)) (key : κ) : Option κ :=
  first (entries.filter fun entry ↦ key < entry.1)

/-- The keys of the entries. -/
def keys (entries : List (κ × ν)) : Set κ := {key | ∃ value, (key, value) ∈ entries}

variable [Std.IsLinearOrder κ] [Std.LawfulOrderLT κ]

/-- Assumes: the entries are in order. -/
theorem isFirst_first {entries : List (κ × ν)}
    (hordered : entries.Pairwise fun entry other ↦ entry.1 < other.1) :
    IsFirst (keys entries) (first entries) := by
  cases entries with
  | nil => exact ⟨nofun, fun key ⟨_, hkey⟩ ↦ absurd hkey List.not_mem_nil⟩
  | cons head rest =>
    obtain ⟨hhead, -⟩ := List.pairwise_cons.mp hordered
    constructor
    · rintro key hkey
      obtain rfl := Option.some.inj hkey
      exact ⟨head.2, List.mem_cons_self⟩
    · rintro key ⟨value, hkey⟩
      refine ⟨head.1, rfl, ?_⟩
      rcases List.mem_cons.mp hkey with heq | hrest
      · rw [← heq]
        exact Std.le_refl _
      · exact Std.le_of_lt (hhead _ hrest)

/-- Assumes: the entries are in order. -/
theorem isFirst_after [DecidableLT κ] {entries : List (κ × ν)}
    (hordered : entries.Pairwise fun entry other ↦ entry.1 < other.1) (key : κ) :
    IsFirst {other ∈ keys entries | key < other} (after entries key) := by
  have hkeys : {other ∈ keys entries | key < other} =
      keys (entries.filter fun entry ↦ key < entry.1) := by
    ext other
    simp only [keys, Set.mem_ofPred_eq, List.mem_filter, decide_eq_true_eq, exists_and_right]
  rw [hkeys]
  exact isFirst_first (hordered.filter _)

/-- Assumes: the entries are in order. The key behind one of them is the first of the rest. -/
theorem after_append_cons [DecidableLT κ] {past rest : List (κ × ν)} {entry : κ × ν}
    (hordered : (past ++ entry :: rest).Pairwise fun one other ↦ one.1 < other.1) :
    after (past ++ entry :: rest) entry.1 = first rest := by
  obtain ⟨-, hbehind, hpast⟩ := List.pairwise_append.mp hordered
  obtain ⟨hrest, -⟩ := List.pairwise_cons.mp hbehind
  have hfilterPast : (past.filter fun other ↦ entry.1 < other.1) = [] := by
    refine List.filter_eq_nil_iff.mpr fun other hother ↦ ?_
    rw [decide_eq_true_eq]
    exact fun hlt ↦ Std.lt_irrefl (Std.lt_trans hlt (hpast other hother entry List.mem_cons_self))
  have hfilterRest : (rest.filter fun other ↦ entry.1 < other.1) = rest :=
    List.filter_eq_self.mpr fun other hother ↦ decide_eq_true (hrest other hother)
  have hself : ¬ decide (entry.1 < entry.1) = true := by
    rw [decide_eq_true_eq]
    exact Std.lt_irrefl
  rw [after, List.filter_append, hfilterPast, List.nil_append, List.filter_cons, if_neg hself,
    hfilterRest]

end Tanos.Library.OrderedTraversal
