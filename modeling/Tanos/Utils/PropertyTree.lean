import Tanos.Utils.ConfigReader

/-!
# Property trees

`PTree` stands for `boost::property_tree::ptree`, as `read_json` builds it from a configuration
file: every node has a text and a list of children with keys. What the loaders call on it is not
part of the repository: `TreeAccess` has it as a parameter, `get_child` with the translators of the
types of the configuration. An exception is none. No result needs an assumption about which child
`get_child` finds; `PTree.firstChild` is what it does with the keys of the configuration.

The loops over a node assign the entries of a map one after the other (`assignAll`), so that the map
holds the last entry of every key (`getElem?_assignAll`).
-/

set_option autoImplicit false
set_option relaxedAutoImplicit false

namespace Tanos

/-- `boost::property_tree::ptree`. -/
inductive PTree where
  | node (data : String) (children : List (String × PTree))

namespace PTree

/-- The text of the node. -/
def data : PTree → String
  | node data _ => data

/-- The children of the node, in the order of the file. -/
def children : PTree → List (String × PTree)
  | node _ children => children

/-- The first child with a key. -/
def firstChild (tree : PTree) (key : String) : Option PTree :=
  (tree.children.find? fun child ↦ child.1 = key).map Prod.snd

end PTree

/-- What the loaders use of `boost::property_tree`: `get_child`, which throws when there is no child
under the key, and the translators that `get` and `get_value` use for the types of the
configuration. -/
structure TreeAccess where
  getChild : PTree → String → Option PTree
  uint32 : String → Option UInt32
  uint64 : String → Option UInt64
  bool : String → Option Bool

namespace TreeAccess

variable (access : TreeAccess) {α : Type} (translate : String → Option α) (tree : PTree)
  (key : String)

/-- `get`, which is short for `get_value` of `get_child`. -/
def get : Option α := do
  let child ← access.getChild tree key
  translate child.data

/-- The loop that appends `get_value` of every child of a child. -/
def getList : Option (List α) := do
  let child ← access.getChild tree key
  child.children.mapM fun entry ↦ translate entry.2.data

/-- How many children the child with a key has. -/
def listLength : ℕ := ((access.getChild tree key).map fun child ↦ child.children.length).getD 0

end TreeAccess

theorem length_of_mapM {α β : Type} {translate : α → Option β} {entries : List α} {values : List β}
    (hvalues : entries.mapM translate = some values) : values.length = entries.length := by
  induction entries generalizing values with
  | nil =>
    rw [List.mapM_nil] at hvalues
    exact congrArg List.length (Option.some.inj hvalues).symm
  | cons entry rest ih =>
    rw [List.mapM_cons] at hvalues
    obtain ⟨value, -, hrest⟩ := Option.bind_eq_some_iff.mp hvalues
    obtain ⟨later, hlater, hcons⟩ := Option.bind_eq_some_iff.mp hrest
    rw [← Option.some.inj hcons, List.length_cons, List.length_cons, ih hlater]

/-- A list that has been read is as long as the one in the tree. -/
theorem TreeAccess.length_of_getList {access : TreeAccess} {α : Type}
    {translate : String → Option α} {tree : PTree} {key : String} {values : List α}
    (hvalues : access.getList translate tree key = some values) :
    values.length = access.listLength tree key := by
  obtain ⟨child, hchild, hentries⟩ := Option.bind_eq_some_iff.mp hvalues
  rw [listLength, hchild, Option.map_some, Option.getD_some]
  exact length_of_mapM hentries

/-- `isspace`. -/
def isSpace (char : Char) : Bool := char ∈ [' ', '\t', '\n', '\x0b', '\x0c', '\r']

/-- `std::stoi`, which throws when no digit follows the blanks and the sign, and when the value is
out of range. -/
def stoi (text : String) : Option ℤ :=
  let chars := text.toList.dropWhile isSpace
  let digits : List Char := match chars with
    | '-' :: rest | '+' :: rest => rest.takeWhile Char.isDigit
    | rest => rest.takeWhile Char.isDigit
  let magnitude : ℤ := digits.foldl (fun value digit ↦ value * 10 + (digit.toNat - '0'.toNat)) 0
  let value := if chars.head? = some '-' then -magnitude else magnitude
  if digits ≠ [] ∧ -2 ^ 31 ≤ value ∧ value < 2 ^ 31 then some value else none

/-- A key as a `uint32_t`. -/
def stoiUInt32 (text : String) : Option UInt32 := (stoi text).map UInt32.ofInt

/-! ### Maps -/

section Entries

variable {ε κ : Type} [DecidableEq κ] {key : ε → Option κ} {entries : List ε} {wanted : κ}
  {entry : ε}

/-- The last entry with a key. -/
def lastEntry (key : ε → Option κ) (entries : List ε) (wanted : κ) : Option ε :=
  entries.reverse.find? fun entry ↦ key entry = some wanted

theorem mem_of_lastEntry (hlast : lastEntry key entries wanted = some entry) :
    entry ∈ entries ∧ key entry = some wanted := by
  constructor
  · exact List.mem_reverse.mp (List.mem_of_find?_eq_some hlast)
  · simpa using List.find?_some (p := fun entry ↦ decide (key entry = some wanted)) hlast

theorem exists_lastEntry_of_mem (hentry : entry ∈ entries) (hkey : key entry = some wanted) :
    ∃ last, lastEntry key entries wanted = some last := by
  rw [← Option.isSome_iff_exists, lastEntry, List.find?_isSome]
  exact ⟨entry, List.mem_reverse.mpr hentry, decide_eq_true hkey⟩

end Entries

section Maps

variable {ε κ ν : Type} [Ord κ] [Std.TransOrd κ] [DecidableEq κ]

/-- The loop that assigns `map[key] = value` for every entry. -/
def assignAll (key : ε → Option κ) (value : ε → Option ν) (map : StdMap κ ν) (entries : List ε) :
    Option (StdMap κ ν) :=
  entries.foldlM (fun map entry ↦ do
    let entryKey ← key entry
    let entryValue ← value entry
    return map.insert entryKey entryValue) map

/-- The map holds the last entry of a key, and what has been there of the keys without one. -/
theorem getElem?_assignAll [Std.LawfulEqOrd κ] {key : ε → Option κ}
    {value : ε → Option ν} {map result : StdMap κ ν} {entries : List ε}
    (hresult : assignAll key value map entries = some result) (wanted : κ) :
    result[wanted]? = match lastEntry key entries wanted with
      | some entry => value entry
      | none => map[wanted]? := by
  induction entries generalizing map with
  | nil =>
    rw [← Option.some.inj hresult]
    rfl
  | cons entry rest ih =>
    rw [assignAll, List.foldlM_cons] at hresult
    obtain ⟨next, hnext, hrest⟩ := Option.bind_eq_some_iff.mp hresult
    obtain ⟨entryKey, hkey, hnext⟩ := Option.bind_eq_some_iff.mp hnext
    obtain ⟨entryValue, hvalue, hnext⟩ := Option.bind_eq_some_iff.mp hnext
    have hlast : lastEntry key (entry :: rest) wanted =
        (lastEntry key rest wanted).or (if entryKey = wanted then some entry else none) := by
      simp only [lastEntry, List.reverse_cons, List.find?_append, List.find?_singleton, hkey,
        Option.some.injEq, decide_eq_true_eq]
    rw [ih hrest, hlast]
    cases lastEntry key rest wanted with
    | some last => rfl
    | none =>
      rw [← Option.some.inj hnext, StdMap.getElem?_insert, Option.none_or]
      split_ifs with hsame
      · exact hvalue.symm
      · rfl

omit [DecidableEq κ] in
/-- The loop comes to its end precisely when every entry has a key and a value. -/
theorem isSome_assignAll_iff {key : ε → Option κ} {value : ε → Option ν} {map : StdMap κ ν}
    {entries : List ε} :
    (assignAll key value map entries).isSome = true ↔
      ∀ entry ∈ entries, (key entry).isSome = true ∧ (value entry).isSome = true := by
  induction entries generalizing map with
  | nil => simp [assignAll]
  | cons first rest ih =>
    rw [assignAll, List.foldlM_cons, List.forall_mem_cons]
    cases key first with
    | none => simp
    | some firstKey =>
      cases value first with
      | none => simp
      | some firstValue => exact ih.trans (by simp)

omit [DecidableEq κ] in
theorem exists_value_of_assignAll {key : ε → Option κ} {value : ε → Option ν}
    {map result : StdMap κ ν} {entries : List ε}
    (hresult : assignAll key value map entries = some result) {entry : ε}
    (hentry : entry ∈ entries) : ∃ found, value entry = some found := by
  have hsome := isSome_assignAll_iff.mp (Option.isSome_of_eq_some hresult) entry hentry
  exact Option.isSome_iff_exists.mp hsome.2

/-- A map that is empty in the beginning has an entry precisely for the keys of the entries. -/
theorem isSome_getElem?_assignAll [Std.LawfulEqOrd κ] {key : ε → Option κ} {value : ε → Option ν}
    {result : StdMap κ ν} {entries : List ε}
    (hresult : assignAll key value ∅ entries = some result) (wanted : κ) :
    result[wanted]?.isSome = true ↔ ∃ entry ∈ entries, key entry = some wanted := by
  rw [getElem?_assignAll hresult wanted]
  constructor
  · intro hfound
    cases hlast : lastEntry key entries wanted with
    | some last => exact ⟨last, mem_of_lastEntry hlast⟩
    | none =>
      rw [hlast] at hfound
      simp at hfound
  · rintro ⟨entry, hentry, hkey⟩
    obtain ⟨last, hlast⟩ := exists_lastEntry_of_mem hentry hkey
    rw [hlast]
    exact Option.isSome_iff_exists.mpr
      (exists_value_of_assignAll hresult (mem_of_lastEntry hlast).1)

end Maps

end Tanos
