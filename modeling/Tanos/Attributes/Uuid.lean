import Tanos.Utils.PropertyTree

/-!
# The text of an identifier

`UUID` stands for `UUID_t`, sixteen bytes. `print` writes every byte with two hexadecimal digits,
and the constructor `ofString` takes a text of twice as many characters as there are bytes and reads
two characters for a byte, so that it reads back what `print` writes (`ofString_print`).

`getValue` writes no leading zeros: a byte below sixteen has one digit only (`length_getValue`). The
text of an identifier with such a byte is too short for the constructor, and other identifiers can
have the same text (`not_faithful_leadingZero`). `faithful_iff` says for which identifiers the text
gives the identifier back.

The constructor reads a number into a variable that has no value before. What the variable may hold
is a parameter here.
-/

set_option autoImplicit false
set_option relaxedAutoImplicit false

namespace Tanos

/-! ### Hexadecimal streams -/

/-- The digits of a number on a stream with `std::hex`, behind as much fill as the width asks
for. -/
def putHex (width : ℕ) (fill : Char) (value : ℕ) : List Char :=
  (Nat.toDigits 16 value).leftpad width fill

/-- The value of a hexadecimal digit of either case. -/
def hexValue (char : Char) : Option ℕ :=
  ['0', '1', '2', '3', '4', '5', '6', '7', '8', '9', 'a', 'b', 'c', 'd', 'e', 'f'].idxOf?
    char.toLower

/-- The values of the digits at the beginning of a text. -/
def leadingDigits : List Char → List ℕ
  | [] => []
  | char :: rest =>
    match hexValue char with
    | some digit => digit :: leadingDigits rest
    | none => []

/-- The text behind the marker of the base. -/
def dropMarker : List Char → List Char
  | '0' :: 'x' :: rest | '0' :: 'X' :: rest => rest
  | text => text

/-- `ss >> value` of an `unsigned int` on a stream with `std::hex`. Blanks are skipped, and where
nothing is behind them the variable stays as it is. A sign and `0x` are accepted. Without a digit
the value is zero, and a number that is too large becomes the largest one. -/
def extractHex (text : List Char) : Option UInt32 :=
  match text.dropWhile isSpace with
  | [] => none
  | first :: rest =>
    let unsigned := if first = '-' ∨ first = '+' then rest else first :: rest
    let digits := leadingDigits (dropMarker unsigned)
    let magnitude := digits.foldl (fun value digit ↦ value * 16 + digit) 0
    if 2 ^ 32 ≤ magnitude then some (UInt32.ofNat (2 ^ 32 - 1))
    else if first = '-' then some (UInt32.ofNat (2 ^ 32 - magnitude))
    else some (UInt32.ofNat magnitude)

theorem hexValue_lt {char : Char} {digit : ℕ} (hdigit : hexValue char = some digit) :
    digit < 16 := by
  obtain ⟨hlt, -⟩ := List.findIdx?_eq_some_iff_getElem.mp hdigit
  exact hlt

/-- What a stream skips or takes as a sign or as the marker of the base is no digit. -/
theorem hexValue_eq_none {char : Char}
    (hchar : char ∈ [' ', '\t', '\n', '\x0b', '\x0c', '\r', '-', '+', 'x', 'X']) :
    hexValue char = none := by
  simp only [List.mem_cons, List.not_mem_nil, or_false] at hchar
  rcases hchar with rfl | rfl | rfl | rfl | rfl | rfl | rfl | rfl | rfl | rfl
  all_goals decide

/-- Without the `x` there is no marker. -/
theorem dropMarker_of_ne {first second : Char} (hsecond : second ≠ 'x' ∧ second ≠ 'X')
    (rest : List Char) : dropMarker (first :: second :: rest) = first :: second :: rest := by
  unfold dropMarker
  split
  · next heq => exact absurd (List.cons.inj (List.cons.inj heq).2).1 hsecond.1
  · next heq => exact absurd (List.cons.inj (List.cons.inj heq).2).1 hsecond.2
  · rfl

/-- Two digits are read as the number they make. -/
theorem extractHex_pair {first second : Char} {high low : ℕ} (hfirst : hexValue first = some high)
    (hsecond : hexValue second = some low) :
    extractHex [first, second] = some (UInt32.ofNat (high * 16 + low)) := by
  have hhigh := hexValue_lt hfirst
  have hlow := hexValue_lt hsecond
  have hne : ∀ char, hexValue char = none → first ≠ char ∧ second ≠ char := by
    intro char hnone
    refine ⟨fun heq ↦ ?_, fun heq ↦ ?_⟩
    · rw [heq, hnone] at hfirst
      exact absurd hfirst (by simp)
    · rw [heq, hnone] at hsecond
      exact absurd hsecond (by simp)
  have hspace : ¬ isSpace first = true := by
    intro hblank
    have hmem := List.mem_append_left ['-', '+', 'x', 'X'] (of_decide_eq_true hblank)
    exact (hne first (hexValue_eq_none hmem)).1 rfl
  have hminus : first ≠ '-' := (hne '-' (hexValue_eq_none (by simp))).1
  have hplus : first ≠ '+' := (hne '+' (hexValue_eq_none (by simp))).1
  have hmarker : second ≠ 'x' ∧ second ≠ 'X' :=
    ⟨(hne 'x' (hexValue_eq_none (by simp))).2, (hne 'X' (hexValue_eq_none (by simp))).2⟩
  have hdigits : leadingDigits [first, second] = [high, low] := by
    simp only [leadingDigits, hfirst, hsecond]
  have hsmall : ¬ 2 ^ 32 ≤ high * 16 + low := by omega
  rw [extractHex, List.dropWhile_cons_of_neg hspace]
  simp only [hminus, hplus, or_self, if_false, dropMarker_of_ne hmarker, hdigits, List.foldl_cons,
    List.foldl_nil, zero_mul, zero_add]
  exact if_neg hsmall

/-! ### The digits of a byte -/

theorem hexValue_digitChar :
    ∀ digit < 16, hexValue digit.digitChar = some digit ∧
      hexValue digit.digitChar.toUpper = some digit := by
  decide

theorem le_toNat_iff (byte : UInt8) : 16 ≤ byte ↔ 16 ≤ byte.toNat := UInt8.le_iff_toNat_le

/-- A byte from sixteen on has two digits. -/
theorem toDigits_of_le {byte : UInt8} (h : 16 ≤ byte) :
    Nat.toDigits 16 byte.toNat =
      [(byte.toNat / 16).digitChar, (byte.toNat % 16).digitChar] := by
  have hle := (le_toNat_iff byte).mp h
  have hlt := byte.toNat_lt
  rw [Nat.toDigits_of_base_le (by decide) hle, Nat.toDigits_of_lt_base (by omega)]
  rfl

/-- A byte below sixteen has one. -/
theorem toDigits_of_not_le {byte : UInt8} (h : ¬ 16 ≤ byte) :
    byte.toNat < 16 ∧ Nat.toDigits 16 byte.toNat = [byte.toNat.digitChar] := by
  have hlt := not_le.mp (mt (le_toNat_iff byte).mpr h)
  exact ⟨hlt, Nat.toDigits_of_lt_base hlt⟩

/-- Without a width to fill, a byte is written with the digits it has. -/
theorem putHex_one (byte : UInt8) : putHex 1 ' ' byte.toNat = Nat.toDigits 16 byte.toNat := by
  by_cases h : 16 ≤ byte
  · rw [putHex, toDigits_of_le h]
    rfl
  · rw [putHex, (toDigits_of_not_le h).2]
    rfl

theorem length_putHex_one (byte : UInt8) :
    (putHex 1 ' ' byte.toNat).length = if 16 ≤ byte then 2 else 1 := by
  rw [putHex_one]
  split_ifs with h
  · rw [toDigits_of_le h]
    rfl
  · rw [(toDigits_of_not_le h).2]
    rfl

/-- Filled to a width of two, a byte is written with both digits. -/
theorem putHex_two (byte : UInt8) :
    putHex 2 '0' byte.toNat = [(byte.toNat / 16).digitChar, (byte.toNat % 16).digitChar] := by
  by_cases h : 16 ≤ byte
  · rw [putHex, toDigits_of_le h]
    rfl
  · obtain ⟨hlt, hdigits⟩ := toDigits_of_not_le h
    rw [putHex, hdigits, Nat.div_eq_of_lt hlt, Nat.mod_eq_of_lt hlt]
    rfl

/-- A text of two characters that reads as a byte. -/
structure PairOf (byte : UInt8) (text : List Char) : Prop where
  length_eq : text.length = 2
  extractHex_eq : extractHex text = some byte.toUInt32

/-- Both digits of a byte, of either case, read as the byte. -/
theorem pairOf_digits (byte : UInt8) :
    PairOf byte [(byte.toNat / 16).digitChar, (byte.toNat % 16).digitChar] ∧
      PairOf byte [(byte.toNat / 16).digitChar.toUpper, (byte.toNat % 16).digitChar.toUpper] := by
  have hlt := byte.toNat_lt
  obtain ⟨hhigh, hhighUpper⟩ := hexValue_digitChar (byte.toNat / 16) (by omega)
  obtain ⟨hlow, hlowUpper⟩ := hexValue_digitChar (byte.toNat % 16) (by omega)
  have hbyte : UInt32.ofNat (byte.toNat / 16 * 16 + byte.toNat % 16) = byte.toUInt32 := by
    rw [Nat.div_add_mod', UInt32.ofNat_uInt8ToNat]
  refine ⟨⟨rfl, ?_⟩, rfl, ?_⟩
  · rw [extractHex_pair hhigh hlow, hbyte]
  · rw [extractHex_pair hhighUpper hlowUpper, hbyte]

/-! ### Identifiers -/

/-- `UUID_t`. -/
structure UUID where
  value : Vector UInt8 16
deriving DecidableEq, Repr

namespace UUID

/-- `size`. -/
def size : ℕ := 16

/-- The constructor from a string, which throws when the length is another. What the variable `byte`
holds before it is read is given for every pass of the loop. -/
def ofString (uninitialised : ℕ → UInt32) (hexString : List Char) : Option UUID :=
  if hexString.length = size * 2 then
    some ⟨Vector.ofFn fun i ↦
      ((extractHex ((hexString.drop (i * 2)).take 2)).getD (uninitialised i)).toUInt8⟩
  else none

/-- `get_value`, with `std::setw(1)` and without a fill of its own. -/
def getValue (id : UUID) : List Char :=
  id.value.toList.flatMap fun byte ↦ putHex 1 ' ' byte.toNat

/-- `print`, with the format `%02X`, up to the end of the line. -/
def print (id : UUID) : List Char :=
  id.value.toList.flatMap fun byte ↦ (putHex 2 '0' byte.toNat).map Char.toUpper

/-- The text of an identifier gives the identifier back, and no other identifier has this text. -/
structure Faithful (id : UUID) : Prop where
  roundTrip : ∀ uninitialised, ofString uninitialised id.getValue = some id
  injective : ∀ other : UUID, other.getValue = id.getValue → other = id

/-- Of a list of texts of the same length, one after the other, each is found in its place. -/
theorem take_drop_flatMap {α β : Type} {text : α → List β} {width : ℕ} {values : List α}
    (htext : ∀ value ∈ values, (text value).length = width) {i : ℕ} (hi : i < values.length) :
    ((values.flatMap text).drop (i * width)).take width = text values[i] := by
  induction values generalizing i with
  | nil => exact absurd hi (Nat.not_lt_zero i)
  | cons value rest ih =>
    obtain ⟨hvalue, hrest⟩ := List.forall_mem_cons.mp htext
    rw [List.flatMap_cons]
    cases i with
    | zero =>
      rw [Nat.zero_mul, List.drop_zero, List.take_left' hvalue]
      rfl
    | succ j =>
      have hdrop : (text value ++ rest.flatMap text).drop ((j + 1) * width) =
          (rest.flatMap text).drop (j * width) := by
        rw [Nat.succ_mul, Nat.add_comm, ← List.drop_drop, List.drop_left' hvalue]
      rw [hdrop]
      exact ih hrest (Nat.lt_of_succ_lt_succ hi)

/-- The constructor reads an identifier back from any text that has two characters for each of its
bytes that read as the byte. -/
theorem ofString_flatMap {id : UUID} {text : UInt8 → List Char}
    (htext : ∀ byte ∈ id.value.toList, PairOf byte (text byte)) (uninitialised : ℕ → UInt32) :
    ofString uninitialised (id.value.toList.flatMap text) = some id := by
  have hwidth : ∀ byte ∈ id.value.toList, (text byte).length = 2 :=
    fun byte hbyte ↦ (htext byte hbyte).length_eq
  have hlength : (id.value.toList.flatMap text).length = size * 2 := by
    rw [List.length_flatMap, List.map_congr_left hwidth]
    simp [size]
  have hvalue : (Vector.ofFn fun i : Fin 16 ↦
      ((extractHex (((id.value.toList.flatMap text).drop (i * 2)).take 2)).getD
        (uninitialised i)).toUInt8) = id.value := by
    ext i hi
    have hlt : i < id.value.toList.length := by rwa [Vector.length_toList]
    have hmem : id.value.toList[i] ∈ id.value.toList := List.getElem_mem hlt
    rw [Vector.getElem_ofFn, take_drop_flatMap hwidth hlt, (htext _ hmem).extractHex_eq,
      Option.getD_some, UInt8.toUInt8_toUInt32, Vector.getElem_toList]
  rw [ofString, if_pos hlength, hvalue]

/-- The constructor reads back what `print` writes. -/
theorem ofString_print (uninitialised : ℕ → UInt32) (id : UUID) :
    ofString uninitialised id.print = some id := by
  refine ofString_flatMap (fun byte _ ↦ ?_) uninitialised
  rw [putHex_two]
  exact (pairOf_digits byte).2

/-- The text of an identifier has one character for each byte and one more for each byte from
sixteen on. -/
theorem length_getValue (id : UUID) :
    id.getValue.length = size + id.value.toList.countP (16 ≤ ·) := by
  have hbytes : ∀ bytes : List UInt8,
      (bytes.flatMap fun byte ↦ putHex 1 ' ' byte.toNat).length =
        bytes.length + bytes.countP (16 ≤ ·) := by
    intro bytes
    induction bytes with
    | nil => rfl
    | cons byte rest ih =>
      rw [List.flatMap_cons, List.length_append, ih, length_putHex_one, List.length_cons,
        List.countP_cons]
      by_cases h : 16 ≤ byte
      · simp only [h, if_true, decide_true]
        omega
      · simp only [h, if_false, decide_false, Bool.false_eq_true]
        omega
  rw [getValue, hbytes, Vector.length_toList, size]

/-- The constructor reads an identifier back from its text when no byte is below sixteen. -/
theorem ofString_getValue {id : UUID} (h : ∀ byte ∈ id.value, 16 ≤ byte)
    (uninitialised : ℕ → UInt32) : ofString uninitialised id.getValue = some id := by
  refine ofString_flatMap (fun byte hbyte ↦ ?_) uninitialised
  rw [putHex_one, toDigits_of_le (h byte (Vector.mem_toList_iff.mp hbyte))]
  exact (pairOf_digits byte).1

/-- The text has the length that the constructor asks for precisely when no byte is below
sixteen. -/
theorem length_getValue_eq_iff (id : UUID) :
    id.getValue.length = size * 2 ↔ ∀ byte ∈ id.value, 16 ≤ byte := by
  have hsize : id.value.toList.length = size := Vector.length_toList
  have hcount : id.getValue.length = size * 2 ↔
      id.value.toList.countP (16 ≤ ·) = id.value.toList.length := by
    rw [length_getValue, hsize]
    omega
  rw [hcount, List.countP_eq_length]
  simp

/-- The text of an identifier is faithful precisely when no byte is below sixteen. -/
theorem faithful_iff (id : UUID) : id.Faithful ↔ ∀ byte ∈ id.value, 16 ≤ byte := by
  constructor
  · intro hfaithful
    have hround := hfaithful.roundTrip fun _ ↦ 0
    by_contra hsmall
    rw [ofString, if_neg (mt (length_getValue_eq_iff id).mp hsmall)] at hround
    exact absurd hround (by simp)
  · intro hbytes
    refine ⟨ofString_getValue hbytes, fun other hother ↦ ?_⟩
    have hlength : other.getValue.length = size * 2 := by
      rw [hother]
      exact (length_getValue_eq_iff id).mpr hbytes
    have hround := ofString_getValue ((length_getValue_eq_iff other).mp hlength) fun _ ↦ 0
    rw [hother, ofString_getValue hbytes] at hround
    exact (Option.some.inj hround).symm

/-- The bytes `01 10` and `11 00`, with fourteen bytes of zero behind them, have the same text, and
the constructor refuses it. -/
theorem not_faithful_leadingZero :
    let id : UUID := ⟨#v[0x01, 0x10, 0, 0, 0, 0, 0, 0, 0, 0, 0, 0, 0, 0, 0, 0]⟩
    let other : UUID := ⟨#v[0x11, 0x00, 0, 0, 0, 0, 0, 0, 0, 0, 0, 0, 0, 0, 0, 0]⟩
    (∀ uninitialised, ofString uninitialised id.getValue = none) ∧
      other.getValue = id.getValue ∧ other ≠ id ∧ ¬ id.Faithful := by
  intro id other
  have htext : other.getValue = id.getValue := by decide
  have hne : other ≠ id := by decide
  refine ⟨fun uninitialised ↦ ?_, htext, hne, fun hfaithful ↦ ?_⟩
  · exact if_neg (by decide)
  · exact hne (hfaithful.injective other htext)

end UUID

end Tanos
