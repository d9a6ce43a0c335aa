import Mathlib.Algebra.Order.Ring.Int
import Mathlib.Tactic.Ring

/-!
# Little-endian integers

The bytes a little-endian machine stores for an integer of a given width, least significant byte
first. `encode` and `decode` are for unsigned integers, `encodeSigned` and `decodeSigned` for
two's complement. Encoding drops what does not fit into the width: a value comes back modulo
`256 ^ width` (`decode_encode`), a signed one as its balanced remainder
(`decodeSigned_encodeSigned`). Bytes come back as they are (`encode_decode`,
`encodeSigned_decodeSigned`).
-/

set_option autoImplicit false
set_option relaxedAutoImplicit false

namespace Tanos.Library.LittleEndian

/-- The bytes of an unsigned integer. -/
def encode : ℕ → ℕ → List UInt8
  | 0, _ => []
  | width + 1, value => UInt8.ofNat value :: encode width (value / 256)

/-- The unsigned integer stored in a list of bytes. -/
def decode : List UInt8 → ℕ
  | [] => 0
  | byte :: rest => byte.toNat + 256 * decode rest

/-- The bytes of a signed integer. -/
def encodeSigned (width : ℕ) (value : ℤ) : List UInt8 :=
  encode width (value % 256 ^ width).toNat

/-- The signed integer stored in a list of bytes. -/
def decodeSigned (bytes : List UInt8) : ℤ := Int.bmod (decode bytes) (256 ^ bytes.length)

@[simp] theorem length_encode (width value : ℕ) : (encode width value).length = width := by
  induction width generalizing value with
  | zero => rfl
  | succ width ih => simp only [encode, List.length_cons, ih]

theorem decode_encode (width value : ℕ) : decode (encode width value) = value % 256 ^ width := by
  induction width generalizing value with
  | zero => rw [encode, decode, pow_zero, Nat.mod_one]
  | succ width ih =>
    have hbyte : (UInt8.ofNat value).toNat = value % 256 := UInt8.toNat_ofNat'
    rw [encode, decode, ih, hbyte, pow_succ', Nat.mod_mul]

/-- An integer that fits its width comes back unchanged. -/
theorem decode_encode_of_lt {width value : ℕ} (hvalue : value < 256 ^ width) :
    decode (encode width value) = value := by
  rw [decode_encode, Nat.mod_eq_of_lt hvalue]

theorem decode_of_eq_encode {bytes : List UInt8} {width value : ℕ}
    (hbytes : bytes = encode width value) (hvalue : value < 256 ^ width) :
    decode bytes = value := by
  rw [hbytes, decode_encode_of_lt hvalue]

theorem decode_lt (bytes : List UInt8) : decode bytes < 256 ^ bytes.length := by
  induction bytes with
  | nil => exact Nat.one_pos
  | cons byte rest ih =>
    have hbyte : byte.toNat < 256 := byte.toNat_lt
    rw [decode, List.length_cons, pow_succ]
    omega

/-- The bytes an integer is decoded from are its bytes in their width. -/
theorem encode_decode (bytes : List UInt8) : encode bytes.length (decode bytes) = bytes := by
  induction bytes with
  | nil => rfl
  | cons byte rest ih =>
    have hbyte : byte.toNat < 256 := byte.toNat_lt
    have hlow : UInt8.ofNat (byte.toNat + 256 * decode rest) = byte := by
      apply UInt8.toNat_inj.mp
      rw [UInt8.toNat_ofNat']
      omega
    have hhigh : (byte.toNat + 256 * decode rest) / 256 = decode rest := by omega
    rw [List.length_cons, decode, encode, hlow, hhigh, ih]

@[simp] theorem length_encodeSigned (width : ℕ) (value : ℤ) :
    (encodeSigned width value).length = width := length_encode width _

theorem decodeSigned_encodeSigned (width : ℕ) (value : ℤ) :
    decodeSigned (encodeSigned width value) = Int.bmod value (256 ^ width) := by
  have hpow : (0 : ℤ) < 256 ^ width := pow_pos (by decide) width
  have hnonneg : 0 ≤ value % 256 ^ width := Int.emod_nonneg value hpow.ne'
  have hlt : (value % 256 ^ width).toNat < 256 ^ width := by
    rw [← Nat.cast_lt (α := ℤ), Int.toNat_of_nonneg hnonneg]
    push_cast
    exact Int.emod_lt_of_pos value hpow
  rw [decodeSigned, length_encodeSigned, encodeSigned, decode_encode_of_lt hlt,
    Int.toNat_of_nonneg hnonneg]
  have hmod : value % 256 ^ width = value % ((256 ^ width : ℕ) : ℤ) := by push_cast; rfl
  rw [hmod, Int.emod_bmod]

/-- A signed integer that fits its width comes back unchanged. -/
theorem decodeSigned_encodeSigned_of_le {width : ℕ} {value : ℤ}
    (hlower : -256 ^ width ≤ 2 * value) (hupper : 2 * value < 256 ^ width) :
    decodeSigned (encodeSigned width value) = value := by
  have hpow : ((256 ^ width : ℕ) : ℤ) = 256 ^ width := by push_cast; rfl
  rw [decodeSigned_encodeSigned]
  refine Int.bmod_eq_of_le ?_ ?_ <;> omega

/-- The bytes a signed integer is decoded from are its bytes in their width. -/
theorem encodeSigned_decodeSigned (bytes : List UInt8) :
    encodeSigned bytes.length (decodeSigned bytes) = bytes := by
  have hpow : (256 : ℤ) ^ bytes.length = ((256 ^ bytes.length : ℕ) : ℤ) := by push_cast; rfl
  have hvalue : (decodeSigned bytes % 256 ^ bytes.length).toNat = decode bytes := by
    rw [decodeSigned, hpow, Int.bmod_emod, ← Int.natCast_emod, Int.toNat_natCast]
    exact Nat.mod_eq_of_lt (decode_lt bytes)
  rw [encodeSigned, hvalue, encode_decode]

end Tanos.Library.LittleEndian
