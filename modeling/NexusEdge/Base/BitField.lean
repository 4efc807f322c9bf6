import Mathlib.Algebra.Group.Nat.Defs
import NexusEdge.Base.Buffer

/-!
# Bit fields

Library `Base`. Fields of bits within a number, as formats pack them into bytes: reading one by
mask and shift, and the number that a list of fields makes. A packed field is read back, and the
bytes of a number make the number again.
-/

namespace NexusEdge.Base

/-! ### Fields of a number -/

/-- The field of a width at an offset. -/
def bitField (n offset width : Nat) : Nat := n / 2 ^ offset % 2 ^ width

/-- A field is below the power of its width. -/
theorem bitField_lt (n offset width : Nat) : bitField n offset width < 2 ^ width :=
  Nat.mod_lt _ (Nat.two_pow_pos width)

/-- `(n & mask) >> offset`. -/
theorem land_shiftRight (n offset width : Nat) :
    (n &&& ((2 ^ width - 1) <<< offset)) >>> offset = bitField n offset width := by
  rw [Nat.shiftRight_and_distrib, Nat.shiftLeft_shiftRight, Nat.and_two_pow_sub_one_eq_mod,
    Nat.shiftRight_eq_div_pow]
  rfl

/-- `n & mask`, for the lowest field. -/
theorem land_mask (n width : Nat) : n &&& (2 ^ width - 1) = bitField n 0 width := by
  rw [Nat.and_two_pow_sub_one_eq_mod, bitField, Nat.pow_zero, Nat.div_one]

/-- `high << offset | low`. -/
theorem shiftLeft_or {low offset : Nat} (h : low < 2 ^ offset) (high : Nat) :
    high <<< offset ||| low = low + 2 ^ offset * high := by
  rw [← Nat.shiftLeft_add_eq_or_of_lt h, Nat.shiftLeft_eq, Nat.mul_comm, Nat.add_comm]

/-! ### Packing -/

/-- The number made of fields, values and widths, the first one in the lowest bits. -/
def pack : List (Nat × Nat) → Nat
  | [] => 0
  | (value, width) :: fields => value + 2 ^ width * pack fields

/-- The width of all fields. -/
def packWidth : List (Nat × Nat) → Nat
  | [] => 0
  | (_, width) :: fields => width + packWidth fields

/-- Every value fits into its width. -/
def Fits (fields : List (Nat × Nat)) : Prop := ∀ f ∈ fields, f.1 < 2 ^ f.2

/-- A field and those above it. -/
theorem fits_cons {value width : Nat} {fields : List (Nat × Nat)} :
    Fits ((value, width) :: fields) ↔ value < 2 ^ width ∧ Fits fields :=
  List.forall_mem_cons

/-- Nothing to fit. -/
theorem fits_nil : Fits [] := fun _ h ↦ absurd h List.not_mem_nil

/-- Fields that fit are below the power of their width. -/
theorem pack_lt {fields : List (Nat × Nat)} (h : Fits fields) :
    pack fields < 2 ^ packWidth fields := by
  induction fields with
  | nil => exact Nat.one_pos
  | cons f fields ih =>
    obtain ⟨hfirst, hfields⟩ := fits_cons.mp h
    have hrest := ih hfields
    show f.1 + 2 ^ f.2 * pack fields < 2 ^ packWidth (f :: fields)
    rw [packWidth, Nat.pow_add]
    have hstep : f.1 + 2 ^ f.2 * pack fields < 2 ^ f.2 * (pack fields + 1) := by
      rw [Nat.mul_succ]
      omega
    exact Nat.lt_of_lt_of_le hstep (Nat.mul_le_mul_left _ hrest)

/-- What is above the first fields. -/
theorem pack_append_div {before after : List (Nat × Nat)} (h : Fits (before ++ after)) :
    pack (before ++ after) / 2 ^ packWidth before = pack after := by
  induction before with
  | nil => exact Nat.div_one _
  | cons f before ih =>
    obtain ⟨hfirst, hfields⟩ := fits_cons.mp h
    show (f.1 + 2 ^ f.2 * pack (before ++ after)) / 2 ^ packWidth (f :: before) = pack after
    rw [packWidth, Nat.pow_add, ← Nat.div_div_eq_div_mul,
      Nat.add_mul_div_left _ _ (Nat.two_pow_pos f.2), Nat.div_eq_of_lt hfirst, Nat.zero_add]
    exact ih hfields

/-- A packed field is read back. -/
theorem bitField_pack {fields : List (Nat × Nat)} (h : Fits fields) (i offset : Nat)
    {value width : Nat} (hfield : fields[i]? = some (value, width))
    (hoffset : packWidth (fields.take i) = offset) :
    bitField (pack fields) offset width = value := by
  have hvalue : value < 2 ^ width := h (value, width) (List.mem_of_getElem? hfield)
  have hdrop : fields.drop i = (value, width) :: fields.drop (i + 1) := by
    obtain ⟨hi, hget⟩ := List.getElem?_eq_some_iff.mp hfield
    rw [List.drop_eq_getElem_cons hi, hget]
  have hsplit : Fits (fields.take i ++ fields.drop i) := by rwa [List.take_append_drop]
  have habove := pack_append_div hsplit
  rw [List.take_append_drop, hoffset] at habove
  rw [bitField, habove, hdrop, pack, Nat.add_mul_mod_self_left, Nat.mod_eq_of_lt hvalue]

/-! ### Bytes -/

namespace Buffer

/-- The lowest bytes of a number, the least significant one first. -/
def toBytes : Nat → Nat → Buffer
  | 0, _ => []
  | byteLength + 1, n => UInt8.ofNat n :: toBytes byteLength (n / 256)

/-- Bytes are below 256. -/
theorem littleEndian_lt (bytes : List UInt8) : littleEndian bytes < 256 ^ bytes.length := by
  induction bytes with
  | nil => exact Nat.one_pos
  | cons byte bytes ih =>
    have hbyte := byte.toNat_lt
    rw [littleEndian, List.length_cons, Nat.pow_succ]
    omega

/-- They make the number again, if it is not too large. -/
theorem littleEndian_toBytes (byteLength : Nat) {n : Nat} (h : n < 256 ^ byteLength) :
    littleEndian (toBytes byteLength n) = n := by
  induction byteLength generalizing n with
  | zero =>
    have hzero : n < 1 := h
    show 0 = n
    omega
  | succ byteLength ih =>
    rw [Nat.pow_succ] at h
    rw [toBytes, littleEndian, ih (by omega), UInt8.toNat_ofNat']
    omega

end Buffer
end NexusEdge.Base
