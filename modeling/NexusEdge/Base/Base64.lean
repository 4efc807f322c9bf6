import NexusEdge.Base.Buffer
import NexusEdge.Base.JsString

/-!
# Base64

Library `Base`. Three bytes are four digits of six bits each; what is left over at the end is padded.
Decoding ignores what is no digit up to the padding, and accepts the digits of both alphabets.
Encoding can be undone, and its length depends on the number of bytes only.
-/

namespace NexusEdge.Base.Base64

/-- The digits by value. -/
def alphabet : List Char :=
  "ABCDEFGHIJKLMNOPQRSTUVWXYZabcdefghijklmnopqrstuvwxyz0123456789+/".toList

/-- The digit of a value below 64. -/
def digit (value : Nat) : Char := alphabet.getD value '='

/-- The value of a digit, also of those for URLs. -/
def value? (c : Char) : Option Nat :=
  if c = '-' then some 62 else if c = '_' then some 63 else alphabet.idxOf? c

/-- Values of the digits for bytes. -/
def sextets : Buffer → List Nat
  | a :: b :: c :: bytes =>
    a.toNat / 4 :: (a.toNat % 4 * 16 + b.toNat / 16) :: (b.toNat % 16 * 4 + c.toNat / 64) ::
      c.toNat % 64 :: sextets bytes
  | [a, b] => [a.toNat / 4, a.toNat % 4 * 16 + b.toNat / 16, b.toNat % 16 * 4]
  | [a] => [a.toNat / 4, a.toNat % 4 * 16]
  | [] => []

/-- The bytes of which digits have these values. -/
def bytes : List Nat → Buffer
  | p :: q :: r :: s :: values =>
    UInt8.ofNat (p * 4 + q / 16) :: UInt8.ofNat (q % 16 * 16 + r / 4) ::
      UInt8.ofNat (r % 4 * 64 + s) :: bytes values
  | [p, q, r] => [UInt8.ofNat (p * 4 + q / 16), UInt8.ofNat (q % 16 * 16 + r / 4)]
  | [p, q] => [UInt8.ofNat (p * 4 + q / 16)]
  | _ => []

/-- `buffer.toString('base64')`. -/
def encode (buffer : Buffer) : String :=
  String.ofList ((sextets buffer).map digit ++ List.replicate ((3 - buffer.length % 3) % 3) '=')

/-- `Buffer.from(text, 'base64')`. -/
def decode (text : String) : Buffer :=
  bytes ((text.toList.takeWhile (· ≠ '=')).filterMap value?)

/-- Digits have six bits. -/
theorem lt_of_mem_sextets (buffer : Buffer) : ∀ value ∈ sextets buffer, value < 64 := by
  fun_induction sextets buffer with
  | case1 a b c bytes ih =>
    have ha := a.toNat_lt
    have hb := b.toNat_lt
    have hc := c.toNat_lt
    intro value hvalue
    simp only [List.mem_cons] at hvalue
    rcases hvalue with rfl | rfl | rfl | rfl | hvalue
    · omega
    · omega
    · omega
    · omega
    · exact ih value hvalue
  | case2 a b =>
    have ha := a.toNat_lt
    have hb := b.toNat_lt
    intro value hvalue
    simp only [List.mem_cons, List.not_mem_nil, or_false] at hvalue
    omega
  | case3 a =>
    have ha := a.toNat_lt
    intro value hvalue
    simp only [List.mem_cons, List.not_mem_nil, or_false] at hvalue
    omega
  | case4 => exact nofun

/-- The digits give the bytes back. -/
theorem bytes_sextets (buffer : Buffer) : bytes (sextets buffer) = buffer := by
  fun_induction sextets buffer with
  | case1 a b c rest ih =>
    have ha := a.toNat_lt
    have hb := b.toNat_lt
    have hc := c.toNat_lt
    have hfirst : a.toNat / 4 * 4 + (a.toNat % 4 * 16 + b.toNat / 16) / 16 = a.toNat := by omega
    have hsecond : (a.toNat % 4 * 16 + b.toNat / 16) % 16 * 16 +
        (b.toNat % 16 * 4 + c.toNat / 64) / 4 = b.toNat := by omega
    have hthird : (b.toNat % 16 * 4 + c.toNat / 64) % 4 * 64 + c.toNat % 64 = c.toNat := by omega
    rw [bytes, hfirst, hsecond, hthird, UInt8.ofNat_toNat, UInt8.ofNat_toNat, UInt8.ofNat_toNat, ih]
  | case2 a b =>
    have ha := a.toNat_lt
    have hb := b.toNat_lt
    have hfirst : a.toNat / 4 * 4 + (a.toNat % 4 * 16 + b.toNat / 16) / 16 = a.toNat := by omega
    have hsecond : (a.toNat % 4 * 16 + b.toNat / 16) % 16 * 16 + b.toNat % 16 * 4 / 4 = b.toNat := by
      omega
    rw [bytes, hfirst, hsecond, UInt8.ofNat_toNat, UInt8.ofNat_toNat]
  | case3 a =>
    have ha := a.toNat_lt
    have hfirst : a.toNat / 4 * 4 + a.toNat % 4 * 16 / 16 = a.toNat := by omega
    rw [bytes, hfirst, UInt8.ofNat_toNat]
  | case4 => rfl

/-- Four digits for three bytes, with padding. -/
theorem length_sextets (buffer : Buffer) :
    (sextets buffer).length + (3 - buffer.length % 3) % 3 = 4 * ((buffer.length + 2) / 3) := by
  fun_induction sextets buffer with
  | case1 a b c rest ih =>
    simp only [List.length_cons]
    omega
  | case2 a b => simp
  | case3 a => simp
  | case4 => rfl

/-- A digit has its value, and is no padding. -/
theorem value?_digit {value : Nat} (h : value < 64) :
    value? (digit value) = some value ∧ digit value ≠ '=' ∧ (digit value).utf8Size = 1 := by
  have hall : ∀ value : Fin 64, value? (digit value) = some value.val ∧ digit value ≠ '=' ∧
      (digit value).utf8Size = 1 := by decide +kernel
  exact hall ⟨value, h⟩

/-- Digits and padding as characters. -/
theorem toList_encode (buffer : Buffer) : (encode buffer).toList =
    (sextets buffer).map digit ++ List.replicate ((3 - buffer.length % 3) % 3) '=' :=
  String.toList_ofList

/-- Decoding undoes encoding. -/
theorem decode_encode (buffer : Buffer) : decode (encode buffer) = buffer := by
  have hdigits : ∀ c ∈ (sextets buffer).map digit, c ≠ '=' := by
    intro c hc
    obtain ⟨value, hvalue, rfl⟩ := List.mem_map.mp hc
    exact (value?_digit (lt_of_mem_sextets buffer value hvalue)).2.1
  have htake : (encode buffer).toList.takeWhile (· ≠ '=') = (sextets buffer).map digit := by
    rw [toList_encode, List.takeWhile_append_of_pos (by simpa using hdigits)]
    cases (3 - buffer.length % 3) % 3 with
    | zero => simp
    | succ n => simp [List.replicate_succ]
  have hvalues : ((sextets buffer).map digit).filterMap value? = sextets buffer := by
    rw [List.filterMap_map]
    have hsome : ∀ value ∈ sextets buffer, (value? ∘ digit) value = some value := fun value hvalue ↦
      (value?_digit (lt_of_mem_sextets buffer value hvalue)).1
    rw [List.filterMap_congr hsome, List.filterMap_some]
  rw [decode, htake, hvalues, bytes_sextets]

/-- The length of encoded bytes. -/
theorem utf8ByteSize_encode (buffer : Buffer) :
    (encode buffer).utf8ByteSize = 4 * ((buffer.length + 2) / 3) := by
  have hsize : ∀ c ∈ (encode buffer).toList, c.utf8Size = 1 := by
    intro c hc
    rw [toList_encode, List.mem_append, List.mem_map] at hc
    rcases hc with ⟨value, hvalue, rfl⟩ | hc
    · exact (value?_digit (lt_of_mem_sextets buffer value hvalue)).2.2
    · rw [List.eq_of_mem_replicate hc]
      decide
  rw [utf8ByteSize_of_utf8Size hsize, toList_encode, List.length_append, List.length_map,
    List.length_replicate, length_sextets]

end NexusEdge.Base.Base64
