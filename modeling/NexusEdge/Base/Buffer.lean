import Mathlib.Data.List.Basic
import Mathlib.Logic.Basic

/-!
# Reading from buffers

Library `Base`. Fixed-width reads of a `Buffer` at an offset; a read that is not within the buffer
throws a `RangeError`. A sequence of reads returns exactly if all its fields are within the buffer.
-/

namespace NexusEdge.Base

universe u v w

/-- Bytes in order. -/
abbrev Buffer := List UInt8

section Except

variable {ε : Type u} {α : Type v} {β : Type v}

/-- A statement that returns. -/
def Returns (x : Except ε α) : Prop := ∃ a, x = .ok a

/-- A value is returned. -/
@[simp] theorem returns_ok (a : α) : Returns (.ok a : Except ε α) := ⟨a, rfl⟩

/-- The same for `pure`. -/
@[simp] theorem returns_pure (a : α) : Returns (pure a : Except ε α) := ⟨a, rfl⟩

/-- An exception is thrown. -/
@[simp] theorem not_returns_error (e : ε) : ¬ Returns (.error e : Except ε α) := nofun

/-- Changing what is returned. -/
@[simp] theorem returns_map {γ : Type w} (f : α → γ) (x : Except ε α) :
    Returns (x.map f) ↔ Returns x := by
  cases x with
  | ok a => exact iff_of_true ⟨f a, rfl⟩ ⟨a, rfl⟩
  | error e => exact iff_of_false nofun nofun

/-- What is left of a statement without its exception. -/
theorem toOption_eq_some_iff (x : Except ε α) (a : α) : x.toOption = some a ↔ x = .ok a := by
  cases x with
  | ok b =>
    exact ⟨fun h ↦ congrArg Except.ok (Option.some.inj h), fun h ↦ congrArg some (Except.ok.inj h)⟩
  | error e => exact iff_of_false nofun nofun

/-- What comes after a statement that returned. -/
theorem ok_bind (a : α) (f : α → Except ε β) : Except.ok a >>= f = f a := rfl

/-- What a sequence returns. -/
theorem bind_eq_ok_iff (x : Except ε α) (f : α → Except ε β) (b : β) :
    x >>= f = .ok b ↔ ∃ a, x = .ok a ∧ f a = .ok b := by
  cases x with
  | ok a =>
    constructor
    · exact fun h ↦ ⟨a, rfl, h⟩
    · rintro ⟨c, hc, h⟩
      obtain rfl := Except.ok.inj hc
      exact h
  | error e => exact iff_of_false nofun nofun

/-- A sequence returns if its parts do. -/
theorem returns_bind (x : Except ε α) (f : α → Except ε β) :
    Returns (x >>= f) ↔ ∃ a, x = .ok a ∧ Returns (f a) := by
  unfold Returns
  simp only [bind_eq_ok_iff]
  constructor
  · rintro ⟨b, a, ha, hb⟩
    exact ⟨a, ha, b, hb⟩
  · rintro ⟨a, ha, b, hb⟩
    exact ⟨b, a, ha, hb⟩

/-- Changing what is returned, in a sequence. -/
@[simp] theorem returns_bind_pure (x : Except ε α) (f : α → β) :
    Returns (x >>= fun a ↦ pure (f a)) ↔ Returns x := by
  rw [returns_bind]
  constructor
  · rintro ⟨a, ha, _⟩
    exact ⟨a, ha⟩
  · rintro ⟨a, ha⟩
    exact ⟨a, ha, returns_pure (f a)⟩

end Except

namespace Buffer

/-- Value of bytes, the first one least significant. -/
def littleEndian : List UInt8 → Nat
  | [] => 0
  | byte :: bytes => byte.toNat + 256 * littleEndian bytes

/-- Value of bytes, the first one most significant. -/
def bigEndian (bytes : List UInt8) : Nat := littleEndian bytes.reverse

/-- The value below a range, in two's complement. -/
def signed (range value : Nat) : Int :=
  if 2 * value < range then value else (value : Int) - range

/-- The bytes of a field, as far as the buffer has them. -/
def bytesAt (buffer : Buffer) (offset byteLength : Nat) : List UInt8 :=
  (buffer.drop offset).take byteLength

/-- A field of the buffer, decoded. -/
def read {α : Type u} (decode : List UInt8 → α) (buffer : Buffer) (offset byteLength : Nat) :
    Except String α :=
  if offset + byteLength ≤ buffer.length then .ok (decode (buffer.bytesAt offset byteLength))
  else .error "RangeError"

/-- `buffer.readUInt8(offset)`. -/
abbrev readUInt8 (buffer : Buffer) (offset : Nat) : Except String Nat :=
  buffer.read littleEndian offset 1

/-- `buffer.readInt8(offset)`. -/
abbrev readInt8 (buffer : Buffer) (offset : Nat) : Except String Int :=
  buffer.read (fun bytes ↦ signed 256 (littleEndian bytes)) offset 1

/-- `buffer.readUInt16LE(offset)`. -/
abbrev readUInt16LE (buffer : Buffer) (offset : Nat) : Except String Nat :=
  buffer.read littleEndian offset 2

/-- `buffer.readUInt32LE(offset)`. -/
abbrev readUInt32LE (buffer : Buffer) (offset : Nat) : Except String Nat :=
  buffer.read littleEndian offset 4

/-- `buffer.readUInt16BE(offset)`. -/
abbrev readUInt16BE (buffer : Buffer) (offset : Nat) : Except String Nat :=
  buffer.read bigEndian offset 2

/-- `buffer.readInt16BE(offset)`. -/
abbrev readInt16BE (buffer : Buffer) (offset : Nat) : Except String Int :=
  buffer.read (fun bytes ↦ signed 65536 (bigEndian bytes)) offset 2

/-- `buffer.readUInt32BE(offset)`; also `buffer.readFloatBE(offset)`, the bits of the number. -/
abbrev readUInt32BE (buffer : Buffer) (offset : Nat) : Except String Nat :=
  buffer.read bigEndian offset 4

/-- `buffer.slice(start, end)`. -/
def slice (buffer : Buffer) (start stop : Nat) : Buffer := (buffer.take stop).drop start

variable {α : Type u}

/-- A read returns exactly if its field is within the buffer. -/
@[simp] theorem returns_read (decode : List UInt8 → α) (buffer : Buffer)
    (offset byteLength : Nat) :
    Returns (buffer.read decode offset byteLength) ↔ offset + byteLength ≤ buffer.length := by
  unfold read
  split
  · next h => exact iff_of_true ⟨_, rfl⟩ h
  · next h => exact iff_of_false nofun h

/-- What comes after a read is done with the value of the field. -/
@[simp] theorem returns_read_bind {β : Type u} (decode : List UInt8 → α) (buffer : Buffer)
    (offset byteLength : Nat) (f : α → Except String β) :
    Returns (buffer.read decode offset byteLength >>= f) ↔
      offset + byteLength ≤ buffer.length ∧
        Returns (f (decode (buffer.bytesAt offset byteLength))) := by
  unfold read
  split
  · next h => exact (and_iff_right h).symm
  · next h => exact iff_of_false nofun fun hand ↦ h hand.1

/-- The value of a field within the buffer. -/
theorem read_of_le (decode : List UInt8 → α) {buffer : Buffer} {offset byteLength : Nat}
    (h : offset + byteLength ≤ buffer.length) :
    buffer.read decode offset byteLength = .ok (decode (buffer.bytesAt offset byteLength)) :=
  if_pos h

/-- What a read returns. -/
theorem read_eq_ok_iff (decode : List UInt8 → α) (buffer : Buffer) (offset byteLength : Nat)
    (value : α) : buffer.read decode offset byteLength = .ok value ↔
      offset + byteLength ≤ buffer.length ∧ decode (buffer.bytesAt offset byteLength) = value := by
  unfold read
  split
  · next h => exact ⟨fun heq ↦ ⟨h, Except.ok.inj heq⟩, fun heq ↦ congrArg Except.ok heq.2⟩
  · next h => exact iff_of_false nofun fun hand ↦ h hand.1

/-- A read behind other bytes. -/
theorem read_append (decode : List UInt8 → α) {before buffer : Buffer} {offset i byteLength : Nat}
    (hoffset : before.length + i = offset) (hle : i + byteLength ≤ buffer.length) :
    (before ++ buffer).read decode offset byteLength =
      .ok (decode (buffer.bytesAt i byteLength)) := by
  rw [read_of_le decode (by rw [List.length_append]; omega), bytesAt, ← hoffset,
    List.drop_append, List.drop_of_length_le (by omega), List.nil_append, Nat.add_sub_cancel_left]
  rfl

end Buffer

/-- The value of a byte of a buffer. -/
def byteAt (data : Buffer) (offset : Nat) : Nat := Buffer.littleEndian (data.bytesAt offset 1)

end NexusEdge.Base
