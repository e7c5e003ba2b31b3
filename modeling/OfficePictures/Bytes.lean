/-!
# Bytes — byte strings and little-endian fields

Streams, pictures and files are lists of bytes.  This module reads and writes the fields that every
binary format here is made of:

* `Bytes.toNat` / `Bytes.ofNat` — the number of a little-endian field, and the field of a number;
* `Bytes.u16?`, `Bytes.u32?`, `Bytes.i32?` — the field at an offset, if the bytes reach that far;
* `Bytes.slice?` — a part of a byte string that has to lie inside it.

The main statements are that a field reads back as it was written (`toNat_ofNat`) and that a field
has exactly the width asked for (`length_ofNat`).
-/

namespace OfficePictures

abbrev Bytes := List UInt8

namespace Bytes

/-! ## Numbers -/

/-- The number whose base-256 digits are `bytes`, least significant first. -/
def toNat : Bytes → Nat
  | [] => 0
  | b :: rest => b.toNat + 256 * toNat rest

/-- The `width` least significant bytes of `n`, least significant first. -/
def ofNat : Nat → Nat → Bytes
  | 0, _ => []
  | width + 1, n => UInt8.ofNat (n % 256) :: ofNat width (n / 256)

/-- The number of values of a field of `width` bytes. -/
def bound : Nat → Nat
  | 0 => 1
  | width + 1 => 256 * bound width

@[simp] theorem length_ofNat (width n : Nat) : (ofNat width n).length = width := by
  induction width generalizing n with
  | zero => rfl
  | succ width ih => simp [ofNat, ih]

theorem toNat_ofNat (width n : Nat) : toNat (ofNat width n) = n % bound width := by
  induction width generalizing n with
  | zero => simp only [ofNat, toNat, bound, Nat.mod_one]
  | succ width ih =>
      have hbyte : (UInt8.ofNat (n % 256)).toNat = n % 256 := by
        simp [UInt8.toNat_ofNat']
      rw [ofNat, toNat, ih, hbyte, bound, Nat.mod_mul]

theorem toNat_lt (bytes : Bytes) : toNat bytes < bound bytes.length := by
  induction bytes with
  | nil => exact Nat.zero_lt_one
  | cons b rest ih =>
      have hb : b.toNat < 256 := b.toNat_lt
      simp only [toNat, List.length_cons, bound]
      omega

/-! ## Parts of a byte string -/

/-- The `length` bytes from `start` on, if `data` has them all. -/
def slice? (data : Bytes) (start length : Nat) : Option Bytes :=
  if start + length ≤ data.length then some ((data.drop start).take length) else none

/-- The number in the field of `width` bytes at `offset`, if `data` reaches that far. -/
def natAt? (data : Bytes) (offset width : Nat) : Option Nat :=
  let field := (data.drop offset).take width
  if field.length = width then some (toNat field) else none

/-- The unsigned 16-bit field at `offset`. -/
def u16? (data : Bytes) (offset : Nat) : Option UInt16 :=
  (natAt? data offset 2).map UInt16.ofNat

/-- The unsigned 32-bit field at `offset`. -/
def u32? (data : Bytes) (offset : Nat) : Option UInt32 :=
  (natAt? data offset 4).map UInt32.ofNat

/-- The signed 32-bit field at `offset`, in two's complement. -/
def i32? (data : Bytes) (offset : Nat) : Option Int32 :=
  (u32? data offset).map UInt32.toInt32

/-- A 16-bit field. -/
def ofU16 (value : UInt16) : Bytes :=
  ofNat 2 value.toNat

/-- A 32-bit field. -/
def ofU32 (value : UInt32) : Bytes :=
  ofNat 4 value.toNat

@[simp] theorem length_ofU16 (value : UInt16) : (ofU16 value).length = 2 :=
  length_ofNat 2 _

@[simp] theorem length_ofU32 (value : UInt32) : (ofU32 value).length = 4 :=
  length_ofNat 4 _

/-- A field that was written in front of anything else is read back. -/
theorem natAt?_ofNat_append (width n : Nat) (rest : Bytes) :
    natAt? (ofNat width n ++ rest) 0 width = some (n % bound width) := by
  simp [natAt?, toNat_ofNat]

/-- A field behind `front` is the field of what follows `front`. -/
theorem natAt?_append (front rest : Bytes) (offset width : Nat) :
    natAt? (front ++ rest) (front.length + offset) width = natAt? rest offset width := by
  have hfront : front.drop (front.length + offset) = [] :=
    List.drop_eq_nil_of_le (Nat.le_add_right _ _)
  simp [natAt?, List.drop_append, hfront]

theorem u16?_append (front rest : Bytes) (offset : Nat) :
    u16? (front ++ rest) (front.length + offset) = u16? rest offset := by
  simp only [u16?, natAt?_append]

theorem u32?_append (front rest : Bytes) (offset : Nat) :
    u32? (front ++ rest) (front.length + offset) = u32? rest offset := by
  simp only [u32?, natAt?_append]

theorem u16?_ofU16_append (value : UInt16) (rest : Bytes) :
    u16? (ofU16 value ++ rest) 0 = some value := by
  have hvalue : value.toNat < bound 2 := value.toNat_lt
  rw [u16?, ofU16, natAt?_ofNat_append, Nat.mod_eq_of_lt hvalue, Option.map_some,
    UInt16.ofNat_toNat]

theorem u32?_ofU32_append (value : UInt32) (rest : Bytes) :
    u32? (ofU32 value ++ rest) 0 = some value := by
  have hvalue : value.toNat < bound 4 := value.toNat_lt
  rw [u32?, ofU32, natAt?_ofNat_append, Nat.mod_eq_of_lt hvalue, Option.map_some,
    UInt32.ofNat_toNat]

/-- A field that was written behind `front` is read back there. -/
theorem u32?_behind (front : Bytes) (value : UInt32) (rest : Bytes) :
    u32? (front ++ (ofU32 value ++ rest)) front.length = some value := by
  have h := u32?_append front (ofU32 value ++ rest) 0
  rwa [Nat.add_zero, u32?_ofU32_append] at h

end Bytes

end OfficePictures
