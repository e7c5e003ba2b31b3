import OfficePictures.Bytes

/-!
# Utf16 — text and its 16-bit units

Names in compound files are written in 16-bit units; a character above the basic plane takes a pair
of them.
-/

namespace OfficePictures
namespace Text
namespace Utf16

def isHigh (unit : Nat) : Bool :=
  0xD800 ≤ unit && unit < 0xDC00

def isLow (unit : Nat) : Bool :=
  0xDC00 ≤ unit && unit < 0xE000

/-- The text of the units, if every pair is complete. -/
def decode? : List Nat → Option (List Char)
  | [] => some []
  | [unit] => if isHigh unit || isLow unit then none else some [Char.ofNat unit]
  | unit :: second :: rest =>
      if isHigh unit then
        if isLow second then
          let code := 0x10000 + (unit - 0xD800) * 0x400 + (second - 0xDC00)
          (decode? rest).map (Char.ofNat code :: ·)
        else
          none
      else if isLow unit then
        none
      else
        (decode? (second :: rest)).map (Char.ofNat unit :: ·)

def length (text : List Char) : Nat :=
  text.foldr (fun c units => (if c.toNat < 0x10000 then 1 else 2) + units) 0

end Utf16
end Text
end OfficePictures
