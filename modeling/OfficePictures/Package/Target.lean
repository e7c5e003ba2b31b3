import OfficePictures.Package.PartName
import OfficePictures.Text.Digits
import OfficePictures.Text.Path
import OfficePictures.Text.Utf8

/-!
# Target — the part that a relationship points to

A target is a reference in the notation of addresses, relative to the folder of the part it is given
for: escapes stand for bytes, a fragment or a query at its end is left out, and a slash at its start
leads to the root of the package.
-/

namespace OfficePictures
namespace Package

/-! ## Escapes -/

def percent : UInt8 := 0x25

/-- The byte that the two characters behind a percent sign denote: two hexadecimal digits, or a plus
sign and one digit. -/
def escapedByte? (high low : UInt8) : Option UInt8 := do
  let lowDigit ← Text.hexDigit? (Char.ofNat low.toNat)
  if high = 0x2B then
    return UInt8.ofNat lowDigit
  else
    let highDigit ← Text.hexDigit? (Char.ofNat high.toNat)
    return UInt8.ofNat (16 * highDigit + lowDigit)

/-- The escape behind a percent sign, if it is one. -/
def escape? : Bytes → Option UInt8
  | high :: low :: _ => escapedByte? high low
  | _ => none

/-- The bytes with each escape replaced by what it denotes. -/
def unescape : Bytes → Bytes
  | [] => []
  | b :: rest =>
      match if b = percent then escape? rest else none with
      | some byte => byte :: unescape (rest.drop 2)
      | none => b :: unescape rest
termination_by bytes => bytes.length
decreasing_by
  all_goals
    simp only [List.length_cons, List.length_drop]
    omega

/-- The text with each escape replaced; bytes that are no text become replacement characters. -/
def percentDecode (text : List Char) : List Char :=
  Text.Utf8.decode (unescape (Text.Utf8.encode text))

/-! ## Resolving -/

/-- The place where a path begins: the root, or the given folder. -/
def startOf (folder path : List Char) : List (List Char) :=
  if path.head? = some '/' then [] else (Text.split '/' folder).filter (· ≠ [])

/-- The part that a target points to from the given folder, unless it leaves the package or names no
part. -/
def resolveTarget? (folder target : List Char) : Option PartName := do
  let path := percentDecode (target.takeWhile fun c => c ≠ '#' && c ≠ '?')
  let place ← Text.follow? (startOf folder path) path
  if place = [] then none else some (Text.join '/' place)

end Package
end OfficePictures
