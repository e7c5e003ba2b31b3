import OfficePictures.Text.Digits

/-!
# Digits — numbers in decimal

The decimal digits of a number are among ten characters, and they tell the number.
-/

namespace OfficePictures
namespace Text

def digits : List Char :=
  ['0', '1', '2', '3', '4', '5', '6', '7', '8', '9']

theorem mem_digits_of_isDigit {c : Char} (h : c.isDigit = true) : c ∈ digits := by
  have hcodes : ∀ d : Fin 10, Char.ofNat (48 + d.val) ∈ digits := by
    decide
  have hrange : 48 ≤ c.toNat ∧ c.toNat ≤ 57 := Char.isDigit_iff_toNat.1 h
  have hmem := hcodes ⟨c.toNat - 48, by omega⟩
  have hcode : 48 + (c.toNat - 48) = c.toNat := by
    omega
  simpa only [hcode, Char.ofNat_toNat] using hmem

theorem mem_digits_of_mem_toDigits {number : Nat} {c : Char} (h : c ∈ Nat.toDigits 10 number) :
    c ∈ digits :=
  mem_digits_of_isDigit (Nat.isDigit_of_mem_toDigits (by decide) (by decide) h)

theorem toDigits_inj {i j : Nat} (h : Nat.toDigits 10 i = Nat.toDigits 10 j) : i = j := by
  have hvalues := congrArg (fun digits => Nat.ofDigitChars 10 digits 0) h
  simpa using hvalues

end Text
end OfficePictures
