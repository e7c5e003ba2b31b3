import OfficePictures.Text.LetterCase

/-!
# Lowercase — full lower case of a text

Every letter is replaced by its lower case.  Two rules go beyond single letters: the dotted capital
I becomes two characters, and a capital sigma at the end of a word becomes the final sigma, where
case-ignorable characters do not count as neighbours.

The walk carries one fact about what came before: whether the last character that counts is cased.
-/

namespace OfficePictures
namespace Text

/-- The lower case of one character, seen on its own. -/
def lowerChar (c : Char) : List Char :=
  if c.toNat < 0x80 then
    if 'A' ≤ c ∧ c ≤ 'Z' then [Char.ofNat (c.toNat + 32)] else [c]
  else if c = 'İ' then
    ['i', '\u0307']
  else
    [mapCase lowerRuns c]

/-- Whether the first character of `text` that is not passed over is cased. -/
def casedFollows (text : List Char) : Bool :=
  match text.dropWhile isCaseIgnorable with
  | [] => false
  | c :: _ => isCased c

/-- The lower case of a text; `afterCased` tells whether the last character before it that is not
passed over is cased. -/
def lowerFrom (afterCased : Bool) : List Char → List Char
  | [] => []
  | c :: rest =>
      let lowered :=
        -- A sigma is final behind a cased character with none to follow.
        if c = 'Σ' then
          if afterCased && !casedFollows rest then ['ς'] else ['σ']
        else
          lowerChar c
      lowered ++ lowerFrom (if isCaseIgnorable c then afterCased else isCased c) rest

def lower (text : List Char) : List Char :=
  lowerFrom false text

/-- The lower case of the ASCII letters of a text; all else stays. -/
def asciiLower (text : List Char) : List Char :=
  text.map Char.toLower

end Text
end OfficePictures
