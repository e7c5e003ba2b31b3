import OfficePictures.Text.Blank
import OfficePictures.Text.Digits
import OfficePictures.Text.Lowercase
import OfficePictures.Text.Segments

/-!
# FileName — names that are safe and unique

Containers may call their pictures anything.  `FileName.sanitize` makes one ordinary file name of
any text, and `UniqueNames.claim` keeps the names in one directory apart, also where letter case
does not count: a name that is taken gets a number behind its stem.
-/

namespace OfficePictures
namespace FileName

/-! ## Safe names -/

/-- The characters that separate paths or are reserved somewhere. -/
def reserved : List Char :=
  ['/', '\\', ':', '*', '?', '"', '<', '>', '|']

/-- A character, or an underscore in place of one that a file name must not have. -/
def cleanChar (c : Char) : Char :=
  if reserved.contains c || Text.isControl c then '_' else c

def clean (name : List Char) : List Char :=
  let trimmed := Text.trim (name.map cleanChar)
  -- Dots alone would name a directory; no characters at all would name nothing.
  if trimmed.all (· = '.') then ['_'] else trimmed

/-- The file name that a text is made into: no separators, reserved or control characters, no white
space at its ends, and not only dots. -/
def sanitize (name : String) : String :=
  String.ofList (clean name.toList)

/-! ## Numbered names -/

/-- A name cut into stem and extension at its last dot, unless that is its first character. -/
def parts (name : List Char) : List Char × Option (List Char) :=
  match Text.splitLast? '.' name with
  | some (stem, extension) => if stem = [] then (name, none) else (stem, some extension)
  | none => (name, none)

def numbered (name : List Char) (number : Nat) : List Char :=
  let (stem, extension) := parts name
  stem ++ '_' :: (Text.decimal number).toList ++ (extension.map ('.' :: ·)).getD []

/-- The least number from 1 on with which a name is not among those taken.  Of one more number than
there are names taken, one is free. -/
def freeNumber (taken : List (List Char)) (name : List Char) : Nat :=
  1 + ((List.range (taken.length + 1)).find? fun number =>
    !taken.contains (Text.lower (numbered name (1 + number)))).getD taken.length

end FileName

/-! ## Unique names -/

/-- The names that are taken in a directory, in lower case. -/
structure UniqueNames where
  taken : List (List Char)
  deriving DecidableEq, Repr

namespace UniqueNames

def empty : UniqueNames :=
  ⟨[]⟩

def take (names : UniqueNames) (name : List Char) : UniqueNames :=
  ⟨Text.lower name :: names.taken⟩

/-- The name that is given out for a name, which is free and gets taken. -/
def choose (names : UniqueNames) (name : List Char) : List Char :=
  if names.taken.contains (Text.lower name) then
    FileName.numbered name (FileName.freeNumber names.taken name)
  else
    name

/-- Claims a name: the name itself if it is free, or else it with the least number that makes it
free. -/
def claim (names : UniqueNames) (name : String) : String × UniqueNames :=
  let chosen := names.choose name.toList
  (String.ofList chosen, names.take chosen)

def claimAll (names : UniqueNames) : List String → List String × UniqueNames
  | [] => ([], names)
  | name :: rest =>
      let (chosen, names) := names.claim name
      let (others, names) := names.claimAll rest
      (chosen :: others, names)

end UniqueNames
end OfficePictures
