import OfficePictures.Text.Lowercase
import OfficePictures.Text.Segments

/-!
# PartName — names of the parts of a package

Part names are compared without regard to letter case and to slashes at their start: `key` is what
is compared.
-/

namespace OfficePictures
namespace Package

abbrev PartName := List Char

namespace PartName

def key (name : PartName) : List Char :=
  Text.lower (name.dropWhile (· = '/'))

/-- The name up to its last slash, or nothing. -/
def folder (name : PartName) : List Char :=
  match Text.splitLast? '/' name with
  | some (folder, _) => folder ++ ['/']
  | none => []

def fileName (name : PartName) : List Char :=
  Text.afterLast '/' name

/-- What follows the last dot of a name, in lower case as far as it is ASCII. -/
def extension? (name : PartName) : Option (List Char) :=
  (Text.splitLast? '.' name).map fun (_, extension) => Text.asciiLower extension

end PartName
end Package
end OfficePictures
