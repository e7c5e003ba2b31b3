import OfficePictures.Text.Reading
import OfficePictures.Text.Segments
import OfficePictures.Xml.Character

/-!
# Name — names of elements and attributes

A name is a local name, possibly after a namespace abbreviation and a colon.
-/

namespace OfficePictures
namespace Xml

open Text (Rest Shorter)

/-- A name with the abbreviation of its namespace, if it has one. -/
structure Name where
  space : Option (List Char)
  localName : List Char
  deriving DecidableEq, Repr

/-- The name that is spelled `text`. -/
def Name.ofText? (text : List Char) : Option Name :=
  match Text.split ':' text with
  | [localName] => if localName = [] then none else some ⟨none, localName⟩
  | [space, localName] =>
      if space = [] ∨ localName = [] then none else some ⟨some space, localName⟩
  | _ => none

/-- The name of the attribute that declares the namespace without abbreviation, and the abbreviation
of those that declare the others. -/
def declaring : List Char := "xmlns".toList

/-- Whether an attribute of this name declares a namespace. -/
def Name.isDeclaration (name : Name) : Bool :=
  name.space = some declaring || name = ⟨none, declaring⟩

/-- The longest run of name characters at the start of a text, if it begins like a name. -/
def word? : (text : List Char) → Option (List Char × Shorter text)
  | [] => none
  | c :: rest =>
      if isNameStart c then
        some (c :: rest.takeWhile isNameChar,
          ⟨rest.dropWhile isNameChar,
            Nat.lt_succ_of_le (Text.length_dropWhile_le isNameChar rest)⟩)
      else
        none

def name? (text : List Char) : Option (Name × Shorter text) :=
  match word? text with
  | none => none
  | some (spelled, rest) => (Name.ofText? spelled).map (·, rest)

end Xml
end OfficePictures
