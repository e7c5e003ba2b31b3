import OfficePictures.Fault
import OfficePictures.Package.Target
import OfficePictures.Toolkit

/-!
# Relationship — which parts belong together

The relationships of a part stand in a part of their own, in the folder `_rels` next to it: those of
`word/document.xml` in `word/_rels/document.xml.rels`.
-/

namespace OfficePictures
namespace Package

/-- A relationship of a part to another part, or to something outside the package. -/
structure Relationship where
  type : String
  target : List Char
  isExternal : Bool
  deriving DecidableEq, Repr

namespace Relationship

/-- The namespace of the elements that hold relationships. -/
def space : String := "http://schemas.openxmlformats.org/package/2006/relationships"

/-- The relationship that an element holds, if it has a type and a target. -/
def ofElement? (element : Xml.Element) : Option Relationship := do
  let type ← element.attribute? "Type"
  let target ← element.attribute? "Target"
  return ⟨type, target.toList, element.attribute? "TargetMode" = some "External"⟩

/-- The relationships that a document holds in its bytes. -/
def listOfBytes [Toolkit] (bytes : Bytes) : Except Fault (List Relationship) :=
  match Toolkit.element? bytes with
  | some root => .ok ((root.childrenNamed "Relationship" (some space)).filterMap ofElement?)
  | none => .error .markup

/-- Whether the relationship is to a part of the package and its type ends as given. -/
def isInternal (relationship : Relationship) (typeEnd : String) : Bool :=
  !relationship.isExternal && typeEnd.toList.isSuffixOf relationship.type.toList

end Relationship

/-! ## Parts that hold relationships -/

/-- The extension of the parts that hold relationships. -/
def relationshipsExtension : List Char := ".rels".toList

/-- The end of the names of the folders that hold them. -/
def relationshipsFolder : List Char := "_rels".toList

/-- The text in front of `ending`, if it ends so. -/
def dropEnding? (ending text : List Char) : Option (List Char) :=
  if ending.isSuffixOf text then some (text.take (text.length - ending.length)) else none

/-- The part whose relationships the part `name` holds, if it holds any: its folder and its name in
it. -/
def relationshipsSource? (name : PartName) : Option (List Char × List Char) := do
  let (folder, source) ← Text.splitLast? '/' (← dropEnding? relationshipsExtension name)
  return (← dropEnding? relationshipsFolder folder, source)

/-- The parts that hold the relationships of parts under `root`, with the folders of these. -/
def relationshipPartsUnder (names : List PartName) (root : List Char) :
    List (PartName × List Char) :=
  names.filterMap fun name =>
    match relationshipsSource? name with
    | some (folder, source) =>
        if (PartName.key root).isPrefixOf (PartName.key (folder ++ source)) then some (name, folder)
        else none
    | none => none

end Package
end OfficePictures
