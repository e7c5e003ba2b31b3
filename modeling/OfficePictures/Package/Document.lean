import OfficePictures.Limits
import OfficePictures.Package.Contents
import OfficePictures.Picture
import OfficePictures.Walk

/-!
# Document — the pictures of a package

The main part of a package tells which application it belongs to.  Its pictures are the targets of
the picture relationships of all parts in the folder of the main part or below it, each listed once
and in the order in which it is first referred to.
-/

namespace OfficePictures
namespace Package

/-! ## Applications -/

/-- The applications whose documents are packages. -/
inductive Application
  | word
  | presentation
  | workbook
  deriving DecidableEq, Repr

def Application.mainTypes : Application → List String
  | word =>
      ["application/vnd.openxmlformats-officedocument.wordprocessingml.document.main+xml",
        "application/vnd.openxmlformats-officedocument.wordprocessingml.template.main+xml",
        "application/vnd.ms-word.document.macroEnabled.main+xml",
        "application/vnd.ms-word.template.macroEnabledTemplate.main+xml"]
  | presentation =>
      ["application/vnd.openxmlformats-officedocument.presentationml.presentation.main+xml",
        "application/vnd.openxmlformats-officedocument.presentationml.slideshow.main+xml",
        "application/vnd.openxmlformats-officedocument.presentationml.template.main+xml",
        "application/vnd.ms-powerpoint.presentation.macroEnabled.main+xml",
        "application/vnd.ms-powerpoint.slideshow.macroEnabled.main+xml",
        "application/vnd.ms-powerpoint.template.macroEnabled.main+xml"]
  | workbook =>
      ["application/vnd.openxmlformats-officedocument.spreadsheetml.sheet.main+xml",
        "application/vnd.openxmlformats-officedocument.spreadsheetml.template.main+xml",
        "application/vnd.ms-excel.sheet.macroEnabled.main+xml",
        "application/vnd.ms-excel.template.macroEnabled.main+xml"]

def Application.label : Application → String
  | word => "documento de Word"
  | presentation => "presentación de PowerPoint"
  | workbook => "libro de Excel"

variable [Toolkit]

/-! ## Picture parts -/

/-- The parts of the package that the picture relationships among the given ones point to. -/
def pictureTargets (package : Package) (folder : List Char) (relationships : List Relationship) :
    List PartName :=
  relationships.filterMap fun relationship =>
    if relationship.isInternal "/image" then
      (resolveTarget? folder relationship.target).filter package.contains
    else
      none

/-- The parts without those that differ from an earlier one at most in letter case. -/
def distinct (parts : List PartName) : List PartName :=
  parts.eraseDupsBy fun part other => Text.lower part = Text.lower other

/-- The picture parts that parts under `root` refer to. -/
def pictureParts (package : Package) (root : List Char) : Except Fault (List PartName) :=
  let targets := Walk.gatherItems
    (fun (name, folder) =>
      (package.relationships name).map fun found =>
        package.pictureTargets folder (found.getD []))
    (relationshipPartsUnder package.partNames root)
  targets.map distinct

/-! ## Pictures -/

def toPicture (name : PartName) (part : Archive.Entry) (content : Bytes) : Picture :=
  let fileName := PartName.fileName name
  let extension := (PartName.extension? fileName).map String.ofList
  { data := content
    kind := (extension.map PictureKind.ofExtension).getD .unknown
    name := some (String.ofList fileName)
    extension
    modified := part.time.bind (·.unixSeconds?) }

/-- The main part of a document of the given application. -/
def mainPartOf (package : Package) (application : Application) : Except Fault PartName :=
  match package.mainPart with
  | .error fault => .error fault
  | .ok name =>
      let type := (package.typeOf? name).getD ""
      if application.mainTypes.contains type then
        .ok name
      else
        .error (.notOpened (.otherMainPart (String.ofList name) type application.label))

/-- The picture in the part that a name means; nothing if there is no such part. -/
def partPictures (package : Package) (limits : Limits) (name : PartName) :
    Except Fault (List Picture) :=
  (package.read name limits.maxPictureBytes).map fun found =>
    (found.map fun (part, content) => toPicture name part content).toList

/-- The pictures of a package, which has to be a document of the given application. -/
def picturesOf (package : Package) (application : Application) (limits : Limits) :
    Except Fault (List Picture) := do
  let main ← package.mainPartOf application
  let names ← package.pictureParts (PartName.folder main)
  Walk.gatherItems (package.partPictures limits) names

/-- The pictures of the document in the given bytes. -/
def pictures (application : Application) (bytes : Bytes) (limits : Limits) :
    Except Fault (List Picture) := do
  let package ← ofBytes bytes
  package.picturesOf application limits

end Package
end OfficePictures
