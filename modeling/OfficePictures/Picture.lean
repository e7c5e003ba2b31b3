import OfficePictures.Text.Digits
import OfficePictures.Toolkit

/-!
# Picture — a picture as a container lists it

The containers list their pictures with what they know about them: a proposed name, an extension, a
kind and, in packages, the time of the last change.
-/

namespace OfficePictures

/-- A picture listed by a container. -/
structure Picture where
  data : Bytes
  kind : PictureKind
  /-- The file name that the container proposes. -/
  name : Option String
  /-- The extension that goes with the name. -/
  extension : Option String
  /-- The time of the last change, in seconds since 1970. -/
  modified : Option Int
  deriving DecidableEq, Repr

/-- The name of the picture with the given number: `image_<n>.<extension>`. -/
def sequentialName (number : Nat) (extension : String) : String :=
  "image_" ++ Text.decimal number ++ "." ++ extension

/-- The name proposed for the picture with the given number: the container's, or a numbered one. -/
def Picture.proposedName [Toolkit] (number : Nat) (picture : Picture) : String :=
  match picture.name with
  | some name => name
  | none =>
      sequentialName number
        (picture.extension.getD (picture.kind.suggestExtension picture.data))

end OfficePictures
