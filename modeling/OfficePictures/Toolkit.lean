import OfficePictures.Bytes
import OfficePictures.PictureKind
import OfficePictures.Xml.Element

/-!
# Toolkit — what is taken from elsewhere

Three things that reading documents needs have nothing to do with documents: to tell the type of any
content by its bytes, to decompress data of any method that an archive may name, and to read markup.
A `Toolkit` does these.  It is an inferred argument of all that uses it, so what holds of documents
holds whatever the toolkit is, and what needs a tool to behave says so.
-/

namespace OfficePictures

/-- A content type: its usual extension and its MIME type. -/
structure ContentType where
  extension : String
  mime : String
  deriving DecidableEq, Repr

/-- A decoder of compressed data.  Of the data and the length that its content is declared to have,
it gives the first `count` bytes of the content, or all if there are fewer; `none` if damage is
noticed on the way. -/
abbrev Archive.Decoder := (stored : Bytes) → (length count : Nat) → Option Bytes

/-- The tools that documents are read with. -/
class Toolkit where
  /-- The type of a content, if its bytes show it. -/
  contentType? : Bytes → Option ContentType
  /-- The decoder of a compression method, apart from the two that every archive may use. -/
  decoder? : (method : Nat) → Option Archive.Decoder
  /-- The outermost element of a document in its bytes, if these are one. -/
  element? : Bytes → Option Xml.Element

/-! ## What a type tells -/

/-- The MIME type of a content; unknown content is a stream of bytes. -/
def Signature.mimeType [Toolkit] (content : Bytes) : String :=
  match Toolkit.contentType? content with
  | some type => type.mime
  | none => "application/octet-stream"

/-- The extension of a picture: that of its kind, else that of its content, else `bin`. -/
def PictureKind.suggestExtension [Toolkit] (kind : PictureKind) (content : Bytes) : String :=
  match kind.extension? with
  | some extension => extension
  | none =>
      match Toolkit.contentType? content with
      | some type => type.extension
      | none => "bin"

end OfficePictures
