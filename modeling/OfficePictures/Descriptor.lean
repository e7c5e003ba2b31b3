import OfficePictures.Config
import OfficePictures.Digest
import OfficePictures.Document
import OfficePictures.Encoded

/-!
# Descriptor — what is registered of an extracted picture

A descriptor says where the encoded file of a picture is, in the case and on disk, which document it
comes from, and what its content is.  As text it also tells what is the same for every picture: that
it is a file, how it is encoded, and that of its times only that of the last change is known.
-/

namespace OfficePictures

/-- What is registered of an extracted picture. -/
structure Descriptor where
  fileName : String
  /-- Where the picture is in the case. -/
  casePath : String
  /-- Where the encoded file is on disk. -/
  localPath : String
  /-- The length of the picture. -/
  size : Nat
  /-- The time of the last change in seconds since 1970, or 0. -/
  modified : Int
  parentId : Nat
  parentName : String
  toolName : String
  digests : ContentDigests
  deriving DecidableEq, Repr

namespace Descriptor

def trimSlashes (text : List Char) : List Char :=
  ((text.dropWhile (· = '/')).reverse.dropWhile (· = '/')).reverse

/-- The path in the case of a file in the directory of a document: module, document and file between
slashes. -/
def pathInCase (moduleDirectory uniqueName fileName : String) : String :=
  let directory := trimSlashes (Config.withSlashes moduleDirectory.toList)
  let inModule := String.ofList (if directory = [] then [] else '/' :: directory)
  inModule ++ "/" ++ uniqueName ++ "/" ++ fileName

def ofPicture (parent : Document) (fileName casePath localPath : String) (content : Bytes)
    (toolName : String) (modified : Option Int) : Descriptor where
  fileName
  casePath
  localPath
  size := content.length
  modified := modified.getD 0
  parentId := parent.id
  parentName := parent.name
  toolName
  digests := ContentDigests.of content

def toJson (descriptor : Descriptor) : Json :=
  let member (name : String) (value : Json) := (Json.codesOf name, value)
  .object
    [member "file_name" (.ofText descriptor.fileName),
      member "relative_path" (.ofText descriptor.casePath),
      member "local_path" (.ofText descriptor.localPath),
      member "size" (.ofNat descriptor.size),
      member "ctime" (.ofNat 0),
      member "crtime" (.ofNat 0),
      member "atime" (.ofNat 0),
      member "mtime" (.ofInt descriptor.modified),
      member "parent_id" (.ofNat descriptor.parentId),
      member "parent_name" (.ofText descriptor.parentName),
      member "is_file" (.bool true),
      member "tool_name" (.ofText descriptor.toolName),
      member "encoding" (.ofText Encoded.encodingName),
      member "hashes"
        (.object
          [member "md5" (.ofText descriptor.digests.md5),
            member "sha256" (.ofText descriptor.digests.sha256)])]

def toText (descriptor : Descriptor) : String :=
  descriptor.toJson.pretty

end Descriptor
end OfficePictures
