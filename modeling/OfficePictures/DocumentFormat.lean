/-!
# DocumentFormat — the document formats that hold pictures

Three applications, each with a binary format (a compound file) and a package format (an archive of
XML parts).  A format is known by its MIME type, which has to match to the letter.
-/

namespace OfficePictures

/-- A document format. -/
inductive DocumentFormat
  | doc
  | docx
  | ppt
  | pptx
  | xls
  | xlsx
  deriving DecidableEq, Repr

namespace DocumentFormat

def all : List DocumentFormat :=
  [doc, docx, ppt, pptx, xls, xlsx]

def mimeType : DocumentFormat → String
  | doc => "application/msword"
  | docx => "application/vnd.openxmlformats-officedocument.wordprocessingml.document"
  | ppt => "application/vnd.ms-powerpoint"
  | pptx => "application/vnd.openxmlformats-officedocument.presentationml.presentation"
  | xls => "application/vnd.ms-excel"
  | xlsx => "application/vnd.openxmlformats-officedocument.spreadsheetml.sheet"

def ofMimeType? (mime : String) : Option DocumentFormat :=
  all.find? (·.mimeType = mime)

end DocumentFormat
end OfficePictures
