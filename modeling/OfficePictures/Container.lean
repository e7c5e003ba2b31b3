import OfficePictures.DocumentFormat
import OfficePictures.Package.Document
import OfficePictures.Slideshow
import OfficePictures.Word.Document
import OfficePictures.Workbook

/-!
# Container — the pictures of a document of any format

A document of a known format has pictures, or it has none, or it cannot be read.  One fault anywhere
in it means that nothing of it is listed.
-/

namespace OfficePictures
namespace Container

variable [Toolkit]

/-- What a document holds. -/
inductive Content
  | pictures (list : List Picture)
  | empty
  | unreadable (fault : Fault)
  deriving Repr

/-- The pictures of a document of the given format. -/
def pictures (format : DocumentFormat) (bytes : Bytes) (limits : Limits) :
    Except Fault (List Picture) :=
  match format with
  | .doc => Word.pictures bytes limits
  | .ppt => Slideshow.pictures bytes limits
  | .xls => Workbook.pictures bytes limits
  | .docx => Package.pictures .word bytes limits
  | .pptx => Package.pictures .presentation bytes limits
  | .xlsx => Package.pictures .workbook bytes limits

def content (format : DocumentFormat) (bytes : Bytes) (limits : Limits) : Content :=
  match pictures format bytes limits with
  | .error fault => .unreadable fault
  | .ok [] => .empty
  | .ok (picture :: more) => .pictures (picture :: more)

end Container
end OfficePictures
