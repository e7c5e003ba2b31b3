import OfficePictures.Signature
import OfficePictures.Toolkit
import OfficePictures.Xml.Tree

/-!
# BuiltIn — the tools that are at hand

The toolkit used where no other is given.  It knows the types in `Signature`, has no decoder for
further compression methods, and reads markup in which entities stand for text only.
-/

namespace OfficePictures

instance Toolkit.builtIn : Toolkit where
  contentType? := Signature.contentType?
  decoder? _ := none
  element? := Xml.Element.parse?

end OfficePictures
