import OfficePictures.Fault
import OfficePictures.Package.PartName
import OfficePictures.Toolkit

/-!
# ContentTypes — what the parts of a package hold

One part lists the types of all parts: by name, and for other parts by extension.  Of several
entries for one name or one extension the last counts.
-/

namespace OfficePictures
namespace Package

/-- The types of the parts of a package. -/
structure ContentTypes where
  /-- The types by extension, in the order of the document. -/
  defaults : List (List Char × String)
  /-- The types by the key of a name, in the order of the document. -/
  overrides : List (List Char × String)
  deriving DecidableEq, Repr

namespace ContentTypes

def space : String := "http://schemas.openxmlformats.org/package/2006/content-types"

/-- The pairs of an attribute and the type that the elements of the given name hold; elements that
lack one of the two give none. -/
def pairs (root : Xml.Element) (elementName attributeName : String) : List (List Char × String) :=
  (root.childrenNamed elementName (some space)).filterMap fun element =>
    match element.attribute? attributeName, element.attribute? "ContentType" with
    | some key, some type => some (key.toList, type)
    | _, _ => none

def ofElement (root : Xml.Element) : ContentTypes where
  defaults :=
    (pairs root "Default" "Extension").map fun (extension, type) =>
      (Text.asciiLower extension, type)
  overrides :=
    (pairs root "Override" "PartName").map fun (name, type) => (PartName.key name, type)

def ofBytes [Toolkit] (bytes : Bytes) : Except Fault ContentTypes :=
  match Toolkit.element? bytes with
  | some root => .ok (ofElement root)
  | none => .error .markup

def typeOf? (types : ContentTypes) (name : PartName) : Option String :=
  match types.overrides.reverse.lookup (PartName.key name) with
  | some type => some type
  | none => (PartName.extension? name).bind fun extension => types.defaults.reverse.lookup extension

end ContentTypes
end Package
end OfficePictures
