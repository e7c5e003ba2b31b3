import OfficePictures.Proofs.Package.Document
import OfficePictures.Proofs.Package.Miniature
import OfficePictures.Proofs.Text.Segments

/-!
# ContentTypes — the declared types decide what a package is

The type of a part is declared by the last element that is for its name, or else by the last one that
is for its extension; whatever else stands in the document, and in which order the two kinds of
elements stand, does not matter.  No type is that of main parts of two applications.

* `LastGives`, `lookup_reverse_filterMap_iff` — the last item of a list that gives something;
* `Declares`, `typeOf?_ofElement_iff` — the type that a document declares for a part;
* `ofElement_congr` — only the elements that are complete have a part in it;
* `mainPartOf_eq_ok_iff`, `mainPartOf_of_other` — an application accepts the main part by its declared
  type, and then no other does;
* `declared_types_decide` — all of this for the documents in any bytes.
-/

namespace OfficePictures
namespace Package

/-! ## The last item that gives something -/

section LastGives

variable {α β κ : Type} {items : List α} {b : β}

/-- The last of the items that give something gives `b`. -/
def LastGives (Gives : α → β → Prop) (items : List α) (b : β) : Prop :=
  ∃ front item back, items = front ++ item :: back ∧ Gives item b ∧
    ∀ later ∈ back, ∀ other, ¬ Gives later other

theorem LastGives.exists_mem {Gives : α → β → Prop} (h : LastGives Gives items b) :
    ∃ item ∈ items, Gives item b := by
  rcases h with ⟨front, item, back, rfl, hitem, -⟩
  exact ⟨item, by simp, hitem⟩

variable [BEq κ] [LawfulBEq κ] {f : α → Option (κ × β)} {key : κ} {Gives : α → β → Prop}

theorem lookup_filterMap_iff (hf : ∀ item b, f item = some (key, b) ↔ Gives item b) :
    (items.filterMap f).lookup key = some b ↔
      ∃ front item back, items = front ++ item :: back ∧ Gives item b ∧
        ∀ earlier ∈ front, ∀ other, ¬ Gives earlier other := by
  rw [List.lookup_eq_some_iff]
  constructor
  · rintro ⟨pairs, morePairs, hsplit, hpairs⟩
    rcases List.filterMap_eq_append_iff.1 hsplit with ⟨before, rest, rfl, rfl, hrest⟩
    rcases List.filterMap_eq_cons_iff.1 hrest with ⟨between, item, back, rfl, hbetween, hitem, -⟩
    refine ⟨before ++ between, item, back, by simp, (hf item b).1 hitem, ?_⟩
    intro earlier hearlier other hgives
    have hpair := (hf earlier other).2 hgives
    rcases List.mem_append.1 hearlier with hearlier | hearlier
    · have hne := hpairs (key, other) (List.mem_filterMap.2 ⟨earlier, hearlier, hpair⟩)
      simp at hne
    · rw [hbetween earlier hearlier] at hpair
      cases hpair
  · rintro ⟨front, item, back, rfl, hitem, hfront⟩
    refine ⟨front.filterMap f, back.filterMap f, ?_, ?_⟩
    · rw [List.filterMap_append, List.filterMap_cons_some ((hf item b).2 hitem)]
    · rintro ⟨other, value⟩ hpair
      rcases List.mem_filterMap.1 hpair with ⟨earlier, hearlier, hgives⟩
      rw [bne_iff_ne]
      rintro rfl
      exact hfront earlier hearlier value ((hf earlier value).1 hgives)

theorem lookup_reverse_filterMap_iff (hf : ∀ item b, f item = some (key, b) ↔ Gives item b) :
    (items.filterMap f).reverse.lookup key = some b ↔ LastGives Gives items b := by
  rw [← List.filterMap_reverse, lookup_filterMap_iff hf]
  constructor
  · rintro ⟨front, item, back, hsplit, hitem, hfront⟩
    refine ⟨back.reverse, item, front.reverse, ?_, hitem, ?_⟩
    · rw [← List.reverse_reverse items, hsplit]
      simp
    · simpa using hfront
  · rintro ⟨front, item, back, rfl, hitem, hback⟩
    refine ⟨back.reverse, item, front.reverse, by simp, hitem, ?_⟩
    simpa using hback

theorem lookup_reverse_filterMap_eq_none_iff
    (hf : ∀ item b, f item = some (key, b) ↔ Gives item b) :
    (items.filterMap f).reverse.lookup key = none ↔ ∀ item ∈ items, ∀ b, ¬ Gives item b := by
  rw [List.lookup_eq_none_iff]
  constructor
  · intro h item hitem b hgives
    have hpair := List.mem_filterMap.2 ⟨item, hitem, (hf item b).2 hgives⟩
    have hne := h (key, b) (List.mem_reverse.2 hpair)
    simp at hne
  · rintro h ⟨other, b⟩ hpair
    rcases List.mem_filterMap.1 (List.mem_reverse.1 hpair) with ⟨item, hitem, hgives⟩
    rw [bne_iff_ne]
    rintro rfl
    exact h item hitem b ((hf item b).1 hgives)

end LastGives

/-! ## Elements -/

namespace ContentTypes

variable {root : Xml.Element} {name : PartName} {type : String}

/-- An element of the given name with a value of the given attribute and a type. -/
structure IsEntry (elementName attributeName : String) (element : Xml.Element)
    (written type : String) : Prop where
  localName_eq : element.localName = elementName
  space_eq : element.space = some space
  written_eq : element.attribute? attributeName = some written
  type_eq : element.attribute? "ContentType" = some type

/-- The element is for the name of the part, given that names compare by their keys. -/
def Overrides (name : PartName) (element : Xml.Element) (type : String) : Prop :=
  ∃ written, IsEntry "Override" "PartName" element written type ∧
    PartName.key written.toList = PartName.key name

/-- The element is for the extension of the part: the text behind the last dot of its name, whatever
the case of ASCII letters. -/
def Defaults (name : PartName) (element : Xml.Element) (type : String) : Prop :=
  ∃ written front extension, IsEntry "Default" "Extension" element written type ∧
    name = front ++ '.' :: extension ∧ '.' ∉ extension ∧
      Text.asciiLower written.toList = Text.asciiLower extension

/-- The document declares the type for the part: by the last element for its name, or, if there is
none, by the last element for its extension. -/
def Declares (root : Xml.Element) (name : PartName) (type : String) : Prop :=
  LastGives (Overrides name) root.children type ∨
    (∀ element ∈ root.children, ∀ other, ¬ Overrides name element other) ∧
      LastGives (Defaults name) root.children type

/-- What an element of the given name enters into a table. -/
def entered? (elementName attributeName : String) (keyOf : List Char → List Char)
    (element : Xml.Element) : Option (List Char × String) :=
  if element.isNamed elementName (some space) then
    match element.attribute? attributeName, element.attribute? "ContentType" with
    | some written, some type => some (keyOf written.toList, type)
    | _, _ => none
  else
    none

theorem map_pairs (root : Xml.Element) (elementName attributeName : String)
    (keyOf : List Char → List Char) :
    (pairs root elementName attributeName).map (fun pair => (keyOf pair.1, pair.2)) =
      root.children.filterMap (entered? elementName attributeName keyOf) := by
  rw [pairs, Xml.Element.childrenNamed, List.filterMap_filter, List.map_filterMap]
  refine List.filterMap_congr ?_
  intro element _
  unfold entered?
  split
  · cases element.attribute? attributeName with
    | none => rfl
    | some written => cases element.attribute? "ContentType" <;> rfl
  · rfl

theorem entered?_eq_some_iff {elementName attributeName : String} {keyOf : List Char → List Char}
    {element : Xml.Element} {key : List Char} :
    entered? elementName attributeName keyOf element = some (key, type) ↔
      ∃ written, IsEntry elementName attributeName element written type ∧
        keyOf written.toList = key := by
  have hnamed : element.isNamed elementName (some space) = true ↔
      element.localName = elementName ∧ element.space = some space := by
    simp [Xml.Element.isNamed]
  unfold entered?
  constructor
  · intro h
    split at h
    · rename_i helement
      rcases hnamed.1 helement with ⟨hname, hspace⟩
      split at h
      · rename_i written found hwritten hfound
        cases h
        exact ⟨written, ⟨hname, hspace, hwritten, hfound⟩, rfl⟩
      · cases h
    · cases h
  · rintro ⟨written, hentry, rfl⟩
    rw [if_pos (hnamed.2 ⟨hentry.localName_eq, hentry.space_eq⟩), hentry.written_eq,
      hentry.type_eq]

theorem entered?_override_iff {element : Xml.Element} :
    entered? "Override" "PartName" PartName.key element = some (PartName.key name, type) ↔
      Overrides name element type :=
  entered?_eq_some_iff

/-- A name has one last dot, so an element for the text behind a last dot is for the extension. -/
theorem entered?_default_iff {element : Xml.Element} {front extension : List Char}
    (hname : name = front ++ '.' :: extension) (hdot : '.' ∉ extension) :
    entered? "Default" "Extension" Text.asciiLower element =
      some (Text.asciiLower extension, type) ↔ Defaults name element type := by
  rw [entered?_eq_some_iff]
  constructor
  · rintro ⟨written, hentry, hkey⟩
    exact ⟨written, front, extension, hentry, hname, hdot, hkey⟩
  · rintro ⟨written, front', extension', hentry, hname', hdot', hkey⟩
    have hcut : some (front', extension') = some (front, extension) := by
      rw [← Text.splitLast?_eq_some_iff.2 ⟨hname, hdot⟩,
        Text.splitLast?_eq_some_iff.2 ⟨hname', hdot'⟩]
    cases hcut
    exact ⟨written, hentry, hkey⟩

theorem lookup_overrides_iff :
    (ofElement root).overrides.reverse.lookup (PartName.key name) = some type ↔
      LastGives (Overrides name) root.children type := by
  simp only [ofElement, map_pairs root]
  exact lookup_reverse_filterMap_iff fun _ _ => entered?_override_iff

theorem lookup_overrides_eq_none_iff :
    (ofElement root).overrides.reverse.lookup (PartName.key name) = none ↔
      ∀ element ∈ root.children, ∀ other, ¬ Overrides name element other := by
  simp only [ofElement, map_pairs root]
  exact lookup_reverse_filterMap_eq_none_iff fun _ _ => entered?_override_iff

theorem bind_lookup_defaults_iff :
    ((PartName.extension? name).bind fun extension =>
      (ofElement root).defaults.reverse.lookup extension) = some type ↔
      LastGives (Defaults name) root.children type := by
  simp only [ofElement, map_pairs root]
  unfold PartName.extension?
  cases hcut : Text.splitLast? '.' name with
  | none =>
      refine iff_of_false (Option.some_ne_none type).symm ?_
      intro hlast
      rcases hlast.exists_mem with ⟨_, -, _, front, extension, _, hname, -⟩
      exact Text.splitLast?_eq_none_iff.1 hcut (by rw [hname]; simp)
  | some cut =>
      rcases cut with ⟨front, extension⟩
      rcases Text.splitLast?_eq_some_iff.1 hcut with ⟨hname, hdot⟩
      exact lookup_reverse_filterMap_iff fun _ _ => entered?_default_iff hname hdot

theorem typeOf?_ofElement_iff : (ofElement root).typeOf? name = some type ↔
    Declares root name type := by
  unfold typeOf? Declares
  cases hfound : (ofElement root).overrides.reverse.lookup (PartName.key name) with
  | some found =>
      rcases (lookup_overrides_iff.1 hfound).exists_mem with ⟨element, hmem, helement⟩
      have hsome : ¬ ∀ element ∈ root.children, ∀ other, ¬ Overrides name element other :=
        fun hnone => hnone element hmem found helement
      rw [or_iff_left (fun h => hsome h.1), ← lookup_overrides_iff, hfound]
  | none =>
      have hnone := lookup_overrides_eq_none_iff.1 hfound
      have hlast : ¬ LastGives (Overrides name) root.children type := by
        intro hlast
        rcases hlast.exists_mem with ⟨element, hmem, helement⟩
        exact hnone element hmem type helement
      rw [or_iff_right hlast, and_iff_right hnone]
      exact bind_lookup_defaults_iff

/-! ## Elements that have no part in it -/

/-- An element of the given name with the given attribute and a type. -/
def IsComplete (elementName attributeName : String) (element : Xml.Element) : Prop :=
  element.localName = elementName ∧ element.space = some space ∧
    (element.attribute? attributeName).isSome = true ∧
      (element.attribute? "ContentType").isSome = true

instance (elementName attributeName : String) (element : Xml.Element) :
    Decidable (IsComplete elementName attributeName element) :=
  inferInstanceAs (Decidable (_ ∧ _))

/-- The documents have the same complete elements of each kind, in the same order. -/
structure HaveSameEntries (root other : Xml.Element) : Prop where
  overrides_eq : root.children.filter (IsComplete "Override" "PartName") =
    other.children.filter (IsComplete "Override" "PartName")
  defaults_eq : root.children.filter (IsComplete "Default" "Extension") =
    other.children.filter (IsComplete "Default" "Extension")

theorem filterMap_entered?_filter (elements : List Xml.Element)
    (elementName attributeName : String) (keyOf : List Char → List Char) :
    (elements.filter (IsComplete elementName attributeName)).filterMap
        (entered? elementName attributeName keyOf) =
      elements.filterMap (entered? elementName attributeName keyOf) := by
  rw [List.filterMap_filter]
  refine List.filterMap_congr ?_
  intro element _
  split
  · rfl
  · rename_i hincomplete
    symm
    rw [Option.eq_none_iff_forall_ne_some]
    rintro ⟨key, type⟩ hentry
    rcases entered?_eq_some_iff.1 hentry with ⟨written, hentry, -⟩
    exact hincomplete (decide_eq_true ⟨hentry.localName_eq, hentry.space_eq,
      by rw [hentry.written_eq]; rfl, by rw [hentry.type_eq]; rfl⟩)

theorem ofElement_congr {other : Xml.Element} (h : HaveSameEntries root other) :
    ofElement root = ofElement other := by
  simp only [ofElement, map_pairs]
  rw [← filterMap_entered?_filter root.children, h.defaults_eq, filterMap_entered?_filter,
    ← filterMap_entered?_filter root.children, h.overrides_eq, filterMap_entered?_filter]

theorem ofBytes_eq_ok_iff [Toolkit] {content : Bytes} {types : ContentTypes} :
    ofBytes content = .ok types ↔
      ∃ root, Toolkit.element? content = some root ∧ types = ofElement root := by
  unfold ofBytes
  cases Toolkit.element? content with
  | none => simp
  | some root => simp [eq_comm]

end ContentTypes

/-! ## The verdict -/

open ContentTypes (Declares HaveSameEntries IsComplete)

variable {package : Package} {application other : Application} {main : PartName} {bytes : Bytes}

/-- The package opens with the types that the document `root` declares. -/
structure IsOpened [Toolkit] (bytes : Bytes) (package : Package) (root : Xml.Element) : Prop where
  ofBytes_eq : ofBytes bytes = .ok package
  exists_content : ∃ content, markupIn package.parts contentTypesPart = .ok (some content) ∧
    Toolkit.element? content = some root
  contentTypes_eq : package.contentTypes = ContentTypes.ofElement root

theorem exists_isOpened [Toolkit] (h : ofBytes bytes = .ok package) :
    ∃ root, IsOpened bytes package root := by
  have hopen := h
  unfold ofBytes ofEntries ofParts at h
  split at h
  · cases h
  · split at h
    · cases h
    · cases h
    · rename_i content hcontent
      rcases Result.exists_of_map h with ⟨types, htypes, rfl⟩
      rcases ContentTypes.ofBytes_eq_ok_iff.1 htypes with ⟨root, hroot, rfl⟩
      exact ⟨root, hopen, ⟨content, hcontent, hroot⟩, rfl⟩

/-- No type is that of main parts of two applications. -/
theorem eq_of_mem_mainTypes {type : String} (h : type ∈ application.mainTypes)
    (hother : type ∈ other.mainTypes) : application = other := by
  have hdisjoint : ∀ application ∈ [Application.word, .presentation, .workbook],
      ∀ other ∈ [Application.word, .presentation, .workbook],
        ∀ type ∈ application.mainTypes, type ∈ other.mainTypes → application = other := by
    decide +kernel
  exact hdisjoint application (by cases application <;> simp) other (by cases other <;> simp)
    type h hother

theorem mainPartOf_eq_ok_iff [Toolkit] : package.mainPartOf application = .ok main ↔
    package.mainPart = .ok main ∧
      ∃ type ∈ application.mainTypes, package.typeOf? main = some type := by
  have hempty : "" ∉ application.mainTypes := by
    cases application <;> decide
  have hmem : application.mainTypes.contains ((package.typeOf? main).getD "") = true ↔
      ∃ type ∈ application.mainTypes, package.typeOf? main = some type := by
    rw [List.contains_iff_mem]
    cases package.typeOf? main with
    | none => simp [hempty]
    | some type => simp
  unfold mainPartOf
  cases package.mainPart with
  | error fault => simp
  | ok found =>
      dsimp only
      constructor
      · intro h
        split at h
        · rename_i htype
          cases h
          exact ⟨rfl, hmem.1 htype⟩
        · cases h
      · rintro ⟨hfound, htype⟩
        cases hfound
        rw [if_pos (hmem.2 htype)]

theorem mainPartOf_of_other [Toolkit] (h : package.mainPartOf application = .ok main)
    (hne : other ≠ application) :
    ∃ type, package.mainPartOf other =
      .error (.notOpened (.otherMainPart (String.ofList main) type other.label)) := by
  rcases mainPartOf_eq_ok_iff.1 h with ⟨hmain, type, htype, hfound⟩
  have hforeign : ¬ other.mainTypes.contains ((package.typeOf? main).getD "") = true := by
    rw [hfound, Option.getD_some, List.contains_iff_mem]
    exact fun hother => hne (eq_of_mem_mainTypes hother htype)
  refine ⟨(package.typeOf? main).getD "", ?_⟩
  rw [mainPartOf, hmain]
  exact if_neg hforeign

theorem mainPartIn_eq [Toolkit] (h : ofBytes bytes = .ok package) (application : Application) :
    mainPartIn application bytes = package.mainPartOf application := by
  rw [mainPartIn, h]
  rfl

theorem mainPartIn_eq_ok_iff [Toolkit] : mainPartIn application bytes = .ok main ↔
    ∃ package root type, IsOpened bytes package root ∧ package.mainPart = .ok main ∧
      type ∈ application.mainTypes ∧ Declares root main type := by
  constructor
  · intro h
    rcases Result.exists_of_bind h with ⟨package, hopen, hmain⟩
    rcases mainPartOf_eq_ok_iff.1 hmain with ⟨hmain, type, htype, hfound⟩
    rcases exists_isOpened hopen with ⟨root, hroot⟩
    rw [typeOf?, hroot.contentTypes_eq] at hfound
    exact ⟨package, root, type, hroot, hmain, htype,
      ContentTypes.typeOf?_ofElement_iff.1 hfound⟩
  · rintro ⟨package, root, type, hroot, hmain, htype, hdeclares⟩
    rw [mainPartIn_eq hroot.ofBytes_eq]
    refine mainPartOf_eq_ok_iff.2 ⟨hmain, type, htype, ?_⟩
    rw [typeOf?, hroot.contentTypes_eq]
    exact ContentTypes.typeOf?_ofElement_iff.2 hdeclares

theorem mainPartIn_of_other [Toolkit] (h : mainPartIn application bytes = .ok main)
    (hne : other ≠ application) :
    ∃ type, mainPartIn other bytes =
      .error (.notOpened (.otherMainPart (String.ofList main) type other.label)) := by
  rcases Result.exists_of_bind h with ⟨package, hopen, hmain⟩
  rw [mainPartIn_eq hopen]
  exact mainPartOf_of_other hmain hne

/-- The types that a document declares are those of its last complete elements, for names before
extensions, and nothing else in it matters.  In any bytes an application finds its main part if and
only if the declared type of that is one of its own, and then it is the only one: every other
application refuses the package for the type of its main part, whatever the limits. -/
theorem declared_types_decide [Toolkit] :
    (∀ content root, Toolkit.element? content = some root →
      ∃ types, ContentTypes.ofBytes content = .ok types ∧
        (∀ name type, types.typeOf? name = some type ↔ Declares root name type) ∧
        ∀ content' root', Toolkit.element? content' = some root' → HaveSameEntries root root' →
          ContentTypes.ofBytes content' = .ok types) ∧
    ∀ bytes : Bytes,
      (∀ application fault, mainPartIn application bytes = .error fault →
        ∀ limits, pictures application bytes limits = .error fault) ∧
      (∀ application main, mainPartIn application bytes = .ok main ↔
        ∃ package root type, IsOpened bytes package root ∧ package.mainPart = .ok main ∧
          type ∈ application.mainTypes ∧ Declares root main type) ∧
      ∀ application main, mainPartIn application bytes = .ok main →
        ∀ other, other ≠ application → ∀ limits, ∃ type, pictures other bytes limits =
          .error (.notOpened (.otherMainPart (String.ofList main) type other.label)) := by
  constructor
  case left =>
    intro content root hroot
    refine ⟨_, ContentTypes.ofBytes_eq_ok_iff.2 ⟨root, hroot, rfl⟩,
      fun _ _ => ContentTypes.typeOf?_ofElement_iff, ?_⟩
    intro content' root' hroot' hsame
    exact ContentTypes.ofBytes_eq_ok_iff.2 ⟨root', hroot', ContentTypes.ofElement_congr hsame⟩
  case right =>
    intro bytes
    refine ⟨fun _ _ => pictures_of_mainPartIn_eq_error, fun _ _ => mainPartIn_eq_ok_iff, ?_⟩
    intro application main hmain other hne limits
    rcases mainPartIn_of_other hmain hne with ⟨type, hother⟩
    exact ⟨type, pictures_of_mainPartIn_eq_error hother limits⟩

/-! ## A document with many types -/

/-- The document is declared a workbook, by its extension a presentation, then in another spelling a
document, in another namespace a workbook again, and in the end nothing. -/
def crowdedTypes : StoredTypes where
  name := "[Content_Types].xml"
  content :=
    Archive.asciiBytes
      ("<Types xmlns=\"http://schemas.openxmlformats.org/package/2006/content-types\" " ++
        "xmlns:o=\"urn:o\">" ++
        "<Override PartName=\"/word/document.xml\" ContentType=\"application/" ++
        "vnd.openxmlformats-officedocument.spreadsheetml.sheet.main+xml\"/>" ++
        "<Default Extension=\"XML\" ContentType=\"application/" ++
        "vnd.ms-powerpoint.slideshow.macroEnabled.main+xml\"/>" ++
        "<Override PartName=\"WORD/Document.xml\" ContentType=\"application/" ++
        "vnd.ms-word.document.macroEnabled.main+xml\"/>" ++
        "<o:Override PartName=\"/word/document.xml\" ContentType=\"application/" ++
        "vnd.openxmlformats-officedocument.spreadsheetml.sheet.main+xml\"/>" ++
        "<Override PartName=\"/word/document.xml\"/></Types>")
  checksum := 0x4A05246F
  length_lt := by decide +kernel
  checksum_eq := by
    rw [Checksum.crc32_eq_crcFrom]
    decide +kernel
  types :=
    { defaults :=
        [("xml".toList, "application/vnd.ms-powerpoint.slideshow.macroEnabled.main+xml")]
      overrides :=
        [("word/document.xml".toList,
            "application/vnd.openxmlformats-officedocument.spreadsheetml.sheet.main+xml"),
          ("word/document.xml".toList,
            "application/vnd.ms-word.document.macroEnabled.main+xml")] }
  ofBytes_eq := Result.ok_of_toOption (by decide +kernel)

def crowdedLeaflet : Miniature .word where
  types := crowdedTypes
  links := leafletLinks
  text := leafletText
  textLinks := leafletTextLinks .usual
  others := []
  entries_eq := by decide +kernel
  isDirectory_eq := by decide +kernel
  find?_types := by decide +kernel
  find?_links := by decide +kernel
  find?_text := by decide +kernel
  find?_textLinks := by decide +kernel
  target_eq := by decide +kernel
  type_mem := by decide +kernel

/-- The last complete element for the name of the document declares its type, and neither of the two
other applications takes it for one of theirs. -/
theorem declared_types_decide_crowded :
    (∃ root, Toolkit.element? crowdedTypes.content = some root ∧
      Declares root "word/document.xml".toList
        "application/vnd.ms-word.document.macroEnabled.main+xml") ∧
    ∀ other, other ≠ Application.word → ∀ limits, ∃ type,
      pictures other crowdedLeaflet.bytes limits =
        .error (.notOpened (.otherMainPart "word/document.xml" type other.label)) := by
  constructor
  case left =>
    rcases ContentTypes.ofBytes_eq_ok_iff.1 crowdedTypes.ofBytes_eq with ⟨root, hroot, -⟩
    rcases declared_types_decide.1 _ root hroot with ⟨types, htypes, hdeclares, -⟩
    have hsame : types = crowdedTypes.types :=
      Except.ok.inj (htypes.symm.trans crowdedTypes.ofBytes_eq)
    refine ⟨root, hroot, (hdeclares _ _).1 ?_⟩
    rw [hsame]
    decide +kernel
  case right =>
    have hmain : mainPartIn .word crowdedLeaflet.bytes = .ok "word/document.xml".toList := by
      rw [mainPartIn_eq crowdedLeaflet.ofBytes_bytes]
      exact crowdedLeaflet.mainPartOf_package
    exact (declared_types_decide.2 crowdedLeaflet.bytes).2.2 .word _ hmain

end Package
end OfficePictures
