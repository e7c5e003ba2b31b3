import OfficePictures.Proofs.Package.PictureParts
import OfficePictures.Proofs.Package.RelationshipParts
import OfficePictures.Proofs.Text.Spelling

/-!
# Spelling — packages whose parts are spelled in another case

The names of parts are compared without regard to letter case, so archives that differ in nothing
but the case of ASCII letters in the names of their entries should have the same pictures.  They open
alike and have the same main part; but the parts that hold relationships are only found if the ends
of their names and of their folders are in lower case.

* `Archive.Entry.folded`, `Package.folded` — an entry and a package without the case of names;
* `pictures_spelling` — what two spellings of one archive have in common;
* `not_forall_spelling` — capitals can hide all pictures of a document.
-/

namespace OfficePictures

/-! ## Views of results -/

namespace Result

variable {ε ε' α β γ : Type}

/-- The result with its failure and its value seen in their own ways. -/
def mapBoth (g : ε → ε') (h : α → β) : Except ε α → Except ε' β
  | .error e => .error (g e)
  | .ok a => .ok (h a)

/-- Results that are seen alike and are treated alike are seen alike afterwards. -/
theorem mapBoth_bind {γ' : Type} {g : ε → ε'} {h : α → β} {k : γ → γ'} {step step' : Except ε α}
    {next next' : α → Except ε γ} (hstep : mapBoth g h step = mapBoth g h step')
    (hnext : ∀ a a', h a = h a' → mapBoth g k (next a) = mapBoth g k (next' a')) :
    mapBoth g k (step >>= next) = mapBoth g k (step' >>= next') := by
  cases step with
  | error e =>
      cases step' with
      | error e' => exact congrArg Except.error (Except.error.inj hstep)
      | ok a' => cases hstep
  | ok a =>
      cases step' with
      | error e' => cases hstep
      | ok a' => exact hnext a a' (Except.ok.inj hstep)

theorem mapBoth_map {γ' : Type} {g : ε → ε'} {h : α → β} {k : γ → γ'} {step step' : Except ε α}
    {f f' : α → γ} (hstep : mapBoth g h step = mapBoth g h step')
    (hf : ∀ a a', h a = h a' → k (f a) = k (f' a')) :
    mapBoth g k (step.map f) = mapBoth g k (step'.map f') := by
  have hbind : ∀ (step : Except ε α) (f : α → γ), step.map f = step >>= fun a => .ok (f a) := by
    intro step f
    cases step <;> rfl
  rw [hbind, hbind]
  exact mapBoth_bind hstep fun a a' ha => congrArg Except.ok (hf a a' ha)

theorem mapBoth_gatherItems {δ : Type} {g : ε → ε'} {h : β → γ} {φ : α → δ}
    {f f' : α → Except ε (List β)} {items items' : List α} (hitems : items.map φ = items'.map φ)
    (hstep : ∀ item item', φ item = φ item' →
      mapBoth g (List.map h) (f item) = mapBoth g (List.map h) (f' item')) :
    mapBoth g (List.map h) (Walk.gatherItems f items) =
      mapBoth g (List.map h) (Walk.gatherItems f' items') := by
  induction items generalizing items' with
  | nil =>
      rw [List.map_nil, eq_comm, List.map_eq_nil_iff] at hitems
      rw [hitems]
      rfl
  | cons item items ih =>
      cases items' with
      | nil => cases hitems
      | cons item' items' =>
          rcases List.cons.inj hitems with ⟨hitem, hrest⟩
          rw [Walk.gatherItems_cons, Walk.gatherItems_cons]
          refine mapBoth_bind (hstep item item' hitem) fun found found' hfound => ?_
          refine mapBoth_bind (ih hrest) fun more more' hmore => congrArg Except.ok ?_
          rw [List.map_append, List.map_append, hfound, hmore]

end Result

/-! ## Faults and pictures -/

/-- The fault with the name of a part in lower case, as far as that is ASCII. -/
def Fault.folded : Fault → Fault
  | .notOpened (.partUnreadable part cause) =>
      .notOpened (.partUnreadable (String.ofList (Text.asciiLower part.toList)) cause)
  | fault => fault

/-- The picture with its name in lower case, as far as that is ASCII. -/
def Picture.folded (picture : Picture) : Picture :=
  { picture with name := picture.name.map fun name => String.ofList (Text.asciiLower name.toList) }

/-! ## Names -/

namespace Package

variable {limits : Limits} {package package' : Package} {name name' : PartName}

namespace PartName

@[simp] theorem key_asciiLower (name : PartName) : key (Text.asciiLower name) = key name := by
  have hslash : (fun c : Char => decide (c = '/')) ∘ Char.toLower = fun c => decide (c = '/') := by
    funext c
    simp [Text.isNoLetter_slash.toLower_eq_iff]
  rw [key, key, Text.asciiLower, List.dropWhile_map, hslash]
  exact Text.lower_asciiLower _

theorem key_congr (h : Text.asciiLower name = Text.asciiLower name') : key name = key name' := by
  rw [← key_asciiLower name, h, key_asciiLower]

theorem fileName_asciiLower (name : PartName) :
    fileName (Text.asciiLower name) = Text.asciiLower (fileName name) :=
  Text.afterLast_asciiLower Text.isNoLetter_slash name

theorem extension?_asciiLower (name : PartName) :
    extension? (Text.asciiLower name) = extension? name := by
  rw [extension?, extension?, Text.splitLast?_asciiLower Text.isNoLetter_dot, Option.map_map]
  cases Text.splitLast? '.' name with
  | none => rfl
  | some parts => exact congrArg some (Text.asciiLower_asciiLower parts.2)

end PartName

end Package

/-! ## Entries -/

namespace Archive
namespace Entry

/-- The entry with its name in lower case, as far as that is ASCII. -/
def folded (entry : Entry) : Entry :=
  { entry with name := Text.asciiLower entry.name }

@[simp] theorem read_folded [Toolkit] (entry : Entry) (limit : Nat) :
    entry.folded.read limit = entry.read limit :=
  rfl

@[simp] theorem isDirectory_folded (entry : Entry) :
    entry.folded.isDirectory = entry.isDirectory := by
  have hlast : ∀ sep, Text.IsNoLetter sep →
      (entry.folded.name.getLast? = some sep ↔ entry.name.getLast? = some sep) := by
    intro sep hsep
    rw [folded, Text.asciiLower, List.getLast?_map, Option.map_eq_some_iff]
    simp [hsep.toLower_eq_iff]
  simp only [isDirectory, hlast _ Text.isNoLetter_slash, hlast _ Text.isNoLetter_backslash]

end Entry
end Archive

namespace Package

open Archive (Entry)

variable {limits : Limits} {package package' : Package} {name name' : PartName}

/-! ## Opening -/

/-- The package with the names of its parts in lower case, as far as they are ASCII. -/
def folded (package : Package) : Package :=
  { package with parts := package.parts.map Entry.folded }

theorem findIn?_map_folded (parts : List Entry) (name : PartName) :
    findIn? (parts.map Entry.folded) name = (findIn? parts name).map Entry.folded := by
  have hkey : (fun part : Entry => decide (PartName.key part.name = PartName.key name)) ∘
      Entry.folded = fun part => decide (PartName.key part.name = PartName.key name) := by
    funext part
    simp [Entry.folded]
  rw [findIn?, List.find?_map, hkey]
  rfl

theorem markupIn_map_folded [Toolkit] (parts : List Entry) (name : PartName) :
    markupIn (parts.map Entry.folded) name = markupIn parts name := by
  rw [markupIn, markupIn, findIn?_map_folded]
  cases findIn? parts name <;> rfl

theorem ofEntries_map_folded [Toolkit] (entries : List Entry) :
    ofEntries (entries.map Entry.folded) = (ofEntries entries).map folded := by
  have hparts : (entries.map Entry.folded).filter (fun entry => !entry.isDirectory) =
      (entries.filter fun entry => !entry.isDirectory).map Entry.folded := by
    simp [List.filter_map, Function.comp_def]
  rw [ofEntries, ofEntries, hparts, ofParts, ofParts, markupIn_map_folded]
  cases markupIn (entries.filter fun entry => !entry.isDirectory) contentTypesPart with
  | error fault => rfl
  | ok found =>
      cases found with
      | none => rfl
      | some bytes =>
          dsimp only
          cases ContentTypes.ofBytes bytes <;> rfl

theorem parts_of_ofEntries [Toolkit] {entries : List Entry} (h : ofEntries entries = .ok package) :
    package.parts = entries.filter fun entry => !entry.isDirectory := by
  unfold ofEntries ofParts at h
  split at h
  · cases h
  · cases h
  · rcases Result.exists_of_map h with ⟨types, -, rfl⟩
    rfl

/-! ## What does not depend on the case of names -/

@[simp] theorem contains_folded (package : Package) (name : PartName) :
    package.folded.contains name = package.contains name := by
  rw [contains, contains, find?, find?, folded, findIn?_map_folded, Option.isSome_map]

@[simp] theorem relationships_folded [Toolkit] (package : Package) (name : PartName) :
    package.folded.relationships name = package.relationships name := by
  rw [relationships, relationships, folded, markupIn_map_folded]

@[simp] theorem mainPartOf_folded [Toolkit] (package : Package) (application : Application) :
    package.folded.mainPartOf application = package.mainPartOf application := by
  have hmain : package.folded.mainPart = package.mainPart := by
    simp only [mainPart, relationships_folded, contains_folded]
  rw [mainPartOf, mainPartOf, hmain]
  rfl

@[simp] theorem pictureTargets_folded (package : Package) (folder : List Char)
    (relationships : List Relationship) :
    package.folded.pictureTargets folder relationships =
      package.pictureTargets folder relationships := by
  have hcontains : package.folded.contains = package.contains := funext package.contains_folded
  rw [pictureTargets, hcontains]
  rfl

@[simp] theorem partPictures_folded [Toolkit] (package : Package) (limits : Limits)
    (name : PartName) :
    package.folded.partPictures limits name = package.partPictures limits name := by
  rw [partPictures, partPictures, read, read, find?, find?, folded, findIn?_map_folded]
  cases findIn? package.parts name with
  | none => rfl
  | some part =>
      dsimp only [Option.map_some]
      rw [Entry.read_folded]
      cases part.read limits.maxPictureBytes <;> rfl

/-! ## Spellings of names -/

theorem startOf_spelling {folder folder' : List Char}
    (h : Text.asciiLower folder = Text.asciiLower folder') (path : List Char) :
    (startOf folder path).map Text.asciiLower = (startOf folder' path).map Text.asciiLower := by
  have hsegments : ∀ text : List Char,
      ((Text.split '/' text).filter (· ≠ [])).map Text.asciiLower =
        (Text.split '/' (Text.asciiLower text)).filter (· ≠ []) := by
    intro text
    rw [Text.split_asciiLower Text.isNoLetter_slash, List.filter_map]
    simp [Function.comp_def]
  unfold startOf
  split
  · rfl
  · rw [hsegments, h, hsegments]

/-- A target leads from two spellings of a folder to two spellings of a part. -/
theorem resolveTarget?_spelling {folder folder' : List Char}
    (h : Text.asciiLower folder = Text.asciiLower folder') (target : List Char) :
    (resolveTarget? folder target).map Text.asciiLower =
      (resolveTarget? folder' target).map Text.asciiLower := by
  have hjoin : ∀ place : List (List Char),
      (if place = [] then none else some (Text.join '/' place)).map Text.asciiLower =
        if place.map Text.asciiLower = [] then none
        else some (Text.join '/' (place.map Text.asciiLower)) := by
    intro place
    by_cases hempty : place = [] <;> simp [hempty, Text.join_asciiLower Text.isNoLetter_slash]
  unfold resolveTarget?
  generalize percentDecode _ = path
  have hplace := Text.follow?_asciiLower (startOf_spelling h path) path
  dsimp only
  cases hfound : Text.follow? (startOf folder path) path with
  | none =>
      rw [hfound] at hplace
      rw [Option.map_eq_none_iff.1 hplace.symm]
  | some place =>
      rw [hfound] at hplace
      rcases Option.map_eq_some_iff.1 hplace.symm with ⟨place', hfound', hsame⟩
      rw [hfound']
      exact (hjoin place).trans (hsame ▸ (hjoin place').symm)

theorem pictureTargets_spelling {folder folder' : List Char}
    (h : Text.asciiLower folder = Text.asciiLower folder') (package : Package)
    (relationships : List Relationship) :
    (package.pictureTargets folder relationships).map Text.asciiLower =
      (package.pictureTargets folder' relationships).map Text.asciiLower := by
  rw [pictureTargets, pictureTargets, List.map_filterMap, List.map_filterMap]
  refine List.filterMap_congr ?_
  intro relationship _
  split
  · have hname := resolveTarget?_spelling h relationship.target
    cases hfound : resolveTarget? folder relationship.target with
    | none =>
        rw [hfound] at hname
        rw [Option.map_eq_none_iff.1 hname.symm]
    | some name =>
        rw [hfound] at hname
        rcases Option.map_eq_some_iff.1 hname.symm with ⟨name', hfound', hsame⟩
        have hcontains : package.contains name = package.contains name' := by
          rw [contains, contains, find?_congr (PartName.key_congr hsame.symm)]
        rw [hfound', Option.filter_some, Option.filter_some, hcontains]
        split
        · exact congrArg some hsame.symm
        · rfl
  · rfl

theorem relationships_spelling [Toolkit] (h : Text.asciiLower name = Text.asciiLower name')
    (package : Package) :
    Result.mapBoth Fault.folded id (package.relationships name) =
      Result.mapBoth Fault.folded id (package.relationships name') := by
  have hpart : findIn? package.parts name = findIn? package.parts name' :=
    find?_congr (PartName.key_congr h)
  rw [relationships, relationships, markupIn, markupIn, hpart]
  cases findIn? package.parts name' with
  | none => rfl
  | some part =>
      dsimp only
      cases part.read markupLimit with
      | ok bytes => rfl
      | error cause => simp [Result.mapBoth, Fault.folded, h]

theorem distinct_asciiLower (names : List PartName) :
    distinct (names.map Text.asciiLower) = (distinct names).map Text.asciiLower := by
  induction names using distinct_induction with
  | nil => rfl
  | cons name names ih =>
      rw [List.map_cons, distinct_cons, distinct_cons, List.map_cons, ← ih, List.filter_map]
      simp [Function.comp_def]

theorem toPicture_spelling (h : Text.asciiLower name = Text.asciiLower name') (part : Entry)
    (content : Bytes) :
    (toPicture name part content).folded = (toPicture name' part content).folded := by
  have hfile : Text.asciiLower (PartName.fileName name) =
      Text.asciiLower (PartName.fileName name') := by
    rw [← PartName.fileName_asciiLower, h, PartName.fileName_asciiLower]
  have hextension : PartName.extension? (PartName.fileName name) =
      PartName.extension? (PartName.fileName name') := by
    rw [← PartName.extension?_asciiLower, hfile, PartName.extension?_asciiLower]
  simp [toPicture, Picture.folded, hfile, hextension]

theorem partPictures_spelling [Toolkit] (h : Text.asciiLower name = Text.asciiLower name')
    (package : Package) (limits : Limits) :
    Result.mapBoth Fault.folded (List.map Picture.folded) (package.partPictures limits name) =
      Result.mapBoth Fault.folded (List.map Picture.folded) (package.partPictures limits name') := by
  rw [partPictures, partPictures, read, read, find?_congr (PartName.key_congr h)]
  cases package.find? name' with
  | none => rfl
  | some part =>
      dsimp only
      cases part.read limits.maxPictureBytes with
      | error cause => rfl
      | ok content =>
          exact congrArg (fun picture => Except.ok [picture]) (toPicture_spelling h part content)

/-! ## Parts that hold relationships -/

theorem exists_source_of_linksUnder? {root folder : List Char} {links : PartName}
    (h : linksUnder? root name = some (links, folder)) :
    links = name ∧ ∃ source, relationshipsSource? name = some (folder, source) := by
  rcases linksUnder?_eq_some_iff.1 h with ⟨hlinks, source, hname, -⟩
  exact ⟨hlinks, source, relationshipsSource?_eq_some_iff.2 hname⟩

/-- The name is taken for one of a part that holds relationships under the root. -/
def HoldsRelationshipsUnder (root : List Char) (name : PartName) : Prop :=
  (linksUnder? root name).isSome = true

instance (root : List Char) (name : PartName) : Decidable (HoldsRelationshipsUnder root name) :=
  inferInstanceAs (Decidable (_ = true))

theorem dropEnding?_spelling {ending text text' front front' : List Char}
    (h : Text.asciiLower text = Text.asciiLower text') (hfront : dropEnding? ending text = some front)
    (hfront' : dropEnding? ending text' = some front') :
    Text.asciiLower front = Text.asciiLower front' := by
  rw [dropEnding?_eq_some_iff.1 hfront, dropEnding?_eq_some_iff.1 hfront', Text.asciiLower_append,
    Text.asciiLower_append] at h
  exact List.append_cancel_right h

/-- Two spellings that both hold relationships hold those of parts in one folder, spelled twice. -/
theorem relationshipsSource?_spelling {folder folder' source source' : List Char}
    (h : Text.asciiLower name = Text.asciiLower name')
    (hsource : relationshipsSource? name = some (folder, source))
    (hsource' : relationshipsSource? name' = some (folder', source')) :
    Text.asciiLower folder = Text.asciiLower folder' := by
  unfold relationshipsSource? at hsource hsource'
  rcases Option.bind_eq_some_iff.1 hsource with ⟨stem, hstem, hsource⟩
  rcases Option.bind_eq_some_iff.1 hsource' with ⟨stem', hstem', hsource'⟩
  have hstems := dropEnding?_spelling h hstem hstem'
  rcases Option.bind_eq_some_iff.1 hsource with ⟨⟨links, found⟩, hsplit, hsource⟩
  rcases Option.bind_eq_some_iff.1 hsource' with ⟨⟨links', found'⟩, hsplit', hsource'⟩
  have hparts : some (Text.asciiLower links, Text.asciiLower found) =
      some (Text.asciiLower links', Text.asciiLower found') := by
    have hlower := Text.splitLast?_asciiLower Text.isNoLetter_slash stem
    rw [hstems, Text.splitLast?_asciiLower Text.isNoLetter_slash, hsplit, hsplit'] at hlower
    exact hlower.symm
  rcases Option.bind_eq_some_iff.1 hsource with ⟨front, hfront, hsource⟩
  rcases Option.bind_eq_some_iff.1 hsource' with ⟨front', hfront', hsource'⟩
  cases hsource
  cases hsource'
  rcases Prod.mk.inj (Option.some.inj hparts) with ⟨hlinks, -⟩
  exact dropEnding?_spelling hlinks hfront hfront'

theorem linksUnder?_spelling {root : List Char} (h : Text.asciiLower name = Text.asciiLower name')
    (hholds : HoldsRelationshipsUnder root name ↔ HoldsRelationshipsUnder root name') :
    (linksUnder? root name).map (Prod.map Text.asciiLower Text.asciiLower) =
      (linksUnder? root name').map (Prod.map Text.asciiLower Text.asciiLower) := by
  cases hlinks : linksUnder? root name with
  | none =>
      have hnone : ¬ HoldsRelationshipsUnder root name' := by
        rw [← hholds, HoldsRelationshipsUnder, hlinks]
        simp
      rw [Option.not_isSome_iff_eq_none.1 hnone]
  | some found =>
      have hsome : HoldsRelationshipsUnder root name' := by
        rw [← hholds, HoldsRelationshipsUnder, hlinks]
        rfl
      rcases Option.isSome_iff_exists.1 hsome with ⟨found', hlinks'⟩
      rcases exists_source_of_linksUnder? hlinks with ⟨hname, source, hsource⟩
      rcases exists_source_of_linksUnder? hlinks' with ⟨hname', source', hsource'⟩
      have hfolder := relationshipsSource?_spelling h hsource hsource'
      rw [hlinks', Option.map_some, Option.map_some, Prod.map, Prod.map, hname, hname', h, hfolder]

theorem relationshipPartsUnder_spelling {names names' : List PartName} {root : List Char}
    (h : names.map (fun name => (Text.asciiLower name, decide (HoldsRelationshipsUnder root name))) =
      names'.map fun name => (Text.asciiLower name, decide (HoldsRelationshipsUnder root name))) :
    (relationshipPartsUnder names root).map (Prod.map Text.asciiLower Text.asciiLower) =
      (relationshipPartsUnder names' root).map (Prod.map Text.asciiLower Text.asciiLower) := by
  rw [relationshipPartsUnder_eq, relationshipPartsUnder_eq]
  induction names generalizing names' with
  | nil =>
      rw [List.map_nil, eq_comm, List.map_eq_nil_iff] at h
      rw [h]
  | cons name names ih =>
      cases names' with
      | nil => cases h
      | cons name' names' =>
          rcases List.cons.inj h with ⟨hname, hrest⟩
          rcases Prod.mk.inj hname with ⟨hlower, hholds⟩
          have hlinks := linksUnder?_spelling hlower (decide_eq_decide.1 hholds)
          have hmore := ih hrest
          rw [List.map_filterMap, List.map_filterMap] at hmore ⊢
          rw [List.filterMap_cons, List.filterMap_cons, hlinks, hmore]

/-! ## Pictures -/

/-- The picture parts of two spellings of a package are two spellings of the same names. -/
theorem pictureParts_spelling [Toolkit] {root : List Char}
    (hfolded : package.folded = package'.folded)
    (hnames : package.partNames.map
        (fun name => (Text.asciiLower name, decide (HoldsRelationshipsUnder root name))) =
      package'.partNames.map
        fun name => (Text.asciiLower name, decide (HoldsRelationshipsUnder root name))) :
    Result.mapBoth Fault.folded (List.map Text.asciiLower) (package.pictureParts root) =
      Result.mapBoth Fault.folded (List.map Text.asciiLower) (package'.pictureParts root) := by
  have hread : ∀ name, package'.relationships name = package.relationships name := by
    intro name
    rw [← relationships_folded package', ← hfolded, relationships_folded]
  have htargets : ∀ folder relationships, package'.pictureTargets folder relationships =
      package.pictureTargets folder relationships := by
    intro folder relationships
    rw [← pictureTargets_folded package', ← hfolded, pictureTargets_folded]
  refine Result.mapBoth_map (h := List.map Text.asciiLower) ?_ ?_
  · refine Result.mapBoth_gatherItems (relationshipPartsUnder_spelling hnames) ?_
    rintro ⟨name, folder⟩ ⟨name', folder'⟩ hfile
    rcases Prod.mk.inj hfile with ⟨hname, hfolder⟩
    dsimp only
    rw [hread]
    refine Result.mapBoth_map (relationships_spelling hname package) ?_
    rintro found _ rfl
    rw [htargets]
    exact pictureTargets_spelling hfolder package (found.getD [])
  · intro names names' hsame
    rw [← distinct_asciiLower, hsame, distinct_asciiLower]

theorem mainPartOf_congr [Toolkit] (hfolded : package.folded = package'.folded)
    (application : Application) :
    package.mainPartOf application = package'.mainPartOf application := by
  rw [← mainPartOf_folded package, hfolded, mainPartOf_folded]

theorem picturesOf_spelling [Toolkit] {application : Application}
    (hfolded : package.folded = package'.folded)
    (hnames : ∀ main, package.mainPartOf application = .ok main →
      package.partNames.map (fun name => (Text.asciiLower name,
          decide (HoldsRelationshipsUnder (PartName.folder main) name))) =
        package'.partNames.map fun name => (Text.asciiLower name,
          decide (HoldsRelationshipsUnder (PartName.folder main) name)))
    (limits : Limits) :
    Result.mapBoth Fault.folded (List.map Picture.folded) (package.picturesOf application limits) =
      Result.mapBoth Fault.folded (List.map Picture.folded)
        (package'.picturesOf application limits) := by
  have hmain := mainPartOf_congr hfolded application
  have hpictures : package'.partPictures limits = package.partPictures limits := by
    funext name
    rw [← partPictures_folded package', ← hfolded, partPictures_folded]
  rw [picturesOf, picturesOf, ← hmain, hpictures]
  cases hfound : package.mainPartOf application with
  | error fault => rfl
  | ok main =>
      change Result.mapBoth _ _ (package.pictureParts (PartName.folder main) >>= _) =
        Result.mapBoth _ _ (package'.pictureParts (PartName.folder main) >>= _)
      refine Result.mapBoth_bind (pictureParts_spelling hfolded (hnames main hfound)) ?_
      intro names names' hsame
      exact Result.mapBoth_gatherItems hsame fun _ _ h => partPictures_spelling h package limits

/-- The parts are spelled as the entries are. -/
theorem partNames_spelling [Toolkit] {entries entries' : List Entry} {root : List Char}
    (hspelling : entries.map Entry.folded = entries'.map Entry.folded)
    (hholds : entries.map (fun entry => decide (HoldsRelationshipsUnder root entry.name)) =
      entries'.map fun entry => decide (HoldsRelationshipsUnder root entry.name))
    (hpackage : ofEntries entries = .ok package) (hpackage' : ofEntries entries' = .ok package') :
    package.partNames.map
        (fun name => (Text.asciiLower name, decide (HoldsRelationshipsUnder root name))) =
      package'.partNames.map
        fun name => (Text.asciiLower name, decide (HoldsRelationshipsUnder root name)) := by
  -- Both are worked out from entries without case and what these hold.
  have hnames : ∀ entries : List Entry,
      ((entries.filter fun entry => !entry.isDirectory).map (·.name)).map
          (fun name => (Text.asciiLower name, decide (HoldsRelationshipsUnder root name))) =
        (((entries.map Entry.folded).zip
            (entries.map fun entry => decide (HoldsRelationshipsUnder root entry.name))).filter
          fun marked => !marked.1.isDirectory).map fun marked => (marked.1.name, marked.2) := by
    intro entries
    rw [List.zip_map', List.filter_map, List.map_map, List.map_map]
    simp only [Function.comp_def, Entry.isDirectory_folded]
    rfl
  rw [partNames, partNames, parts_of_ofEntries hpackage, parts_of_ofEntries hpackage', hnames,
    hspelling, hholds, ← hnames]

theorem ofBytes_eq [Toolkit] {bytes : Bytes} {entries : List Entry}
    (h : Archive.entries? bytes = some entries) : ofBytes bytes = ofEntries entries := by
  rw [ofBytes, h]

/-- What is seen of the pictures of a document without the case of names. -/
def verdict [Toolkit] (application : Application) (bytes : Bytes) (limits : Limits) :
    Except Fault (List Picture) :=
  Result.mapBoth Fault.folded (List.map Picture.folded) (pictures application bytes limits)

/-- Archives that differ in nothing but the case of ASCII letters in the names of their entries.
They open alike and have the same main part.  If there is one, and the same entries are taken for
parts that hold relationships under its folder, or if there is none, they also have the same pictures
in the same order, or the same fault, up to the case of names. -/
theorem pictures_spelling [Toolkit] {bytes bytes' : Bytes} {entries entries' : List Entry}
    (hentries : Archive.entries? bytes = some entries)
    (hentries' : Archive.entries? bytes' = some entries')
    (hspelling : entries.map Entry.folded = entries'.map Entry.folded)
    (application : Application) :
    mainPartIn application bytes = mainPartIn application bytes' ∧
      ((∀ main, mainPartIn application bytes = .ok main →
          entries.map
              (fun entry => decide (HoldsRelationshipsUnder (PartName.folder main) entry.name)) =
            entries'.map
              fun entry => decide (HoldsRelationshipsUnder (PartName.folder main) entry.name)) →
        ∀ limits, verdict application bytes limits = verdict application bytes' limits) := by
  have hopen : Result.mapBoth id folded (ofEntries entries) =
      Result.mapBoth id folded (ofEntries entries') := by
    have hfolded : ∀ entries : List Entry, Result.mapBoth id folded (ofEntries entries) =
        ofEntries (entries.map Entry.folded) := by
      intro entries
      rw [ofEntries_map_folded]
      cases ofEntries entries <;> rfl
    rw [hfolded, hspelling, hfolded]
  simp only [mainPartIn, verdict, pictures, ofBytes_eq hentries, ofBytes_eq hentries']
  cases hpackage : ofEntries entries with
  | error fault =>
      cases hpackage' : ofEntries entries' with
      | error fault' =>
          rw [hpackage, hpackage'] at hopen
          cases hopen
          exact ⟨rfl, fun _ _ => rfl⟩
      | ok package' =>
          rw [hpackage, hpackage'] at hopen
          cases hopen
  | ok package =>
      cases hpackage' : ofEntries entries' with
      | error fault' =>
          rw [hpackage, hpackage'] at hopen
          cases hopen
      | ok package' =>
          rw [hpackage, hpackage'] at hopen
          have hfolded : package.folded = package'.folded := Except.ok.inj hopen
          refine ⟨mainPartOf_congr hfolded application, fun hholds limits => ?_⟩
          exact picturesOf_spelling hfolded (fun main hmain =>
            partNames_spelling hspelling (hholds main hmain) hpackage hpackage') limits

/-! ## Capitals in a small document -/

theorem Miniature.mainPartIn_bytes [Toolkit] {application : Application}
    (miniature : Miniature application) :
    mainPartIn application miniature.bytes = .ok miniature.text.name.toList := by
  rw [mainPartIn, miniature.ofBytes_bytes]
  exact miniature.mainPartOf_package

theorem pictures_leaflet :
    pictures .word (leaflet .usual).bytes ⟨4, 200⟩ =
      .ok [⟨[0x50, 0x4E, 0x47], .png, some "A.png", some "png", none⟩] :=
  (leaflet .usual).pictures_of_single pictureParts_leaflet find?_leaflet (by decide)

/-- With capitals in the name of the document the picture is the same. -/
theorem pictures_spelling_leaflet :
    verdict .word (leaflet .capitalDocument).bytes ⟨4, 200⟩ =
      .ok [⟨[0x50, 0x4E, 0x47], .png, some "a.png", some "png", none⟩] := by
  have hspelling := pictures_spelling (leaflet .usual).entries?_bytes
    (leaflet .capitalDocument).entries?_bytes (by decide +kernel) .word
  have hholds : ∀ main, mainPartIn .word (leaflet .usual).bytes = .ok main →
      (leaflet .usual).package.parts.map
          (fun entry => decide (HoldsRelationshipsUnder (PartName.folder main) entry.name)) =
        (leaflet .capitalDocument).package.parts.map
          fun entry => decide (HoldsRelationshipsUnder (PartName.folder main) entry.name) := by
    intro main hmain
    rw [Miniature.mainPartIn_bytes] at hmain
    rw [← Except.ok.inj hmain]
    decide +kernel
  rw [← hspelling.2 hholds ⟨4, 200⟩, verdict, pictures_leaflet]
  rfl

/-- With capitals in the name of the folder for relationships there is no picture. -/
theorem pictures_leaflet_capitalLinks :
    pictures .word (leaflet .capitalLinks).bytes ⟨4, 200⟩ = .ok [] := by
  have hfiles : relationshipPartsUnder (leaflet .capitalLinks).package.partNames
      (PartName.folder leafletText.name.toList) = [] := by
    decide +kernel
  have hnames : (leaflet .capitalLinks).package.pictureParts
      (PartName.folder leafletText.name.toList) = .ok [] := by
    rw [pictureParts, hfiles]
    rfl
  rw [Miniature.pictures_bytes]
  exact (picturesOf_eq_ok_iff (leaflet .capitalLinks).mainPartOf_package hnames
    fun _ hname => absurd hname List.not_mem_nil).2 .nil

/-- Not even the contents of the pictures are always the same. -/
theorem not_forall_spelling :
    ¬ ∀ (application : Application) (limits : Limits) (bytes bytes' : Bytes)
        (entries entries' : List Entry),
      Archive.entries? bytes = some entries → Archive.entries? bytes' = some entries' →
      entries.Pairwise (fun entry other => PartName.key entry.name ≠ PartName.key other.name) →
      entries.map Entry.folded = entries'.map Entry.folded →
        (pictures application bytes limits).toOption.map (List.map Picture.data) =
          (pictures application bytes' limits).toOption.map (List.map Picture.data) := by
  intro h
  have hsame := h .word ⟨4, 200⟩ _ _ _ _ (leaflet .usual).entries?_bytes
    (leaflet .capitalLinks).entries?_bytes (by decide +kernel) (by decide +kernel)
  rw [pictures_leaflet, pictures_leaflet_capitalLinks] at hsame
  cases hsame

end Package
end OfficePictures
